import QueryModel.Proofs.Document.Lexing
import QueryModel.Syntax.Lexer

/-!
# How tokens are written

Each kind of token has its own way of being written, and a condition on what may come after it
without becoming part of it. A token is read exactly where its text stands before such a rest.
-/

set_option autoImplicit false

namespace QueryModel.Syntax

open QueryModel.Text

def signChars : List Char :=
  ['!', '$', ':', '=', '@', '|', '&', '(', ')', '[', ']', '\x7b', '\x7d']

inductive TokenText : TokenKind → List Char → Prop
  | sign {c : Char} (hc : c ∈ signChars) : TokenText .punctuator [c]
  | dots : TokenText .punctuator ['.', '.', '.']
  | name {n : List Char} (hn : isName n = true) : TokenText .name n
  | number {kind : TokenKind} {c : Char} {cs : List Char} (hc : c = '-' ∨ isAsciiDigit c = true)
      (hcs : ∀ d ∈ cs, endsNumber d = false) (hkind : numberKind (c :: cs) = .ok kind) :
      TokenText kind (c :: cs)
  | plain {cs : List Char} (h : PlainLiteral cs) : TokenText .stringValue ('"' :: cs)
  | block {cs : List Char} (h : BlockLiteral cs) : TokenText .blockString ('"' :: '"' :: '"' :: cs)

def Ends (kind : TokenKind) (w rest : List Char) : Prop :=
  match kind with
  | .name => Stops rest
  | .intValue | .floatValue => ∀ c ∈ rest.head?, endsNumber c = true
  | .stringValue => LiteralStops w rest
  | _ => True

theorem Ends.nil (kind : TokenKind) (w : List Char) : Ends kind w [] := by
  cases kind <;> simp [Ends, Stops, LiteralStops]

theorem ends_congr {kind : TokenKind} {w rest rest' : List Char} (h : rest.head? = rest'.head?)
    (hends : Ends kind w rest) : Ends kind w rest' := by
  cases kind <;> simp_all [Ends, Stops, LiteralStops]

theorem ends_of_append {kind : TokenKind} {w rest more : List Char}
    (h : Ends kind w (rest ++ more)) : Ends kind w rest := by
  cases rest with
  | nil => exact .nil kind w
  | cons c rest => exact ends_congr rfl h

section Strings

theorem stringExtent_sound {escaped : Bool} {cs : List Char} {n : Nat}
    (h : stringExtent escaped cs = some n) :
    ∃ w rest, cs = w ++ rest ∧ w.length = n ∧ PlainLiteral (if escaped then '\\' :: w else w) := by
  induction cs generalizing escaped n with
  | nil => simp [stringExtent] at h
  | cons c cs ih =>
    rw [stringExtent] at h
    split at h
    · contradiction
    · next hline =>
      split at h
      · next hescaped =>
        obtain ⟨m, hm, rfl⟩ := Option.map_eq_some_iff.mp h
        obtain ⟨w, rest, rfl, rfl, hw⟩ := ih hm
        exact ⟨c :: w, rest, rfl, rfl, by simpa [hescaped] using PlainLiteral.escape hline hw⟩
      · next hescaped =>
        split at h
        · next hquote =>
          obtain rfl := Option.some.inj h
          exact ⟨[c], cs, rfl, rfl, by simpa [hescaped, hquote] using PlainLiteral.close⟩
        · next hquote =>
          obtain ⟨m, hm, rfl⟩ := Option.map_eq_some_iff.mp h
          obtain ⟨w, rest, rfl, rfl, hw⟩ := ih hm
          refine ⟨c :: w, rest, rfl, rfl, ?_⟩
          by_cases hslash : c = '\\'
          · simpa [hescaped, hslash] using hw
          · simp only [beq_iff_eq, hslash, if_false] at hw
            simpa [hescaped] using PlainLiteral.char ⟨hquote, hslash, hline⟩ hw

theorem stringExtent_complete {w : List Char} (h : PlainLiteral w) (rest : List Char) :
    stringExtent false (w ++ rest) = some w.length := by
  induction h with
  | close => rfl
  | @char c cs hc h ih =>
    have hslash : (c == '\\') = false := by simp [hc.2.1]
    simp [stringExtent, hc.1, hc.2.2, hslash, ih]
  | escape hc h ih => simp [stringExtent, hc, ih]

theorem blockExtent_past {cs : List Char} (h : ¬ ['"', '"', '"'] <+: cs)
    (escaped : Bool) : blockExtent escaped cs = blockExtent false cs := by
  cases cs with
  | nil => simp [blockExtent]
  | cons c cs =>
    have hne : ∀ rest, c = '"' → cs = '"' :: '"' :: rest → False := by
      rintro rest rfl rfl
      exact h (List.prefix_append ['"', '"', '"'] rest)
    rw [blockExtent.eq_2 _ _ _ hne, blockExtent.eq_2 _ _ _ hne]

theorem blockExtent_sound {escaped : Bool} {cs : List Char} {n : Nat}
    (h : blockExtent escaped cs = some n) :
    ∃ w rest, cs = w ++ rest ∧ w.length = n ∧ BlockLiteral (if escaped then '\\' :: w else w) := by
  fun_induction blockExtent escaped cs generalizing n with
  | case1 cs ih =>
    obtain ⟨m, hm, rfl⟩ := Option.map_eq_some_iff.mp h
    obtain ⟨w, rest, rfl, rfl, hw⟩ := ih hm
    exact ⟨'"' :: '"' :: '"' :: w, rest, rfl, rfl, .escape hw⟩
  | case2 escaped cs hescaped =>
    obtain rfl := Option.some.inj h
    exact ⟨['"', '"', '"'], cs, rfl, rfl, by simpa [hescaped] using BlockLiteral.close⟩
  | case3 escaped c cs hne ih =>
    obtain ⟨m, hm, rfl⟩ := Option.map_eq_some_iff.mp h
    obtain ⟨w, rest, rfl, rfl, hw⟩ := ih hm
    have hclose : ¬ ['"', '"', '"'] <+: c :: w := by
      rintro ⟨tail, htail⟩
      obtain ⟨rfl, rfl⟩ := List.cons.inj htail
      exact hne (tail ++ rest) rfl rfl
    have hall : BlockLiteral (c :: w) := by
      by_cases hslash : c = '\\'
      · simpa [hslash] using hw
      · simp only [beq_iff_eq, hslash, if_false] at hw
        exact .char hclose (fun hpre => hslash (List.cons_prefix_cons.mp hpre).1.symm) hw
    refine ⟨c :: w, rest, rfl, rfl, ?_⟩
    cases escaped with
    | false => exact hall
    | true =>
      refine .char (fun hpre => ?_) (fun hpre => hclose (List.cons_prefix_cons.mp hpre).2) hall
      exact absurd (List.cons_prefix_cons.mp hpre).1 (by decide)
  | case4 => contradiction

theorem blockExtent_complete {w : List Char} (h : BlockLiteral w) (rest : List Char) :
    blockExtent false (w ++ rest) = some w.length := by
  induction h with
  | close => rfl
  | escape h ih => simp [blockExtent, ih]
  | @char c cs hclose hescape h ih =>
    have hlength := three_le_length h
    have hprefix {ds : List Char} (hds : ds.length ≤ 3) (hpre : ds <+: cs ++ rest) : ds <+: cs :=
      List.prefix_of_prefix_length_le hpre (List.prefix_append cs rest) (by omega)
    have hne : ∀ tail, c = '"' → cs ++ rest = '"' :: '"' :: tail → False := by
      rintro tail rfl htail
      have hquotes : ['"', '"'] <+: cs := hprefix (by decide) ⟨tail, htail.symm⟩
      exact hclose (List.cons_prefix_cons.mpr ⟨rfl, hquotes⟩)
    have hinner : blockExtent (c == '\\') (cs ++ rest) = some cs.length := by
      by_cases hslash : c = '\\'
      · subst hslash
        rw [blockExtent_past (fun hpre => ?_), ih]
        exact hescape (List.cons_prefix_cons.mpr ⟨rfl, hprefix (by decide) hpre⟩)
      · rw [beq_eq_false_iff_ne.mpr hslash, ih]
    rw [List.cons_append, blockExtent.eq_2 _ _ _ hne, hinner]
    rfl

end Strings

section Numbers

theorem splitLast_eq {p : Char → Bool} {cs before after : List Char}
    (h : splitLast p cs = some (before, after)) : ∃ d, p d = true ∧ cs = before ++ d :: after := by
  induction cs generalizing before with
  | nil => simp [splitLast] at h
  | cons c cs ih =>
    rw [splitLast] at h
    split at h
    · next hsplit =>
      obtain ⟨rfl, rfl⟩ := Prod.mk.inj (Option.some.inj h)
      obtain ⟨d, hd, rfl⟩ := ih hsplit
      exact ⟨d, hd, rfl⟩
    · split at h
      · next hc =>
        obtain ⟨rfl, rfl⟩ := Prod.mk.inj (Option.some.inj h)
        exact ⟨c, hc, rfl⟩
      · contradiction

def numberSigns : List Char := ['.', 'e', 'E', '+', '-']

def NumberTail (cs : List Char) : Prop := ∀ d ∈ cs.tail, isAsciiDigit d = true ∨ d ∈ numberSigns

theorem numberTail_append {before after : List Char} {d : Char} (hbefore : NumberTail before)
    (hd : d ∈ numberSigns) (hafter : ∀ x ∈ after, isAsciiDigit x = true ∨ x ∈ numberSigns) :
    NumberTail (before ++ d :: after) := by
  intro x hx
  cases before with
  | nil => exact hafter x hx
  | cons b before =>
    rcases List.mem_append.mp hx with hx | hx
    · exact hbefore x hx
    · rcases List.mem_cons.mp hx with rfl | hx
      · exact .inr hd
      · exact hafter x hx

theorem integer_tail {cs : List Char} (h : isInteger cs = true) : NumberTail cs := by
  simp only [isInteger, Bool.or_eq_true, Bool.and_eq_true, beq_iff_eq, List.all_eq_true] at h
  rcases h with (rfl | rfl) | ⟨-, h⟩
  · simp [NumberTail]
  · exact of_listed (by decide)
  · exact fun d hd => .inl (h d (by simpa using hd))

theorem wholeFloat_tail {cs : List Char} (h : isWholeFloat cs = true) : NumberTail cs := by
  rw [isWholeFloat] at h
  split at h
  · next hsplit =>
    obtain ⟨d, hd, rfl⟩ := splitLast_eq hsplit
    obtain rfl : d = '.' := by simpa [isPoint] using hd
    simp only [isFraction, Bool.and_eq_true, List.all_eq_true] at h
    exact numberTail_append (integer_tail h.1) (by decide) fun x hx => .inl (h.2.2 x hx)
  · exact integer_tail h

theorem exponent_chars {cs : List Char} (h : isExponent cs = true) :
    ∀ x ∈ cs, isAsciiDigit x = true ∨ x ∈ numberSigns := by
  cases cs with
  | nil => simp
  | cons c cs =>
    simp only [isExponent, Bool.and_eq_true, Bool.or_eq_true, beq_iff_eq, decide_eq_true_eq,
      List.all_eq_true] at h
    rw [List.forall_mem_cons]
    refine ⟨?_, fun x hx => .inl (h.2 x hx)⟩
    rcases h.1 with (rfl | rfl) | ⟨hlow, hhigh⟩
    · exact .inr (by decide)
    · exact .inr (by decide)
    · have hzero : '0' ≤ c := Char.le_trans (by decide) hlow
      have hnine : c ≤ '9' := Char.le_trans hhigh (by decide)
      exact .inl (by simp [isAsciiDigit, hzero, hnine])

theorem float_tail {cs : List Char} (h : isFloat cs = true) : NumberTail cs := by
  rw [isFloat] at h
  split at h
  · next hsplit =>
    obtain ⟨d, hd, rfl⟩ := splitLast_eq hsplit
    have hsign : d ∈ numberSigns := by
      simp only [isExponentMark, Bool.or_eq_true, beq_iff_eq] at hd
      rcases hd with rfl | rfl <;> decide
    simp only [Bool.and_eq_true] at h
    exact numberTail_append (wholeFloat_tail h.1) hsign (exponent_chars h.2)
  · exact wholeFloat_tail h

theorem number_chars {kind : TokenKind} {c : Char} {cs : List Char}
    (hc : c = '-' ∨ isAsciiDigit c = true) (h : numberKind (c :: cs) = .ok kind) :
    ∀ x ∈ c :: cs, isAsciiDigit x = true ∨ x ∈ numberSigns := by
  have htail : NumberTail (c :: cs) := by
    rw [numberKind] at h
    split at h
    · split at h
      · next hfloat => exact float_tail hfloat
      · contradiction
    · split at h
      · next hinteger => exact integer_tail hinteger
      · contradiction
  rw [List.forall_mem_cons]
  refine ⟨?_, htail⟩
  rcases hc with rfl | hc
  · exact .inr (by decide)
  · exact .inl hc

theorem number_unmarked {c : Char} (h : isAsciiDigit c = true ∨ c ∈ numberSigns) :
    c ∉ markedChars := by
  rcases h with h | h
  · have hascii : c.toNat < 128 := isNameChar_ascii (by simp [isNameChar, h])
    exact of_ascii_codes (p := fun c => isAsciiDigit c = true → c ∉ markedChars)
      (by decide +kernel) hascii h
  · have hsigns : ∀ c ∈ numberSigns, c ∉ markedChars := of_listed (by decide)
    exact hsigns c h

end Numbers

section Lexemes

theorem nameStart_class {c : Char} (hc : isNameStart c = true) :
    opens c = false ∧ closes c = false ∧
      ['!', '$', ':', '=', '@', '|', '&'].contains c = false ∧ c ≠ '.' := by
  have hascii : c.toNat < 128 := isNameChar_ascii (by simp [isNameChar, hc])
  exact of_ascii_codes (p := fun c => isNameStart c = true → opens c = false ∧ closes c = false ∧
    ['!', '$', ':', '=', '@', '|', '&'].contains c = false ∧ c ≠ '.') (by decide +kernel) hascii hc

theorem numberStart_class {c : Char} (hc : c = '-' ∨ isAsciiDigit c = true) :
    opens c = false ∧ closes c = false ∧
      ['!', '$', ':', '=', '@', '|', '&'].contains c = false ∧ c ≠ '.' ∧
      isNameStart c = false := by
  have hascii : c.toNat < 128 := by
    rcases hc with rfl | hc
    · decide
    · exact isNameChar_ascii (by simp [isNameChar, hc])
  exact of_ascii_codes (p := fun c => (c = '-' ∨ isAsciiDigit c = true) → opens c = false ∧
    closes c = false ∧ ['!', '$', ':', '=', '@', '|', '&'].contains c = false ∧ c ≠ '.' ∧
    isNameStart c = false) (by decide +kernel) hascii hc

theorem sign_class {c : Char} :
    c ∈ signChars ↔
      opens c = true ∨ (closes c || ['!', '$', ':', '=', '@', '|', '&'].contains c) = true := by
  simp only [signChars, opens, closes, List.mem_cons, List.not_mem_nil, Bool.or_eq_true, beq_iff_eq,
    List.contains_iff_mem]
  grind

theorem takeWhile_split (p : Char → Bool) (cs : List Char) :
    cs = cs.takeWhile p ++ cs.dropWhile p ∧ (∀ d ∈ cs.takeWhile p, p d = true) ∧
      ∀ d ∈ (cs.dropWhile p).head?, p d = false := by
  refine ⟨List.takeWhile_append_dropWhile.symm, fun d hd => ?_, fun d hd => ?_⟩
  · exact List.all_eq_true.mp (List.all_takeWhile) d hd
  · have hhead := List.head?_dropWhile_not p cs
    rw [hd] at hhead
    exact hhead

theorem number_kind {kind : TokenKind} {cs : List Char} (h : numberKind cs = .ok kind) :
    kind = .intValue ∨ kind = .floatValue := by
  rw [numberKind] at h
  split at h
  · split at h
    · exact .inr (Except.ok.inj h).symm
    · contradiction
  · split at h
    · exact .inl (Except.ok.inj h).symm
    · contradiction

theorem number_ends {kind : TokenKind} {cs w rest : List Char} (h : numberKind cs = .ok kind) :
    Ends kind w rest ↔ ∀ d ∈ rest.head?, endsNumber d = true := by
  rcases number_kind h with rfl | rfl <;> rfl

/-- The token that starts with a character is written as its kind says, ends where the rest
begins, and opens no bracket where no level is left. -/
theorem lexeme_sound {levels : Nat} {c : Char} {cs : List Char} {kind : TokenKind} {n : Nat}
    (h : lexeme levels c cs = .ok (kind, n)) :
    ∃ w rest, cs = w ++ rest ∧ w.length = n ∧ TokenText kind (c :: w) ∧ Ends kind (c :: w) rest ∧
      (opens c = true → levels ≠ 0) := by
  rw [lexeme] at h
  split at h
  · next hopens =>
    split at h
    · contradiction
    · next hlevels =>
      obtain ⟨rfl, rfl⟩ := Prod.mk.inj (Except.ok.inj h)
      exact ⟨[], cs, rfl, rfl, .sign (sign_class.mpr (.inl hopens)), trivial, fun _ => hlevels⟩
  next hopens =>
  have hlevels : opens c = true → levels ≠ 0 := fun h => absurd h hopens
  split at h
  · next hsign =>
    obtain ⟨rfl, rfl⟩ := Prod.mk.inj (Except.ok.inj h)
    exact ⟨[], cs, rfl, rfl, .sign (sign_class.mpr (.inr hsign)), trivial, hlevels⟩
  split at h
  · next hdot =>
    subst hdot
    split at h
    · next hdots =>
      obtain ⟨rfl, rfl⟩ := Prod.mk.inj (Except.ok.inj h)
      obtain ⟨rest, rfl⟩ := List.isPrefixOf_iff_prefix.mp hdots
      exact ⟨['.', '.'], rest, rfl, rfl, .dots, trivial, hlevels⟩
    · contradiction
  split at h
  · next hname =>
    obtain ⟨rfl, rfl⟩ := Prod.mk.inj (Except.ok.inj h)
    obtain ⟨hsplit, hall, hhead⟩ := takeWhile_split isNameChar cs
    refine ⟨_, _, hsplit, rfl, .name ?_, hhead, hlevels⟩
    rw [isName, hname, Bool.true_and]
    exact List.all_takeWhile
  split at h
  · next hnumber =>
    obtain ⟨hsplit, hall, hhead⟩ := takeWhile_split (fun d => !endsNumber d) cs
    cases hkind : numberKind (c :: cs.takeWhile fun d => !endsNumber d) with
    | error fault => simp [hkind, bind, Except.bind] at h
    | ok k =>
      simp only [hkind, bind, Except.bind, pure, Except.pure] at h
      obtain ⟨rfl, rfl⟩ := Prod.mk.inj (Except.ok.inj h)
      refine ⟨_, _, hsplit, rfl, .number (by simpa using hnumber) (by simpa using hall) hkind, ?_,
        hlevels⟩
      exact (number_ends hkind).mpr (by simpa using hhead)
  split at h
  · next hquote =>
    subst hquote
    split at h
    · next hquotes =>
      obtain ⟨rest, rfl⟩ := List.isPrefixOf_iff_prefix.mp hquotes
      split at h
      · next m hm =>
        obtain ⟨rfl, rfl⟩ := Prod.mk.inj (Except.ok.inj h)
        obtain ⟨w, rest, hrest, rfl, hw⟩ := blockExtent_sound hm
        obtain rfl : _ = w ++ rest := hrest
        exact ⟨'"' :: '"' :: w, rest, rfl, rfl, .block hw, trivial, hlevels⟩
      · contradiction
    · next hquotes =>
      split at h
      · next m hm =>
        obtain ⟨rfl, rfl⟩ := Prod.mk.inj (Except.ok.inj h)
        obtain ⟨w, rest, rfl, rfl, hw⟩ := stringExtent_sound hm
        refine ⟨w, rest, rfl, rfl, .plain hw, ?_, hlevels⟩
        intro hempty hhead
        obtain rfl : w = ['"'] := (List.cons.inj hempty).2
        obtain ⟨tail, rfl⟩ := List.head?_eq_some_iff.mp hhead
        exact hquotes rfl
      · contradiction
  · contradiction

theorem takeWhile_ends {p : Char → Bool} {w rest : List Char} (hw : ∀ d ∈ w, p d = true)
    (hrest : ∀ d ∈ rest.head?, p d = false) : (w ++ rest).takeWhile p = w := by
  rw [List.takeWhile_append_of_pos hw]
  cases rest with
  | nil => simp
  | cons d rest => simp [hrest d rfl]

theorem plain_not_quotes {w rest : List Char} (hw : PlainLiteral w)
    (hstops : LiteralStops ('"' :: w) rest) : ¬ ['"', '"'] <+: w ++ rest := by
  intro hquotes
  cases hw with
  | close =>
    obtain ⟨more, rfl⟩ := (List.cons_prefix_cons.mp hquotes).2
    exact hstops rfl rfl
  | char hc h => exact hc.1 (List.cons_prefix_cons.mp hquotes).1.symm
  | escape hc h => exact absurd (List.cons_prefix_cons.mp hquotes).1 (by decide)

theorem lexeme_complete {levels : Nat} {c : Char} {w : List Char} {kind : TokenKind}
    (h : TokenText kind (c :: w)) {rest : List Char} (hends : Ends kind (c :: w) rest)
    (hlevels : opens c = true → levels ≠ 0) :
    lexeme levels c (w ++ rest) = .ok (kind, w.length) := by
  cases h with
  | sign hc =>
    rw [lexeme]
    by_cases hopens : opens c = true
    · rw [if_pos hopens, if_neg (hlevels hopens)]
      rfl
    · rw [if_neg hopens, if_pos ((sign_class.mp hc).resolve_left hopens)]
      rfl
  | dots => rfl
  | name hn =>
    simp only [isName, Bool.and_eq_true, List.all_eq_true] at hn
    obtain ⟨hopens, hcloses, hsign, hdot⟩ := nameStart_class hn.1
    simp only [lexeme, hopens, hcloses, hsign, hdot, hn.1, takeWhile_ends hn.2 hends, Bool.or_self,
      Bool.false_eq_true, if_true, if_false]
  | number hc hcs hkind =>
    obtain ⟨hopens, hcloses, hsign, hdot, hname⟩ := numberStart_class hc
    have hrest := (number_ends hkind).mp hends
    have hmore : (w ++ rest).takeWhile (fun d => !endsNumber d) = w :=
      takeWhile_ends (by simpa using hcs) (by simpa using hrest)
    have hstart : (decide (c = '-') || isAsciiDigit c) = true := by simpa using hc
    simp only [lexeme, hopens, hcloses, hsign, hdot, hname, hstart, hmore, hkind, Bool.or_self,
      Bool.false_eq_true, if_true, if_false]
    rfl
  | plain hw =>
    have hquotes : ¬ ['"', '"'].isPrefixOf (w ++ rest) = true :=
      fun hpre => plain_not_quotes hw hends (List.isPrefixOf_iff_prefix.mp hpre)
    change (if ['"', '"'].isPrefixOf (w ++ rest) = true then _ else _) = _
    rw [if_neg hquotes, stringExtent_complete hw]
  | @block cs hw =>
    have hquotes : ['"', '"'].isPrefixOf ('"' :: '"' :: cs ++ rest) = true := by simp
    have hextent : blockExtent false (('"' :: '"' :: cs ++ rest).drop 2) = some cs.length :=
      blockExtent_complete hw rest
    rw [lexeme, if_neg (by decide), if_neg (by decide), if_neg (by decide), if_neg (by decide),
      if_neg (by decide), if_pos rfl, if_pos hquotes, hextent]
    rfl

theorem tokenText_cases {kind : TokenKind} {w rest : List Char} (h : TokenText kind w)
    (hends : Ends kind w rest) :
    (kind = .punctuator ∧ ∃ o c, BracketPair o c ∧ (w = [o] ∨ w = [c])) ∨
      (IsLiteral w ∧ LiteralStops w rest) ∨ ∀ c ∈ w, c ∉ markedChars := by
  cases h with
  | @sign c hc =>
    by_cases hmarked : c ∈ markedChars
    · have hbracket : c ∈ ['(', ')', '[', ']', '\x7b', '\x7d'] := by
        have hboth : ∀ c ∈ signChars, c ∈ markedChars → c ∈ ['(', ')', '[', ']', '\x7b', '\x7d'] :=
          of_listed (by decide)
        exact hboth c hc hmarked
      simp only [List.mem_cons, List.not_mem_nil, or_false] at hbracket
      rcases hbracket with rfl | rfl | rfl | rfl | rfl | rfl
      · exact .inl ⟨rfl, _, _, .round, .inl rfl⟩
      · exact .inl ⟨rfl, _, _, .round, .inr rfl⟩
      · exact .inl ⟨rfl, _, _, .square, .inl rfl⟩
      · exact .inl ⟨rfl, _, _, .square, .inr rfl⟩
      · exact .inl ⟨rfl, _, _, .curly, .inl rfl⟩
      · exact .inl ⟨rfl, _, _, .curly, .inr rfl⟩
    · exact .inr (.inr (by simpa using hmarked))
  | dots => exact .inr (.inr (of_listed (by decide)))
  | name hn =>
    refine .inr (.inr fun c hc => ?_)
    have hchar := isName_chars hn c hc
    exact of_ascii_codes (p := fun c => isNameChar c = true → c ∉ markedChars) (by decide +kernel)
      (isNameChar_ascii hchar) hchar
  | number hc hcs hkind =>
    exact .inr (.inr fun d hd => number_unmarked (number_chars hc hkind d hd))
  | plain h => exact .inr (.inl ⟨.plain h, hends⟩)
  | block h => exact .inr (.inl ⟨.block h, by simp [LiteralStops]⟩)

end Lexemes

end QueryModel.Syntax
