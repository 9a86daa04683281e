import QueryModel.Proofs.Document.Outside
import QueryModel.Proofs.Syntax.Shapes

/-!
# Tokens and the space between them

A text without a fault is its tokens with space before each of them and after the last. Where
comments end their lines, the space is the same for the reader of tokens and for the cut into
definitions.
-/

set_option autoImplicit false

namespace QueryModel.Syntax

open QueryModel.Text

def ignoredChars : List Char := [' ', ',', '\t', '\n', '\r', '\ufeff']

/-- What stands in a comment after its sign. A carriage return may stand before the line feed. -/
def LineText (line : List Char) : Prop := '\n' ∉ line ∧ '\r' ∉ line.dropLast

instance (line : List Char) : Decidable (LineText line) :=
  inferInstanceAs (Decidable ('\n' ∉ line ∧ '\r' ∉ line.dropLast))

inductive Spacing : List Char → Prop
  | nil : Spacing []
  | char {c : Char} {cs : List Char} (hc : c ∈ ignoredChars) (h : Spacing cs) : Spacing (c :: cs)
  | comment {line cs : List Char} (hline : LineText line) (h : Spacing cs) :
      Spacing ('#' :: line ++ '\n' :: cs)

inductive Trailing : List Char → Prop
  | space {sp : List Char} (h : Spacing sp) : Trailing sp
  | comment {sp line : List Char} (h : Spacing sp) (hline : LineText line) :
      Trailing (sp ++ '#' :: line)

theorem Spacing.append {sp cs : List Char} (hsp : Spacing sp) (hcs : Spacing cs) :
    Spacing (sp ++ cs) := by
  induction hsp with
  | nil => exact hcs
  | char hc h ih => exact .char hc ih
  | @comment line sp hline h ih =>
    have hall := Spacing.comment hline ih
    simpa using hall

theorem Trailing.prepend {sp cs : List Char} (hsp : Spacing sp) (hcs : Trailing cs) :
    Trailing (sp ++ cs) := by
  cases hcs with
  | space h => exact .space (hsp.append h)
  | comment h hline =>
    rw [← List.append_assoc]
    exact .comment (hsp.append h) hline

theorem Trailing.closed {cs : List Char} (h : Trailing cs) : Spacing (cs ++ ['\n']) := by
  cases h with
  | space h => exact h.append (.char (by decide) .nil)
  | comment h hline =>
    have hall := h.append (.comment hline .nil)
    simpa using hall

theorem LineText.cut {line part : List Char} (h : LineText line) (hpart : part <+: line) :
    LineText part := by
  obtain ⟨more, rfl⟩ := hpart
  refine ⟨fun hmem => h.1 (List.mem_append_left _ hmem), fun hmem => h.2 ?_⟩
  cases more with
  | nil => rwa [List.append_nil]
  | cons c more =>
    rw [List.dropLast_append_of_ne_nil (List.cons_ne_nil c more)]
    exact List.mem_append_left _ (List.dropLast_subset part hmem)

theorem trailing_cut {sp cs : List Char} (h : Spacing sp) (hcs : cs <+: sp) :
    Trailing cs := by
  induction h generalizing cs with
  | nil =>
    rw [List.prefix_nil.mp hcs]
    exact .space .nil
  | @char c sp hc h ih =>
    rcases List.prefix_cons_iff.mp hcs with rfl | ⟨more, rfl, hmore⟩
    · exact .space .nil
    · exact .prepend (.char hc .nil) (ih hmore)
  | @comment line sp hline h ih =>
    rcases List.prefix_cons_iff.mp hcs with rfl | ⟨part, rfl, hpart⟩
    · exact .space .nil
    rcases List.prefix_or_prefix_of_prefix hpart (List.prefix_append line _) with
      hpart | ⟨more, rfl⟩
    · exact .comment .nil (hline.cut hpart)
    rcases List.prefix_cons_iff.mp ((List.prefix_append_right_inj line).mp hpart) with
      rfl | ⟨more, rfl, hmore⟩
    · rw [List.append_nil]
      exact .comment .nil hline
    · have hall := Trailing.prepend (.comment hline .nil) (ih hmore)
      simpa using hall

section Skipping

theorem skip_char {c : Char} (hc : c ∈ ignoredChars) (p : Position) (cs : List Char) :
    ∃ q, skipIgnored false p (c :: cs) = skipIgnored false q cs := by
  simp only [ignoredChars, List.mem_cons, List.not_mem_nil, or_false] at hc
  rcases hc with rfl | rfl | rfl | rfl | rfl | rfl <;> exact ⟨_, rfl⟩

theorem skip_line {line : List Char} (hline : LineText line) (p : Position) (cs : List Char) :
    ∃ comment q, skipIgnored true p (line ++ cs) = skipIgnored comment q cs := by
  induction line generalizing p with
  | nil => exact ⟨true, p, rfl⟩
  | cons c line ih =>
    obtain ⟨hfeed, hreturn⟩ := hline
    by_cases hc : c = '\r'
    · subst hc
      cases line with
      | nil => exact ⟨false, _, rfl⟩
      | cons d line => simp at hreturn
    · have hstop : ¬ (c = '\r' ∨ c = '\n') := by
        rintro (h | h)
        · exact hc h
        · exact hfeed (h ▸ List.mem_cons_self)
      rw [List.cons_append, skipIgnored, if_neg hstop]
      refine ih ⟨fun h => hfeed (List.mem_cons_of_mem c h), fun h => hreturn ?_⟩ p
      cases line with
      | nil => simp at h
      | cons d line => exact List.mem_cons_of_mem c h

theorem skip_feed (comment : Bool) (p : Position) (cs : List Char) :
    ∃ q, skipIgnored comment p ('\n' :: cs) = skipIgnored false q cs := by
  cases comment <;> exact ⟨_, rfl⟩

theorem skip_spacing {sp : List Char} (h : Spacing sp) (p : Position) (cs : List Char) :
    ∃ q, skipIgnored false p (sp ++ cs) = skipIgnored false q cs := by
  induction h generalizing p with
  | nil => exact ⟨p, rfl⟩
  | @char c sp hc h ih =>
    obtain ⟨q, hq⟩ := skip_char hc p (sp ++ cs)
    obtain ⟨r, hr⟩ := ih q
    exact ⟨r, hq.trans hr⟩
  | @comment line sp hline h ih =>
    obtain ⟨comment, q, hq⟩ := skip_line hline p ('\n' :: (sp ++ cs))
    obtain ⟨r, hr⟩ := skip_feed comment q (sp ++ cs)
    obtain ⟨t, ht⟩ := ih r
    refine ⟨t, Eq.trans ?_ (hq.trans (hr.trans ht))⟩
    rw [List.cons_append, List.cons_append, skipIgnored]
    simp

theorem skip_trailing {cs : List Char} (h : Trailing cs) (p : Position) :
    ∃ q, skipIgnored false p cs = (q, []) := by
  cases h with
  | space h =>
    obtain ⟨q, hq⟩ := skip_spacing h p []
    exact ⟨q, by rw [← List.append_nil cs, hq, skipIgnored]⟩
  | @comment sp line h hline =>
    obtain ⟨q, hq⟩ := skip_spacing h p ('#' :: line)
    obtain ⟨comment, r, hr⟩ := skip_line hline q []
    refine ⟨r, ?_⟩
    rw [List.append_nil, skipIgnored] at hr
    rw [hq, skipIgnored]
    simpa using hr

theorem skip_token {c : Char} (hc : c ∉ '#' :: ignoredChars) (p : Position) (cs : List Char) :
    skipIgnored false p (c :: cs) = (p, c :: cs) := by
  simp only [ignoredChars, List.mem_cons, List.not_mem_nil, or_false, not_or] at hc
  simp [skipIgnored, hc]

end Skipping

section Tidy

theorem tidy_tail {c : Char} {cs : List Char} (hc : c ∉ markedChars) (h : Tidy (c :: cs)) :
    Tidy cs := by
  rw [← List.singleton_append] at h
  exact h.of_chars (by simpa using hc)

theorem return_mem_dropLast (a : List Char) {b : List Char} (hb : b ≠ []) :
    '\r'.toUInt8 ∈ (bytes (a ++ '\r' :: b)).dropLast := by
  have hbytes : bytes b ≠ [] := by
    obtain ⟨c, b, rfl⟩ := List.exists_cons_of_ne_nil hb
    simp [bytes_cons, String.utf8EncodeChar_ne_nil]
  rw [bytes_append, bytes_cons_ascii (by decide), List.dropLast_append_of_ne_nil (by simp),
    List.dropLast_cons_of_ne_nil hbytes]
  simp

theorem tidy_after_return {line more : List Char} (hline : '\n' ∉ line)
    (h : Tidy ('#' :: line ++ '\r' :: more)) : more = [] ∨ ∃ rest, more = '\n' :: rest := by
  obtain ⟨hsplit, hall, hhead⟩ := takeWhile_split (fun d => d != '\n') more
  generalize more.takeWhile (fun d => d != '\n') = m at hsplit hall
  generalize more.dropWhile (fun d => d != '\n') = rest at hsplit hhead
  subst hsplit
  have hlong : '\n' ∉ line ++ '\r' :: m := by
    simp only [List.mem_append, List.mem_cons, not_or]
    exact ⟨hline, by decide, fun hm => by simpa using hall '\n' hm⟩
  have hlex : Lexes .comment ('#' :: (line ++ '\r' :: m)) rest := by
    cases rest with
    | nil => exact lexes_last_comment hlong
    | cons d rest =>
      obtain rfl : d = '\n' := by simpa using hhead d rfl
      exact lexes_comment hlong rest
  have htext : '#' :: line ++ '\r' :: (m ++ rest) = '#' :: (line ++ '\r' :: m) ++ rest := by simp
  rw [Tidy, htext, hlex] at h
  have hm : m = [] := by
    by_contra hm
    exact h _ List.mem_cons_self rfl (return_mem_dropLast ('#' :: line) hm)
  subst hm
  cases rest with
  | nil => exact .inl rfl
  | cons d rest =>
    obtain rfl : d = '\n' := by simpa using hhead d rfl
    exact .inr ⟨rest, rfl⟩

theorem lineText_of_chars {line : List Char} (h : ∀ c ∈ line, c ≠ '\r' ∧ c ≠ '\n') :
    LineText line :=
  ⟨fun hmem => (h _ hmem).2 rfl, fun hmem => (h _ (List.dropLast_subset line hmem)).1 rfl⟩

theorem lineText_return {line : List Char} (h : ∀ c ∈ line, c ≠ '\r' ∧ c ≠ '\n') :
    LineText (line ++ ['\r']) := by
  refine ⟨fun hmem => ?_, fun hmem => ?_⟩
  · rcases List.mem_append.mp hmem with hmem | hmem
    · exact (h _ hmem).2 rfl
    · simp at hmem
  · rw [List.dropLast_concat] at hmem
    exact (h _ hmem).1 rfl

theorem tidy_comment {cs : List Char} (h : Tidy ('#' :: cs)) :
    ∃ line, LineText line ∧ (cs = line ∨ ∃ more, cs = line ++ '\n' :: more ∧ Tidy more) := by
  obtain ⟨hsplit, hall, hhead⟩ := takeWhile_split (fun d => d != '\r' && d != '\n') cs
  generalize cs.takeWhile (fun d => d != '\r' && d != '\n') = line at hsplit hall
  generalize cs.dropWhile (fun d => d != '\r' && d != '\n') = rest at hsplit hhead
  subst hsplit
  have hline : ∀ c ∈ line, c ≠ '\r' ∧ c ≠ '\n' := by simpa using hall
  have hfeed : '\n' ∉ line := fun hmem => (hline _ hmem).2 rfl
  have hmore {line more : List Char} (hfeed : '\n' ∉ line)
      (h : Tidy ('#' :: line ++ '\n' :: more)) : Tidy more :=
    tidy_tail (by decide) (h.of_lexes (lexes_comment hfeed more))
  cases rest with
  | nil => exact ⟨line, lineText_of_chars hline, .inl (List.append_nil line)⟩
  | cons e more =>
    by_cases he : e = '\n'
    · subst he
      exact ⟨line, lineText_of_chars hline, .inr ⟨more, rfl, hmore hfeed h⟩⟩
    · obtain rfl : e = '\r' := by
        have := hhead e rfl
        simpa [he] using this
      refine ⟨line ++ ['\r'], lineText_return hline, ?_⟩
      rcases tidy_after_return hfeed h with rfl | ⟨more, rfl⟩
      · exact .inl rfl
      · refine .inr ⟨more, by simp, hmore (lineText_return hline).1 ?_⟩
        simpa using h

theorem tidy_split {cs : List Char} (h : Tidy cs) :
    Trailing cs ∨ ∃ sp c rest, cs = sp ++ c :: rest ∧ Spacing sp ∧ c ∉ '#' :: ignoredChars ∧
      Tidy (c :: rest) := by
  have hunmarked : ∀ c ∈ ignoredChars, c ∉ markedChars := of_listed (by decide)
  induction hn : cs.length using Nat.strongRecOn generalizing cs with
  | ind n ih =>
    subst hn
    have hprepend {sp more : List Char} (hsp : Spacing sp) (hcs : cs = sp ++ more)
        (hlength : more.length < cs.length) (hmore : Tidy more) : Trailing cs ∨ ∃ sp c rest,
          cs = sp ++ c :: rest ∧ Spacing sp ∧ c ∉ '#' :: ignoredChars ∧ Tidy (c :: rest) := by
      subst hcs
      rcases ih _ hlength hmore rfl with htrail | ⟨sp', c, rest, rfl, hsp', hc, htidy⟩
      · exact .inl (.prepend hsp htrail)
      · exact .inr ⟨sp ++ sp', c, rest, by simp, hsp.append hsp', hc, htidy⟩
    cases cs with
    | nil => exact .inl (.space .nil)
    | cons c cs =>
      by_cases hignored : c ∈ ignoredChars
      · have htidy : Tidy cs := tidy_tail (hunmarked c hignored) h
        exact hprepend (.char hignored .nil) rfl (by simp) htidy
      by_cases hcomment : c = '#'
      · subst hcomment
        obtain ⟨line, hline, rfl | ⟨more, rfl, htidy⟩⟩ := tidy_comment h
        · exact .inl (.comment .nil hline)
        · have hsp : Spacing ('#' :: line ++ ['\n']) := .comment hline .nil
          refine hprepend hsp (by simp) ?_ htidy
          simp only [List.length_cons, List.length_append]
          omega
      · exact .inr ⟨[], c, cs, rfl, .nil, by simp [hcomment, hignored], h⟩

end Tidy

section Levels

open Reader (sign)

def openTokens : List Token := [sign "(", sign "[", sign "\x7b"]

def closeTokens : List Token := [sign ")", sign "]", sign "\x7d"]

def levelsPast (levels : Nat) (t : Token) : Nat :=
  if t ∈ openTokens then levels - 1 else if t ∈ closeTokens then levels + 1 else levels

/-- The brackets of the tokens are nested no deeper than the levels allow. -/
def Fits : Nat → List Token → Prop
  | _, [] => True
  | levels, t :: ts => (t ∈ openTokens → levels ≠ 0) ∧ Fits (levelsPast levels t) ts

theorem plain_levels {t : Token} (ht : t ∉ bracketTokens) (levels : Nat) :
    t ∉ openTokens ∧ levelsPast levels t = levels := by
  have hbrackets : ∀ b ∈ openTokens ++ closeTokens, b ∈ bracketTokens := by decide
  have hopen : t ∉ openTokens := fun h => ht (hbrackets t (List.mem_append_left _ h))
  have hclose : t ∉ closeTokens := fun h => ht (hbrackets t (List.mem_append_right _ h))
  exact ⟨hopen, by rw [levelsPast, if_neg hopen, if_neg hclose]⟩

theorem pair_levels {o c : Token} (h : TokenPair o c) (levels : Nat) :
    o ∈ openTokens ∧ levelsPast levels o = levels - 1 ∧ c ∉ openTokens ∧
      levelsPast levels c = levels + 1 := by
  cases h <;> exact ⟨by decide, rfl, by decide, rfl⟩

theorem fits_append {u v : List Token} (hu : Enclosed u) (levels : Nat) :
    Fits levels (u ++ v) ↔ Fits levels u ∧ Fits levels v := by
  induction hu generalizing levels v with
  | nil => simp [Fits]
  | @plain t u ht h ih =>
    obtain ⟨hopen, hlevels⟩ := plain_levels ht levels
    simp [Fits, hopen, hlevels, ih]
  | @pair o c inner u hpair hinner h ihInner ih =>
    obtain ⟨ho, holevels, hc, -⟩ := pair_levels hpair levels
    have hclevels := (pair_levels hpair (levels - 1)).2.2.2
    have hsplit (v : List Token) : Fits levels (o :: inner ++ c :: v) ↔
        levels ≠ 0 ∧ Fits (levels - 1) inner ∧ Fits levels v := by
      rw [List.cons_append, Fits, holevels, ihInner, Fits, hclevels]
      constructor
      · rintro ⟨hne, hinner, -, hv⟩
        have hlevels := hne ho
        exact ⟨hlevels, hinner, by rwa [Nat.sub_add_cancel (by omega)] at hv⟩
      · rintro ⟨hne, hinner, hv⟩
        exact ⟨fun _ => hne, hinner, fun h => absurd h hc, by rwa [Nat.sub_add_cancel (by omega)]⟩
    have hassoc : o :: inner ++ c :: u ++ v = o :: inner ++ c :: (u ++ v) := by simp
    rw [hassoc, hsplit, hsplit, ih]
    tauto

theorem tokenText_levels {kind : TokenKind} {c : Char} {w : List Char}
    (h : TokenText kind (c :: w)) (levels : Nat) :
    (opens c = true ↔ (⟨kind, String.ofList (c :: w)⟩ : Token) ∈ openTokens) ∧
      levelsAfter levels c = levelsPast levels ⟨kind, String.ofList (c :: w)⟩ := by
  have hplain (hopens : opens c = false) (hcloses : closes c = false)
      (ht : (⟨kind, String.ofList (c :: w)⟩ : Token) ∉ bracketTokens) :
      (opens c = true ↔ (⟨kind, String.ofList (c :: w)⟩ : Token) ∈ openTokens) ∧
        levelsAfter levels c = levelsPast levels ⟨kind, String.ofList (c :: w)⟩ := by
    obtain ⟨hopen, hlevels⟩ := plain_levels ht levels
    refine ⟨⟨fun h => by simp [hopens] at h, fun h => absurd h hopen⟩, ?_⟩
    rw [hlevels, levelsAfter, hopens, hcloses]
    rfl
  cases h with
  | sign hc =>
    simp only [signChars, List.mem_cons, List.not_mem_nil, or_false] at hc
    rcases hc with rfl | rfl | rfl | rfl | rfl | rfl | rfl | rfl | rfl | rfl | rfl | rfl | rfl <;>
      exact ⟨by decide, rfl⟩
  | dots => exact hplain rfl rfl (by decide)
  | name hn =>
    simp only [isName, Bool.and_eq_true] at hn
    obtain ⟨hopens, hcloses, -⟩ := nameStart_class hn.1
    exact hplain hopens hcloses (plain_of_kind (by simp))
  | number hc hcs hkind =>
    obtain ⟨hopens, hcloses, -⟩ := numberStart_class hc
    refine hplain hopens hcloses (plain_of_kind ?_)
    rcases number_kind hkind with rfl | rfl <;> simp
  | plain h => exact hplain rfl rfl (plain_of_kind (by simp))
  | block h => exact hplain rfl rfl (plain_of_kind (by simp))

theorem tokenText_start {kind : TokenKind} {c : Char} {w : List Char}
    (h : TokenText kind (c :: w)) : c ∉ '#' :: ignoredChars := by
  have hignored : ∀ c ∈ '#' :: ignoredChars, isNameChar c = false ∧ c ≠ '-' ∧ c ∉ signChars ∧
      c ≠ '.' ∧ c ≠ '"' := of_listed (by decide)
  intro hmem
  obtain ⟨hname, hminus, hsign, hdot, hquote⟩ := hignored c hmem
  cases h with
  | sign hc => exact hsign hc
  | dots => exact hdot rfl
  | name hn => simp [isName_chars hn c List.mem_cons_self] at hname
  | number hc hcs hkind =>
    rcases hc with rfl | hc
    · exact hminus rfl
    · simp [isNameChar, hc] at hname
  | plain h | block h => exact hquote rfl

end Levels

section Scanning

inductive Lexed : List Char → List Token → Prop
  | nil : Lexed [] []
  | token {sp w rest : List Char} {kind : TokenKind} {ts : List Token} (hsp : Spacing sp)
      (hw : TokenText kind w) (hends : Ends kind w rest) (h : Lexed rest ts) :
      Lexed (sp ++ (w ++ rest)) (⟨kind, String.ofList w⟩ :: ts)

theorem tokenText_cons {kind : TokenKind} {w : List Char} (h : TokenText kind w) :
    ∃ c cs, w = c :: cs := by
  cases h with
  | name hn =>
    apply List.exists_cons_of_ne_nil
    rintro rfl
    contradiction
  | _ => exact ⟨_, _, rfl⟩

theorem tidy_token {kind : TokenKind} {w rest : List Char} (hw : TokenText kind w)
    (hends : Ends kind w rest) (h : Tidy (w ++ rest)) : Tidy rest := by
  rcases tokenText_cases hw hends with ⟨-, o, c, hpair, rfl | rfl⟩ | ⟨hliteral, hstops⟩ | hchars
  · exact h.of_lexes (lexes_brackets hpair rest).1
  · exact h.of_lexes (lexes_brackets hpair rest).2
  · exact h.of_lexes (lexes_literal hliteral hstops)
  · exact h.of_chars hchars

theorem scan_end {levels : Nat} {p q : Position} {cs : List Char}
    (h : skipIgnored false p cs = (q, [])) : scan levels p cs = ⟨[], q, none⟩ := by
  rw [scan]
  split <;> simp_all

theorem scan_token {levels : Nat} {p q : Position} {cs rest : List Char} {c : Char}
    (h : skipIgnored false p cs = (q, c :: rest)) : scan levels p cs =
      match lexeme levels c rest with
      | .error fault => ⟨[], q, some fault⟩
      | .ok (kind, n) =>
        (scan (levelsAfter levels c) (q.past (c :: rest.take n)) (rest.drop n)).cons
          ⟨q, kind, String.ofList (c :: rest.take n)⟩ := by
  rw [scan]
  split
  · next heq => simp [heq] at h
  · next heq =>
    obtain ⟨rfl, hrest⟩ := Prod.mk.inj (heq.symm.trans h)
    obtain ⟨rfl, rfl⟩ := List.cons.inj hrest
    rfl

/-- The tokens of a tidy text without a fault are laid out in it up to its trailing space. -/
theorem scan_sound {levels : Nat} {p : Position} {cs : List Char} (htidy : Tidy cs)
    (hfault : (scan levels p cs).fault = none) :
    ∃ front trail, cs = front ++ trail ∧ Lexed front (scan levels p cs).tokens ∧ Trailing trail ∧
      Fits levels (scan levels p cs).tokens := by
  induction hn : cs.length using Nat.strongRecOn generalizing cs levels p with
  | ind n ih =>
    subst hn
    rcases tidy_split htidy with htrail | ⟨sp, c, rest, rfl, hsp, hc, htidy⟩
    · obtain ⟨q, hq⟩ := skip_trailing htrail p
      rw [scan_end hq]
      exact ⟨[], cs, rfl, .nil, htrail, trivial⟩
    · obtain ⟨q, hq⟩ := skip_spacing hsp p (c :: rest)
      rw [skip_token hc] at hq
      rw [scan_token hq] at hfault ⊢
      cases hlex : lexeme levels c rest with
      | error fault => simp [hlex] at hfault
      | ok r =>
        obtain ⟨kind, n⟩ := r
        simp only [hlex] at hfault ⊢
        obtain ⟨w, rest, rfl, rfl, hw, hends, hlevels⟩ := lexeme_sound hlex
        rw [List.take_left, List.drop_left] at hfault ⊢
        have htidy : Tidy rest := tidy_token hw hends htidy
        obtain ⟨front, trail, rfl, hfront, htrail, hfits⟩ := ih rest.length
          (by simp only [List.length_append, List.length_cons]; omega) htidy hfault rfl
        obtain ⟨hopen, hpast⟩ := tokenText_levels hw levels
        refine ⟨sp ++ (c :: w ++ front), trail, by simp, ?_, htrail, ?_⟩
        · exact .token hsp hw (ends_of_append hends) hfront
        · exact ⟨fun h => hlevels (hopen.mpr h), hpast ▸ hfits⟩

theorem spacing_head {sp : List Char} (h : Spacing sp) :
    ∀ c ∈ sp.head?, c ∈ '#' :: ignoredChars := by
  cases h with
  | nil => simp
  | char hc h => rintro _ ⟨rfl⟩; exact List.mem_cons_of_mem _ hc
  | comment hline h => rintro _ ⟨rfl⟩; exact List.mem_cons_self

theorem trailing_stops {trail : List Char} (h : Trailing trail) : Stops trail := by
  have hignored : ∀ c ∈ '#' :: ignoredChars, isNameChar c = false := of_listed (by decide)
  cases h with
  | space h => exact fun c hc => hignored c (spacing_head h c hc)
  | @comment sp line h hline =>
    intro c hc
    cases sp with
    | nil =>
      obtain rfl : '#' = c := by simpa using hc
      exact hignored '#' List.mem_cons_self
    | cons d sp => exact hignored c (spacing_head h c hc)

def EndsApart (ts : List Token) : Prop :=
  ∀ t ∈ ts.getLast?, t.kind = .name ∨ t.kind = .punctuator

theorem lexed_nil {ts : List Token} (h : Lexed [] ts) : ts = [] := by
  generalize hcs : ([] : List Char) = cs at h
  cases h with
  | nil => rfl
  | token hsp hw hends h =>
    obtain ⟨c, w, rfl⟩ := tokenText_cons hw
    simp at hcs

theorem EndsApart.tail {t : Token} {ts : List Token} (h : EndsApart (t :: ts)) : EndsApart ts := by
  cases ts with
  | nil => simp [EndsApart]
  | cons u ts => simpa [EndsApart] using h

theorem EndsApart.cons {t : Token} {ts : List Token} (ht : t.kind = .name ∨ t.kind = .punctuator)
    (h : EndsApart ts) : EndsApart (t :: ts) := by
  cases ts with
  | nil => simpa [EndsApart] using ht
  | cons u ts => simpa [EndsApart] using h

theorem EndsApart.append {ts us : List Token} (h : EndsApart us) (hne : us ≠ []) :
    EndsApart (ts ++ us) := by
  rwa [EndsApart, List.getLast?_append_of_ne_nil _ hne]

theorem header_endsApart {u : List Token} (h : HeaderTokens u) : EndsApart u := by
  induction h with
  | nil => simp [EndsApart]
  | name n h ih => exact ih.cons (.inl rfl)
  | directive n h ih => exact (ih.cons (.inl rfl)).cons (.inr rfl)
  | sign hc h ih => exact ih.cons (.inr rfl)
  | group hinner h ih => exact (ih.cons (.inr rfl)).append (List.cons_ne_nil _ _)

theorem definition_endsApart {form : DefinitionForm} {u : List Token}
    (h : DefinitionTokens form u) : EndsApart u := by
  have hbraces (inner : List Token) : EndsApart (braces inner) ∧ braces inner ≠ [] := by
    refine ⟨EndsApart.append ?_ (List.cons_ne_nil _ _), by simp [braces]⟩
    simp [EndsApart, Reader.sign]
  cases h with
  | shorthand hinner => exact (hbraces _).1
  | executable hw hheader hinner => exact (hbraces _).1.append (hbraces _).2
  | bare hfront hkind hheader hnamed =>
    exact ((header_endsApart hheader).cons (.inl rfl)).append (List.cons_ne_nil _ _)
  | body hfront hkind hheader hinner =>
    exact (((hbraces _).1.append (hbraces _).2).cons (.inl rfl)).append (List.cons_ne_nil _ _)

theorem ends_append {t : Token} {w rest more : List Char} {ts : List Token}
    (hends : Ends t.kind w rest) (h : Lexed rest ts) (hlast : EndsApart (t :: ts))
    (hmore : Stops more) : Ends t.kind w (rest ++ more) := by
  cases rest with
  | cons d rest => exact ends_congr rfl hends
  | nil =>
    obtain rfl := lexed_nil h
    rcases hlast t rfl with hkind | hkind
    · rw [hkind]
      exact hmore
    · rw [hkind]
      trivial

/-- Tokens laid out in a text are read from it, whatever space follows. -/
theorem scan_complete {front trail : List Char} {ts : List Token} (h : Lexed front ts)
    (hlast : EndsApart ts) (htrail : Trailing trail) {levels : Nat} (hfits : Fits levels ts)
    (p : Position) : (scan levels p (front ++ trail)).tokens = ts ∧
      (scan levels p (front ++ trail)).fault = none := by
  induction h generalizing levels p with
  | nil =>
    obtain ⟨q, hq⟩ := skip_trailing htrail p
    rw [List.nil_append, scan_end hq]
    exact ⟨rfl, rfl⟩
  | @token sp w rest kind ts hsp hw hends h ih =>
    obtain ⟨c, w, rfl⟩ := tokenText_cons hw
    obtain ⟨hopen, hpast⟩ := tokenText_levels hw levels
    have hends' : Ends kind (c :: w) (rest ++ trail) :=
      ends_append hends h hlast (trailing_stops htrail)
    have hq : ∃ q, skipIgnored false p (sp ++ (c :: w ++ rest) ++ trail) =
        (q, c :: (w ++ (rest ++ trail))) := by
      obtain ⟨q, hq⟩ := skip_spacing hsp p (c :: (w ++ (rest ++ trail)))
      rw [skip_token (tokenText_start hw)] at hq
      exact ⟨q, by simpa using hq⟩
    obtain ⟨q, hq⟩ := hq
    rw [scan_token hq, lexeme_complete hw hends' fun h => hfits.1 (hopen.mp h)]
    simp only [List.take_left, List.drop_left]
    obtain ⟨htokens, hfault⟩ := ih hlast.tail (hpast ▸ hfits.2) (q.past (c :: w))
    exact ⟨congrArg _ htokens, hfault⟩

end Scanning

section Parts

theorem lexed_cons {cs : List Char} {t : Token} {ts : List Token} (h : Lexed cs (t :: ts)) :
    ∃ sp rest, cs = sp ++ (t.text.toList ++ rest) ∧ Spacing sp ∧ TokenText t.kind t.text.toList ∧
      Ends t.kind t.text.toList rest ∧ Lexed rest ts := by
  cases h with
  | @token sp w rest kind ts hsp hw hends h =>
    exact ⟨sp, rest, by simp, hsp, by simpa using hw, by simpa using hends, h⟩

theorem lexed_empty {cs : List Char} (h : Lexed cs []) : cs = [] := by
  cases h
  rfl

theorem lexed_cut {u v : List Token} {cs : List Char} (h : Lexed cs (u ++ v)) :
    ∃ a b, cs = a ++ b ∧ Lexed a u ∧ Lexed b v ∧
      ∀ t ∈ u.getLast?, t.kind = .name → Stops b := by
  induction u generalizing cs with
  | nil => exact ⟨[], cs, rfl, .nil, h, by simp⟩
  | cons t u ih =>
    obtain ⟨sp, rest, rfl, hsp, hw, hends, hrest⟩ := lexed_cons h
    obtain ⟨a, b, rfl, ha, hb, hlast⟩ := ih hrest
    refine ⟨sp ++ (t.text.toList ++ a), b, by simp, ?_, hb, fun x hx hkind => ?_⟩
    · have htoken := Lexed.token hsp hw (ends_of_append hends) ha
      rwa [String.ofList_toList] at htoken
    · cases u with
      | nil =>
        obtain rfl := lexed_empty ha
        obtain rfl : t = x := by simpa using hx
        rw [hkind] at hends
        exact hends
      | cons y u => exact hlast x (by simpa using hx) hkind

theorem lexed_append {u v : List Token} {cs ds : List Char} (hcs : Lexed cs u)
    (hlast : EndsApart u) (hstops : Stops ds) (hds : Lexed ds v) : Lexed (cs ++ ds) (u ++ v) := by
  induction hcs with
  | nil => exact hds
  | @token sp w rest kind ts hsp hw hends h ih =>
    have hall := Lexed.token hsp hw (ends_append hends h hlast hstops) (ih hlast.tail)
    simpa using hall

theorem lexed_join {u v : List Token} {cs ds : List Char} (hcs : Lexed cs u)
    (hlast : ∀ t ∈ u.getLast?, t.kind = .punctuator) (hds : Lexed ds v) :
    Lexed (cs ++ ds) (u ++ v) := by
  induction hcs with
  | nil => exact hds
  | @token sp w rest kind ts hsp hw hends h ih =>
    have hends' : Ends kind w (rest ++ ds) := by
      cases rest with
      | cons d rest => exact ends_congr rfl hends
      | nil =>
        obtain rfl := lexed_nil h
        obtain rfl : kind = .punctuator := hlast _ rfl
        trivial
    have htail : ∀ t ∈ ts.getLast?, t.kind = .punctuator := by
      cases ts with
      | nil => simp
      | cons u ts => simpa using hlast
    have hall := Lexed.token hsp hw hends' (ih htail)
    simpa using hall

def Unspaced (cs : List Char) : Prop := ∀ c ∈ cs.head?, c ∉ '#' :: ignoredChars

theorem Unspaced.spacing_eq_nil {sp cs : List Char} (h : Unspaced (sp ++ cs)) (hsp : Spacing sp) :
    sp = [] := by
  cases sp with
  | nil => rfl
  | cons c sp => exact absurd (spacing_head hsp c rfl) (h c rfl)

theorem lexed_lead {u : List Token} {cs : List Char} (h : Lexed cs u) (hne : u ≠ []) :
    ∃ lead core, cs = lead ++ core ∧ Spacing lead ∧ Unspaced core ∧
      ∀ {sp : List Char}, Spacing sp → Lexed (sp ++ core) u := by
  cases h with
  | nil => contradiction
  | @token sp w rest kind ts hsp hw hends h =>
    refine ⟨sp, w ++ rest, rfl, hsp, ?_, fun hsp' => .token hsp' hw hends h⟩
    obtain ⟨c, w, rfl⟩ := tokenText_cons hw
    rintro _ ⟨rfl⟩
    exact tokenText_start hw

end Parts

end QueryModel.Syntax
