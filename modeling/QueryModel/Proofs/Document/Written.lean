import QueryModel.Proofs.Syntax.Layout

/-!
# Definitions as they are read and as they are cut

A definition that a grammar reads is written in one of the forms that the cut into definitions
knows: its header shows some words outside brackets, and all else stands in brackets. If none of
the words after the name of a type system definition is a keyword, the definition starts where it
stands and nowhere further on.
-/

set_option autoImplicit false

namespace QueryModel

open Text Syntax SplitState

section Inside

theorem Balanced.append {cs ds : List Char} (hcs : Balanced cs) (hds : Balanced ds)
    (hhead : ds.head? ≠ some '"') : Balanced (cs ++ ds) := by
  induction hcs with
  | nil => exact hds
  | char hc h ih => exact .char hc ih
  | @comment line cs hline h ih =>
    have hall := Balanced.comment hline ih
    simpa using hall
  | literal hliteral hstops h ih =>
    rw [List.append_assoc]
    exact .literal hliteral (hstops.append hhead) ih
  | @nested o c inner cs hpair hinner h ihInner ih =>
    have hall := Balanced.nested hpair hinner ih
    simpa using hall

theorem balanced_spacing {sp cs : List Char} (hsp : Spacing sp) (hcs : Balanced cs) :
    Balanced (sp ++ cs) := by
  have hunmarked : ∀ c ∈ ignoredChars, c ∉ markedChars := of_listed (by decide)
  induction hsp with
  | nil => exact hcs
  | char hc h ih => exact .char (hunmarked _ hc) ih
  | @comment line sp hline h ih =>
    have hall := Balanced.comment hline.1 ih
    simpa using hall

theorem spacing_quote {sp : List Char} (h : Spacing sp) : sp.head? ≠ some '"' := by
  intro hquote
  have hmem := spacing_head h '"' hquote
  exact absurd hmem (by decide)

theorem spacing_stops {sp : List Char} (h : Spacing sp) (hne : sp ≠ []) (cs : List Char) :
    Stops (sp ++ cs) := by
  obtain ⟨c, sp, rfl⟩ := List.exists_cons_of_ne_nil hne
  exact fun d hd => trailing_stops (.space h) d hd

theorem pair_chars {o c : Token} (h : TokenPair o c) :
    ∃ a b, BracketPair a b ∧ o.text.toList = [a] ∧ c.text.toList = [b] := by
  cases h with
  | round => exact ⟨_, _, .round, rfl, rfl⟩
  | square => exact ⟨_, _, .square, rfl, rfl⟩
  | curly => exact ⟨_, _, .curly, rfl, rfl⟩

theorem bracket_token {t : Token} {o c : Char} (hkind : t.kind = .punctuator)
    (hpair : BracketPair o c) (htext : t.text.toList = [o] ∨ t.text.toList = [c]) :
    t ∈ bracketTokens := by
  obtain ⟨kind, text⟩ := t
  obtain rfl : kind = .punctuator := hkind
  have hmem {d : Char} (h : text.toList = [d])
      (hd : (⟨.punctuator, String.ofList [d]⟩ : Token) ∈ bracketTokens) :
      (⟨.punctuator, text⟩ : Token) ∈ bracketTokens := by
    rwa [← String.ofList_toList (s := text), h]
  cases hpair <;> rcases htext with h | h <;> exact hmem h (by decide)

theorem lexed_pair {o c : Token} {inner u : List Token} {cs : List Char}
    (hinner : ∀ {mid : List Char}, Lexed mid inner → Balanced mid)
    (h : Lexed cs (o :: inner ++ c :: u)) :
    ∃ sp inside rest, Spacing sp ∧ Balanced inside ∧ Lexed rest u ∧
      cs = sp ++ (o.text.toList ++ inside ++ (c.text.toList ++ rest)) := by
  obtain ⟨sp, rest, rfl, hsp, -, -, hrest⟩ := lexed_cons h
  obtain ⟨mid, tail, rfl, hmid, htail, -⟩ := lexed_cut hrest
  obtain ⟨sp', rest, rfl, hsp', -, -, hrest⟩ := lexed_cons htail
  have hspace := balanced_spacing hsp' .nil
  rw [List.append_nil] at hspace
  exact ⟨sp, mid ++ sp', rest, hsp, (hinner hmid).append hspace (spacing_quote hsp'), hrest,
    by simp⟩

theorem lexed_balanced {u : List Token} (hu : Enclosed u) {cs : List Char} (h : Lexed cs u) :
    Balanced cs := by
  induction hu generalizing cs with
  | nil =>
    rw [lexed_empty h]
    exact .nil
  | @plain t u ht hu ih =>
    obtain ⟨sp, rest, rfl, hsp, hw, hends, hrest⟩ := lexed_cons h
    have hbalanced := ih hrest
    apply balanced_spacing hsp
    rcases tokenText_cases hw hends with ⟨hkind, o, c, hpair, htext⟩ | ⟨hliteral, hstops⟩ | hchars
    · exact absurd (bracket_token hkind hpair htext) ht
    · exact .literal hliteral hstops hbalanced
    · exact .of_chars hchars hbalanced
  | @pair o c inner u hpair hinner hu ihInner ih =>
    obtain ⟨a, b, hchars, ho, hc⟩ := pair_chars hpair
    obtain ⟨sp, inside, rest, hsp, hinside, hrest, rfl⟩ := lexed_pair ihInner h
    rw [ho, hc]
    have hall := balanced_spacing hsp (.nested hchars hinside (ih hrest))
    simpa using hall

end Inside

section Forms

/-- The parts of a header with space between them, and the words that it shows outside brackets.
A directive shows its name only if the name stands apart from the sign. -/
inductive OuterText : List String → List Char → Prop
  | nil : OuterText [] []
  | space {ws : List String} {sp cs : List Char} (hsp : Spacing sp) (h : OuterText ws cs) :
      OuterText ws (sp ++ cs)
  | name {ws : List String} {n cs : List Char} (hn : isName n = true) (hstops : Stops cs)
      (h : OuterText ws cs) : OuterText (String.ofList n :: ws) (n ++ cs)
  | directive {ws : List String} {n cs : List Char} (hn : isName n = true) (hstops : Stops cs)
      (h : OuterText ws cs) : OuterText ("@" :: ws) ('@' :: n ++ cs)
  | apart {ws : List String} {cs : List Char} (hstops : Stops cs) (h : OuterText ws cs) :
      OuterText ("@" :: ws) ('@' :: cs)
  | sign {ws : List String} {c : Char} {cs : List Char} (hc : c ∈ punctuators)
      (h : OuterText ws cs) : OuterText ws (c :: cs)
  | group {ws : List String} {inner cs : List Char} (hinner : Balanced inner)
      (h : OuterText ws cs) : OuterText ws ('(' :: inner ++ ')' :: cs)

inductive KindText (kind : String) : Bool → List String → List Char → Prop
  | bare {ws : List String} {tail : List Char} (hkind : kind ∈ typeSystemKinds)
      (htail : OuterText ws tail) (hne : ws ≠ []) (hstops : Stops tail) :
      KindText kind false ws (kind.toList ++ tail)
  | body {ws : List String} {header inner : List Char} (hkind : kind ∈ bodyKinds)
      (hheader : OuterText ws header) (hstops : Stops header) (hinner : Balanced inner) :
      KindText kind true ws (kind.toList ++ (header ++ braced inner))

inductive Written : DefinitionForm → List String → List Char → Prop
  | shorthand {inner : List Char} (hinner : Balanced inner) : Written .shorthand [] (braced inner)
  | executable {w : String} {ws : List String} {header inner : List Char}
      (hw : w ∈ executableWords) (hheader : OuterText ws header) (hstops : Stops header)
      (hinner : Balanced inner) :
      Written .executable (w :: ws) (w.toList ++ (header ++ braced inner))
  | definition {kind : String} {body : Bool} {ws : List String} {cs : List Char}
      (h : KindText kind body ws cs) : Written (.typeSystem kind body) (kind :: ws) cs
  | extension {kind : String} {body : Bool} {ws : List String} {sp cs : List Char}
      (hsp : Spacing sp) (hstops : Stops (sp ++ cs)) (h : KindText kind body ws cs) :
      Written (.typeSystem kind body) ("extend" :: kind :: ws) ("extend".toList ++ (sp ++ cs))
  | described {kind : String} {body : Bool} {ws : List String} {literal sp cs : List Char}
      (hliteral : IsLiteral literal) (hsp : Spacing sp) (h : KindText kind body ws cs) :
      Written (.typeSystem kind body) (kind :: ws) (literal ++ (sp ++ cs))

theorem tokenText_name {w : List Char} (h : TokenText .name w) : isName w = true := by
  generalize hkind : TokenKind.name = kind at h
  cases h with
  | name hn => exact hn
  | number hc hcs hnumber =>
    subst hkind
    rcases number_kind hnumber with h | h <;> cases h
  | _ => cases hkind

theorem lexed_outer {u : List Token} (hu : HeaderTokens u) {cs : List Char} (h : Lexed cs u) :
    ∃ ws, OuterText ws cs ∧ (Named u → ws ≠ []) := by
  induction hu generalizing cs with
  | nil =>
    rw [lexed_empty h]
    exact ⟨[], .nil, fun ⟨n, more, hn⟩ => by simp at hn⟩
  | @name n u hu ih =>
    obtain ⟨sp, rest, rfl, hsp, hw, hends, hrest⟩ := lexed_cons h
    obtain ⟨ws, hws, -⟩ := ih hrest
    exact ⟨_, .space hsp (.name (tokenText_name hw) hends hws), fun _ => List.cons_ne_nil _ _⟩
  | @directive n u hu ih =>
    obtain ⟨sp, rest, rfl, hsp, -, -, hrest⟩ := lexed_cons h
    obtain ⟨sp', rest, rfl, hsp', hw, hends, hrest⟩ := lexed_cons hrest
    obtain ⟨ws, hws, -⟩ := ih hrest
    have hn := tokenText_name hw
    cases sp' with
    | nil =>
      have hdirective : OuterText ("@" :: ws) ('@' :: n.toList ++ rest) := .directive hn hends hws
      exact ⟨_, .space hsp hdirective, fun _ => List.cons_ne_nil _ _⟩
    | cons c sp' =>
      have hstops := spacing_stops hsp' (List.cons_ne_nil c sp') (n.toList ++ rest)
      have hname : OuterText _ (c :: sp' ++ (n.toList ++ rest)) :=
        .space hsp' (.name hn hends hws)
      exact ⟨_, .space hsp (.apart hstops hname), fun _ => List.cons_ne_nil _ _⟩
  | @sign c u hc hu ih =>
    obtain ⟨sp, rest, rfl, hsp, hw, hends, hrest⟩ := lexed_cons h
    obtain ⟨ws, hws, -⟩ := ih hrest
    obtain ⟨d, hd, hdc⟩ : ∃ d ∈ punctuators, c.toList = [d] := by
      simp only [List.mem_cons, List.not_mem_nil, or_false] at hc
      rcases hc with rfl | rfl | rfl
      · exact ⟨'&', by decide, rfl⟩
      · exact ⟨'=', by decide, rfl⟩
      · exact ⟨'|', by decide, rfl⟩
    refine ⟨ws, .space hsp ?_, fun hnamed => ?_⟩
    · change OuterText ws (c.toList ++ rest)
      rw [hdc]
      exact .sign hd hws
    · obtain ⟨n, more, hn | hn⟩ := hnamed
      · simp [Reader.sign, Reader.word] at hn
      · obtain rfl : c = "@" := by simpa [Reader.sign] using congrArg List.head? hn
        exact absurd hc (by decide)
  | @group inner u hinner hu ih =>
    obtain ⟨sp, inside, rest, hsp, hinside, hrest, rfl⟩ := lexed_pair (lexed_balanced hinner) h
    obtain ⟨ws, hws, -⟩ := ih hrest
    have hgroup : OuterText ws ('(' :: inside ++ ')' :: rest) := .group hinside hws
    refine ⟨ws, .space hsp hgroup, fun hnamed => ?_⟩
    obtain ⟨n, more, hn | hn⟩ := hnamed
    · simp [Reader.sign, Reader.word] at hn
    · simp [Reader.sign] at hn

theorem OuterText.append_space {ws : List String} {cs sp : List Char} (h : OuterText ws cs)
    (hsp : Spacing sp) : OuterText ws (cs ++ sp) := by
  have hstops : Stops sp := trailing_stops (.space hsp)
  induction h with
  | nil =>
    have hspace := OuterText.space hsp .nil
    simpa using hspace
  | space hsp' h ih =>
    rw [List.append_assoc]
    exact .space hsp' ih
  | name hn hends h ih =>
    rw [List.append_assoc]
    exact .name hn (hends.append hstops) ih
  | directive hn hends h ih =>
    rw [List.append_assoc]
    exact .directive hn (hends.append hstops) ih
  | apart hends h ih => exact .apart (hends.append hstops) ih
  | sign hc h ih => exact .sign hc ih
  | @group ws inner cs hinner h ih =>
    have hgroup := OuterText.group hinner ih
    simpa using hgroup

theorem lexed_braces {inner : List Token} (hinner : Enclosed inner) {cs : List Char}
    (h : Lexed cs (braces inner)) :
    ∃ sp inside, cs = sp ++ braced inside ∧ Spacing sp ∧ Balanced inside := by
  obtain ⟨sp, inside, rest, hsp, hinside, hrest, rfl⟩ := lexed_pair (lexed_balanced hinner) h
  obtain rfl := lexed_empty hrest
  exact ⟨sp, inside, rfl, hsp, hinside⟩

theorem Stops.of_append {cs rest : List Char} (h : Stops (cs ++ rest)) : Stops cs := by
  cases cs with
  | nil => simp [Stops]
  | cons c cs => exact h

theorem lexed_headed {header inner : List Token} (hheader : HeaderTokens header)
    (hinner : Enclosed inner) {cs : List Char} (h : Lexed cs (header ++ braces inner)) :
    ∃ ws text inside, cs = text ++ braced inside ∧ OuterText ws text ∧ Balanced inside := by
  obtain ⟨a, b, rfl, ha, hb, -⟩ := lexed_cut h
  obtain ⟨ws, hws, -⟩ := lexed_outer hheader ha
  obtain ⟨sp, inside, rfl, hsp, hinside⟩ := lexed_braces hinner hb
  exact ⟨ws, a ++ sp, inside, by simp, hws.append_space hsp, hinside⟩

theorem lexed_bareKind {kind : String} {header : List Token} (hkind : kind ∈ typeSystemKinds)
    (hheader : HeaderTokens header) (hnamed : Named header) {cs : List Char}
    (h : Lexed cs (Reader.word kind :: header)) :
    ∃ sp core ws, cs = sp ++ core ∧ Spacing sp ∧ KindText kind false ws core := by
  obtain ⟨sp, rest, rfl, hsp, hw, hends, hrest⟩ := lexed_cons h
  obtain ⟨ws, hws, hne⟩ := lexed_outer hheader hrest
  exact ⟨sp, _, ws, rfl, hsp, .bare hkind hws (hne hnamed) hends⟩

theorem lexed_bodyKind {kind : String} {header inner : List Token} (hkind : kind ∈ bodyKinds)
    (hheader : HeaderTokens header) (hinner : Enclosed inner) {cs : List Char}
    (h : Lexed cs (Reader.word kind :: (header ++ braces inner))) :
    ∃ sp core ws, cs = sp ++ core ∧ Spacing sp ∧ KindText kind true ws core := by
  obtain ⟨sp, rest, rfl, hsp, hw, hends, hrest⟩ := lexed_cons h
  obtain ⟨ws, text, inside, rfl, hws, hinside⟩ := lexed_headed hheader hinner hrest
  exact ⟨sp, _, ws, rfl, hsp, .body hkind hws hends.of_append hinside⟩

theorem tokenText_literal {t : Token} (ht : IsText t) {w : List Char} (h : TokenText t.kind w) :
    IsLiteral w := by
  generalize hkind : t.kind = kind at h
  rw [IsText, hkind] at ht
  cases h with
  | plain h => exact .plain h
  | block h => exact .block h
  | number hc hcs hnumber => rcases number_kind hnumber with rfl | rfl <;> simp at ht
  | _ => simp at ht

theorem lexed_front {front tail : List Token} {kind : String} {body : Bool}
    (hfront : FrontTokens front) (htail : ∀ {cs : List Char}, Lexed cs tail →
      ∃ sp core ws, cs = sp ++ core ∧ Spacing sp ∧ KindText kind body ws core)
    {cs : List Char} (h : Lexed cs (front ++ tail)) (hhead : Unspaced cs) :
    ∃ ws, Written (.typeSystem kind body) ws cs := by
  cases hfront with
  | nil =>
    obtain ⟨sp, core, ws, rfl, hsp, hcore⟩ := htail h
    obtain rfl := hhead.spacing_eq_nil hsp
    exact ⟨_, .definition hcore⟩
  | extend =>
    obtain ⟨sp, rest, rfl, hsp, hw, hends, hrest⟩ := lexed_cons h
    obtain rfl := hhead.spacing_eq_nil hsp
    obtain ⟨sp, core, ws, rfl, hsp, hcore⟩ := htail hrest
    exact ⟨_, .extension hsp hends hcore⟩
  | text ht =>
    obtain ⟨sp, rest, rfl, hsp, hw, hends, hrest⟩ := lexed_cons h
    obtain rfl := hhead.spacing_eq_nil hsp
    obtain ⟨sp, core, ws, rfl, hsp, hcore⟩ := htail hrest
    rw [List.nil_append]
    exact ⟨_, .described (tokenText_literal ht hw) hsp hcore⟩

/-- The tokens of a definition are laid out in a text of its form. -/
theorem lexed_written {form : DefinitionForm} {u : List Token} (hu : DefinitionTokens form u)
    {cs : List Char} (h : Lexed cs u) (hhead : Unspaced cs) : ∃ ws, Written form ws cs := by
  cases hu with
  | shorthand hinner =>
    obtain ⟨sp, inside, rfl, hsp, hinside⟩ := lexed_braces hinner h
    obtain rfl := hhead.spacing_eq_nil hsp
    exact ⟨[], .shorthand hinside⟩
  | executable hw hheader hinner =>
    obtain ⟨sp, rest, rfl, hsp, -, hends, hrest⟩ := lexed_cons h
    obtain rfl := hhead.spacing_eq_nil hsp
    obtain ⟨ws, text, inside, rfl, hws, hinside⟩ := lexed_headed hheader hinner hrest
    exact ⟨_, .executable hw hws hends.of_append hinside⟩
  | bare hfront hkind hheader hnamed =>
    exact lexed_front hfront (lexed_bareKind hkind hheader hnamed) h hhead
  | body hfront hkind hheader hinner =>
    exact lexed_front hfront (lexed_bodyKind hkind hheader hinner) h hhead

end Forms

end QueryModel
