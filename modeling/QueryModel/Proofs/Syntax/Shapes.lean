import QueryModel.Proofs.Document.Forms
import QueryModel.Proofs.Syntax.Reading
import QueryModel.Syntax.CommonGrammar

/-!
# Token shapes of definitions

What a grammar takes has its brackets in pairs. Outside brackets a definition is a header of
names, directives, signs and groups, and then a body if it has one.
-/

set_option autoImplicit false

namespace QueryModel.Syntax

open Reader

inductive TokenPair : Token → Token → Prop
  | round : TokenPair (sign "(") (sign ")")
  | square : TokenPair (sign "[") (sign "]")
  | curly : TokenPair (sign "\x7b") (sign "\x7d")

def bracketTokens : List Token :=
  [sign "(", sign ")", sign "[", sign "]", sign "\x7b", sign "\x7d"]

inductive Enclosed : List Token → Prop
  | nil : Enclosed []
  | plain {t : Token} {ts : List Token} (ht : t ∉ bracketTokens) (h : Enclosed ts) :
      Enclosed (t :: ts)
  | pair {o c : Token} {inner ts : List Token} (hpair : TokenPair o c) (hinner : Enclosed inner)
      (h : Enclosed ts) : Enclosed (o :: inner ++ c :: ts)

theorem Enclosed.append {ts us : List Token} (hts : Enclosed ts) (hus : Enclosed us) :
    Enclosed (ts ++ us) := by
  induction hts with
  | nil => exact hus
  | plain ht h ih => exact .plain ht ih
  | @pair o c inner ts hpair hinner h ihInner ih =>
    have hall := Enclosed.pair hpair hinner ih
    simpa using hall

theorem Enclosed.between {o c : Token} {inner : List Token} (hpair : TokenPair o c)
    (hinner : Enclosed inner) : Enclosed (o :: inner ++ [c]) := .pair hpair hinner .nil

theorem joins_enclosed : Joins Enclosed := ⟨.nil, Enclosed.append⟩

theorem plain_of_kind {t : Token} (h : t.kind ≠ .punctuator) : t ∉ bracketTokens := by
  intro ht
  have hkinds : ∀ b ∈ bracketTokens, b.kind = .punctuator := by decide
  exact h (hkinds t ht)

def IsText (t : Token) : Prop := t.kind = .stringValue ∨ t.kind = .blockString

theorem IsText.plain {t : Token} (h : IsText t) : t ∉ bracketTokens := by
  apply plain_of_kind
  rcases h with h | h <;> simp [h]

theorem word_plain (n : String) : word n ∉ bracketTokens := plain_of_kind nofun

/-- What stands outside brackets before a body: names, directives, the signs between names, and
groups in brackets. -/
inductive HeaderTokens : List Token → Prop
  | nil : HeaderTokens []
  | name (n : String) {ts : List Token} (h : HeaderTokens ts) : HeaderTokens (word n :: ts)
  | directive (n : String) {ts : List Token} (h : HeaderTokens ts) :
      HeaderTokens (sign "@" :: word n :: ts)
  | sign {c : String} {ts : List Token} (hc : c ∈ ["&", "=", "|"]) (h : HeaderTokens ts) :
      HeaderTokens (sign c :: ts)
  | group {inner ts : List Token} (hinner : Enclosed inner) (h : HeaderTokens ts) :
      HeaderTokens (Reader.sign "(" :: inner ++ Reader.sign ")" :: ts)

namespace HeaderTokens

theorem append {ts us : List Token} (hts : HeaderTokens ts) (hus : HeaderTokens us) :
    HeaderTokens (ts ++ us) := by
  induction hts with
  | nil => exact hus
  | name n h ih => exact .name n ih
  | directive n h ih => exact .directive n ih
  | sign hc h ih => exact .sign hc ih
  | @group inner ts hinner h ih =>
    have hall := HeaderTokens.group hinner ih
    simpa using hall

theorem enclosed {ts : List Token} (h : HeaderTokens ts) : Enclosed ts := by
  induction h with
  | nil => exact .nil
  | name n h ih => exact .plain (word_plain n) ih
  | directive n h ih => exact .plain (by decide) (.plain (word_plain n) ih)
  | @sign c ts hc h ih =>
    have hplain : ∀ c ∈ ["&", "=", "|"], Reader.sign c ∉ bracketTokens := by decide
    exact .plain (hplain c hc) ih
  | group hinner h ih => exact .pair .round hinner ih

end HeaderTokens

def braces (inner : List Token) : List Token := sign "\x7b" :: inner ++ [sign "\x7d"]

inductive FrontTokens : List Token → Prop
  | nil : FrontTokens []
  | extend : FrontTokens [word "extend"]
  | text {t : Token} (ht : IsText t) : FrontTokens [t]

def Named (header : List Token) : Prop :=
  ∃ n more, header = word n :: more ∨ header = sign "@" :: word n :: more

inductive DefinitionTokens : DefinitionForm → List Token → Prop
  | shorthand {inner : List Token} (hinner : Enclosed inner) :
      DefinitionTokens .shorthand (braces inner)
  | executable {w : String} {header inner : List Token} (hw : w ∈ executableWords)
      (hheader : HeaderTokens header) (hinner : Enclosed inner) :
      DefinitionTokens .executable (word w :: header ++ braces inner)
  | bare {front header : List Token} {kind : String} (hfront : FrontTokens front)
      (hkind : kind ∈ typeSystemKinds) (hheader : HeaderTokens header) (hnamed : Named header) :
      DefinitionTokens (.typeSystem kind false) (front ++ word kind :: header)
  | body {front header inner : List Token} {kind : String} (hfront : FrontTokens front)
      (hkind : kind ∈ bodyKinds) (hheader : HeaderTokens header) (hinner : Enclosed inner) :
      DefinitionTokens (.typeSystem kind true) (front ++ word kind :: (header ++ braces inner))

namespace Reader

variable {α β : Type}

abbrev Encloses (r : Reader α) : Prop := Takes (fun _ u => Enclosed u) r

abbrev EnclosesSome (r : Reader α) : Prop := Takes (fun _ u => Enclosed u ∧ u ≠ []) r

section Rules

variable {r : Reader α} {f : α → Reader β}

theorem EnclosesSome.any (h : EnclosesSome r) : Encloses r := h.weaken fun _ _ hu => hu.1

theorem Encloses.bind (h : Encloses r) (hf : ∀ a, Encloses (f a)) : Encloses (r >>= f) :=
  Reads.bind h hf fun _ _ _ _ => Enclosed.append

theorem EnclosesSome.bind (h : EnclosesSome r) (hf : ∀ a, Encloses (f a)) :
    EnclosesSome (r >>= f) :=
  Reads.bind h hf fun _ _ _ _ hu hv => ⟨hu.1.append hv, by simp [hu.2]⟩

theorem Encloses.bindSome (h : Encloses r) (hf : ∀ a, EnclosesSome (f a)) :
    EnclosesSome (r >>= f) :=
  Reads.bind h hf fun _ _ _ _ hu hv => ⟨hu.append hv.1, by simp [hv.2]⟩

theorem encloses_pure (a : α) : Encloses (pure a) := reads_pure a .nil

theorem advance_encloses {x : Reader α} {t : Token} (ht : t ∉ bracketTokens) (h : Encloses x) :
    Reads false (· = some t) (fun _ u => Enclosed u ∧ u ≠ []) (advance >>= fun _ => x)
      (advance >>= fun _ => x) :=
  reads_advance h fun _ _ hu => ⟨.plain ht hu, by simp⟩

theorem name_encloses : EnclosesSome name :=
  takes_name.weaken fun n _ hu => hu ▸ ⟨.plain (word_plain n) .nil, by simp⟩

theorem expect_encloses {t : Token} (ht : t ∉ bracketTokens) : EnclosesSome (expect t) :=
  (takes_expect t).weaken fun _ _ hu => hu ▸ ⟨.plain ht .nil, by simp⟩

theorem accept_encloses {t : Token} (ht : t ∉ bracketTokens) : Encloses (accept t) := by
  refine (takes_accept t).weaken ?_
  rintro b _ rfl
  cases b
  · exact .nil
  · exact .plain ht .nil

theorem isNext_encloses (t : Token) : Encloses (isNext t) :=
  (takes_isNext t).weaken fun _ _ hu => hu ▸ .nil

theorem isNameNext_encloses : Encloses isNameNext :=
  takes_isNameNext.weaken fun _ _ hu => hu ▸ .nil

theorem optionalBetween_encloses {o c : Token} (hpair : TokenPair o c) (h : EnclosesSome r) :
    Encloses (optionalBetween o c r) := by
  refine (takes_optionalBetween joins_enclosed h).weaken ?_
  rintro as u (⟨-, rfl⟩ | ⟨-, inner, hinner, rfl⟩)
  · exact .nil
  · exact .between hpair hinner

theorem each_encloses {t : Token} (ht : t ∉ bracketTokens) (h : Encloses r) :
    Encloses (each t r) :=
  takes_each .nil (fun _ _ hu hv => (Enclosed.plain ht hu).append hv) h

end Rules

section Common

theorem entry_encloses {r : Reader Value} (h : EnclosesSome r) : EnclosesSome (entry r) :=
  name_encloses.bind fun _ => (expect_encloses (by decide)).any.bind fun _ =>
    h.any.bind fun _ => encloses_pure _

theorem text_takes : Takes (fun _ u => ∃ t, IsText t ∧ u = [t]) text := by
  refine reads_position fun p q => reads_next? fun o _ => ?_
  rcases o with _ | ⟨kind, source⟩
  · exact reads_unexpected
  · cases kind with
    | stringValue =>
      refine reads_advance (P := fun _ u => u = []) (reads_literal p q _ fun _ => rfl) ?_
      rintro _ _ rfl
      exact ⟨_, .inl rfl, rfl⟩
    | blockString =>
      refine reads_advance (P := fun _ u => u = []) (reads_pure _ rfl) ?_
      rintro _ _ rfl
      exact ⟨_, .inr rfl, rfl⟩
    | _ => exact reads_unexpected

theorem text_encloses : EnclosesSome text := by
  refine text_takes.weaken ?_
  rintro _ _ ⟨t, ht, rfl⟩
  exact ⟨.plain ht.plain .nil, by simp⟩

theorem advance_pair {o c : Token} (hpair : TokenPair o c) {item : Reader α} {f : List α → β}
    (h : EnclosesSome item) :
    Reads false (· = some o) (fun _ u => Enclosed u ∧ u ≠ [])
      (advance >>= fun _ => manyUntil c item >>= fun as => pure (f as))
      (advance >>= fun _ => manyUntil c item >>= fun as => pure (f as)) := by
  refine reads_advance (P := fun _ u => ∃ inner, Enclosed inner ∧ u = inner ++ [c])
    ((takes_manyUntil joins_enclosed h).bound.map fun _ _ h => h) ?_
  rintro _ _ ⟨inner, hinner, rfl⟩
  exact ⟨.between hpair hinner, by simp⟩

theorem valueOf_encloses (constant : Bool) {nested : Reader Value} (h : EnclosesSome nested) :
    EnclosesSome (valueOf constant nested) := by
  refine reads_position fun p q => reads_next? fun o _ => ?_
  have hnumber {γ : Type} (r : Except LiteralFault γ) (f : γ → Value) :
      Reads false (fun _ => True) (fun _ u => Enclosed u) (literal p r >>= fun a => pure (f a))
        (literal q r >>= fun a => pure (f a)) :=
    (reads_literal (P := fun _ u => Enclosed u) p q r fun _ => .nil).map fun _ _ h => h
  rcases o with _ | ⟨kind, source⟩
  · exact reads_missing
  · cases kind with
    | name => exact advance_encloses (plain_of_kind nofun) (encloses_pure _)
    | intValue =>
      exact reads_advance (hnumber _ _) fun _ _ hu => ⟨.plain (plain_of_kind nofun) hu, by simp⟩
    | floatValue =>
      exact reads_advance (hnumber _ _) fun _ _ hu => ⟨.plain (plain_of_kind nofun) hu, by simp⟩
    | stringValue | blockString =>
      exact (text_encloses.bind fun _ => encloses_pure _).expecting fun _ _ => trivial
    | punctuator =>
      refine reads_ite (fun hsource => ?_) fun _ => reads_ite (fun hsource => ?_) fun _ =>
        reads_ite (fun hsource => ?_) fun _ => reads_missing
      · subst hsource
        exact advance_pair .square h
      · subst hsource
        exact advance_pair .curly (entry_encloses h)
      · obtain ⟨rfl, -⟩ := hsource
        exact advance_encloses (t := sign "$") (by decide)
          (name_encloses.any.bind fun _ => encloses_pure _)

theorem valueAt_encloses (constant : Bool) (n : Nat) : EnclosesSome (valueAt constant n) := by
  induction n with
  | zero => exact valueOf_encloses constant reads_missing
  | succ n ih => exact valueOf_encloses constant ih

theorem typeOf_encloses {nested : Reader TypeRef} (h : EnclosesSome nested) :
    EnclosesSome (typeOf nested) := by
  have hend (t : TypeRef) :
      Encloses (accept (sign "!") >>= fun b => if b then pure (.nonNull t) else pure t) :=
    (accept_encloses (by decide)).bind fun b => by cases b <;> exact encloses_pure _
  refine (takes_accept (sign "[")).bind (S := fun b _ v => cond b
    (∃ e w, Enclosed e ∧ Enclosed w ∧ v = e ++ sign "]" :: w) (Enclosed v ∧ v ≠ []))
    (fun b => ?_) ?_
  · cases b with
    | true =>
      refine Reads.bind h (S := fun _ _ v => ∃ w, Enclosed w ∧ v = sign "]" :: w)
        (fun element => ?_) ?_
      · refine (takes_expect (sign "]")).bind (S := fun _ _ v => Enclosed v)
          (fun _ => hend (.list element)) ?_
        rintro _ _ _ w rfl hw
        exact ⟨w, hw, rfl⟩
      · rintro _ _ e _ ⟨he, -⟩ ⟨w, hw, rfl⟩
        exact ⟨e, w, he, hw, rfl⟩
    | false =>
      refine reads_next? fun o _ => ?_
      rcases o with _ | ⟨kind, source⟩
      · exact reads_missing_bind _ _
      · cases kind with
        | name => exact advance_encloses (plain_of_kind nofun) (hend (.named source))
        | _ => exact reads_missing_bind _ _
  · rintro (_ | _) _ _ v rfl hv
    · exact hv
    · obtain ⟨e, w, he, hw, rfl⟩ := hv
      exact ⟨.pair .square he hw, by simp⟩

theorem typeAt_encloses (n : Nat) : EnclosesSome (typeAt n) := by
  induction n with
  | zero => exact typeOf_encloses reads_missing
  | succ n ih => exact typeOf_encloses ih

theorem arguments_encloses : Encloses arguments :=
  optionalBetween_encloses .round (entry_encloses (valueAt_encloses false nestingLimit))

theorem directive_encloses : EnclosesSome directive :=
  name_encloses.bind fun _ => arguments_encloses.bind fun _ => encloses_pure _

theorem directives_encloses : Encloses directives :=
  each_encloses (by decide) directive_encloses.any

theorem defaultValue_encloses : Encloses defaultValue := by
  refine (accept_encloses (by decide)).bind fun b => ?_
  cases b
  · exact encloses_pure _
  · exact (valueAt_encloses true nestingLimit).any.bind fun _ => encloses_pure _

end Common

section Headers

abbrev TakesHeader (r : Reader α) : Prop := Takes (fun _ u => HeaderTokens u) r

theorem TakesHeader.bind {x : Reader α} {f : α → Reader β} (hx : TakesHeader x)
    (hf : ∀ a, TakesHeader (f a)) : TakesHeader (x >>= f) :=
  Reads.bind hx hf fun _ _ _ _ => HeaderTokens.append

theorem optionalBetween_header {r : Reader α} (h : EnclosesSome r) :
    TakesHeader (optionalBetween (sign "(") (sign ")") r) := by
  refine (takes_optionalBetween joins_enclosed h).weaken ?_
  rintro as u (⟨-, rfl⟩ | ⟨-, inner, hinner, rfl⟩)
  · exact .nil
  · exact .group hinner .nil

theorem directives_header : TakesHeader directives := by
  have hdirective : Takes (fun _ u => ∃ n group, HeaderTokens group ∧ u = word n :: group)
      directive := by
    refine takes_name.bind (S := fun _ _ v => HeaderTokens v) (fun _ => ?_) ?_
    · exact (optionalBetween_header (entry_encloses (valueAt_encloses false nestingLimit))).map
        fun _ _ h => h
    · rintro n _ _ v rfl hv
      exact ⟨n, v, hv, rfl⟩
  refine takes_each .nil ?_ hdirective
  rintro _ v ⟨n, group, hgroup, rfl⟩ hv
  exact .directive n (hgroup.append hv)

theorem name_header : TakesHeader name :=
  takes_name.weaken fun n _ hu => hu ▸ .name n .nil

theorem expect_header (w : String) : TakesHeader (expect (word w)) :=
  (takes_expect (word w)).weaken fun _ _ hu => hu ▸ .name w .nil

def HeadedTokens (u : List Token) : Prop :=
  ∃ header inner, HeaderTokens header ∧ Enclosed inner ∧ u = header ++ braces inner

theorem HeadedTokens.prepend {u v : List Token} (hu : HeaderTokens u) (hv : HeadedTokens v) :
    HeadedTokens (u ++ v) := by
  obtain ⟨header, inner, hheader, hinner, rfl⟩ := hv
  exact ⟨u ++ header, inner, hu.append hheader, hinner, by simp⟩

end Headers

end Reader

namespace DefinitionTokens

def executableStarts : List Token := sign "\x7b" :: executableWords.map word

theorem front_head {front more : List Token} {kind : String} (hfront : FrontTokens front)
    (hkind : kind ∈ typeSystemKinds) :
    ∃ t rest, front ++ word kind :: more = t :: rest ∧ t ∉ executableStarts := by
  have hkinds : ∀ kind ∈ "extend" :: typeSystemKinds, word kind ∉ executableStarts := by decide
  cases hfront with
  | nil => exact ⟨_, _, rfl, hkinds kind (List.mem_cons_of_mem _ hkind)⟩
  | extend => exact ⟨_, _, rfl, hkinds "extend" List.mem_cons_self⟩
  | @text t ht =>
    refine ⟨t, _, rfl, fun hmem => ?_⟩
    have hstarts : ∀ t ∈ executableStarts, t.kind ≠ .stringValue ∧ t.kind ≠ .blockString := by
      decide
    rcases ht with ht | ht
    · exact (hstarts t hmem).1 ht
    · exact (hstarts t hmem).2 ht

theorem kind_mem {kind : String} {body : Bool} {u : List Token}
    (h : DefinitionTokens (.typeSystem kind body) u) : kind ∈ typeSystemKinds := by
  have hkinds : ∀ kind ∈ bodyKinds, kind ∈ typeSystemKinds := by decide
  cases h with
  | bare hfront hkind hheader hnamed => exact hkind
  | body hfront hkind hheader hinner => exact hkinds kind hkind

theorem head_typeSystem {kind : String} {body : Bool} {u : List Token}
    (h : DefinitionTokens (.typeSystem kind body) u) :
    ∃ t rest, u = t :: rest ∧ t ∉ executableStarts := by
  have hkind := h.kind_mem
  cases h with
  | bare hfront _ hheader hnamed => exact front_head hfront hkind
  | body hfront _ hheader hinner => exact front_head hfront hkind

theorem ne_nil {form : DefinitionForm} {u : List Token} (h : DefinitionTokens form u) : u ≠ [] := by
  cases h <;> simp [braces]

theorem enclosed {form : DefinitionForm} {u : List Token} (h : DefinitionTokens form u) :
    Enclosed u := by
  have hfront {front : List Token} (h : FrontTokens front) : Enclosed front := by
    cases h with
    | nil => exact .nil
    | extend => exact .plain (word_plain _) .nil
    | text ht => exact .plain ht.plain .nil
  cases h with
  | shorthand hinner => exact .between .curly hinner
  | executable hw hheader hinner =>
    exact .plain (word_plain _) (hheader.enclosed.append (.between .curly hinner))
  | bare h hkind hheader hnamed =>
    exact (hfront h).append (.plain (word_plain _) hheader.enclosed)
  | body h hkind hheader hinner =>
    exact (hfront h).append
      (.plain (word_plain _) (hheader.enclosed.append (.between .curly hinner)))

end DefinitionTokens

end QueryModel.Syntax
