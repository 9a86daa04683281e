import QueryModel.Proofs.Syntax.Shapes
import QueryModel.Syntax.TypeSystemGrammar

/-!
# Token shapes of type system definitions

A type system definition is what may stand in front of its kind, the kind, a header and a body. It
goes without the body if its declaration is empty or its kind has none.
-/

set_option autoImplicit false

namespace QueryModel.Syntax

open Reader

namespace Reader

variable {α : Type}

theorem applied_header : TakesHeader applied :=
  directives_header.map fun _ _ h => h

theorem applied_encloses : Encloses applied := applied_header.weaken fun _ _ h => h.enclosed

theorem description_takes :
    Takes (fun _ u => u = [] ∨ ∃ t, IsText t ∧ u = [t]) description := by
  have hnext : Takes (fun _ u => u = []) isTextNext := by
    refine reads_next? fun o _ => ?_
    cases o <;> exact reads_pure _ rfl
  refine hnext.bind (S := fun _ _ u => u = [] ∨ ∃ t, IsText t ∧ u = [t]) (fun b => ?_)
    fun _ _ u v hu hv => by simpa [hu] using hv
  cases b
  · exact reads_pure none (.inl rfl)
  · exact text_takes.map fun _ _ h => .inr h

theorem description_encloses : Encloses description := by
  refine description_takes.weaken ?_
  rintro _ _ (rfl | ⟨t, ht, rfl⟩)
  · exact .nil
  · exact .plain ht.plain .nil

theorem inputDeclaration_encloses : EnclosesSome inputDeclaration :=
  description_encloses.bindSome fun _ => name_encloses.bind fun _ =>
    (expect_encloses (by decide)).any.bind fun _ => (typeAt_encloses nestingLimit).any.bind fun _ =>
      defaultValue_encloses.bind fun _ => applied_encloses.bind fun _ => encloses_pure _

theorem fieldDeclaration_encloses : EnclosesSome fieldDeclaration :=
  description_encloses.bindSome fun _ => name_encloses.bind fun _ =>
    (optionalBetween_encloses .round inputDeclaration_encloses).bind fun _ =>
      (expect_encloses (by decide)).any.bind fun _ =>
        (typeAt_encloses nestingLimit).any.bind fun _ => applied_encloses.bind fun _ =>
          encloses_pure _

theorem enumValueDeclaration_encloses : EnclosesSome enumValueDeclaration :=
  description_encloses.bindSome fun _ => name_encloses.bind fun _ =>
    applied_encloses.bind fun _ => encloses_pure _

theorem rootEntry_encloses : EnclosesSome rootEntry :=
  name_encloses.bind fun _ => (expect_encloses (by decide)).any.bind fun _ =>
    name_encloses.any.bind fun _ => encloses_pure _

theorem accept_sign {c : String} (hc : c ∈ ["&", "=", "|"]) : TakesHeader (accept (sign c)) := by
  refine (takes_accept (sign c)).weaken ?_
  rintro (_ | _) _ rfl
  · exact .nil
  · exact .sign hc .nil

theorem accept_word (w : String) : TakesHeader (accept (word w)) := by
  refine (takes_accept (word w)).weaken ?_
  rintro (_ | _) _ rfl
  · exact .nil
  · exact .name w .nil

theorem separated_header {c : String} (hc : c ∈ ["&", "=", "|"]) {item : Reader α}
    (hitem : TakesHeader item) : TakesHeader (separated (sign c) item) := by
  refine (takes_separated (L := HeaderTokens) .nil
    (fun u v hu hv => .sign hc (hu.append hv)) hitem).weaken ?_
  rintro _ _ ⟨first, more, hfirst, hmore, rfl⟩
  exact hfirst.append hmore

theorem pure_header (a : α) : TakesHeader (pure a) := reads_pure a .nil

theorem implemented_header : TakesHeader implemented := by
  refine (accept_word "implements").bind fun b => ?_
  cases b
  · exact pure_header _
  · exact (accept_sign (by decide)).bind fun _ => separated_header (by decide) name_header

theorem unionMembers_header : TakesHeader unionMembers := by
  refine (accept_sign (by decide)).bind fun b => ?_
  cases b
  · exact pure_header _
  · exact (accept_sign (by decide)).bind fun _ => separated_header (by decide) name_header

/-- The declaration has no body, although one of its kind may have one. -/
def isOpen (t : TypeDeclaration) : Bool :=
  match t.shape with
  | .object _ fields => fields.isEmpty
  | .interface fields => fields.isEmpty
  | .enum values => values.isEmpty
  | .inputObject fields => fields.isEmpty
  | _ => false

/-- What follows the name of a type: a header, and a body unless the declaration is open or of
a kind without one. -/
def TailTokens (kind : String) (t : TypeDeclaration) (u : List Token) : Prop :=
  ∃ header, HeaderTokens header ∧
    ((u = header ∧ (kind ∈ bodyKinds → isOpen t = true)) ∨
      (kind ∈ bodyKinds ∧ ∃ inner, Enclosed inner ∧ u = header ++ braces inner))

abbrev TakesTail (kind : String) (r : Reader TypeDeclaration) : Prop := Takes (TailTokens kind) r

theorem tail_bind {kind : String} {x : Reader α} {f : α → Reader TypeDeclaration}
    (hx : TakesHeader x) (hf : ∀ a, TakesTail kind (f a)) : TakesTail kind (x >>= f) := by
  refine Reads.bind hx hf ?_
  rintro _ t u _ hu ⟨header, hheader, ⟨rfl, hopen⟩ | ⟨hkind, inner, hinner, rfl⟩⟩
  · exact ⟨u ++ _, hu.append hheader, .inl ⟨rfl, hopen⟩⟩
  · exact ⟨u ++ header, hu.append hheader, .inr ⟨hkind, inner, hinner, by simp⟩⟩

theorem optionalBody_tail {kind : String} (hkind : kind ∈ bodyKinds) {item : Reader α}
    (hitem : EnclosesSome item) {f : List α → TypeDeclaration} (hf : isOpen (f []) = true) :
    TakesTail kind (optionalBody item >>= fun as => pure (f as)) := by
  refine (takes_optionalBetween joins_enclosed hitem).map ?_
  rintro as u (⟨rfl, rfl⟩ | ⟨-, inner, hinner, rfl⟩)
  · exact ⟨[], .nil, .inl ⟨rfl, fun _ => hf⟩⟩
  · exact ⟨[], .nil, .inr ⟨hkind, inner, hinner, rfl⟩⟩

theorem header_tail {kind : String} (hkind : kind ∉ bodyKinds) {x : Reader α}
    {f : α → TypeDeclaration} (hx : TakesHeader x) :
    TakesTail kind (x >>= fun a => pure (f a)) :=
  hx.map fun _ u hu => ⟨u, hu, .inl ⟨rfl, fun h => absurd h hkind⟩⟩

theorem typeBody_takes {kind : String} (hkind : kind ∈ typeKinds) (about : Option String) :
    Takes (fun t u => ∃ n tail, TailTokens kind t tail ∧ u = word n :: tail)
      (typeBody kind about) := by
  refine takes_name.bind (S := fun _ => TailTokens kind) (fun n => ?_) ?_
  · simp only [typeKinds, List.mem_cons, List.not_mem_nil, or_false] at hkind
    rcases hkind with rfl | rfl | rfl | rfl | rfl | rfl
    · exact header_tail (by decide) applied_header
    · exact tail_bind implemented_header fun _ => tail_bind applied_header fun _ =>
        optionalBody_tail (by decide) fieldDeclaration_encloses rfl
    · exact tail_bind implemented_header fun _ => tail_bind applied_header fun _ =>
        optionalBody_tail (by decide) fieldDeclaration_encloses rfl
    · exact tail_bind applied_header fun _ => header_tail (by decide) unionMembers_header
    · exact tail_bind applied_header fun _ =>
        optionalBody_tail (by decide) enumValueDeclaration_encloses rfl
    · exact tail_bind applied_header fun _ =>
        optionalBody_tail (by decide) inputDeclaration_encloses rfl
  · rintro n t _ tail rfl htail
    exact ⟨n, tail, htail, rfl⟩

/-- Whether a shorthand query after the definition would be taken for its body. -/
def takesBody : TypeSystemDefinition → Bool
  | .type t | .extension t => isOpen t
  | _ => false

def TypeSystemTokens (d : TypeSystemDefinition) (u : List Token) : Prop :=
  ∃ kind body, DefinitionTokens (.typeSystem kind body) u ∧
    (kind ∈ bodyKinds → body = false → takesBody d = true)

theorem typeKind_takes : Takes (fun kind u => kind ∈ typeKinds ∧ u = [word kind]) typeKind := by
  refine reads_next? fun o _ => ?_
  rcases o with _ | ⟨tokenKind, source⟩
  · exact reads_unexpected
  · cases tokenKind with
    | name =>
      refine reads_ite (fun hsource => ?_) fun _ => reads_unexpected
      refine reads_advance (P := fun kind u => kind = source ∧ u = [])
        (reads_pure _ ⟨rfl, rfl⟩) ?_
      rintro _ _ ⟨rfl, rfl⟩
      exact ⟨by simpa using hsource, rfl⟩
    | _ => exact reads_unexpected

theorem typeSystem_of_tail {front tail : List Token} {kind n : String} {t : TypeDeclaration}
    {d : TypeSystemDefinition} (hfront : FrontTokens front) (hkind : kind ∈ typeKinds)
    (htail : TailTokens kind t tail) (hd : takesBody d = isOpen t) :
    TypeSystemTokens d (front ++ word kind :: word n :: tail) := by
  have hsystem : ∀ kind ∈ typeKinds, kind ∈ typeSystemKinds := by decide
  obtain ⟨header, hheader, ⟨rfl, hopen⟩ | ⟨hbody, inner, hinner, rfl⟩⟩ := htail
  · exact ⟨kind, false, .bare hfront (hsystem kind hkind) (.name n hheader) ⟨n, _, .inl rfl⟩,
      fun hbody _ => hd.trans (hopen hbody)⟩
  · exact ⟨kind, true, .body hfront hbody (.name n hheader) hinner, nofun⟩

theorem schemaDefinition_takes :
    Reads false (· = some (word "schema")) TypeSystemTokens schemaDefinition schemaDefinition := by
  refine reads_position fun p q => reads_advance
    (P := fun d u => takesBody d = false ∧ HeadedTokens u) ?_ ?_
  · refine Reads.bind applied_header
      (S := fun _ d v => takesBody d = false ∧ ∃ inner, Enclosed inner ∧ v = braces inner)
      (fun dirs => ?_) ?_
    · refine (takes_expect _).bind
        (S := fun _ d v => takesBody d = false ∧
          ∃ inner, Enclosed inner ∧ v = inner ++ [sign "\x7d"])
        (fun _ => ?_) ?_
      · refine (takes_manyUntil joins_enclosed rootEntry_encloses).bound.bind
          (S := fun _ d v => takesBody d = false ∧ v = []) (fun entries => ?_) ?_
        · cases entries.foldlM addRoot ⟨none, none, none⟩ with
          | ok roots => exact reads_pure _ ⟨rfl, rfl⟩
          | error cause => exact reads_fail _ _
        · rintro _ d _ _ ⟨inner, hinner, rfl⟩ ⟨hd, rfl⟩
          exact ⟨hd, inner, hinner, by simp⟩
      · rintro _ d _ _ rfl ⟨hd, inner, hinner, rfl⟩
        exact ⟨hd, inner, hinner, rfl⟩
    · rintro _ d header _ hheader ⟨hd, inner, hinner, rfl⟩
      exact ⟨hd, header, inner, hheader, hinner, rfl⟩
  · rintro d _ ⟨hd, header, inner, hheader, hinner, rfl⟩
    exact ⟨"schema", true, .body .nil (by decide) hheader hinner, nofun⟩

theorem typeKind_bind (about : Option String)
    {f f' : TypeDeclaration → Reader TypeSystemDefinition}
    (hf : ∀ t, Reads false (fun _ => True) (fun d u => takesBody d = isOpen t ∧ u = []) (f t)
      (f' t)) :
    Reads false (fun _ => True)
      (fun d u => ∀ front, FrontTokens front → TypeSystemTokens d (front ++ u))
      (typeKind >>= fun kind => typeBody kind about >>= f)
      (typeKind >>= fun kind => typeBody kind about >>= f') := by
  refine typeKind_takes.bindKnown (S := fun kind d v => ∃ t n tail, TailTokens kind t tail ∧
    v = word n :: tail ∧ takesBody d = isOpen t) (fun kind _ hkind => ?_) ?_
  · refine (typeBody_takes hkind.1 about).bind (S := fun t d v => takesBody d = isOpen t ∧ v = [])
      hf ?_
    rintro t d _ _ ⟨n, tail, htail, rfl⟩ ⟨hd, rfl⟩
    exact ⟨t, n, tail, htail, by simp, hd⟩
  · rintro kind d _ _ ⟨hkind, rfl⟩ ⟨t, n, tail, htail, rfl, hd⟩ front hfront
    exact typeSystem_of_tail hfront hkind htail hd

theorem extension_takes :
    Reads false (· = some (word "extend")) TypeSystemTokens extension extension :=
  reads_advance (reads_position fun _ _ => typeKind_bind none fun _ =>
    reads_ite (fun _ => reads_pure _ ⟨rfl, rfl⟩) fun _ => reads_fail _ _)
    fun _ _ hu => hu _ .extend

theorem location_header : TakesHeader location := by
  refine reads_position fun p q => Reads.bind name_header (S := fun _ _ v => HeaderTokens v)
    (fun n => ?_) fun _ _ _ _ => HeaderTokens.append
  cases DirectiveLocation.ofText? n with
  | some l => exact pure_header l
  | none => exact reads_fail _ _

theorem locations_header : TakesHeader locations := by
  refine (expect_header "on").bind fun _ => (accept_sign (c := "|") (by decide)).bind fun bar =>
    TakesHeader.bind (takes_isNameNext.weaken fun _ _ hu => hu ▸ .nil) fun b => ?_
  exact reads_ite (fun _ => separated_header (by decide) location_header) fun _ => pure_header _

theorem directiveBody_takes (about : Option String) :
    Takes (fun _ u => ∃ n header, HeaderTokens header ∧ u = sign "@" :: word n :: header)
      (directiveBody about) := by
  refine (takes_expect _).bind (S := fun _ _ v => ∃ n header, HeaderTokens header ∧
    v = word n :: header) (fun _ => ?_) ?_
  · refine takes_name.bind (S := fun _ _ v => HeaderTokens v) (fun n => ?_) ?_
    · exact (optionalBetween_header inputDeclaration_encloses).bind fun _ =>
        (accept_word _).bind fun _ => locations_header.bind fun _ => pure_header _
    · rintro n _ _ v rfl hv
      exact ⟨n, v, hv, rfl⟩
  · rintro _ _ _ _ rfl ⟨n, header, hheader, rfl⟩
    exact ⟨n, header, hheader, rfl⟩

theorem described_takes : Takes TypeSystemTokens described := by
  refine description_takes.bind (S := fun _ d v => ∀ front, FrontTokens front →
    TypeSystemTokens d (front ++ v)) (fun about => ?_) ?_
  · refine (takes_accept (word "directive")).bind (S := fun b d v => ∀ front, FrontTokens front →
      TypeSystemTokens d (front ++ ((if b then [word "directive"] else []) ++ v))) (fun b => ?_) ?_
    · cases b with
      | true =>
        refine (directiveBody_takes about).map ?_
        rintro d _ ⟨n, header, hheader, rfl⟩ front hfront
        have hbody : "directive" ∉ bodyKinds := by decide
        exact ⟨"directive", false, .bare hfront (by decide) (.directive n hheader)
          ⟨n, header, .inr rfl⟩, fun h => absurd h hbody⟩
      | false => exact typeKind_bind about fun t => reads_pure _ ⟨rfl, rfl⟩
    · rintro b d _ v rfl hv front hfront
      exact hv front hfront
  · rintro _ d _ v (rfl | ⟨t, ht, rfl⟩) hv
    · exact hv [] .nil
    · exact hv [t] (.text ht)

theorem typeSystemDefinition_takes : Takes TypeSystemTokens typeSystemDefinition :=
  reads_isNext schemaDefinition_takes (reads_isNext extension_takes described_takes)

end Reader

end QueryModel.Syntax
