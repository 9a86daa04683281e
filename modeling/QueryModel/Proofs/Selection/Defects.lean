import QueryModel.Proofs.Selection.Typing
import QueryModel.Schema.Ingest

/-!
# Defects of a selection

A selection that cannot be built has a defect, and the error names it: a field that the type around
it does not declare, or a type that is not in the schema and is asked for by an inline fragment, by
a declared field or by one of its arguments. The type around a selection is found from the parent
by following the types of fields and the conditions of inline fragments. What stands before the
first selection with a defect can be built.
-/

set_option autoImplicit false

namespace QueryModel

/-- The selection stands at some depth of what is written on the parent, with the type around it. -/
inductive Occurs (s : Schema) :
    TypeDeclaration → List Syntax.Selection → TypeDeclaration → Syntax.Selection → Prop
  | here {parent : TypeDeclaration} {written : List Syntax.Selection} {w : Syntax.Selection}
      (hw : w ∈ written) : Occurs s parent written parent w
  | field {parent type around : TypeDeclaration} {declared : FieldDeclaration}
      {label : Option String} {name : String} {arguments : List (String × Syntax.Value)}
      {directives : List Syntax.Directive} {items written : List Syntax.Selection}
      {w : Syntax.Selection} (hw : .field label name arguments directives items ∈ written)
      (hname : name ≠ typenameField) (hfield : parent.Declares name declared)
      (htype : s.type? declared.type.name = some type) (h : Occurs s type items around w) :
      Occurs s parent written around w
  | inlineFragment {parent type around : TypeDeclaration} {condition : Option String}
      {directives : List Syntax.Directive} {items written : List Syntax.Selection}
      {w : Syntax.Selection} (hw : .inlineFragment condition directives items ∈ written)
      (htype : s.FragmentType parent condition type) (h : Occurs s type items around w) :
      Occurs s parent written around w

/-- The error names something that is written on the parent in vain. -/
inductive Defect (s : Schema) (parent : TypeDeclaration) (written : List Syntax.Selection) :
    Error → Prop
  | field {around : TypeDeclaration} {label : Option String} {name : String}
      {arguments : List (String × Syntax.Value)} {directives : List Syntax.Directive}
      {items : List Syntax.Selection}
      (h : Occurs s parent written around (.field label name arguments directives items))
      (hname : name ≠ typenameField) (hmissing : ∀ declared ∈ around.fields, declared.name ≠ name) :
      Defect s parent written (.unknownField around.name name)
  | condition {around : TypeDeclaration} {name : String} {directives : List Syntax.Directive}
      {items : List Syntax.Selection}
      (h : Occurs s parent written around (.inlineFragment (some name) directives items))
      (hmissing : ¬ s.Has name) : Defect s parent written (.unknownType name)
  | fieldType {around : TypeDeclaration} {declared : FieldDeclaration} {label : Option String}
      {name : String} {arguments : List (String × Syntax.Value)}
      {directives : List Syntax.Directive} {items : List Syntax.Selection}
      (h : Occurs s parent written around (.field label name arguments directives items))
      (hname : name ≠ typenameField) (hfield : around.Declares name declared)
      (hmissing : ¬ s.Has declared.type.name) :
      Defect s parent written (.unknownType declared.type.name)
  | argumentType {around : TypeDeclaration} {declared : FieldDeclaration} {label : Option String}
      {name : String} {arguments : List (String × Syntax.Value)}
      {directives : List Syntax.Directive} {items : List Syntax.Selection} {a : InputDeclaration}
      (h : Occurs s parent written around (.field label name arguments directives items))
      (hname : name ≠ typenameField) (hfield : around.Declares name declared)
      (ha : a ∈ declared.arguments) (hmissing : ¬ s.Has a.type.name) :
      Defect s parent written (.unknownType a.type.name)

section Paths

variable {s : Schema} {parent around : TypeDeclaration} {written more : List Syntax.Selection}

theorem Occurs.mono {w : Syntax.Selection} (h : Occurs s parent written around w)
    (hsub : written ⊆ more) : Occurs s parent more around w := by
  cases h with
  | here hw => exact .here (hsub hw)
  | field hw hname hfield htype h => exact .field (hsub hw) hname hfield htype h
  | inlineFragment hw htype h => exact .inlineFragment (hsub hw) htype h

theorem Defect.of_occurs {type : TypeDeclaration} {items : List Syntax.Selection} {e : Error}
    (h : Defect s type items e)
    (hplaces : ∀ around w, Occurs s type items around w → Occurs s parent written around w) :
    Defect s parent written e := by
  cases h with
  | field h hname hmissing => exact .field (hplaces _ _ h) hname hmissing
  | condition h hmissing => exact .condition (hplaces _ _ h) hmissing
  | fieldType h hname hfield hmissing => exact .fieldType (hplaces _ _ h) hname hfield hmissing
  | argumentType h hname hfield ha hmissing =>
    exact .argumentType (hplaces _ _ h) hname hfield ha hmissing

end Paths

section Lookup

variable {s : Schema}

theorem typeNamed_failsOnly {P : Error → Prop} {name : String}
    (h : ¬ s.Has name → P (.unknownType name)) : FailsOnly P (s.typeNamed name) := by
  rw [Schema.typeNamed]
  cases htype : s.type? name with
  | some t => exact .ok t
  | none =>
    rintro _ ⟨⟩
    exact h (by simp [Schema.has_iff, htype])

theorem kindOf_failsOnly {P : Error → Prop} {name : String}
    (h : ¬ s.Has name → P (.unknownType name)) : FailsOnly P (s.kindOf name) := by
  apply FailsOnly.bind (typeNamed_failsOnly h)
  intro t _
  rw [t.classify_eq_ok]
  exact .ok t.kind

theorem resolveArguments_failsOnly {P : Error → Prop} {declared : List InputDeclaration}
    (h : ∀ a ∈ declared, ¬ s.Has a.type.name → P (.unknownType a.type.name)) :
    FailsOnly P (Argument.resolveAll s declared) :=
  .mapM fun a ha => .bind (kindOf_failsOnly (h a ha)) fun _ _ => .ok _

theorem declaredField_failsOnly {P : Error → Prop} {parent : TypeDeclaration} {name : String}
    (h : (∀ declared ∈ parent.fields, declared.name ≠ name) → P (.unknownField parent.name name)) :
    FailsOnly P (declaredField parent name) := by
  rw [declaredField]
  cases hfield : parent.field? name with
  | some f => exact .ok f
  | none =>
    rintro _ ⟨⟩
    rw [TypeDeclaration.field?, List.find?_eq_none] at hfield
    exact h fun declared hdeclared hname => hfield declared hdeclared (by simp [hname])

end Lookup

section Build

variable {s : Schema} {parent : TypeDeclaration} {label condition : Option String} {name : String}
  {arguments : List (String × Syntax.Value)} {directives : List Syntax.Directive}
  {items : List Syntax.Selection}

theorem buildField_failsOnly
    (ih : ∀ type, FailsOnly (Defect s type items) (buildItems s type items)) :
    FailsOnly (Defect s parent [.field label name arguments directives items])
      (buildItem s parent (.field label name arguments directives items)) := by
  have hhere : Occurs s parent [.field label name arguments directives items] parent
      (.field label name arguments directives items) := .here List.mem_cons_self
  rw [buildItem]
  split
  · exact .ok none
  · rename_i hname
    apply FailsOnly.bind (declaredField_failsOnly (Defect.field hhere hname))
    intro declared hdeclared
    have hfield := declaredField_eq_ok.mp hdeclared
    apply FailsOnly.bind (typeNamed_failsOnly (Defect.fieldType hhere hname hfield))
    intro type htype
    have hinner : FailsOnly (Defect s parent [.field label name arguments directives items])
        (buildItems s type items) := fun e he => (ih type e he).of_occurs fun _ _ h =>
      .field List.mem_cons_self hname hfield (Schema.typeNamed_eq_ok.mp htype) h
    rw [TypeDeclaration.classify_eq_ok, ok_bind]
    apply hinner.bind
    intro set _
    exact (resolveArguments_failsOnly fun a ha => .argumentType hhere hname hfield ha).bind
      fun _ _ => .ok _

theorem buildFragment_failsOnly
    (ih : ∀ type, FailsOnly (Defect s type items) (buildItems s type items)) :
    FailsOnly (Defect s parent [.inlineFragment condition directives items])
      (buildItem s parent (.inlineFragment condition directives items)) := by
  have hcondition : FailsOnly (Defect s parent [.inlineFragment condition directives items])
      (conditionType s parent condition) := by
    cases condition with
    | none => exact .ok parent
    | some name => exact typeNamed_failsOnly (.condition (.here List.mem_cons_self))
  rw [buildItem]
  apply hcondition.bind
  intro type htype
  have hinner : FailsOnly (Defect s parent [.inlineFragment condition directives items])
      (buildItems s type items) := fun e he => (ih type e he).of_occurs fun _ _ h =>
    .inlineFragment List.mem_cons_self (conditionType_eq_ok.mp htype) h
  exact hinner.bind fun _ _ => .ok _

theorem buildItems_cons_failsOnly {w : Syntax.Selection} {rest : List Syntax.Selection}
    (hw : FailsOnly (Defect s parent [w]) (buildItem s parent w))
    (hrest : FailsOnly (Defect s parent rest) (buildItems s parent rest)) :
    FailsOnly (Defect s parent (w :: rest)) (buildItems s parent (w :: rest)) := by
  have hfirst : FailsOnly (Defect s parent (w :: rest)) (buildItem s parent w) := fun e he =>
    (hw e he).of_occurs fun _ _ h => h.mono (by simp)
  have hmore : FailsOnly (Defect s parent (w :: rest)) (buildItems s parent rest) := fun e he =>
    (hrest e he).of_occurs fun _ _ h => h.mono (List.subset_cons_self w rest)
  rw [buildItems]
  exact hfirst.bind fun _ _ => hmore.bind fun _ _ => .ok _

end Build

theorem buildItems_failsOnly (s : Schema) (parent : TypeDeclaration)
    (written : List Syntax.Selection) :
    FailsOnly (Defect s parent written) (buildItems s parent written) := by
  induction written using selections_induction generalizing parent with
  | nil => exact .ok SelectionSet.empty
  | field label name arguments directives items rest ihItems ihRest =>
    exact buildItems_cons_failsOnly (buildField_failsOnly ihItems) (ihRest parent)
  | inlineFragment condition directives items rest ihItems ihRest =>
    exact buildItems_cons_failsOnly (buildFragment_failsOnly ihItems) (ihRest parent)
  | spread name directives rest ihRest =>
    exact buildItems_cons_failsOnly (.ok _) (ihRest parent)

theorem exists_first_failing {s : Schema} {parent : TypeDeclaration}
    {written : List Syntax.Selection} {e : Error} (h : buildItems s parent written = .error e) :
    ∃ before w after, written = before ++ w :: after ∧
      (∀ b ∈ before, ∃ set, buildItems s parent [b] = .ok set) ∧
      buildItems s parent [w] = .error e := by
  induction written with
  | nil => contradiction
  | cons first rest ih =>
    rw [buildItems] at h
    cases hfirst : buildItem s parent first with
    | error f =>
      rw [hfirst] at h
      obtain rfl : f = e := Except.error.inj h
      refine ⟨[], first, rest, rfl, by simp, ?_⟩
      rw [buildItems, hfirst]
      rfl
    | ok built =>
      have hone : ∃ set, buildItems s parent [first] = .ok set :=
        exists_buildItems_cons.mpr ⟨⟨built, hfirst⟩, ⟨_, rfl⟩⟩
      cases hrest : buildItems s parent rest with
      | ok set =>
        rw [hfirst, hrest] at h
        contradiction
      | error f =>
        rw [hfirst, hrest] at h
        obtain rfl : f = e := Except.error.inj h
        obtain ⟨before, w, after, rfl, hbefore, hw⟩ := ih hrest
        exact ⟨first :: before, w, after, rfl, List.forall_mem_cons.mpr ⟨hone, hbefore⟩, hw⟩

namespace SelectionSet

/-- If a selection cannot be built, then the error names a defect of one of its outermost
selections, and each of those before it can be built by itself. -/
theorem build_error_defect {s : Schema} {parent : TypeDeclaration}
    {written : List Syntax.Selection} {e : Error} (h : build s parent written = .error e) :
    ∃ before w after, written = before ++ w :: after ∧
      (∀ b ∈ before, ∃ set, build s parent [b] = .ok set) ∧ build s parent [w] = .error e ∧
      Defect s parent [w] e := by
  obtain ⟨before, w, after, hwritten, hbefore, hw⟩ := exists_first_failing h
  exact ⟨before, w, after, hwritten, hbefore, hw, buildItems_failsOnly s parent [w] e hw⟩

/-- The argument of a field inside two inline fragments is of a type that is not in the schema. The
unknown field after it is not reached. -/
theorem build_error_defect_argument :
    let definitions : List TypeSystemDefinition :=
      [.type ⟨"Query", none, [], .object [] [⟨"node", none, .nonNull (.named "Node"), [], []⟩]⟩,
        .type ⟨"Node", none, [], .interface [⟨"id", none, .named "ID", [], []⟩]⟩,
        .type ⟨"User", none, [], .object ["Node"] [⟨"friend", none, .list (.named "User"),
          [⟨"order", none, .named "Order", none, []⟩], []⟩]⟩]
    let written : List Syntax.Selection :=
      [.field none "node" [] [] [.field none "id" [] [] []],
        .field (some "me") "node" [] [] [.inlineFragment none [] [.inlineFragment (some "User") []
          [.field none "__typename" [] [] [], .field none "friend" [] [] []]]],
        .field none "absent" [] [] []]
    ∃ s parent, Schema.ofDefinitions definitions = .ok s ∧ s.type? "Query" = some parent ∧
      build s parent written = .error (.unknownType "Order") ∧
      ∃ before w after, written = before ++ w :: after ∧
        (∀ b ∈ before, ∃ set, build s parent [b] = .ok set) ∧
        build s parent [w] = .error (.unknownType "Order") ∧
        Defect s parent [w] (.unknownType "Order") := by
  intro definitions written
  subst definitions written
  refine ⟨_, _, rfl, rfl, ?build, build_error_defect ?build⟩
  with_unfolding_all rfl

end SelectionSet

end QueryModel
