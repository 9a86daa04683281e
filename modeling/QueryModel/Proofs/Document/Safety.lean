import QueryModel.Proofs.Catalog.Resolution
import QueryModel.Proofs.Document.Stability
import QueryModel.Proofs.Selection.Defects

/-!
# Documents on a schema with a catalog

When the catalog of a schema can be built, the schema has the type of every field and of every
argument that a document can reach. What a document can then be refused for it has written
itself: an operation without a root type, a field that the type does not declare, or a type name
that is not in the schema.
-/

set_option autoImplicit false

namespace QueryModel

namespace Syntax

mutual

def Selection.typeConditions : Selection → List String
  | .field _ _ _ _ items => conditionsOf items
  | .inlineFragment condition _ items => condition.toList ++ conditionsOf items
  | .spread _ _ => []

def conditionsOf : List Selection → List String
  | [] => []
  | item :: rest => item.typeConditions ++ conditionsOf rest

end

def Definition.onType? : Definition → Option String
  | .fragment _ onType _ _ => some onType
  | _ => none

/-- The type names that the definition writes: as the condition of a fragment or of an inline
fragment, and in the types of variables. -/
def Definition.typeNames (d : Definition) : List String :=
  d.onType?.toList ++ conditionsOf d.items ++ d.declaredVariables.map (·.type.name)

end Syntax

/-- The error tells what a document with these type names asks for in vain. -/
inductive Schema.Refuses (s : Schema) (names : List String) : Error → Prop
  | missingRootType {kind : OperationKind} (hroot : s.rootType? kind = none) :
      Refuses s names (.missingRootType kind)
  | unknownField {t : TypeDeclaration} {field : String} (ht : t ∈ s.types.values)
      (hfield : t.field? field = none) : Refuses s names (.unknownField t.name field)
  | unknownType {name : String} (hwritten : name ∈ names) (hmissing : ¬ s.Has name) :
      Refuses s names (.unknownType name)

namespace Schema

/-- The schema has the types of all fields and of their arguments. -/
def Complete (s : Schema) : Prop := ∀ t ∈ s.types.values, ∀ f ∈ t.fields, s.Provides f

theorem complete_of_build {s : Schema} {c : Catalog}
    (hnames : ∀ t ∈ s.types.values, t.kind = .object ∨ t.kind = .interface →
      t.name ∉ builtinScalars ∧ ¬ ['_', '_'] <+: t.name.toList)
    (hbuild : Catalog.build s = .ok c) : s.Complete := by
  intro t ht f hf
  have hkind : t.kind = .object ∨ t.kind = .interface := by
    rw [TypeDeclaration.fields] at hf
    rw [TypeDeclaration.kind]
    cases hshape : t.shape <;> simp_all [TypeShape.kind]
  obtain ⟨hbuiltin, hhidden⟩ := hnames t ht hkind
  rw [provides_iff]
  intro name hname
  apply Catalog.exists_build_eq_ok.mp ⟨c, hbuild⟩
  have hmember : name ∈ t.references :=
    List.mem_append_left _ (List.mem_flatMap.mpr ⟨f, hf, hname⟩)
  apply List.mem_append_left
  exact List.mem_flatMap.mpr ⟨t, List.mem_filter.mpr ⟨ht, by simp [hbuiltin, hhidden]⟩, hmember⟩

end Schema

section Selections

variable {s : Schema} {names : List String}

theorem conditions_subset {w : Syntax.Selection} {written : List Syntax.Selection}
    (hw : w ∈ written) : w.typeConditions ⊆ Syntax.conditionsOf written := by
  induction written with
  | nil => contradiction
  | cons first rest ih =>
    rw [Syntax.conditionsOf]
    rcases List.mem_cons.mp hw with rfl | hrest
    · exact List.subset_append_left _ _
    · exact List.subset_append_of_subset_right _ (ih hrest)

theorem Occurs.conditions_subset {parent around : TypeDeclaration} {w : Syntax.Selection}
    {written : List Syntax.Selection} (h : Occurs s parent written around w) :
    w.typeConditions ⊆ Syntax.conditionsOf written := by
  induction h with
  | here hw => exact QueryModel.conditions_subset hw
  | field hw _ _ _ _ ih => exact List.Subset.trans ih (QueryModel.conditions_subset hw)
  | inlineFragment hw _ _ ih =>
    exact List.Subset.trans (List.subset_append_of_subset_right _ ih)
      (QueryModel.conditions_subset hw)

theorem Occurs.around_mem {parent around : TypeDeclaration} {w : Syntax.Selection}
    {written : List Syntax.Selection} (h : Occurs s parent written around w)
    (hparent : parent ∈ s.types.values) : around ∈ s.types.values := by
  induction h with
  | here hw => exact hparent
  | field hw hname hfield htype h ih => exact ih (Schema.mem_values_of_type? htype)
  | @inlineFragment _ _ _ condition _ _ _ _ hw htype h ih =>
    cases condition with
    | none => exact ih (htype ▸ hparent)
    | some name => exact ih (Schema.mem_values_of_type? htype)

/-- A declared field leads to a type of the schema, and so do its arguments. The other defects are
written in the document. -/
theorem Defect.refuses (hs : s.Complete) {parent : TypeDeclaration}
    (hparent : parent ∈ s.types.values) {written : List Syntax.Selection}
    (hwritten : Syntax.conditionsOf written ⊆ names) {e : Error} (h : Defect s parent written e) :
    s.Refuses names e := by
  have hprovides {around : TypeDeclaration} {w : Syntax.Selection} {name : String}
      {declared : FieldDeclaration} (h : Occurs s parent written around w)
      (hfield : around.Declares name declared) : s.Provides declared := by
    obtain ⟨-, before, after, hfields, -⟩ := hfield
    exact hs around (h.around_mem hparent) declared (by simp [hfields])
  cases h with
  | field h hname hmissing =>
    refine .unknownField (h.around_mem hparent) ?_
    rw [TypeDeclaration.field?, List.find?_eq_none]
    intro declared hdeclared
    simpa using hmissing declared hdeclared
  | condition h hmissing =>
    exact .unknownType (hwritten (h.conditions_subset (by simp [Syntax.Selection.typeConditions])))
      hmissing
  | fieldType h hname hfield hmissing => exact absurd (hprovides h hfield).1 hmissing
  | argumentType h hname hfield ha hmissing => exact absurd ((hprovides h hfield).2 _ ha) hmissing

theorem buildItems_refused (hs : s.Complete) {parent : TypeDeclaration}
    (hparent : parent ∈ s.types.values) {written : List Syntax.Selection}
    (hwritten : Syntax.conditionsOf written ⊆ names) :
    FailsOnly (s.Refuses names) (buildItems s parent written) := fun e he =>
  (buildItems_failsOnly s parent written e he).refuses hs hparent hwritten

theorem resolveVariables_failsOnly {declared : List Syntax.VariableDefinition}
    (hdeclared : ∀ v ∈ declared, v.type.name ∈ names) :
    FailsOnly (s.Refuses names) (Variable.resolveAll s declared) := by
  apply FailsOnly.mapM
  intro v hv
  exact .bind (kindOf_failsOnly (.unknownType (hdeclared v hv))) fun _ _ => .ok _

end Selections

namespace Run

def FailsOnly {α : Type} (P : Error → Prop) (x : Run α) : Prop :=
  ∀ start, QueryModel.FailsOnly P (runFrom x start).1

namespace FailsOnly

variable {α β : Type} {P : Error → Prop}

theorem bind {x : Run α} {f : α → Run β} (hx : FailsOnly P x) (hf : ∀ a, FailsOnly P (f a)) :
    FailsOnly P (x >>= f) := by
  intro start
  have hx := hx start
  rw [runFrom_bind]
  rcases hrun : runFrom x start with ⟨result, after⟩
  rw [hrun] at hx
  cases result with
  | error e =>
    rintro _ ⟨⟩
    exact hx e rfl
  | ok a => exact hf a after

theorem lookup {r : Except Error α} {f : α → Run β} (hr : QueryModel.FailsOnly P r)
    (hf : ∀ a, r = .ok a → FailsOnly P (f a)) : FailsOnly P (liftResult r >>= f) := by
  cases r with
  | error e =>
    rintro start _ ⟨⟩
    exact hr e rfl
  | ok a => exact hf a rfl

theorem pure (a : α) : FailsOnly P (Pure.pure a) := fun _ => .ok a

theorem note (m : Message) : FailsOnly P (Run.note m) := fun _ => .ok ()

end FailsOnly

section Complete

variable {s : Schema} {names : List String} (hs : s.Complete) (file : Option String)

include hs

theorem operation_failsOnly (printed : String) (kind : OperationKind) (name : Option String)
    {declared : List Syntax.VariableDefinition} (directives : List Syntax.Directive)
    {items : List Syntax.Selection} (hitems : Syntax.conditionsOf items ⊆ names)
    (hdeclared : ∀ v ∈ declared, v.type.name ∈ names) :
    FailsOnly (s.Refuses names)
      (operation s file printed kind name declared directives items) := by
  have hroot : QueryModel.FailsOnly (s.Refuses names) (rootType s kind) := by
    rw [rootType]
    cases hroot : s.rootType? kind with
    | some t => exact .ok t
    | none =>
      rintro _ ⟨⟩
      exact .missingRootType hroot
  have hmember (root : TypeDeclaration) (h : rootType s kind = .ok root) :
      root ∈ s.types.values := by
    rw [rootType] at h
    split at h
    · rename_i t ht
      obtain rfl := Except.ok.inj h
      obtain ⟨_, -, htype⟩ := Option.bind_eq_some_iff.mp ht
      exact Schema.mem_values_of_type? htype
    · contradiction
  have hname : FailsOnly (s.Refuses names) (operationName kind name) := by
    cases name <;> exact fun _ => .ok _
  apply FailsOnly.lookup hroot
  intro root h
  apply hname.bind fun _ => (FailsOnly.note _).bind fun _ => ?_
  apply FailsOnly.lookup (buildItems_refused hs (hmember root h) hitems)
  intro set _
  apply FailsOnly.lookup (resolveVariables_failsOnly hdeclared)
  intro resolved _
  exact .pure _

theorem fragment_failsOnly (printed name : String) {onType : String}
    (directives : List Syntax.Directive) {items : List Syntax.Selection}
    (htype : onType ∈ names) (hitems : Syntax.conditionsOf items ⊆ names) :
    FailsOnly (s.Refuses names) (fragment s file printed name onType directives items) := by
  apply FailsOnly.lookup (typeNamed_failsOnly (Schema.Refuses.unknownType htype))
  intro root hroot
  have hmember := Schema.mem_values_of_type? (Schema.typeNamed_eq_ok.mp hroot)
  have hset := buildItems_refused hs hmember hitems
  exact (FailsOnly.note _).bind fun _ => .lookup hset fun set _ => .pure _

theorem definition_failsOnly {d : Syntax.Definition} (hd : d.typeNames ⊆ names) :
    FailsOnly (s.Refuses names) (definition s file d) := by
  obtain ⟨hconditions, hvariables⟩ := List.append_subset.mp hd
  obtain ⟨htype, hitems⟩ := List.append_subset.mp hconditions
  have hdeclared : ∀ v ∈ d.declaredVariables, v.type.name ∈ names := fun v hv =>
    hvariables (List.mem_map_of_mem hv)
  cases d with
  | shorthand items =>
    exact (operation_failsOnly hs file _ _ _ _ hitems hdeclared).bind fun _ => .pure _
  | operation kind name declared directives items =>
    exact (operation_failsOnly hs file _ kind name directives hitems hdeclared).bind fun _ =>
      .pure _
  | fragment name onType directives items =>
    have htype : onType ∈ names := htype (by simp [Syntax.Definition.onType?])
    exact (fragment_failsOnly hs file _ name directives htype hitems).bind fun _ => .pure _

end Complete

theorem definitions_failsOnly {P : Error → Prop} {s : Schema} {file : Option String}
    {written : List Syntax.Definition} (h : ∀ d ∈ written, FailsOnly P (definition s file d))
    (result : Document) : FailsOnly P (definitions s file result written) := by
  induction written generalizing result with
  | nil => exact .pure result
  | cons d rest ih =>
    obtain ⟨hd, hrest⟩ := List.forall_mem_cons.mp h
    exact hd.bind fun one => ih hrest (result.push one)

theorem finish_failsOnly {P : Error → Prop} (details : Bool) (result : Document) :
    FailsOnly P (finish details result) := by
  cases details with
  | false => exact .pure _
  | true => exact (FailsOnly.note _).bind fun _ => .pure _

/-- On a schema whose catalog can be built, a document is resolved unless an operation has no
root type, a field is not declared by its type, or a type name that the document itself writes is
not in the schema. -/
theorem document_resolved_or_refused {s : Schema} {c : Catalog}
    (hnames : ∀ t ∈ s.types.values, t.kind = .object ∨ t.kind = .interface →
      t.name ∉ builtinScalars ∧ ¬ ['_', '_'] <+: t.name.toList)
    (hbuild : Catalog.build s = .ok c) (details : Bool) (file : Option String)
    (written : List Syntax.Definition) (start : Progress) :
    (∃ result, (runFrom (document ⟨s, details⟩ file written) start).1 = .ok result) ∨
      ∃ e, (runFrom (document ⟨s, details⟩ file written) start).1 = .error e ∧
        s.Refuses (written.flatMap (·.typeNames)) e := by
  have hcomplete := Schema.complete_of_build hnames hbuild
  have hwritten : ∀ d ∈ written, FailsOnly (s.Refuses (written.flatMap (·.typeNames)))
      (definition s file d) := fun d hd =>
    definition_failsOnly hcomplete file fun name hname => List.mem_flatMap.mpr ⟨d, hd, hname⟩
  have hdocument : FailsOnly (s.Refuses (written.flatMap (·.typeNames)))
      (document ⟨s, details⟩ file written) :=
    (FailsOnly.note _).bind fun _ =>
      (definitions_failsOnly hwritten ∅).bind (finish_failsOnly details)
  cases hrun : (runFrom (document ⟨s, details⟩ file written) start).1 with
  | ok result => exact .inl ⟨result, rfl⟩
  | error e => exact .inr ⟨e, rfl, hdocument start e hrun⟩

/-- An inline fragment below a declared field asks for a type that is not in the schema. The
fields and arguments around it can all be resolved. -/
theorem document_refused_condition :
    let declared : List TypeSystemDefinition :=
      [.type ⟨"Query", none, [], .object [] [⟨"node", none, .named "Node",
          [⟨"id", none, .nonNull (.named "ID"), none, []⟩], []⟩]⟩,
        .type ⟨"Node", none, [], .interface []⟩, .type ⟨"__Meta", none, [], .enum []⟩]
    let written : List Syntax.Definition :=
      [.shorthand [.field none "node" [] [] [.inlineFragment (some "Ghost") [] []]]]
    ∃ s c, Schema.ofDefinitions declared = .ok s ∧ Catalog.build s = .ok c ∧
      (∀ t ∈ s.types.values, t.kind = .object ∨ t.kind = .interface →
        t.name ∉ builtinScalars ∧ ¬ ['_', '_'] <+: t.name.toList) ∧
      (runFrom (document ⟨s, false⟩ none written) .start).1 = .error (.unknownType "Ghost") ∧
      ((∃ result, (runFrom (document ⟨s, false⟩ none written) .start).1 = .ok result) ∨
        ∃ e, (runFrom (document ⟨s, false⟩ none written) .start).1 = .error e ∧
          s.Refuses (written.flatMap (·.typeNames)) e) := by
  intro declared written
  subst declared written
  refine ⟨_, ?catalog, rfl, ?built, ?names, ?run,
    document_resolved_or_refused ?names ?built false none _ .start⟩
  case built => rfl
  case names => decide
  case run => rfl

end Run

end QueryModel
