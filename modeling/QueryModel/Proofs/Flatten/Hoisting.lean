import QueryModel.Proofs.Flatten.Fields
import QueryModel.Proofs.Schema.Ingestion

/-!
# Models of a written selection

A document selects on a type wherever it writes an inline fragment or a field with a selection of
its own. Building the selection and flattening it gives one model for each of these places, in the
order of writing, but for the fields on which only the name of the type is asked for: building
leaves no item below such a field, and flattening takes it for a field without a selection.
-/

set_option autoImplicit false

namespace QueryModel

/-- A place where something is selected on a type: a field with its response key, or an inline
fragment. -/
structure WrittenShape where
  key : Option String
  type : TypeDeclaration
  items : List Syntax.Selection

namespace WrittenShape

/-- An inline fragment, or a field on which more than the name of the type is asked for. -/
def isHoisted (shape : WrittenShape) : Bool :=
  shape.key.isNone || !(itemsWritten shape.items).isEmpty

def candidate (shape : WrittenShape) : String :=
  match shape.key with
  | some key => Text.pascalCase key
  | none => fragmentCandidate shape.type.name

end WrittenShape

namespace Schema

def fieldType? (s : Schema) (parent : TypeDeclaration) (name : String) : Option TypeDeclaration :=
  (parent.field? name).bind fun declared => s.type? declared.type.name

def fragmentType? (s : Schema) (parent : TypeDeclaration) : Option String → Option TypeDeclaration
  | some name => s.type? name
  | none => some parent

end Schema

mutual

def Syntax.Selection.writtenShapes (s : Schema) (parent : TypeDeclaration) :
    Syntax.Selection → List WrittenShape
  | .field label name _ _ items =>
    if name = typenameField ∨ items.isEmpty then []
    else match s.fieldType? parent name with
      | some type => ⟨some (label.getD name), type, items⟩ :: writtenShapesOf s type items
      | none => []
  | .inlineFragment condition _ items =>
    match s.fragmentType? parent condition with
    | some type => ⟨none, type, items⟩ :: writtenShapesOf s type items
    | none => []
  | .spread _ _ => []

/-- The places at any depth where the written selection selects on a type, in order. What is
written below the name of a type is not looked at. -/
def writtenShapesOf (s : Schema) (parent : TypeDeclaration) :
    List Syntax.Selection → List WrittenShape
  | [] => []
  | item :: rest => item.writtenShapes s parent ++ writtenShapesOf s parent rest

end

/-- The model stands for the place: it tells the type that is selected on, is named after the place,
and holds what is built from the items, flattened. -/
structure Model.StandsFor (s : Schema) (shape : WrittenShape) (m : Model) : Prop where
  baseType_eq : m.baseType = shape.type.name
  named : ∃ k, m.modelType = underscored k shape.candidate
  holds : ∃ (built : SelectionSet) (f : Flattener),
    SelectionSet.build s shape.type shape.items = .ok built ∧
      m.set = ⟨built.hasTypename, (f.items built.items).1⟩

section Places

variable {s : Schema} {parent type : TypeDeclaration} {label condition : Option String}
  {name : String} {arguments : List (String × Syntax.Value)} {directives : List Syntax.Directive}
  {items : List Syntax.Selection}

theorem writtenShapes_typename :
    (Syntax.Selection.field label typenameField arguments directives items).writtenShapes s parent =
      [] := by
  simp [Syntax.Selection.writtenShapes]

theorem writtenShapes_field {declared : FieldDeclaration} (hname : name ≠ typenameField)
    (hfield : parent.Declares name declared) (htype : s.type? declared.type.name = some type) :
    (Syntax.Selection.field label name arguments directives items).writtenShapes s parent =
      if items.isEmpty then []
      else ⟨some (label.getD name), type, items⟩ :: writtenShapesOf s type items := by
  have hlookup : s.fieldType? parent name = some type := by
    rw [Schema.fieldType?, field?_eq_some.mpr hfield]
    exact htype
  simp only [Syntax.Selection.writtenShapes, hname, false_or, hlookup]

theorem writtenShapes_inlineFragment (htype : s.FragmentType parent condition type) :
    (Syntax.Selection.inlineFragment condition directives items).writtenShapes s parent =
      ⟨none, type, items⟩ :: writtenShapesOf s type items := by
  have hlookup : s.fragmentType? parent condition = some type := by
    cases condition with
    | some name => exact htype
    | none => exact congrArg some htype.symm
  simp only [Syntax.Selection.writtenShapes, hlookup]

theorem ItemsMirror.eq_nil_iff {built : List SelectionItem} (h : ItemsMirror s parent items built) :
    built = [] ↔ items = [] := by
  cases h with
  | nil => simp
  | cons _ _ => simp

theorem items_eq_nil_iff {set : SelectionSet} (h : buildItems s parent items = .ok set) :
    set.items = [] ↔ itemsWritten items = [] :=
  (mirrors_of_buildItems h).2.eq_nil_iff

theorem flattenItems_set (taken : List String) (set : SelectionSet) :
    (⟨set.hasTypename, (flattenItems taken set.items).result⟩ : SelectionSet) =
      ⟨set.hasTypename, ((Flattener.mk taken []).items set.items).1⟩ := by
  rw [Flattener.items_eq]

end Places

section Models

variable {s : Schema} (hkeys : ∀ name t, s.type? name = some t → t.name = name)

include hkeys

/-- The models of a field and of what is selected on it. A field below which no item is built has
no model, nor has anything below it. -/
theorem flattenItems_field {parent type : TypeDeclaration} {declared : FieldDeclaration}
    {label : Option String} {name : String} {arguments : List (String × Syntax.Value)}
    {directives : List Syntax.Directive} {items : List Syntax.Selection} {inner : SelectionSet}
    {selected : SelectedField} (hname : name ≠ typenameField)
    (hfield : parent.Declares name declared) (htype : s.type? declared.type.name = some type)
    (hinner : buildItems s type items = .ok inner) (hkey : selected.name = label.getD name)
    (hselected : selected.type = declared.type.resolve)
    (ih : ∀ taken, List.Forall₂ (Model.StandsFor s)
      ((writtenShapesOf s type items).filter (·.isHoisted)) (flattenItems taken inner.items).models)
    {rest : List SelectionItem} {shapes : List WrittenShape}
    (hrest : ∀ taken, List.Forall₂ (Model.StandsFor s) shapes (flattenItems taken rest).models)
    (taken : List String) :
    List.Forall₂ (Model.StandsFor s)
      (((Syntax.Selection.field label name arguments directives items).writtenShapes s
        parent).filter (·.isHoisted) ++ shapes)
      (flattenItems taken (.field selected inner.hasTypename inner.items :: rest)).models := by
  rw [writtenShapes_field hname hfield htype]
  by_cases hnil : inner.items = []
  · have hplain : (SelectionItem.field selected inner.hasTypename inner.items).shape? = none := by
      simp [SelectionItem.shape?, hnil]
    have hnone : (writtenShapesOf s type items).filter (·.isHoisted) = [] := by
      have hmodels := ih taken
      rw [hnil, flattenItems] at hmodels
      exact List.forall₂_nil_right_iff.mp hmodels
    have hshape : (WrittenShape.mk (some (label.getD name)) type items).isHoisted = false := by
      simp [WrittenShape.isHoisted, (items_eq_nil_iff hinner).mp hnil]
    rw [flattenItems_cons_plain hplain]
    split
    · exact hrest taken
    · rw [List.filter_cons_of_neg (by simp [hshape]), hnone]
      exact hrest taken
  · have hshape : (SelectionItem.field selected inner.hasTypename inner.items).shape? =
        some ⟨selected.type.name, inner⟩ := by
      simp [SelectionItem.shape?, hnil]
    have hwritten : itemsWritten items ≠ [] := fun h => hnil ((items_eq_nil_iff hinner).mpr h)
    have hitems : items.isEmpty = false := by
      cases items with
      | nil => exact absurd rfl hwritten
      | cons _ _ => rfl
    have hhoisted : (WrittenShape.mk (some (label.getD name)) type items).isHoisted = true := by
      simp [WrittenShape.isHoisted, hwritten]
    have hbase : selected.type.name = type.name := by
      rw [hselected]
      exact (hkeys _ _ htype).symm
    have hcandidate : fieldCandidate selected =
        (WrittenShape.mk (some (label.getD name)) type items).candidate :=
      congrArg Text.pascalCase hkey
    rw [flattenItems_cons_shape hshape, hitems, if_neg Bool.false_ne_true,
      List.filter_cons_of_pos hhoisted, List.cons_append]
    refine .cons ⟨hbase, ?_, inner, _, hinner, flattenItems_set _ inner⟩
      (List.rel_append (ih _) (hrest _))
    rw [← hcandidate]
    exact freeName_form taken _

theorem flattenItems_standsFor {parent : TypeDeclaration} {written : List Syntax.Selection}
    {set : SelectionSet} (h : buildItems s parent written = .ok set) (taken : List String) :
    List.Forall₂ (Model.StandsFor s) ((writtenShapesOf s parent written).filter (·.isHoisted))
      (flattenItems taken set.items).models := by
  induction written using selections_induction generalizing parent set taken with
  | nil =>
    obtain rfl := Except.ok.inj h
    rw [writtenShapesOf, SelectionSet.empty, flattenItems]
    exact .nil
  | field label name arguments directives items rest ihItems ihRest =>
    obtain ⟨built, tail, hbuilt, htail, rfl⟩ := buildItems_cons_eq_ok.mp h
    rw [writtenShapesOf, List.filter_append]
    by_cases hname : name = typenameField
    · subst hname
      rw [buildItem_typename] at hbuilt
      obtain rfl := Except.ok.inj hbuilt
      rw [writtenShapes_typename]
      exact ihRest htail taken
    · obtain ⟨declared, type, inner, resolved, hfield, htype, hinner, -, rfl⟩ :=
        (buildItem_field_eq_ok hname).mp hbuilt
      exact flattenItems_field hkeys hname hfield htype hinner rfl rfl (ihItems hinner)
        (ihRest htail) taken
  | inlineFragment condition directives items rest ihItems ihRest =>
    obtain ⟨built, tail, hbuilt, htail, rfl⟩ := buildItems_cons_eq_ok.mp h
    obtain ⟨type, inner, htype, hinner, rfl⟩ := buildItem_inlineFragment_eq_ok.mp hbuilt
    have hshape : (SelectionItem.inlineFragment type.name (.ofWritten s directives)
        (!(DirectiveUses.ofWritten s directives).isEmpty) inner.hasTypename inner.items).shape? =
          some ⟨type.name, inner⟩ := rfl
    have hhoisted : (WrittenShape.mk none type items).isHoisted = true := rfl
    rw [writtenShapesOf, List.filter_append, writtenShapes_inlineFragment htype, SelectionSet.add,
      flattenItems_cons_shape hshape, List.filter_cons_of_pos hhoisted]
    refine .cons ⟨rfl, freeName_form taken _, inner, _, hinner, flattenItems_set _ inner⟩ ?_
    exact List.rel_append (ihItems hinner _) (ihRest htail _)
  | spread name directives rest ihRest =>
    obtain ⟨built, tail, hbuilt, htail, rfl⟩ := buildItems_cons_eq_ok.mp h
    obtain rfl := Except.ok.inj hbuilt
    rw [writtenShapesOf, Syntax.Selection.writtenShapes, List.nil_append, SelectionSet.add,
      flattenItems_cons_plain rfl]
    exact ihRest htail taken

end Models

namespace SelectionSet

/-- A built selection, flattened, has one model for each inline fragment that is written and each
field on which more is selected than the name of the type, in the order of writing. The model tells
the type selected on. If no field asks for the name of its type alone, all places where something is
selected on a type have their model. -/
theorem flatten_models_of_written {definitions : List TypeSystemDefinition} {s : Schema}
    (hs : Schema.ofDefinitions definitions = .ok s) {parent : TypeDeclaration}
    {written : List Syntax.Selection} {set : SelectionSet}
    (hbuild : build s parent written = .ok set) :
    List.Forall₂ (Model.StandsFor s) ((writtenShapesOf s parent written).filter (·.isHoisted))
      set.flatten.2 ∧
    ((∀ shape ∈ writtenShapesOf s parent written, shape.isHoisted = true) →
      List.Forall₂ (Model.StandsFor s) (writtenShapesOf s parent written) set.flatten.2) := by
  have hkeys : ∀ name t, s.type? name = some t → t.name = name := (Schema.describes_of_ok hs).key_eq
  have hmodels : List.Forall₂ (Model.StandsFor s)
      ((writtenShapesOf s parent written).filter (·.isHoisted)) set.flatten.2 := by
    rw [flatten_eq]
    exact flattenItems_standsFor hkeys hbuild reservedNames
  refine ⟨hmodels, fun hall => ?_⟩
  rwa [List.filter_eq_self.mpr hall] at hmodels

/-- An inline fragment that asks for the name of its type alone, inside a field that holds the name
and the fragment, and a field below a fragment without a condition. -/
theorem flatten_models_of_written_nested :
    let definitions : List TypeSystemDefinition :=
      [.type ⟨"Query", none, [], .object [] [⟨"node", none, .list (.named "Node"), [], []⟩]⟩,
        .type ⟨"Node", none, [], .interface [⟨"id", none, .named "ID", [], []⟩]⟩,
        .type ⟨"User", none, [], .object ["Node"] []⟩]
    let written : List Syntax.Selection :=
      [.field (some "first") "node" [] [] [.field none "__typename" [] [] [],
          .inlineFragment (some "User") [] [.field none "__typename" [] [] []]],
        .inlineFragment none [] [.field none "node" [] [] [.field none "id" [] [] []]]]
    ∃ s parent set, Schema.ofDefinitions definitions = .ok s ∧ s.type? "Query" = some parent ∧
      build s parent written = .ok set ∧
      (∀ shape ∈ writtenShapesOf s parent written, shape.isHoisted = true) ∧
      (writtenShapesOf s parent written).map (·.type.name) = ["Node", "User", "Query", "Node"] ∧
      set.flatten.2.map (·.modelType) =
        ["First", "UserInlineFragment", "QueryInlineFragment", "Node"] ∧
      List.Forall₂ (Model.StandsFor s) (writtenShapesOf s parent written) set.flatten.2 := by
  intro definitions written
  obtain ⟨s, parent, hs, hparent, hall, htypes, hset⟩ : ∃ s parent,
      Schema.ofDefinitions definitions = .ok s ∧ s.type? "Query" = some parent ∧
      (∀ shape ∈ writtenShapesOf s parent written, shape.isHoisted = true) ∧
      (writtenShapesOf s parent written).map (·.type.name) = ["Node", "User", "Query", "Node"] ∧
      (build s parent written).toOption.map (fun set => set.flatten.2.map (·.modelType)) =
        some ["First", "UserInlineFragment", "QueryInlineFragment", "Node"] :=
    ⟨_, _, rfl, rfl, by decide +kernel, by decide +kernel, by decide +kernel⟩
  cases hbuild : build s parent written with
  | error e => simp [hbuild, Except.toOption] at hset
  | ok set =>
    simp only [hbuild, Except.toOption, Option.map_some, Option.some.injEq] at hset
    exact ⟨s, parent, set, hs, hparent, hbuild, hall, htypes, hset,
      (flatten_models_of_written hs hbuild).2 hall⟩

/-- A field on which only the name of the type is asked for: something is selected on its type, but
there is no model. -/
theorem flatten_without_model :
    let definitions : List TypeSystemDefinition :=
      [.type ⟨"Query", none, [], .object [] [⟨"user", none, .named "User", [], []⟩]⟩,
        .type ⟨"User", none, [], .object [] [⟨"id", none, .named "ID", [], []⟩]⟩]
    let written : List Syntax.Selection :=
      [.field none "user" [] [] [.field none "__typename" [] [] []]]
    ∃ s parent set, Schema.ofDefinitions definitions = .ok s ∧ s.type? "Query" = some parent ∧
      build s parent written = .ok set ∧
      (writtenShapesOf s parent written).map (·.type.name) = ["User"] ∧ set.flatten.2 = [] := by
  intro definitions written
  obtain ⟨s, parent, hs, hparent, htypes, hset⟩ : ∃ s parent,
      Schema.ofDefinitions definitions = .ok s ∧ s.type? "Query" = some parent ∧
      (writtenShapesOf s parent written).map (·.type.name) = ["User"] ∧
      (build s parent written).toOption.any (fun set => set.flatten.2.isEmpty) = true :=
    ⟨_, _, rfl, rfl, by decide +kernel, by decide +kernel⟩
  cases hbuild : build s parent written with
  | error e => simp [hbuild, Except.toOption] at hset
  | ok set =>
    simp only [hbuild, Except.toOption, Option.any_some, List.isEmpty_iff] at hset
    exact ⟨s, parent, set, hs, hparent, hbuild, htypes, hset⟩

end SelectionSet

end QueryModel
