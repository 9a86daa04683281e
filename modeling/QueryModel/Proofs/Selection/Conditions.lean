import QueryModel.Proofs.Schema.Ingestion
import QueryModel.Proofs.Selection.Typing

/-!
# Conditions of inline fragments

An inline fragment without a condition means the type around it. In a schema that comes from
definitions a type is found under its own name, whatever redefines or extends it, so the name of
the type around the fragment may as well be written as its condition.
-/

set_option autoImplicit false

namespace QueryModel

/-- The second selections are the first ones, made on the parent, with the name of the type around
it written as the condition of any number of inline fragments that have none. -/
inductive Conditioned (s : Schema) :
    TypeDeclaration → List Syntax.Selection → List Syntax.Selection → Prop
  | nil {parent : TypeDeclaration} : Conditioned s parent [] []
  | keep {parent : TypeDeclaration} {w : Syntax.Selection} {rest more : List Syntax.Selection}
      (h : Conditioned s parent rest more) : Conditioned s parent (w :: rest) (w :: more)
  | field {parent type : TypeDeclaration} {declared : FieldDeclaration} {label : Option String}
      {name : String} {arguments : List (String × Syntax.Value)}
      {directives : List Syntax.Directive} {items others rest more : List Syntax.Selection}
      (hfield : parent.Declares name declared) (htype : s.type? declared.type.name = some type)
      (hitems : Conditioned s type items others) (h : Conditioned s parent rest more) :
      Conditioned s parent (.field label name arguments directives items :: rest)
        (.field label name arguments directives others :: more)
  | inside {parent type : TypeDeclaration} {condition : Option String}
      {directives : List Syntax.Directive} {items others rest more : List Syntax.Selection}
      (htype : s.FragmentType parent condition type) (hitems : Conditioned s type items others)
      (h : Conditioned s parent rest more) :
      Conditioned s parent (.inlineFragment condition directives items :: rest)
        (.inlineFragment condition directives others :: more)
  | name {parent : TypeDeclaration} {directives : List Syntax.Directive}
      {items others rest more : List Syntax.Selection} (hitems : Conditioned s parent items others)
      (h : Conditioned s parent rest more) :
      Conditioned s parent (.inlineFragment none directives items :: rest)
        (.inlineFragment (some parent.name) directives others :: more)

section Build

variable {s : Schema} {parent type : TypeDeclaration} {label : Option String} {name : String}
  {arguments : List (String × Syntax.Value)} {directives : List Syntax.Directive}
  {items others : List Syntax.Selection}

theorem buildItem_field_congr {declared : FieldDeclaration} (hfield : parent.Declares name declared)
    (htype : s.type? declared.type.name = some type)
    (hitems : buildItems s type items = buildItems s type others) :
    buildItem s parent (.field label name arguments directives items) =
      buildItem s parent (.field label name arguments directives others) := by
  rw [buildItem, buildItem, declaredField_eq_ok.mpr hfield]
  simp only [bind, Except.bind, Schema.typeNamed_eq_ok.mpr htype, hitems]

theorem buildItem_fragment_congr {condition other : Option String}
    (hcondition : s.FragmentType parent condition type) (hother : s.FragmentType parent other type)
    (hitems : buildItems s type items = buildItems s type others) :
    buildItem s parent (.inlineFragment condition directives items) =
      buildItem s parent (.inlineFragment other directives others) := by
  rw [buildItem, buildItem, conditionType_eq_ok.mpr hcondition, conditionType_eq_ok.mpr hother]
  simp only [bind, Except.bind, hitems]

end Build

/-- Where types are found under their own names, conditions that name the type around change
nothing. -/
theorem buildItems_conditioned {s : Schema}
    (hkeys : ∀ name t, s.type? name = some t → t.name = name) {parent : TypeDeclaration}
    (hparent : s.type? parent.name = some parent) {written more : List Syntax.Selection}
    (h : Conditioned s parent written more) :
    buildItems s parent written = buildItems s parent more := by
  have hown {name : String} {t : TypeDeclaration} (ht : s.type? name = some t) :
      s.type? t.name = some t := by
    rw [hkeys name t ht]
    exact ht
  induction h with
  | nil => rfl
  | keep h ih => rw [buildItems, buildItems, ih hparent]
  | field hfield htype hitems h ihItems ih =>
    rw [buildItems, buildItems, buildItem_field_congr hfield htype (ihItems (hown htype)),
      ih hparent]
  | @inside parent type condition _ _ _ _ _ htype hitems h ihItems ih =>
    have htypeParent : s.type? type.name = some type := by
      cases condition with
      | none =>
        obtain rfl : type = parent := htype
        exact hparent
      | some name => exact hown htype
    rw [buildItems, buildItems, buildItem_fragment_congr htype htype (ihItems htypeParent),
      ih hparent]
  | @name parent _ _ _ _ _ hitems h ihItems ih =>
    have haround : s.FragmentType parent none parent := rfl
    have hnamed : s.FragmentType parent (some parent.name) parent := hparent
    rw [buildItems, buildItems, buildItem_fragment_congr haround hnamed (ihItems hparent),
      ih hparent]

namespace SelectionSet

/-- In a schema that comes from definitions, writing the name of the type around it as the condition
of any number of inline fragments without one, at any depth, changes neither what is built on a type
of the schema nor the error if nothing can be built. -/
theorem build_conditioned {definitions : List TypeSystemDefinition} {s : Schema}
    (hs : Schema.ofDefinitions definitions = .ok s) {key : String} {parent : TypeDeclaration}
    (hparent : s.type? key = some parent) {written more : List Syntax.Selection}
    (h : Conditioned s parent written more) : build s parent written = build s parent more := by
  have hkeys := (Schema.describes_of_ok hs).key_eq
  have hown : s.type? parent.name = some parent := by
    rw [hkeys key parent hparent]
    exact hparent
  exact buildItems_conditioned hkeys hown h

/-- The type around the outer fragment is defined twice and extended, and only the extension
declares the field that leads to the inner one. A third fragment is left without a condition. -/
theorem build_conditioned_extended :
    let id : Syntax.Selection := .field none "id" [] [] []
    let definitions : List TypeSystemDefinition :=
      [.type ⟨"Query", none, [], .object [] [⟨"id", none, .named "Int", [], []⟩]⟩,
        .extension ⟨"Query", none, [], .object [] [⟨"node", none, .list (.named "Node"), [], []⟩]⟩,
        .type ⟨"Query", none, [], .object ["Node"] []⟩,
        .type ⟨"Node", none, [], .interface [⟨"id", none, .named "ID", [], []⟩]⟩]
    let written : List Syntax.Selection :=
      [.inlineFragment none [] [.field none "node" [] [] [.inlineFragment none [] [id]]],
        .inlineFragment none [] []]
    let more : List Syntax.Selection :=
      [.inlineFragment (some "Query") []
          [.field none "node" [] [] [.inlineFragment (some "Node") [] [id]]],
        .inlineFragment none [] []]
    ∃ s parent, Schema.ofDefinitions definitions = .ok s ∧ s.type? "Query" = some parent ∧
      Conditioned s parent written more ∧ (build s parent written).isOk ∧
      build s parent written = build s parent more := by
  intro id definitions written more
  have hinner (s : Schema) : Conditioned s ⟨"Node", none, [], .interface
      [⟨"id", none, .named "ID", [], []⟩]⟩ [.inlineFragment none [] [id]]
      [.inlineFragment (some "Node") [] [id]] := .name (.keep .nil) .nil
  obtain ⟨s, parent, hs, hparent, hconditioned, hok⟩ : ∃ s parent,
      Schema.ofDefinitions definitions = .ok s ∧ s.type? "Query" = some parent ∧
      Conditioned s parent written more ∧ (build s parent written).isOk := by
    subst id definitions written more
    refine ⟨_, _, rfl, rfl, ?_, by with_unfolding_all rfl⟩
    exact .name (.field ⟨rfl, [], [], rfl, by simp⟩ (by with_unfolding_all rfl) (hinner _) .nil)
      (.keep .nil)
  exact ⟨s, parent, hs, hparent, hconditioned, hok, build_conditioned hs hparent hconditioned⟩

end SelectionSet

end QueryModel
