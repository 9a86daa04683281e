import QueryModel.Proofs.Flatten.Naming
import QueryModel.Proofs.Selection.Typing
import QueryModel.Schema.Ingest

/-!
# Fields of a flattened selection

A field with something selected on it has the name of its model for a type name. Any other field
stays as it was and keeps the name of a schema type. The two kinds of names are not kept apart: a
model takes the name of a schema type when a response key, in Pascal case, spells it.
-/

set_option autoImplicit false

namespace QueryModel

structure FieldNode where
  selected : SelectedField
  set : SelectionSet

def FieldNode.typeName (f : FieldNode) : String := f.selected.type.name

mutual

def SelectionItem.fieldNodes : SelectionItem → List FieldNode
  | .field selected hasTypename items => ⟨selected, ⟨hasTypename, items⟩⟩ :: fieldNodesOf items
  | .inlineFragment _ _ _ _ items => fieldNodesOf items
  | .spread _ _ _ => []

def fieldNodesOf : List SelectionItem → List FieldNode
  | [] => []
  | item :: rest => item.fieldNodes ++ fieldNodesOf rest

end

def SelectionSet.fieldNodes (set : SelectionSet) : List FieldNode := fieldNodesOf set.items

mutual

def SelectionItem.candidates : SelectionItem → List String
  | .field selected _ items =>
    if items.isEmpty then [] else fieldCandidate selected :: candidatesOf items
  | .inlineFragment onType _ _ _ items => fragmentCandidate onType :: candidatesOf items
  | .spread _ _ _ => []

def candidatesOf : List SelectionItem → List String
  | [] => []
  | item :: rest => item.candidates ++ candidatesOf rest

end

def SelectionSet.candidates (set : SelectionSet) : List String := candidatesOf set.items

theorem candidatesOf_cons_plain {item : SelectionItem} (h : item.shape? = none)
    (rest : List SelectionItem) : candidatesOf (item :: rest) = candidatesOf rest := by
  cases item with
  | field selected hasTypename items =>
    have he : items = [] := by simpa [SelectionItem.shape?] using h
    simp [candidatesOf, SelectionItem.candidates, he]
  | inlineFragment onType directives uses hasTypename items => simp [SelectionItem.shape?] at h
  | spread name directives uses => simp [candidatesOf, SelectionItem.candidates]

theorem candidatesOf_cons_shape {item : SelectionItem} {shape : Shape}
    (h : item.shape? = some shape) (rest : List SelectionItem) :
    candidatesOf (item :: rest) =
      item.candidate :: (candidatesOf shape.set.items ++ candidatesOf rest) := by
  cases item with
  | field selected hasTypename items =>
    simp only [SelectionItem.shape?, Option.ite_none_left_eq_some, Option.some.injEq] at h
    obtain ⟨hne, rfl⟩ := h
    simp [candidatesOf, SelectionItem.candidates, SelectionItem.candidate, hne]
  | inlineFragment onType directives uses hasTypename items =>
    obtain rfl := Option.some.inj h
    simp [candidatesOf, SelectionItem.candidates, SelectionItem.candidate]
  | spread name directives uses => simp [SelectionItem.shape?] at h

/-- The models are named after the shapes, in order. -/
theorem flattenItems_named (taken : List String) (items : List SelectionItem) :
    List.Forall₂ (fun candidate m => ∃ k, m.modelType = underscored k candidate)
      (candidatesOf items) (flattenItems taken items).models := by
  induction items using items_induction generalizing taken with
  | nil =>
    rw [candidatesOf, flattenItems]
    exact .nil
  | plain item rest h ih =>
    rw [flattenItems_cons_plain h, candidatesOf_cons_plain h]
    exact ih taken
  | shape item shape rest h ihItems ihRest =>
    rw [flattenItems_cons_shape h, candidatesOf_cons_shape h]
    exact .cons (freeName_form taken item.candidate) (List.rel_append (ihItems _) (ihRest _))

def SelectionItem.node? : SelectionItem → Option FieldNode
  | .field selected hasTypename items => some ⟨selected, ⟨hasTypename, items⟩⟩
  | _ => none

section Nodes

variable {item : SelectionItem} {shape : Shape} {f : FieldNode}

theorem fieldNodesOf_cons_plain (h : item.shape? = none) (rest : List SelectionItem) :
    fieldNodesOf (item :: rest) = item.node?.toList ++ fieldNodesOf rest := by
  cases item with
  | field selected hasTypename items =>
    have he : items = [] := by simpa [SelectionItem.shape?] using h
    simp [fieldNodesOf, SelectionItem.fieldNodes, SelectionItem.node?, he]
  | inlineFragment onType directives uses hasTypename items => simp [SelectionItem.shape?] at h
  | spread name directives uses =>
    simp [fieldNodesOf, SelectionItem.fieldNodes, SelectionItem.node?]

theorem fieldNodesOf_cons_shape (h : item.shape? = some shape) (rest : List SelectionItem) :
    fieldNodesOf (item :: rest) =
      item.node?.toList ++ (fieldNodesOf shape.set.items ++ fieldNodesOf rest) := by
  cases item with
  | field selected hasTypename items =>
    simp only [SelectionItem.shape?, Option.ite_none_left_eq_some, Option.some.injEq] at h
    obtain ⟨-, rfl⟩ := h
    simp [fieldNodesOf, SelectionItem.fieldNodes, SelectionItem.node?]
  | inlineFragment onType directives uses hasTypename items =>
    obtain rfl := Option.some.inj h
    simp [fieldNodesOf, SelectionItem.fieldNodes, SelectionItem.node?]
  | spread name directives uses => simp [SelectionItem.shape?] at h

theorem items_eq_nil_of_plain (h : item.shape? = none) (hf : item.node? = some f) :
    f.set.items = [] := by
  cases item with
  | field selected hasTypename items =>
    obtain rfl := Option.some.inj hf
    simpa [SelectionItem.shape?] using h
  | inlineFragment onType directives uses hasTypename items => simp [SelectionItem.node?] at hf
  | spread name directives uses => simp [SelectionItem.node?] at hf

theorem shape_of_node (h : item.shape? = some shape) (hf : item.node? = some f) :
    shape = ⟨f.typeName, f.set⟩ ∧ f.set.items ≠ [] := by
  cases item with
  | field selected hasTypename items =>
    simp only [SelectionItem.shape?, Option.ite_none_left_eq_some, Option.some.injEq] at h
    obtain ⟨hne, rfl⟩ := h
    obtain rfl := Option.some.inj hf
    exact ⟨rfl, by simpa using hne⟩
  | inlineFragment onType directives uses hasTypename items => simp [SelectionItem.node?] at hf
  | spread name directives uses => simp [SelectionItem.node?] at hf

end Nodes

theorem mem_shapesOf_of_node {items : List SelectionItem} {f : FieldNode}
    (hf : f ∈ fieldNodesOf items) (hne : f.set.items ≠ []) :
    (⟨f.typeName, f.set⟩ : Shape) ∈ shapesOf items := by
  induction items using items_induction with
  | nil => simp [fieldNodesOf] at hf
  | plain item rest h ih =>
    rw [fieldNodesOf_cons_plain h, List.mem_append, Option.mem_toList] at hf
    rw [shapesOf_cons_plain h]
    rcases hf with hnode | hrest
    · exact absurd (items_eq_nil_of_plain h hnode) hne
    · exact ih hrest
  | shape item shape rest h ihItems ihRest =>
    rw [fieldNodesOf_cons_shape h, List.mem_append, List.mem_append, Option.mem_toList] at hf
    rw [shapesOf_cons_shape h, List.mem_cons, List.mem_append]
    rcases hf with hnode | hitems | hrest
    · exact .inl (shape_of_node h hnode).1.symm
    · exact .inr (.inl (ihItems hitems))
    · exact .inr (.inr (ihRest hrest))

theorem fieldNodes_of_shape {items : List SelectionItem} {shape : Shape} {f : FieldNode}
    (hshape : shape ∈ shapesOf items) (hf : f ∈ shape.set.fieldNodes) : f ∈ fieldNodesOf items := by
  induction items using items_induction with
  | nil => simp [shapesOf] at hshape
  | plain item rest h ih =>
    rw [shapesOf_cons_plain h] at hshape
    rw [fieldNodesOf_cons_plain h]
    exact List.mem_append_right _ (ih hshape)
  | shape item outer rest h ihItems ihRest =>
    rw [shapesOf_cons_shape h, List.mem_cons, List.mem_append] at hshape
    rw [fieldNodesOf_cons_shape h, List.mem_append, List.mem_append]
    rcases hshape with rfl | hitems | hrest
    · exact .inr (.inl hf)
    · exact .inr (.inl (ihItems hitems))
    · exact .inr (.inr (ihRest hrest))

/-- A field on which nothing is selected comes through flattening as it is. -/
theorem mem_of_flattenItems {taken : List String} {items : List SelectionItem} {f : FieldNode}
    (hf : f ∈ fieldNodesOf (flattenItems taken items).result) (hnil : f.set.items = []) :
    f ∈ fieldNodesOf items := by
  induction items using items_induction generalizing taken with
  | nil => simp [flattenItems, fieldNodesOf] at hf
  | plain item rest h ih =>
    rw [flattenItems_cons_plain h, fieldNodesOf_cons_plain h, List.mem_append] at hf
    rw [fieldNodesOf_cons_plain h, List.mem_append]
    exact hf.imp_right ih
  | shape item shape rest h ihItems ihRest =>
    rw [flattenItems_cons_shape h] at hf
    have hrefill := SelectionItem.shape?_refill h (freeName taken item.candidate)
      (flattenItems (freeName taken item.candidate :: taken) shape.set.items).result
      (flattenItems_result_eq_nil _ _).mp
    rw [fieldNodesOf_cons_shape hrefill, List.mem_append, List.mem_append,
      Option.mem_toList] at hf
    rw [fieldNodesOf_cons_shape h, List.mem_append, List.mem_append]
    rcases hf with hnode | hitems | hrest
    · exact absurd hnil (shape_of_node hrefill hnode).2
    · exact .inr (.inl (ihItems hitems))
    · exact .inr (.inr (ihRest hrest))

theorem has_of_buildItems {s : Schema} {parent : TypeDeclaration}
    {written : List Syntax.Selection} {set : SelectionSet}
    (h : buildItems s parent written = .ok set) : ∀ f ∈ set.fieldNodes, s.Has f.typeName := by
  induction written using selections_induction generalizing parent set with
  | nil =>
    obtain rfl := Except.ok.inj h
    simp [SelectionSet.fieldNodes, SelectionSet.empty, fieldNodesOf]
  | field label name arguments directives items rest ihItems ihRest =>
    obtain ⟨built, tail, hbuilt, htail, rfl⟩ := buildItems_cons_eq_ok.mp h
    by_cases hname : name = typenameField
    · subst hname
      rw [buildItem_typename] at hbuilt
      obtain rfl := Except.ok.inj hbuilt
      have hrest := ihRest htail
      exact hrest
    · obtain ⟨declared, type, inner, resolved, -, htype, hinner, -, rfl⟩ :=
        (buildItem_field_eq_ok hname).mp hbuilt
      rw [SelectionSet.fieldNodes, SelectionSet.add, fieldNodesOf, SelectionItem.fieldNodes,
        List.forall_mem_append, List.forall_mem_cons]
      exact ⟨⟨Schema.has_iff.mpr ⟨type, htype⟩, ihItems hinner⟩, ihRest htail⟩
  | inlineFragment condition directives items rest ihItems ihRest =>
    obtain ⟨built, tail, hbuilt, htail, rfl⟩ := buildItems_cons_eq_ok.mp h
    obtain ⟨type, inner, -, hinner, rfl⟩ := buildItem_inlineFragment_eq_ok.mp hbuilt
    rw [SelectionSet.fieldNodes, SelectionSet.add, fieldNodesOf, SelectionItem.fieldNodes,
      List.forall_mem_append]
    exact ⟨ihItems hinner, ihRest htail⟩
  | spread name directives rest ihRest =>
    obtain ⟨built, tail, hbuilt, htail, rfl⟩ := buildItems_cons_eq_ok.mp h
    obtain rfl := Except.ok.inj hbuilt
    rw [SelectionSet.fieldNodes, SelectionSet.add, fieldNodesOf, SelectionItem.fieldNodes,
      List.nil_append]
    exact ihRest htail

namespace SelectionSet

variable {set : SelectionSet} {f : FieldNode}

theorem mem_flatten_of_model {m : Model} (hm : m ∈ set.flatten.2) (hf : f ∈ m.set.fieldNodes) :
    f ∈ set.flatten.1.fieldNodes := by
  have hshape : m.shape ∈ set.flatten.1.shapes := by
    rw [shapes_flatten]
    exact List.mem_map_of_mem hm
  exact fieldNodes_of_shape hshape hf

theorem filter_models_of_node (hf : f ∈ set.flatten.1.fieldNodes) (hne : f.set.items ≠ []) :
    ∃ m, set.flatten.2.filter (fun m => m.modelType = f.typeName) = [m] := by
  have hshape : (⟨f.typeName, f.set⟩ : Shape) ∈ set.flatten.1.shapes :=
    mem_shapesOf_of_node hf hne
  rw [shapes_flatten] at hshape
  obtain ⟨m, hm, heq⟩ := List.mem_map.mp hshape
  have hname : m.modelType = f.typeName := congrArg Shape.name heq
  exact ⟨m, hname ▸ filter_modelType_eq (flatten_models_nodup set).1 hm⟩

theorem mem_of_flatten (hf : f ∈ set.flatten.1.fieldNodes) (hnil : f.set.items = []) :
    f ∈ set.fieldNodes := by
  rw [flatten_eq] at hf
  exact mem_of_flattenItems hf hnil

theorem modelType_form {m : Model} (hm : m ∈ set.flatten.2) :
    m.modelType ∉ reservedNames ∧ ∃ candidate ∈ set.candidates, ∃ k,
      m.modelType = underscored k candidate := by
  refine ⟨(flatten_models_nodup set).2 m hm, ?_⟩
  rw [flatten_eq] at hm
  exact exists_of_forall₂ (flattenItems_named reservedNames set.items) hm

/-- In a flattened selection a field has the name of one model for a type name if something is
selected on it. Any other field is one of the selection and keeps the name of a schema type. If a
model has that name too, then it is no root name and a candidate spells it, perhaps with
underscores in front. Where no candidate spells the type name of such a field, a field has the name
of a model exactly when something is selected on it. -/
theorem flatten_type_names {s : Schema} {parent : TypeDeclaration}
    {written : List Syntax.Selection} (hbuild : build s parent written = .ok set)
    (hf : f ∈ set.flatten.1.fieldNodes ∨ ∃ m ∈ set.flatten.2, f ∈ m.set.fieldNodes) :
    (f.set.items ≠ [] → ∃ m, set.flatten.2.filter (fun m => m.modelType = f.typeName) = [m]) ∧
    (f.set.items = [] → f ∈ set.fieldNodes ∧ s.Has f.typeName ∧
      ∀ m ∈ set.flatten.2, m.modelType = f.typeName → f.typeName ∉ reservedNames ∧
        ∃ candidate ∈ set.candidates, ∃ k, f.typeName = underscored k candidate) ∧
    ((∀ g ∈ set.fieldNodes, g.set.items = [] → ∀ candidate ∈ set.candidates, ∀ k,
        g.typeName ≠ underscored k candidate) →
      ((∃ m ∈ set.flatten.2, m.modelType = f.typeName) ↔ f.set.items ≠ [])) := by
  have hf : f ∈ set.flatten.1.fieldNodes := by
    rcases hf with hf | ⟨m, hm, hf⟩
    · exact hf
    · exact mem_flatten_of_model hm hf
  have hform (m : Model) (hm : m ∈ set.flatten.2) (hname : m.modelType = f.typeName) :
      f.typeName ∉ reservedNames ∧ ∃ candidate ∈ set.candidates, ∃ k,
        f.typeName = underscored k candidate := hname ▸ modelType_form hm
  refine ⟨filter_models_of_node hf, fun hnil => ?_, fun hapart => ⟨?_, fun hne => ?_⟩⟩
  · have hmem : f ∈ set.fieldNodes := mem_of_flatten hf hnil
    exact ⟨hmem, has_of_buildItems hbuild f hmem, hform⟩
  · rintro ⟨m, hm, hname⟩ hnil
    obtain ⟨-, candidate, hcandidate, k, hk⟩ := hform m hm hname
    exact hapart f (mem_of_flatten hf hnil) hnil candidate hcandidate k hk
  · obtain ⟨m, hfilter⟩ := filter_models_of_node hf hne
    have hm : m ∈ set.flatten.2.filter fun m => m.modelType = f.typeName := by simp [hfilter]
    obtain ⟨hmem, hname⟩ := List.mem_filter.mp hm
    exact ⟨m, hmem, by simpa using hname⟩

/-- Two users are selected, and neither of their leaves has a type that a user could be called. -/
theorem flatten_type_names_apart :
    let definitions : List TypeSystemDefinition :=
      [.type ⟨"Query", none, [], .object [] [⟨"user", none, .named "User", [], []⟩]⟩,
        .type ⟨"User", none, [], .object [] [⟨"id", none, .named "ID", [], []⟩,
          ⟨"level", none, .named "Role", [], []⟩]⟩,
        .type ⟨"Role", none, [], .enum [⟨"ADMIN", none, []⟩]⟩]
    let written : List Syntax.Selection :=
      [.field none "user" [] [] [.field none "level" [] [] []],
        .field none "user" [] [] [.field none "id" [] [] []]]
    ∃ s parent set, Schema.ofDefinitions definitions = .ok s ∧ s.type? "Query" = some parent ∧
      build s parent written = .ok set ∧
      set.flatten.1.fieldNodes.map (·.typeName) = ["User", "Role", "_User", "ID"] ∧
      ∀ f ∈ set.flatten.1.fieldNodes,
        (∃ m ∈ set.flatten.2, m.modelType = f.typeName) ↔ f.set.items ≠ [] := by
  intro definitions written
  obtain ⟨s, parent, hs, hparent, hset⟩ : ∃ s parent, Schema.ofDefinitions definitions = .ok s ∧
      s.type? "Query" = some parent ∧
      (build s parent written).toOption.map (fun set =>
        (set.flatten.1.fieldNodes.map (·.typeName), set.candidates,
          (set.fieldNodes.filter fun f => f.set.items.isEmpty).map (·.typeName))) =
      some (["User", "Role", "_User", "ID"], ["User", "User"], ["Role", "ID"]) :=
    ⟨_, _, rfl, rfl, by decide +kernel⟩
  cases hbuild : build s parent written with
  | error e => simp [hbuild, Except.toOption] at hset
  | ok set =>
    simp only [hbuild, Except.toOption, Option.map_some, Option.some.injEq, Prod.mk.injEq] at hset
    obtain ⟨hnames, hcandidates, hleaves⟩ := hset
    refine ⟨s, parent, set, hs, hparent, hbuild, hnames, fun f hf => ?_⟩
    refine (flatten_type_names hbuild (.inl hf)).2.2 fun g hg hnil candidate hcandidate k hk => ?_
    have hleaf : g.typeName ∈ ["Role", "ID"] := by
      rw [← hleaves]
      exact List.mem_map_of_mem (List.mem_filter.mpr ⟨hg, by simp [hnil]⟩)
    have huser : candidate = "User" := by simpa [hcandidates] using hcandidate
    -- A name of four letters is the candidate itself, one of two letters is too short for it.
    have hlength := congrArg String.length hk
    rw [length_underscored, huser] at hlength
    simp only [List.mem_cons, List.not_mem_nil, or_false] at hleaf
    rcases hleaf with hrole | hid
    · rw [hrole] at hlength hk
      obtain rfl : k = 0 := by
        change 4 = 4 + k at hlength
        omega
      rw [huser] at hk
      exact absurd hk (by decide)
    · rw [hid] at hlength
      change 2 = 4 + k at hlength
      omega

/-- The field `role` is selected on, and its model has the name of the enum that the field `level`
keeps for a type. -/
theorem flatten_leaf_named_as_model :
    let definitions : List TypeSystemDefinition :=
      [.type ⟨"Query", none, [], .object [] [⟨"level", none, .named "Role", [], []⟩,
          ⟨"role", none, .named "User", [], []⟩]⟩,
        .type ⟨"Role", none, [], .enum [⟨"ADMIN", none, []⟩]⟩,
        .type ⟨"User", none, [], .object [] [⟨"id", none, .named "ID", [], []⟩]⟩]
    let written : List Syntax.Selection :=
      [.field none "level" [] [] [], .field none "role" [] [] [.field none "id" [] [] []]]
    ∃ s parent set, Schema.ofDefinitions definitions = .ok s ∧ s.type? "Query" = some parent ∧
      build s parent written = .ok set ∧ ∃ f ∈ set.flatten.1.fieldNodes, f.set.items = [] ∧
        ∃ m ∈ set.flatten.2, m.modelType = f.typeName := by
  intro definitions written
  obtain ⟨s, parent, hs, hparent, hset⟩ : ∃ s parent, Schema.ofDefinitions definitions = .ok s ∧
      s.type? "Query" = some parent ∧
      ((build s parent written).toOption.any fun set => set.flatten.1.fieldNodes.any fun f =>
        f.set.items.isEmpty && set.flatten.2.any fun m => m.modelType = f.typeName) = true :=
    ⟨_, _, rfl, rfl, by decide +kernel⟩
  cases hbuild : build s parent written with
  | error e => simp [hbuild, Except.toOption] at hset
  | ok set =>
    simp only [hbuild, Except.toOption, Option.any_some, List.any_eq_true, Bool.and_eq_true,
      List.isEmpty_iff, decide_eq_true_eq] at hset
    exact ⟨s, parent, set, hs, hparent, hbuild, hset⟩

end SelectionSet

end QueryModel
