import QueryModel.Proofs.Flatten.Lossless

/-!
# Flattening again

A flattened selection has the shapes it had before, under the names of their models, so flattening
it again hoists the same shapes and takes those names for schema types. A field is named after its
response key, which the first run leaves alone, and gets its name again. An inline fragment is named
after its type condition, which by then is the name of its model.
-/

set_option autoImplicit false

namespace QueryModel

mutual

def SelectionItem.fragmentFree : SelectionItem → Bool
  | .field _ _ items => itemsFragmentFree items
  | .inlineFragment _ _ _ _ _ => false
  | .spread _ _ _ => true

def itemsFragmentFree : List SelectionItem → Bool
  | [] => true
  | item :: rest => item.fragmentFree && itemsFragmentFree rest

end

def SelectionSet.fragmentFree (set : SelectionSet) : Bool := itemsFragmentFree set.items

section Items

variable {item : SelectionItem} {shape : Shape} {rest : List SelectionItem}

theorem fragmentFree_rest (h : itemsFragmentFree (item :: rest) = true) :
    itemsFragmentFree rest = true := by
  rw [itemsFragmentFree, Bool.and_eq_true] at h
  exact h.2

theorem fragmentFree_shape (hshape : item.shape? = some shape)
    (h : itemsFragmentFree (item :: rest) = true) :
    itemsFragmentFree shape.set.items = true := by
  rw [itemsFragmentFree, Bool.and_eq_true] at h
  cases item with
  | field selected hasTypename items =>
    simp only [SelectionItem.shape?, Option.ite_none_left_eq_some, Option.some.injEq] at hshape
    obtain ⟨-, rfl⟩ := hshape
    exact h.1
  | inlineFragment onType directives uses hasTypename items =>
    simp [SelectionItem.fragmentFree] at h
  | spread name directives uses => simp [SelectionItem.shape?] at hshape

theorem candidate_refill (h : itemsFragmentFree (item :: rest) = true) (name : String)
    (items : List SelectionItem) : (item.refill name items).candidate = item.candidate := by
  rw [itemsFragmentFree, Bool.and_eq_true] at h
  cases item with
  | field selected hasTypename inner => rfl
  | inlineFragment onType directives uses hasTypename inner =>
    simp [SelectionItem.fragmentFree] at h
  | spread name directives uses => rfl

end Items

/-- The model as it comes out of a second run: its own name stands for the schema type. -/
def Model.again (m : Model) : Model := { m with baseType := m.modelType }

/-- Without inline fragments a second run from the same taken names does what the first did. -/
theorem flattenItems_flattenItems {items : List SelectionItem}
    (hfree : itemsFragmentFree items = true) (taken : List String) :
    flattenItems taken (flattenItems taken items).result =
      ⟨(flattenItems taken items).result, (flattenItems taken items).models.map Model.again,
        (flattenItems taken items).taken⟩ := by
  induction items using items_induction generalizing taken with
  | nil => simp [flattenItems]
  | plain item rest h ih =>
    simp only [flattenItems_cons_plain h, ih (fragmentFree_rest hfree)]
  | shape item shape rest h ihItems ihRest =>
    rw [flattenItems_cons_shape h]
    set name := freeName taken item.candidate with hname
    set inner := flattenItems (name :: taken) shape.set.items
    have hshape := SelectionItem.shape?_refill h name inner.result
      (flattenItems_result_eq_nil _ _).mp
    rw [flattenItems_cons_shape hshape, candidate_refill hfree, ← hname]
    simp only [ihItems (fragmentFree_shape h hfree) (name :: taken), inner,
      ihRest (fragmentFree_rest hfree), SelectionItem.refill_refill, List.map_cons,
      List.map_append, Model.again]

namespace SelectionSet

/-- A flattened selection gives as many models as the selection did, each with the name of the
former one for a schema type. Without inline fragments it is its own flattened form, and its models
have the names and the contents they had. -/
theorem flatten_again (set : SelectionSet) :
    set.flatten.1.flatten.2.length = set.flatten.2.length ∧
    set.flatten.1.flatten.2.map Model.baseType = set.flatten.2.map Model.modelType ∧
    (set.fragmentFree = true → set.flatten.1.flatten.1 = set.flatten.1 ∧
      set.flatten.1.flatten.2.map Model.modelType = set.flatten.2.map Model.modelType ∧
      set.flatten.1.flatten.2.map Model.set = set.flatten.2.map Model.set) := by
  have hbase : set.flatten.1.flatten.2.map Model.baseType =
      set.flatten.2.map Model.modelType := by
    calc set.flatten.1.flatten.2.map Model.baseType
        = set.flatten.1.shapes.map Shape.name := by
          rw [set.flatten.1.flatten_eq]
          exact flattenItems_baseTypes reservedNames set.flatten.1.items
      _ = (set.flatten.2.map Model.shape).map Shape.name := by rw [shapes_flatten]
      _ = set.flatten.2.map Model.modelType := by
          rw [List.map_map]
          rfl
  refine ⟨by simpa using congrArg List.length hbase, hbase, fun hfree => ?_⟩
  have hagain : set.flatten.1.flatten = (set.flatten.1, set.flatten.2.map Model.again) := by
    have hitems := flattenItems_flattenItems hfree reservedNames
    simp only [flatten_eq, hitems]
  rw [hagain, List.map_map, List.map_map]
  exact ⟨rfl, rfl, rfl⟩

/-- An inline fragment has its new type condition before the suffix the second time. -/
example :
    let set : SelectionSet := ⟨false, [.inlineFragment "User" .empty false false []]⟩
    set.flatten.2.map Model.modelType = ["UserInlineFragment"] ∧
      set.flatten.1.flatten.2.map Model.modelType = ["UserInlineFragmentInlineFragment"] := by
  decide +kernel

end SelectionSet

end QueryModel
