import QueryModel.Proofs.Flatten.Naming

/-!
# Flattening loses nothing

The models tell, in the order of the shapes, the type names that flattening took away.
Putting these names back in that order gives the selection from before, down to every
flag, argument and directive.
-/

set_option autoImplicit false

namespace QueryModel

mutual

def SelectionItem.relabel (labels : List String) : SelectionItem → SelectionItem
  | .field selected hasTypename items =>
    if items.isEmpty then .field selected hasTypename items
    else .field (selected.withType (labels.headD selected.type.name)) hasTypename
      (relabelItems labels.tail items)
  | .inlineFragment onType directives usesDirectives hasTypename items =>
    .inlineFragment (labels.headD onType) directives usesDirectives hasTypename
      (relabelItems labels.tail items)
  | .spread name directives usesDirectives => .spread name directives usesDirectives

/-- Gives each label in turn to the next shape, as its type name. A shape for which no
label is left keeps its name. -/
def relabelItems (labels : List String) : List SelectionItem → List SelectionItem
  | [] => []
  | item :: rest =>
    item.relabel labels :: relabelItems (labels.drop item.shapes.length) rest

end

def SelectionSet.relabel (labels : List String) (set : SelectionSet) : SelectionSet :=
  ⟨set.hasTypename, relabelItems labels set.items⟩

theorem relabelItems_cons_plain {item : SelectionItem} (h : item.shape? = none)
    (labels : List String) (rest : List SelectionItem) :
    relabelItems labels (item :: rest) = item :: relabelItems labels rest := by
  cases item with
  | field selected hasTypename items =>
    have he : items = [] := by simpa [SelectionItem.shape?] using h
    simp [relabelItems, SelectionItem.relabel, SelectionItem.shapes, he]
  | inlineFragment onType directives uses hasTypename items => simp [SelectionItem.shape?] at h
  | spread name directives uses => simp [relabelItems, SelectionItem.relabel, SelectionItem.shapes]

theorem relabelItems_cons_shape {item : SelectionItem} {shape : Shape}
    (h : item.shape? = some shape) (label : String) (labels : List String)
    (rest : List SelectionItem) :
    relabelItems (label :: labels) (item :: rest) =
      item.refill label (relabelItems labels shape.set.items) ::
        relabelItems (labels.drop shape.set.shapes.length) rest := by
  cases item with
  | field selected hasTypename items =>
    simp only [SelectionItem.shape?, Option.ite_none_left_eq_some, Option.some.injEq] at h
    obtain ⟨hne, rfl⟩ := h
    simp [relabelItems, SelectionItem.relabel, SelectionItem.shapes, SelectionItem.refill,
      SelectionSet.shapes, hne]
  | inlineFragment onType directives uses hasTypename items =>
    obtain rfl := Option.some.inj h
    simp [relabelItems, SelectionItem.relabel, SelectionItem.shapes, SelectionItem.refill,
      SelectionSet.shapes]
  | spread name directives uses => simp [SelectionItem.shape?] at h

theorem flattenItems_baseTypes (taken : List String) (items : List SelectionItem) :
    (flattenItems taken items).models.map Model.baseType = (shapesOf items).map Shape.name := by
  induction items using items_induction generalizing taken with
  | nil => simp [flattenItems, shapesOf]
  | plain item rest h ih =>
    rw [flattenItems_cons_plain h, shapesOf_cons_plain h]
    exact ih taken
  | shape item shape rest h ihItems ihRest =>
    rw [flattenItems_cons_shape h, shapesOf_cons_shape h]
    simp only [List.map_cons, List.map_append, ihItems, ihRest, SelectionSet.shapes]

theorem length_shapesOf_flattenItems (taken : List String) (items : List SelectionItem) :
    (shapesOf (flattenItems taken items).result).length =
      (flattenItems taken items).models.length := by
  rw [shapesOf_flattenItems, List.length_map]

/-- The base types of the models undo a run, whatever labels come after them. -/
theorem relabelItems_flattenItems (taken more : List String) (items : List SelectionItem) :
    relabelItems ((flattenItems taken items).models.map Model.baseType ++ more)
      (flattenItems taken items).result = items := by
  induction items using items_induction generalizing taken more with
  | nil => simp [flattenItems, relabelItems]
  | plain item rest h ih =>
    rw [flattenItems_cons_plain h, relabelItems_cons_plain h, ih]
  | shape item shape rest h ihItems ihRest =>
    rw [flattenItems_cons_shape h]
    set name := freeName taken item.candidate
    set inner := flattenItems (name :: taken) shape.set.items
    set others := flattenItems inner.taken rest
    have hshape := SelectionItem.shape?_refill h name inner.result
      (flattenItems_result_eq_nil _ _).mp
    have hcount : (shapesOf inner.result).length = (inner.models.map Model.baseType).length := by
      rw [List.length_map]
      exact length_shapesOf_flattenItems _ _
    -- The shape takes the first label, its items the next ones, and the rest what is left.
    simp only [List.map_cons, List.map_append, List.cons_append, List.append_assoc]
    rw [relabelItems_cons_shape hshape, SelectionSet.shapes, hcount, List.drop_left, ihItems,
      ihRest, SelectionItem.refill_refill, SelectionItem.refill_shape h]

/-- A selection and its flattened form have one shape for each model, the models tell the
type names of the selection in order, and with these names put back the flattened form is
the selection. -/
theorem flatten_lossless (set : SelectionSet) :
    set.shapes.length = set.flatten.2.length ∧
    set.flatten.1.shapes.length = set.flatten.2.length ∧
    set.flatten.2.map Model.baseType = set.shapes.map Shape.name ∧
    set.flatten.1.relabel (set.flatten.2.map Model.baseType) = set := by
  rw [SelectionSet.flatten_eq]
  have hbase : _ = set.shapes.map Shape.name := flattenItems_baseTypes reservedNames set.items
  have hcount := length_shapesOf_flattenItems reservedNames set.items
  refine ⟨by simpa using (congrArg List.length hbase).symm, hcount, hbase, ?_⟩
  have hitems := relabelItems_flattenItems reservedNames [] set.items
  rw [List.append_nil] at hitems
  exact congrArg (SelectionSet.mk set.hasTypename) hitems

end QueryModel
