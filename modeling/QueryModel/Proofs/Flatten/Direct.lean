import QueryModel.Proofs.Flatten.Shapes

/-!
# Flattening without slots

A run of the flattener reserves a slot for a model, goes on with what is below, and then
fills the slot. The models that a run adds do not depend on those before it, so flattening
can be read off the selection: a shape gives its model, followed by the models below it,
and only the taken names go from one item to the next. Slots are filled just where the
direct reading puts the model.
-/

set_option autoImplicit false

namespace QueryModel

/-- What a part of the selection becomes, the models it adds, and the names taken after it. -/
structure Flattening (α : Type) where
  result : α
  models : List Model
  taken : List String

mutual

def flattenItem (taken : List String) : SelectionItem → Flattening SelectionItem
  | .field selected hasTypename items =>
    if items.isEmpty then ⟨.field selected hasTypename items, [], taken⟩
    else
      let name := freeName taken (fieldCandidate selected)
      let inner := flattenItems (name :: taken) items
      ⟨.field (selected.withType name) hasTypename inner.result,
        ⟨selected.type.name, name, ⟨hasTypename, inner.result⟩⟩ :: inner.models, inner.taken⟩
  | .inlineFragment onType directives usesDirectives hasTypename items =>
    let name := freeName taken (fragmentCandidate onType)
    let inner := flattenItems (name :: taken) items
    ⟨.inlineFragment name directives usesDirectives hasTypename inner.result,
      ⟨onType, name, ⟨hasTypename, inner.result⟩⟩ :: inner.models, inner.taken⟩
  | .spread name directives usesDirectives => ⟨.spread name directives usesDirectives, [], taken⟩

def flattenItems (taken : List String) : List SelectionItem → Flattening (List SelectionItem)
  | [] => ⟨[], [], taken⟩
  | item :: rest =>
    let first := flattenItem taken item
    let others := flattenItems first.taken rest
    ⟨first.result :: others.result, first.models ++ others.models, others.taken⟩

end

theorem flattenItems_cons_plain {item : SelectionItem} (h : item.shape? = none)
    (taken : List String) (rest : List SelectionItem) :
    flattenItems taken (item :: rest) =
      ⟨item :: (flattenItems taken rest).result, (flattenItems taken rest).models,
        (flattenItems taken rest).taken⟩ := by
  cases item with
  | field selected hasTypename items =>
    have he : items = [] := by simpa [SelectionItem.shape?] using h
    simp [flattenItems, flattenItem, he]
  | inlineFragment onType directives uses hasTypename items => simp [SelectionItem.shape?] at h
  | spread name directives uses => simp [flattenItems, flattenItem]

theorem flattenItems_cons_shape {item : SelectionItem} {shape : Shape}
    (h : item.shape? = some shape) (taken : List String) (rest : List SelectionItem) :
    flattenItems taken (item :: rest) =
      let name := freeName taken item.candidate
      let inner := flattenItems (name :: taken) shape.set.items
      let others := flattenItems inner.taken rest
      ⟨item.refill name inner.result :: others.result,
        ⟨shape.name, name, ⟨shape.set.hasTypename, inner.result⟩⟩ ::
          (inner.models ++ others.models), others.taken⟩ := by
  cases item with
  | field selected hasTypename items =>
    simp only [SelectionItem.shape?, Option.ite_none_left_eq_some, Option.some.injEq] at h
    obtain ⟨hne, rfl⟩ := h
    simp [flattenItems, flattenItem, hne, SelectionItem.candidate, SelectionItem.refill]
  | inlineFragment onType directives uses hasTypename items =>
    obtain rfl := Option.some.inj h
    simp [flattenItems, flattenItem, SelectionItem.candidate, SelectionItem.refill]
  | spread name directives uses => simp [SelectionItem.shape?] at h

namespace Flattener

def extend {α : Type} (f : Flattener) (part : Flattening α) : Flattener :=
  ⟨part.taken, f.models ++ part.models⟩

theorem items_cons_plain {item : SelectionItem} (h : item.shape? = none) (f : Flattener)
    (rest : List SelectionItem) :
    f.items (item :: rest) = (item :: (f.items rest).1, (f.items rest).2) := by
  cases item with
  | field selected hasTypename items =>
    have he : items = [] := by simpa [SelectionItem.shape?] using h
    simp [Flattener.items, Flattener.item, he]
  | inlineFragment onType directives uses hasTypename items => simp [SelectionItem.shape?] at h
  | spread name directives uses => simp [Flattener.items, Flattener.item]

theorem items_cons_shape {item : SelectionItem} {shape : Shape} (h : item.shape? = some shape)
    (f : Flattener) (rest : List SelectionItem) :
    f.items (item :: rest) =
      let hoisted := f.hoist item.candidate shape.name shape.set.hasTypename
        fun g => g.items shape.set.items
      let others := hoisted.2.2.items rest
      (item.refill hoisted.1 hoisted.2.1 :: others.1, others.2) := by
  cases item with
  | field selected hasTypename items =>
    simp only [SelectionItem.shape?, Option.ite_none_left_eq_some, Option.some.injEq] at h
    obtain ⟨hne, rfl⟩ := h
    simp [Flattener.items, Flattener.item, hne, SelectionItem.candidate, SelectionItem.refill]
  | inlineFragment onType directives uses hasTypename items =>
    obtain rfl := Option.some.inj h
    simp [Flattener.items, Flattener.item, SelectionItem.candidate, SelectionItem.refill]
  | spread name directives uses => simp [SelectionItem.shape?] at h

/-- The slot that was reserved last before `later` is filled in its place. -/
theorem fill_reserve (f : Flattener) (baseType name : String) (set : SelectionSet)
    (taken : List String) (later : List Model) :
    fill ⟨taken, (f.reserve baseType name).models ++ later⟩ f.models.length set =
      ⟨taken, f.models ++ ⟨baseType, name, set⟩ :: later⟩ := by
  simp [fill, reserve, List.modify_eq_take_drop]

theorem hoist_eq (f : Flattener) (candidate baseType : String) (hasTypename : Bool)
    {inner : Flattener → List SelectionItem × Flattener} {part : Flattening (List SelectionItem)}
    (h : inner (f.reserve baseType (freeName f.taken candidate)) =
      (part.result, (f.reserve baseType (freeName f.taken candidate)).extend part)) :
    f.hoist candidate baseType hasTypename inner =
      (freeName f.taken candidate, part.result, ⟨part.taken, f.models ++
        ⟨baseType, freeName f.taken candidate, ⟨hasTypename, part.result⟩⟩ :: part.models⟩) := by
  simp only [hoist, h, extend, fill_reserve]

/-- From any state, the flattener makes what the direct reading makes, and adds its models. -/
theorem items_eq (f : Flattener) (items : List SelectionItem) :
    f.items items =
      ((flattenItems f.taken items).result, f.extend (flattenItems f.taken items)) := by
  induction items using items_induction generalizing f with
  | nil => simp [Flattener.items, flattenItems, extend]
  | plain item rest h ih =>
    rw [items_cons_plain h, flattenItems_cons_plain h, ih]
    rfl
  | shape item shape rest h ihItems ihRest =>
    rw [items_cons_shape h, flattenItems_cons_shape h,
      hoist_eq f item.candidate shape.name shape.set.hasTypename (ihItems _)]
    simp [ihRest, extend, reserve]

end Flattener

theorem SelectionSet.flatten_eq (set : SelectionSet) :
    set.flatten = (⟨set.hasTypename, (flattenItems reservedNames set.items).result⟩,
      (flattenItems reservedNames set.items).models) := by
  simp [SelectionSet.flatten, Flattener.start, Flattener.items_eq, Flattener.extend]

end QueryModel
