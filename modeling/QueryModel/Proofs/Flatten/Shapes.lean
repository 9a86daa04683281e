import QueryModel.Flatten.Basic

/-!
# Shapes of a selection

A shape is a place that flattening gives a name to: an inline fragment, or a field with
something selected on it. Shapes are listed in order, a shape before those it holds. The
two kinds of shapes are put back in the same way, so that an item is either plain, and
stays as it is, or a shape, and takes a name and new items.
-/

set_option autoImplicit false

namespace QueryModel

/-- The type name that an inline fragment or a field carries, and what is selected on it. -/
structure Shape where
  name : String
  set : SelectionSet

mutual

def SelectionItem.shapes : SelectionItem → List Shape
  | .field selected hasTypename items =>
    if items.isEmpty then []
    else ⟨selected.type.name, ⟨hasTypename, items⟩⟩ :: shapesOf items
  | .inlineFragment onType _ _ hasTypename items =>
    ⟨onType, ⟨hasTypename, items⟩⟩ :: shapesOf items
  | .spread _ _ _ => []

def shapesOf : List SelectionItem → List Shape
  | [] => []
  | item :: rest => item.shapes ++ shapesOf rest

end

def SelectionSet.shapes (set : SelectionSet) : List Shape := shapesOf set.items

namespace SelectionItem

def shape? : SelectionItem → Option Shape
  | .field selected hasTypename items =>
    if items.isEmpty then none else some ⟨selected.type.name, ⟨hasTypename, items⟩⟩
  | .inlineFragment onType _ _ hasTypename items => some ⟨onType, ⟨hasTypename, items⟩⟩
  | .spread _ _ _ => none

def candidate : SelectionItem → String
  | .field selected _ _ => fieldCandidate selected
  | .inlineFragment onType _ _ _ _ => fragmentCandidate onType
  | .spread name _ _ => name

def refill (name : String) (items : List SelectionItem) : SelectionItem → SelectionItem
  | .field selected hasTypename _ => .field (selected.withType name) hasTypename items
  | .inlineFragment _ directives usesDirectives hasTypename _ =>
    .inlineFragment name directives usesDirectives hasTypename items
  | .spread name directives usesDirectives => .spread name directives usesDirectives

theorem refill_refill (item : SelectionItem) (name other : String)
    (items others : List SelectionItem) :
    (item.refill name items).refill other others = item.refill other others := by
  cases item <;> rfl

theorem refill_shape {item : SelectionItem} {shape : Shape} (h : item.shape? = some shape) :
    item.refill shape.name shape.set.items = item := by
  cases item with
  | field selected hasTypename items =>
    simp only [shape?, Option.ite_none_left_eq_some, Option.some.injEq] at h
    obtain ⟨-, rfl⟩ := h
    rfl
  | inlineFragment onType directives uses hasTypename items =>
    obtain rfl := Option.some.inj h
    rfl
  | spread name directives uses => simp [shape?] at h

theorem shape?_refill {item : SelectionItem} {shape : Shape} (h : item.shape? = some shape)
    (name : String) (items : List SelectionItem) (hi : items = [] → shape.set.items = []) :
    (item.refill name items).shape? = some ⟨name, ⟨shape.set.hasTypename, items⟩⟩ := by
  cases item with
  | field selected hasTypename inner =>
    simp only [shape?, Option.ite_none_left_eq_some, Option.some.injEq, List.isEmpty_iff] at h
    obtain ⟨hne, rfl⟩ := h
    have hitems : items ≠ [] := fun e => hne (hi e)
    simp [refill, shape?, hitems, SelectedField.withType]
  | inlineFragment onType directives uses hasTypename inner =>
    obtain rfl := Option.some.inj h
    rfl
  | spread name directives uses => simp [shape?] at h

end SelectionItem

theorem shapesOf_cons_plain {item : SelectionItem} (h : item.shape? = none)
    (rest : List SelectionItem) : shapesOf (item :: rest) = shapesOf rest := by
  cases item with
  | field selected hasTypename items =>
    have he : items = [] := by simpa [SelectionItem.shape?] using h
    simp [shapesOf, SelectionItem.shapes, he]
  | inlineFragment onType directives uses hasTypename items => simp [SelectionItem.shape?] at h
  | spread name directives uses => simp [shapesOf, SelectionItem.shapes]

theorem shapesOf_cons_shape {item : SelectionItem} {shape : Shape}
    (h : item.shape? = some shape) (rest : List SelectionItem) :
    shapesOf (item :: rest) = shape :: (shape.set.shapes ++ shapesOf rest) := by
  cases item with
  | field selected hasTypename items =>
    simp only [SelectionItem.shape?, Option.ite_none_left_eq_some, Option.some.injEq] at h
    obtain ⟨hne, rfl⟩ := h
    simp [shapesOf, SelectionItem.shapes, SelectionSet.shapes, hne]
  | inlineFragment onType directives uses hasTypename items =>
    obtain rfl := Option.some.inj h
    simp [shapesOf, SelectionItem.shapes, SelectionSet.shapes]
  | spread name directives uses => simp [SelectionItem.shape?] at h

theorem items_induction {motive : List SelectionItem → Prop} (nil : motive [])
    (plain : ∀ item rest, item.shape? = none → motive rest → motive (item :: rest))
    (shape : ∀ item shape rest, item.shape? = some shape → motive shape.set.items →
      motive rest → motive (item :: rest)) : ∀ items, motive items
  | [] => nil
  | .field selected hasTypename items :: rest => by
    have hitems := items_induction nil plain shape items
    have hrest := items_induction nil plain shape rest
    by_cases h : items = []
    · exact plain _ rest (by simp [SelectionItem.shape?, h]) hrest
    · exact shape _ ⟨selected.type.name, ⟨hasTypename, items⟩⟩ rest
        (by simp [SelectionItem.shape?, h]) hitems hrest
  | .inlineFragment onType directives uses hasTypename items :: rest =>
    shape _ ⟨onType, ⟨hasTypename, items⟩⟩ rest rfl (items_induction nil plain shape items)
      (items_induction nil plain shape rest)
  | .spread name directives uses :: rest =>
    plain _ rest rfl (items_induction nil plain shape rest)

theorem shapes_of_shape {items : List SelectionItem} {outer inner : Shape}
    (ho : outer ∈ shapesOf items) (hi : inner ∈ outer.set.shapes) : inner ∈ shapesOf items := by
  induction items using items_induction with
  | nil => simp [shapesOf] at ho
  | plain item rest h ih =>
    rw [shapesOf_cons_plain h] at ho ⊢
    exact ih ho
  | shape item shape rest h ihItems ihRest =>
    rw [shapesOf_cons_shape h, List.mem_cons, List.mem_append] at ho ⊢
    rcases ho with rfl | ho | ho
    · exact Or.inr (Or.inl hi)
    · exact Or.inr (Or.inl (ihItems ho))
    · exact Or.inr (Or.inr (ihRest ho))

end QueryModel
