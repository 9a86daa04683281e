import Mathlib.Data.List.Nodup
import Mathlib.Data.List.Perm.Subperm
import QueryModel.Proofs.Flatten.Direct

/-!
# Names of models

A free name is never taken, since the candidate and its forms with underscores are more
than the names that are taken. So flattening gives distinct names, none of them that of a
root type. Read in order, the shapes of a flattened selection are its models; hence each
shape in it, at any depth and inside any model, is told by its name.
-/

set_option autoImplicit false

namespace QueryModel

def underscored : Nat → String → String
  | 0, name => name
  | k + 1, name => underscored k ("_" ++ name)

theorem length_underscored (k : Nat) (name : String) :
    (underscored k name).length = name.length + k := by
  induction k generalizing name with
  | zero => rfl
  | succ k ih =>
    rw [underscored, ih, String.length_append]
    change 1 + name.length + k = _
    omega

theorem underscored_injective (name : String) :
    Function.Injective fun k => underscored k name := by
  intro j k h
  have hlen := congrArg String.length h
  simp only [length_underscored] at hlen
  omega

theorem exists_free_form (taken : List String) (name : String) :
    ∃ k ≤ taken.length, underscored k name ∉ taken := by
  by_contra hall
  push Not at hall
  have hnodup : ((List.range (taken.length + 1)).map fun k => underscored k name).Nodup :=
    List.Nodup.map (underscored_injective name) List.nodup_range
  have hsub : ((List.range (taken.length + 1)).map fun k => underscored k name) ⊆ taken := by
    intro form hform
    obtain ⟨k, hk, rfl⟩ := List.mem_map.mp hform
    exact hall k (by simpa [Nat.lt_succ_iff] using hk)
  have hlen := (List.subperm_of_subset hnodup hsub).length_le
  simp only [List.length_map, List.length_range] at hlen
  omega

/-- The search for a free name, with no bound on the underscores that are put in front. -/
inductive Search (taken : List String) : String → String → Prop
  | free {name : String} (h : name ∉ taken) : Search taken name name
  | again {name result : String} (h : name ∈ taken) (hsearch : Search taken ("_" ++ name) result) :
      Search taken name result

section Searching

variable {taken : List String} {name result : String}

theorem search_freeNameFrom {tries : Nat} (h : ∃ k ≤ tries, underscored k name ∉ taken) :
    Search taken name (freeNameFrom taken tries name) := by
  induction tries generalizing name with
  | zero =>
    obtain ⟨k, hk, hfree⟩ := h
    obtain rfl : k = 0 := by omega
    exact .free hfree
  | succ tries ih =>
    by_cases htaken : name ∈ taken
    · rw [freeNameFrom, if_pos (List.contains_iff_mem.mpr htaken)]
      apply Search.again htaken
      apply ih
      obtain ⟨k, hk, hfree⟩ := h
      cases k with
      | zero => exact absurd htaken hfree
      | succ k => exact ⟨k, by omega, hfree⟩
    · rw [freeNameFrom, if_neg (by simpa using htaken)]
      exact .free htaken

theorem search_freeName (taken : List String) (candidate : String) :
    Search taken candidate (freeName taken candidate) :=
  search_freeNameFrom (exists_free_form taken candidate)

theorem Search.not_mem (h : Search taken name result) : result ∉ taken := by
  induction h with
  | free h => exact h
  | again _ _ ih => exact ih

theorem Search.form (h : Search taken name result) : ∃ k, result = underscored k name := by
  induction h with
  | free _ => exact ⟨0, rfl⟩
  | again _ _ ih =>
    obtain ⟨k, hk⟩ := ih
    exact ⟨k + 1, hk⟩

end Searching

theorem freeName_not_mem (taken : List String) (candidate : String) :
    freeName taken candidate ∉ taken :=
  (search_freeName taken candidate).not_mem

theorem freeName_form (taken : List String) (candidate : String) :
    ∃ k, freeName taken candidate = underscored k candidate :=
  (search_freeName taken candidate).form

/-- The names that a run adds to the taken ones are those of its models, last one first. -/
theorem flattenItems_taken (taken : List String) (items : List SelectionItem) :
    (flattenItems taken items).taken =
      ((flattenItems taken items).models.map Model.modelType).reverse ++ taken := by
  induction items using items_induction generalizing taken with
  | nil => simp [flattenItems]
  | plain item rest h ih =>
    rw [flattenItems_cons_plain h]
    exact ih taken
  | shape item shape rest h ihItems ihRest =>
    rw [flattenItems_cons_shape h]
    simp only [ihRest, ihItems, List.map_cons, List.map_append, List.reverse_cons,
      List.reverse_append, List.append_assoc, List.singleton_append]

theorem flattenItems_nodup {taken : List String} (ht : taken.Nodup)
    (items : List SelectionItem) : (flattenItems taken items).taken.Nodup := by
  induction items using items_induction generalizing taken with
  | nil => simpa [flattenItems] using ht
  | plain item rest h ih =>
    rw [flattenItems_cons_plain h]
    exact ih ht
  | shape item shape rest h ihItems ihRest =>
    rw [flattenItems_cons_shape h]
    exact ihRest (ihItems (List.nodup_cons.mpr ⟨freeName_not_mem taken _, ht⟩))

theorem flattenItems_result_eq_nil (taken : List String) (items : List SelectionItem) :
    (flattenItems taken items).result = [] ↔ items = [] := by
  cases items with
  | nil => simp [flattenItems]
  | cons item rest => simp [flattenItems]

def Model.shape (m : Model) : Shape := ⟨m.modelType, m.set⟩

/-- The shapes of a flattened selection are its models, in the same order. -/
theorem shapesOf_flattenItems (taken : List String) (items : List SelectionItem) :
    shapesOf (flattenItems taken items).result =
      (flattenItems taken items).models.map Model.shape := by
  induction items using items_induction generalizing taken with
  | nil => simp [flattenItems, shapesOf]
  | plain item rest h ih =>
    rw [flattenItems_cons_plain h, shapesOf_cons_plain h]
    exact ih taken
  | shape item shape rest h ihItems ihRest =>
    rw [flattenItems_cons_shape h]
    have hshape := SelectionItem.shape?_refill h (freeName taken item.candidate)
      (flattenItems (freeName taken item.candidate :: taken) shape.set.items).result
      (flattenItems_result_eq_nil _ _).mp
    simp only [shapesOf_cons_shape hshape, SelectionSet.shapes, ihItems, ihRest, List.map_cons,
      List.map_append, Model.shape]

theorem SelectionSet.shapes_flatten (set : SelectionSet) :
    set.flatten.1.shapes = set.flatten.2.map Model.shape := by
  rw [SelectionSet.flatten_eq]
  exact shapesOf_flattenItems reservedNames set.items

theorem filter_modelType_eq {models : List Model} (hn : (models.map Model.modelType).Nodup)
    {m : Model} (hm : m ∈ models) :
    models.filter (fun other => other.modelType = m.modelType) = [m] := by
  induction models with
  | nil => simp at hm
  | cons first rest ih =>
    obtain ⟨hfirst, hrest⟩ := List.nodup_cons.mp hn
    rcases List.mem_cons.mp hm with rfl | hm
    · have hnone : rest.filter (fun other => other.modelType = m.modelType) = [] := by
        rw [List.filter_eq_nil_iff]
        intro other ho heq
        exact hfirst (by simpa using ⟨other, ho, by simpa using heq⟩)
      simp [hnone]
    · have hne : first.modelType ≠ m.modelType := fun e =>
        hfirst (e ▸ List.mem_map_of_mem hm)
      simp [hne, ih hrest hm]

theorem flatten_models_nodup (set : SelectionSet) :
    (set.flatten.2.map Model.modelType).Nodup ∧
      ∀ m ∈ set.flatten.2, m.modelType ∉ reservedNames := by
  have h := flattenItems_nodup (by decide : reservedNames.Nodup) set.items
  rw [SelectionSet.flatten_eq]
  rw [flattenItems_taken, List.nodup_append, List.nodup_reverse] at h
  obtain ⟨hmodels, -, hdisjoint⟩ := h
  refine ⟨hmodels, fun m hm hreserved => ?_⟩
  exact hdisjoint m.modelType (List.mem_reverse.mpr (List.mem_map_of_mem hm)) _ hreserved rfl

/-- The models of a flattened selection have distinct names, none of them that of a root
type. Every shape, wherever in the selection or in a model it stands, has the name of
just one model, and that model holds what is selected on the shape. -/
theorem flatten_shape_model (set : SelectionSet) :
    (set.flatten.2.map Model.modelType).Nodup ∧
    (∀ m ∈ set.flatten.2, m.modelType ∉ ["Query", "Mutation", "Subscription"]) ∧
    ∀ shape : Shape,
      (shape ∈ set.flatten.1.shapes ∨ ∃ m ∈ set.flatten.2, shape ∈ m.set.shapes) →
      ∃ m, set.flatten.2.filter (fun other => other.modelType = shape.name) = [m] ∧
        m.set = shape.set := by
  obtain ⟨hnodup, hreserved⟩ := flatten_models_nodup set
  have hshapes := set.shapes_flatten
  refine ⟨hnodup, hreserved, fun shape hshape => ?_⟩
  have hmem : shape ∈ set.flatten.1.shapes := by
    rcases hshape with h | ⟨m, hm, h⟩
    · exact h
    · have hm' : m.shape ∈ set.flatten.1.shapes := hshapes ▸ List.mem_map_of_mem hm
      exact shapes_of_shape hm' h
  rw [hshapes] at hmem
  obtain ⟨m, hm, rfl⟩ := List.mem_map.mp hmem
  exact ⟨m, filter_modelType_eq hnodup hm, rfl⟩

end QueryModel
