import QueryModel.Proofs.Flatten.Fields
import QueryModel.Proofs.Text.PascalCase

/-!
# Model names by counting

A candidate has no underscore, so forms of different candidates never meet, and the forms of one
candidate that are taken are the first ones. How many there are is how often the candidate came
before, with one more for a root name. So the search for a free name ends after that many
underscores, and the names of all models are told by their candidates alone.
-/

set_option autoImplicit false

namespace QueryModel

section Searching

variable {taken : List String} {name : String}

theorem Search.unique {first second : String} (hfirst : Search taken name first)
    (hsecond : Search taken name second) : first = second := by
  induction hfirst with
  | free h =>
    cases hsecond with
    | free _ => rfl
    | again htaken _ => exact absurd htaken h
  | again h _ ih =>
    cases hsecond with
    | free hfree => exact absurd h hfree
    | again _ hsearch => exact ih hsearch

theorem search_iff {result : String} :
    Search taken name result ↔ result = freeName taken name := by
  constructor
  · intro h
    exact h.unique (search_freeName taken name)
  · rintro rfl
    exact search_freeName taken name

theorem freeName_eq_underscored {n : Nat} (htaken : ∀ k < n, underscored k name ∈ taken)
    (hfree : underscored n name ∉ taken) : freeName taken name = underscored n name := by
  refine (search_iff.mp ?_).symm
  induction n generalizing name with
  | zero => exact .free hfree
  | succ n ih =>
    apply Search.again (htaken 0 (by omega))
    exact ih (fun k hk => htaken (k + 1) (by omega)) hfree

end Searching

section Forms

variable {c d : String}

theorem toList_underscored (k : Nat) (name : String) :
    (underscored k name).toList = List.replicate k '_' ++ name.toList := by
  induction k generalizing name with
  | zero => rfl
  | succ k ih =>
    rw [underscored, ih, String.toList_append, List.replicate_succ', List.append_assoc]
    rfl

theorem underscored_inj (hc : '_' ∉ c.toList) (hd : '_' ∉ d.toList) {j k : Nat} :
    underscored j c = underscored k d ↔ j = k ∧ c = d := by
  have hdrop (n : Nat) (e : String) (he : '_' ∉ e.toList) :
      (underscored n e).toList.dropWhile (· == '_') = e.toList := by
    rw [toList_underscored, List.dropWhile_append_of_pos (by simp)]
    cases hlist : e.toList with
    | nil => rfl
    | cons first rest =>
      have hfirst : first ≠ '_' := by
        rintro rfl
        exact he (by simp [hlist])
      simp [hfirst]
  constructor
  · intro h
    have hsame : c.toList = d.toList := by rw [← hdrop j c hc, ← hdrop k d hd, h]
    obtain rfl : c = d := String.toList_injective hsame
    exact ⟨underscored_injective c h, rfl⟩
  · rintro ⟨rfl, rfl⟩
    rfl

theorem underscore_not_mem_candidate {item : SelectionItem} {shape : Shape}
    (h : item.shape? = some shape) : '_' ∉ item.candidate.toList := by
  cases item with
  | field selected hasTypename items => exact underscore_not_mem_pascalCase selected.name
  | inlineFragment onType directives uses hasTypename items =>
    rw [SelectionItem.candidate, fragmentCandidate, String.toList_append, List.mem_append]
    rintro (hname | hsuffix)
    · exact underscore_not_mem_pascalCase onType hname
    · exact absurd hsuffix (by decide)
  | spread name directives uses => simp [SelectionItem.shape?] at h

theorem underscore_not_mem_candidates (items : List SelectionItem) :
    ∀ candidate ∈ candidatesOf items, '_' ∉ candidate.toList := by
  induction items using items_induction with
  | nil => simp [candidatesOf]
  | plain item rest h ih =>
    rw [candidatesOf_cons_plain h]
    exact ih
  | shape item shape rest h ihItems ihRest =>
    rw [candidatesOf_cons_shape h, List.forall_mem_cons, List.forall_mem_append]
    exact ⟨underscore_not_mem_candidate h, ihItems, ihRest⟩

end Forms

/-- Of every candidate as many forms are taken, the first ones, as it was seen times. -/
def Counted (taken seen : List String) : Prop :=
  ∀ candidate : String, '_' ∉ candidate.toList → ∀ k,
    underscored k candidate ∈ taken ↔ k < seen.count candidate

theorem counted_reserved : Counted reservedNames reservedNames := by
  intro candidate hcandidate k
  have hplain : ∀ name ∈ reservedNames, '_' ∉ name.toList := by decide
  have hnodup : reservedNames.Nodup := by decide
  rw [hnodup.count]
  constructor
  · intro hmem
    have hform : underscored 0 (underscored k candidate) = underscored k candidate := rfl
    obtain ⟨rfl, -⟩ := (underscored_inj (hplain _ hmem) hcandidate).mp hform
    rw [if_pos (show candidate ∈ reservedNames from hmem)]
    omega
  · intro hk
    split at hk
    · next hmem =>
      obtain rfl : k = 0 := by omega
      exact hmem
    · omega

section Run

variable {taken seen : List String}

theorem Counted.freeName (h : Counted taken seen) {candidate : String}
    (hc : '_' ∉ candidate.toList) :
    freeName taken candidate = underscored (seen.count candidate) candidate :=
  freeName_eq_underscored (fun k hk => (h candidate hc k).mpr hk) fun hmem =>
    Nat.lt_irrefl _ ((h candidate hc _).mp hmem)

theorem Counted.take (h : Counted taken seen) {candidate : String}
    (hc : '_' ∉ candidate.toList) :
    Counted (underscored (seen.count candidate) candidate :: taken) (seen ++ [candidate]) := by
  intro other hother k
  rw [List.mem_cons, underscored_inj hother hc, h other hother, List.count_append,
    List.count_singleton]
  by_cases heq : candidate = other
  · subst heq
    simp only [and_true, beq_self_eq_true, if_true]
    omega
  · have hne : ¬ other = candidate := fun h => heq h.symm
    simp [heq, hne]

def countedNames (seen : List String) : List String → List String
  | [] => []
  | candidate :: rest =>
    underscored (seen.count candidate) candidate :: countedNames (seen ++ [candidate]) rest

theorem countedNames_append (seen first second : List String) :
    countedNames seen (first ++ second) =
      countedNames seen first ++ countedNames (seen ++ first) second := by
  induction first generalizing seen with
  | nil => simp [countedNames]
  | cons candidate first ih => simp [countedNames, ih]

theorem countedNames_eq_mapIdx (seen candidates : List String) :
    countedNames seen candidates = candidates.mapIdx fun k candidate =>
      underscored ((seen ++ candidates.take k).count candidate) candidate := by
  induction candidates generalizing seen with
  | nil => rfl
  | cons candidate rest ih => simp [countedNames, ih, List.mapIdx_cons]

/-- A run names its models by counting, and leaves the count of all it has seen. -/
theorem flattenItems_counted (h : Counted taken seen) (items : List SelectionItem) :
    (flattenItems taken items).models.map Model.modelType =
        countedNames seen (candidatesOf items) ∧
      Counted (flattenItems taken items).taken (seen ++ candidatesOf items) := by
  induction items using items_induction generalizing taken seen with
  | nil => simpa [flattenItems, candidatesOf, countedNames] using h
  | plain item rest hitem ih =>
    rw [flattenItems_cons_plain hitem, candidatesOf_cons_plain hitem]
    exact ih h
  | shape item shape rest hitem ihItems ihRest =>
    have hc := underscore_not_mem_candidate hitem
    obtain ⟨hinner, hafter⟩ := ihItems (h.take hc)
    obtain ⟨hothers, hend⟩ := ihRest hafter
    rw [flattenItems_cons_shape hitem, candidatesOf_cons_shape hitem, h.freeName hc]
    constructor
    · simp only [List.map_cons, List.map_append, hinner, hothers, countedNames,
        countedNames_append]
    · simpa using hend

end Run

namespace SelectionSet

theorem flatten_modelTypes (set : SelectionSet) :
    set.flatten.2.map Model.modelType = countedNames reservedNames set.candidates := by
  rw [flatten_eq]
  exact (flattenItems_counted counted_reserved set.items).1

/-- The search for a name always ends, with the free name and no other. No candidate has an
underscore, and each model is named after its candidate, with an underscore in front for every
earlier model of the candidate and one more if the candidate is the name of a root type. -/
theorem flatten_modelTypes_counted (set : SelectionSet) :
    (∀ taken candidate name, Search taken candidate name ↔ name = freeName taken candidate) ∧
    (∀ candidate ∈ set.candidates, '_' ∉ candidate.toList) ∧
    set.flatten.2.map Model.modelType = set.candidates.mapIdx fun k candidate =>
      underscored ((set.candidates.take k).count candidate +
        if candidate ∈ ["Query", "Mutation", "Subscription"] then 1 else 0) candidate := by
  refine ⟨fun _ _ _ => search_iff, underscore_not_mem_candidates set.items, ?_⟩
  have hnodup : reservedNames.Nodup := by decide
  have hcount (k : Nat) (candidate : String) :
      (reservedNames ++ set.candidates.take k).count candidate =
        (set.candidates.take k).count candidate + if candidate ∈ reservedNames then 1 else 0 := by
    rw [List.count_append, hnodup.count, Nat.add_comm]
  rw [flatten_modelTypes, countedNames_eq_mapIdx]
  simp only [hcount]
  rfl

end SelectionSet

end QueryModel
