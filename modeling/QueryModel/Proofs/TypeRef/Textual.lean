import Mathlib.Data.List.Infix
import QueryModel.TypeRef

/-!
# Type references and their texts

What a record tells about a reference can be read off its text, if the name in it has no bracket
and no bang: a bang at the end, the number of opening brackets, a bang right before a closing
bracket, and the name that is left without brackets and bangs.
-/

set_option autoImplicit false

namespace QueryModel.TypeRef

def marks : List Char := ['[', ']', '!']

def Unmarked (t : TypeRef) : Prop := ∀ c ∈ marks, c ∉ t.name.toList

section Text

theorem toList_text_list (t : TypeRef) :
    (list t).text.toList = '[' :: (t.text.toList ++ [']']) := by
  simp [text]

theorem toList_text_nonNull (t : TypeRef) : (nonNull t).text.toList = t.text.toList ++ ['!'] := by
  simp [text]

theorem takeWhile_concat {p : Char → Bool} {c : Char} (hc : p c = false) (cs : List Char) :
    (cs ++ [c]).takeWhile p = cs.takeWhile p := by
  induction cs with
  | nil => simp [hc]
  | cons d cs ih => simp [List.takeWhile_cons, ih]

end Text

section Rules

variable {t : TypeRef}

theorem isNonNull_iff (h : t.Unmarked) : t.isNonNull = true ↔ ['!'] <:+ t.text.toList := by
  cases t with
  | named name =>
    have hbang : '!' ∉ name.toList := h '!' (by decide)
    constructor
    · intro hnull
      cases hnull
    · intro hend
      exact absurd (hend.subset (List.mem_singleton_self '!')) hbang
  | list of =>
    rw [toList_text_list, ← List.cons_append, List.singleton_suffix_iff_getLast?_eq_some,
      List.getLast?_concat]
    simp [isNonNull]
  | nonNull of =>
    rw [toList_text_nonNull]
    exact iff_of_true rfl (List.suffix_append _ _)

/-- A bang before a closing bracket comes from inside a list, or from where the text of the
elements meets the bracket of the list. -/
theorem hasRequiredElement_iff (h : t.Unmarked) :
    t.hasRequiredElement = true ↔ ['!', ']'] <:+: t.text.toList := by
  induction t with
  | named name =>
    have hbang : '!' ∉ name.toList := h '!' (by decide)
    constructor
    · intro hrequired
      cases hrequired
    · intro hinside
      exact absurd (hinside.subset List.mem_cons_self) hbang
  | list of ih =>
    have hopen : ¬ ['!', ']'] <+: '[' :: (of.text.toList ++ [']']) := by
      simp [List.prefix_cons_iff]
    have hseam : ['!', ']'] <:+ of.text.toList ++ [']'] ↔ ['!'] <:+ of.text.toList := by
      rw [List.suffix_concat_iff]
      constructor
      · rintro (hnil | ⟨init, hinit, hend⟩)
        · cases hnil
        · have hsame : ['!'] ++ [']'] = init ++ [']'] := hinit
          rwa [List.append_cancel_right hsame]
      · exact fun hend => .inr ⟨['!'], rfl, hend⟩
    rw [toList_text_list, List.infix_cons_iff, List.infix_concat_iff, hseam,
      ← isNonNull_iff (t := of) h, ← ih h]
    simp [hopen, hasRequiredElement]
  | nonNull of ih =>
    have hend : ¬ ['!', ']'] <:+ of.text.toList ++ ['!'] := by
      rw [List.suffix_concat_iff]
      rintro (hnil | ⟨init, hinit, -⟩)
      · cases hnil
      · have hlast := congrArg List.getLast? hinit
        simp at hlast
    rw [toList_text_nonNull, List.infix_concat_iff, ← ih h]
    simp [hend, hasRequiredElement]

theorem count_text (h : t.Unmarked) : t.text.toList.count '[' = t.dimension := by
  induction t with
  | named name => exact List.count_eq_zero.mpr (h '[' (by decide))
  | list of ih => simp [toList_text_list, dimension, ih h]
  | nonNull of ih => simp [toList_text_nonNull, dimension, ih h]

theorem length_takeWhile_text (h : t.Unmarked) :
    (t.text.toList.takeWhile (· = '[')).length = t.dimension := by
  induction t with
  | named name =>
    have hopen : '[' ∉ name.toList := h '[' (by decide)
    cases hname : name.toList with
    | nil => simp [text, dimension, hname]
    | cons c cs =>
      have hc : c ≠ '[' := fun hc => hopen (by simp [hname, hc])
      simp [text, dimension, hname, hc]
  | list of ih =>
    rw [toList_text_list, List.takeWhile_cons_of_pos (by decide), takeWhile_concat (by decide),
      List.length_cons, ih h, dimension]
  | nonNull of ih => rw [toList_text_nonNull, takeWhile_concat (by decide), ih h, dimension]

theorem filter_text (h : t.Unmarked) :
    (t.text.toList.filter fun c => c ∉ marks) = t.name.toList := by
  induction t with
  | named name =>
    apply List.filter_eq_self.mpr
    intro c hc
    have hmarks : c ∉ marks := fun hmark => h c hmark hc
    simpa using hmarks
  | list of ih =>
    rw [toList_text_list, List.filter_cons_of_neg (by decide), List.filter_append, ih h,
      List.filter_cons_of_neg (by decide), List.filter_nil, List.append_nil, name]
  | nonNull of ih =>
    rw [toList_text_nonNull, List.filter_append, ih h, List.filter_cons_of_neg (by decide),
      List.filter_nil, List.append_nil, name]

end Rules

/-- What is resolved from the wrappers of a reference is what its text tells: a bang at the end, an
opening bracket, no bang right before a closing bracket, the number of opening brackets, which all
stand at the start, and the name without brackets and bangs. -/
theorem resolve_textual (t : TypeRef) (h : t.Unmarked) :
    let raw := t.resolve.raw.toList
    (t.resolve.isRequired = true ↔ ['!'] <:+ raw) ∧
    (t.resolve.isArray = true ↔ '[' ∈ raw) ∧
    (t.resolve.isNullableArray = true ↔ '[' ∈ raw ∧ ¬ ['!', ']'] <:+: raw) ∧
    t.resolve.dimension = (if '[' ∈ raw then (raw.count '[' : Int) else -1) ∧
    raw.count '[' = (raw.takeWhile (· = '[')).length ∧
    t.resolve.name = String.ofList (raw.filter fun c => c ∉ marks) := by
  have hopen : '[' ∈ t.text.toList ↔ 0 < t.dimension := by
    rw [← count_text h, List.count_pos_iff]
  refine ⟨isNonNull_iff h, ?_, ?_, ?_, ?_, ?_⟩
  · simp [resolve, hopen]
  · simp [resolve, hopen, ← hasRequiredElement_iff h]
  · simp only [resolve, hopen, count_text h]
    by_cases hdimension : t.dimension = 0
    · simp [hdimension]
    · rw [if_neg hdimension, if_pos (Nat.pos_of_ne_zero hdimension)]
  · exact (count_text h).trans (length_takeWhile_text h).symm
  · exact ((congrArg String.ofList (filter_text h)).trans String.ofList_toList).symm

/-- A list in a list, with a doubled bang at the seam and one at the end. -/
theorem resolve_textual_nested :
    let t : TypeRef := .nonNull (.list (.list (.nonNull (.nonNull (.named "A")))))
    t.Unmarked ∧ t.resolve.raw = "[[A!!]]!" ∧ t.resolve.isNullableArray = false ∧
    let raw := t.resolve.raw.toList
    (t.resolve.isRequired = true ↔ ['!'] <:+ raw) ∧
    (t.resolve.isArray = true ↔ '[' ∈ raw) ∧
    (t.resolve.isNullableArray = true ↔ '[' ∈ raw ∧ ¬ ['!', ']'] <:+: raw) ∧
    t.resolve.dimension = (if '[' ∈ raw then (raw.count '[' : Int) else -1) ∧
    raw.count '[' = (raw.takeWhile (· = '[')).length ∧
    t.resolve.name = String.ofList (raw.filter fun c => c ∉ marks) := by
  intro t
  have h : t.Unmarked := by simp [t, Unmarked, marks, name]
  exact ⟨h, by decide, by decide, resolve_textual t h⟩

end QueryModel.TypeRef
