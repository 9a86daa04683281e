import Mathlib.Data.List.TakeWhile
import QueryModel.Text.Lines

/-!
# What trimming leaves

Trimming takes blank characters from the two ends of a text and nothing else. So blank characters
around a text make no difference to it, and a text whose ends are not blank stays whole.
-/

set_option autoImplicit false

namespace QueryModel

open Text

theorem prefix_trimEnd (cs : List Char) : trimEnd cs <+: cs := by
  have hsuffix : trimStart cs.reverse <:+ cs.reverse := List.dropWhile_suffix isBlank
  rwa [← List.reverse_prefix, List.reverse_reverse] at hsuffix

theorem trimEnd_append {d : Char} (hd : isBlank d = false) (init after : List Char) :
    trimEnd (init ++ [d] ++ after) = init ++ [d] ++ trimEnd after := by
  have hreverse : (init ++ [d] ++ after).reverse = after.reverse ++ d :: init.reverse := by simp
  rw [trimEnd, trimEnd, hreverse, trimStart, trimStart, List.dropWhile_append]
  cases hblank : after.reverse.dropWhile isBlank with
  | nil => simp [hd]
  | cons e more => simp

theorem trim_append {c d : Char} {init more : List Char} (hc : isBlank c = false)
    (hd : isBlank d = false) (h : c :: more = init ++ [d]) (after : List Char) :
    trim (c :: more ++ after) = c :: more ++ trimEnd after := by
  rw [trim, List.cons_append, trimStart_of_head hc, ← List.cons_append, h, trimEnd_append hd]

theorem trim_eq_self {c d : Char} {init more : List Char} (hc : isBlank c = false)
    (hd : isBlank d = false) (h : c :: more = init ++ [d]) : trim (c :: more) = c :: more := by
  have htrim := trim_append hc hd h []
  simpa [trimEnd, trimStart] using htrim

theorem trim_split (cs : List Char) : ∃ before after, cs = before ++ (trim cs ++ after) ∧
    (∀ c ∈ before, isBlank c = true) ∧ ∀ c ∈ after, isBlank c = true := by
  have hend (ds : List Char) : ds = trimEnd ds ++ (ds.reverse.takeWhile isBlank).reverse := by
    rw [trimEnd, trimStart, ← List.reverse_append, List.takeWhile_append_dropWhile,
      List.reverse_reverse]
  refine ⟨cs.takeWhile isBlank, ((trimStart cs).reverse.takeWhile isBlank).reverse, ?_,
    fun c hc => List.mem_takeWhile_imp hc,
    fun c hc => List.mem_takeWhile_imp (List.mem_reverse.mp hc)⟩
  rw [trim, ← hend, trimStart, List.takeWhile_append_dropWhile]

section Around

variable {before after : List Char}

theorem trimStart_append_blank (hbefore : ∀ c ∈ before, isBlank c = true) (cs : List Char) :
    trimStart (before ++ cs) = trimStart cs := by
  have hnone : before.dropWhile isBlank = [] := List.dropWhile_eq_nil_iff.mpr hbefore
  simp [trimStart, List.dropWhile_append, hnone]

theorem trimEnd_append_blank (hafter : ∀ c ∈ after, isBlank c = true) (cs : List Char) :
    trimEnd (cs ++ after) = trimEnd cs := by
  rw [trimEnd, trimEnd, List.reverse_append, trimStart_append_blank (by simpa using hafter)]

theorem trimStart_trimStart (cs : List Char) : trimStart (trimStart cs) = trimStart cs := by
  have hblank : ∀ c ∈ cs.takeWhile isBlank, isBlank c = true := fun c hc =>
    List.mem_takeWhile_imp hc
  have hsplit : cs.takeWhile isBlank ++ trimStart cs = cs := List.takeWhile_append_dropWhile
  rw [← trimStart_append_blank hblank (trimStart cs), hsplit]

theorem trim_around (hbefore : ∀ c ∈ before, isBlank c = true)
    (hafter : ∀ c ∈ after, isBlank c = true) (cs : List Char) :
    trim (before ++ (cs ++ after)) = trim cs := by
  rw [trim, trim, trimStart_append_blank hbefore, trimStart, List.dropWhile_append]
  cases hcs : cs.dropWhile isBlank with
  | nil =>
    have hnone : after.dropWhile isBlank = [] := List.dropWhile_eq_nil_iff.mpr hafter
    simp [trimStart, hcs, hnone]
  | cons c more =>
    rw [List.isEmpty_cons, if_neg Bool.false_ne_true, trimEnd_append_blank hafter, trimStart, hcs]

theorem trim_trim (cs : List Char) : trim (trim cs) = trim cs := by
  obtain ⟨before, after, hcs, hbefore, hafter⟩ := trim_split cs
  rw [← trim_around hbefore hafter (trim cs), ← hcs]

end Around

end QueryModel
