import Mathlib.Data.List.Induction
import Mathlib.Data.String.Basic
import QueryModel.Table

/-!
# What tables hold

A table is known by its keys in order and by what is found under each, and a table in key order by
the latter alone. When values are inserted one after another, the last one under a key is found,
and the key stands where it first came in.
-/

set_option autoImplicit false

namespace QueryModel

section Places

variable {α : Type}

def FirstWith (P : α → Prop) (xs : List α) (x : α) : Prop :=
  P x ∧ ∃ before after, xs = before ++ x :: after ∧ ∀ y ∈ before, ¬ P y

theorem find?_eq_some_iff_firstWith {p : α → Bool} {xs : List α} {x : α} :
    xs.find? p = some x ↔ FirstWith (p · = true) xs x := by
  simp [FirstWith, List.find?_eq_some_iff_append]

theorem findSome?_eq_some_iff_firstWith {β : Type} {f : α → Option β} {xs : List α} {b : β} :
    xs.findSome? f = some b ↔
      ∃ x, FirstWith (fun x => (f x).isSome = true) xs x ∧ f x = some b := by
  rw [List.findSome?_eq_some_iff]
  constructor
  · rintro ⟨before, x, after, hxs, hx, hbefore⟩
    refine ⟨x, ⟨by simp [hx], before, after, hxs, ?_⟩, hx⟩
    intro y hy
    simp [hbefore y hy]
  · rintro ⟨x, ⟨-, before, after, hxs, hbefore⟩, hx⟩
    exact ⟨before, x, after, hxs, hx, by simpa using hbefore⟩

def LastWith (P : α → Prop) (xs : List α) (x : α) : Prop :=
  P x ∧ ∃ before after, xs = before ++ x :: after ∧ ∀ y ∈ after, ¬ P y

theorem firstWith_reverse {P : α → Prop} {xs : List α} {x : α} :
    FirstWith P xs.reverse x ↔ LastWith P xs x := by
  constructor
  · rintro ⟨hx, before, after, hxs, hbefore⟩
    refine ⟨hx, after.reverse, before.reverse, ?_, by simpa using hbefore⟩
    rw [← List.reverse_reverse xs, hxs]
    simp
  · rintro ⟨hx, before, after, rfl, hafter⟩
    exact ⟨hx, after.reverse, before.reverse, by simp, by simpa using hafter⟩

end Places

section Repetitions

theorem eraseDups_concat (names : List String) (name : String) :
    (names ++ [name]).eraseDups =
      if name ∈ names then names.eraseDups else names.eraseDups ++ [name] := by
  rw [List.eraseDups_append, List.removeAll]
  by_cases h : name ∈ names
  · simp [h]
  · simp [h, List.eraseDups_cons]

theorem eraseDups_filter_ordered (p : String → Bool) (names : List String) :
    (names.filter p).eraseDups.Pairwise fun m n => names.idxOf m < names.idxOf n := by
  induction names using List.reverseRecOn with
  | nil => exact .nil
  | append_singleton names name ih =>
    have hmem {m : String} (hm : m ∈ (names.filter p).eraseDups) : m ∈ names :=
      List.mem_of_mem_filter (List.mem_eraseDups.mp hm)
    have hbefore : (names.filter p).eraseDups.Pairwise fun m n =>
        (names ++ [name]).idxOf m < (names ++ [name]).idxOf n := by
      apply ih.imp_of_mem
      intro m n hm hn hlt
      rwa [List.idxOf_append_of_mem (hmem hm), List.idxOf_append_of_mem (hmem hn)]
    rw [List.filter_append]
    by_cases hp : p name = true
    · rw [List.filter_cons_of_pos hp, List.filter_nil, eraseDups_concat]
      split
      · exact hbefore
      · next hnew =>
        -- A name that is new among the chosen ones is new among all.
        have hname : name ∉ names := fun h => hnew (List.mem_filter.mpr ⟨h, hp⟩)
        refine List.pairwise_append.mpr ⟨hbefore, List.pairwise_singleton _ _, ?_⟩
        intro m hm n hn
        obtain rfl := List.mem_singleton.mp hn
        rw [List.idxOf_append_of_mem (hmem hm), List.idxOf_append_of_notMem hname]
        exact Nat.lt_add_right _ (List.idxOf_lt_length_of_mem (hmem hm))
    · rw [List.filter_cons_of_neg hp, List.filter_nil, List.append_nil]
      exact hbefore

end Repetitions

namespace Entries

variable {α : Type}

theorem lookup_eq_none {key : String} {entries : List (String × α)} (h : key ∉ keys entries) :
    entries.lookup key = none := by
  rw [← Option.not_isSome_iff_eq_none, lookup_isSome_iff]
  exact h

theorem lookup_eq_find? (key : String) (entries : List (String × α)) :
    entries.lookup key = (entries.find? fun e => e.1 == key).map Prod.snd := by
  induction entries with
  | nil => rfl
  | cons e rest ih =>
    obtain ⟨k, v⟩ := e
    by_cases h : k = key
    · subst h
      simp
    · rw [lookup_cons_of_ne (Ne.symm h), ih, List.find?_cons_of_neg (by simpa using h)]

theorem lookup_eq_some_iff_firstWith {key : String} {value : α} {entries : List (String × α)} :
    entries.lookup key = some value ↔ FirstWith (·.1 = key) entries (key, value) := by
  simp [FirstWith, List.lookup_eq_some_iff, ne_comm]

theorem eq_of_lookup {xs ys : List (String × α)} (hxs : (keys xs).Nodup)
    (hkeys : keys xs = keys ys) (hfind : ∀ key, xs.lookup key = ys.lookup key) : xs = ys := by
  induction xs generalizing ys with
  | nil =>
    cases ys with
    | nil => rfl
    | cons y ys => simp [keys] at hkeys
  | cons x xs ih =>
    cases ys with
    | nil => simp [keys] at hkeys
    | cons y ys =>
      obtain ⟨k, v⟩ := x
      obtain ⟨l, w⟩ := y
      obtain ⟨rfl, hrest⟩ : k = l ∧ keys xs = keys ys := by simpa [keys] using hkeys
      obtain ⟨hk, hnodup⟩ : k ∉ keys xs ∧ (keys xs).Nodup := List.nodup_cons.mp hxs
      have hv : v = w := by simpa using hfind k
      have htail : xs = ys := by
        refine ih hnodup hrest fun key => ?_
        by_cases hkey : k = key
        · rw [← hkey, lookup_eq_none hk, lookup_eq_none (hrest ▸ hk)]
        · have hrests := hfind key
          rwa [lookup_cons_of_ne (Ne.symm hkey), lookup_cons_of_ne (Ne.symm hkey)] at hrests
      rw [hv, htail]

theorem place_ascending {entry : String × α} {entries : List (String × α)}
    (hentry : entry.1 ∉ keys entries) (h : (keys entries).Pairwise (· < ·)) :
    (keys (place entry entries)).Pairwise (· < ·) := by
  induction entries with
  | nil => exact List.pairwise_singleton _ _
  | cons e rest ih =>
    obtain ⟨hfirst, hrest⟩ := List.pairwise_cons.mp h
    obtain ⟨hne, hnot⟩ : entry.1 ≠ e.1 ∧ entry.1 ∉ keys rest := by simpa [keys] using hentry
    rw [place]
    split
    · next hlt =>
      refine List.pairwise_cons.mpr ⟨?_, h⟩
      intro key hkey
      rcases List.mem_cons.mp hkey with rfl | hkey
      · exact hlt
      · exact lt_trans hlt (hfirst key hkey)
    · next hge =>
      refine List.pairwise_cons.mpr ⟨?_, ih hnot hrest⟩
      intro key hkey
      rcases List.mem_cons.mp (((place_perm entry rest).map Prod.fst).mem_iff.mp hkey) with
        rfl | hkey
      · exact lt_of_le_of_ne (not_lt.mp hge) hne.symm
      · exact hfirst key hkey

theorem inKeyOrder_ascending {entries : List (String × α)} (h : (keys entries).Nodup) :
    (keys (inKeyOrder entries)).Pairwise (· < ·) := by
  induction entries with
  | nil => exact .nil
  | cons e rest ih =>
    obtain ⟨he, hrest⟩ : e.1 ∉ keys rest ∧ (keys rest).Nodup := List.nodup_cons.mp h
    apply place_ascending _ (ih hrest)
    exact fun hmem => he (((inKeyOrder_perm rest).map Prod.fst).mem_iff.mp hmem)

end Entries

namespace Table

variable {α : Type}

theorem ext_get? {s t : Table α} (hkeys : s.keys = t.keys)
    (hget : ∀ key, s.get? key = t.get? key) : s = t :=
  Table.ext (Entries.eq_of_lookup s.distinct hkeys hget)

theorem get?_of_mem {t : Table α} {e : String × α} (he : e ∈ t.entries) :
    t.get? e.1 = some e.2 := by
  obtain ⟨entries, hdistinct⟩ := t
  change entries.lookup e.1 = some e.2
  induction entries with
  | nil => exact absurd he List.not_mem_nil
  | cons x entries ih =>
    obtain ⟨hx, hnodup⟩ : x.1 ∉ Entries.keys entries ∧ (Entries.keys entries).Nodup :=
      List.nodup_cons.mp hdistinct
    rcases List.mem_cons.mp he with rfl | hrest
    · exact List.lookup_cons_self
    · have hne : e.1 ≠ x.1 := fun h => hx (h ▸ List.mem_map_of_mem hrest)
      rw [Entries.lookup_cons_of_ne hne]
      exact ih hnodup hrest

theorem get?_eq_some {t : Table α} {key : String} {value : α} :
    t.get? key = some value ↔ (key, value) ∈ t.entries := by
  constructor
  · intro h
    obtain ⟨before, after, hentries, -⟩ := List.lookup_eq_some_iff.mp h
    simp [hentries]
  · exact get?_of_mem

theorem get?_insertNew (t : Table α) (key other : String) (value : α) :
    (t.insertNew key value).get? other =
      (t.get? other).or (if other = key then some value else none) := by
  by_cases hkey : t.contains key = true
  · rw [insertNew, if_pos hkey]
    by_cases hother : other = key
    · subst hother
      obtain ⟨v, hv⟩ := Option.isSome_iff_exists.mp hkey
      rw [hv, Option.some_or]
    · rw [if_neg hother, Option.or_none]
  · rw [insertNew, if_neg hkey, get?_insert]
    by_cases hother : other = key
    · subst hother
      have hnone : t.get? other = none := by simpa [contains] using hkey
      rw [hnone, if_pos rfl, Option.none_or]
    · rw [if_neg hother, if_neg hother, Option.or_none]

theorem keys_insertNew (t : Table α) (key : String) (value : α) :
    (t.insertNew key value).keys = if key ∈ t.keys then t.keys else t.keys ++ [key] := by
  by_cases hkey : t.contains key = true
  · rw [insertNew, if_pos hkey, if_pos ((contains_iff t key).mp hkey)]
  · rw [insertNew, if_neg hkey, keys_insert]

section Order

def Ascending (t : Table α) : Prop := t.keys.Pairwise (· < ·)

theorem inKeyOrder_ascending (t : Table α) : t.inKeyOrder.Ascending :=
  Entries.inKeyOrder_ascending t.distinct

theorem get?_inKeyOrder (t : Table α) (key : String) : t.inKeyOrder.get? key = t.get? key := by
  apply Option.ext
  intro value
  rw [get?_eq_some, get?_eq_some]
  exact (Entries.inKeyOrder_perm t.entries).mem_iff

/-- In key order a table is known by what is found under each key. -/
theorem Ascending.eq {s t : Table α} (hs : s.Ascending) (ht : t.Ascending)
    (hget : ∀ key, s.get? key = t.get? key) : s = t := by
  have hperm : s.keys.Perm t.keys := by
    rw [List.perm_ext_iff_of_nodup s.nodup_keys t.nodup_keys]
    intro key
    rw [← contains_iff, ← contains_iff, contains, contains, hget]
  apply ext_get? _ hget
  exact hperm.eq_of_pairwise (fun a b _ _ hab hba => absurd hba (lt_asymm hab)) hs ht

end Order

section Folding

variable {β : Type} (key : β → String) (value : β → Option α)

def gather (xs : List β) : Table α := xs.foldl (fun t x => t.insertSome (key x) (value x)) ∅

theorem gather_concat (xs : List β) (x : β) :
    gather key value (xs ++ [x]) = (gather key value xs).insertSome (key x) (value x) := by
  rw [gather, List.foldl_append]
  rfl

/-- The last element with a value under the key counts. -/
theorem get?_gather (xs : List β) (name : String) : (gather key value xs).get? name =
    xs.reverse.findSome? fun x => if key x = name then value x else none := by
  induction xs using List.reverseRecOn with
  | nil => rfl
  | append_singleton xs x ih =>
    rw [gather_concat, List.reverse_concat, List.findSome?_cons]
    cases hvalue : value x with
    | none => simpa [insertSome] using ih
    | some v =>
      rw [insertSome, get?_insert, ih]
      by_cases hname : key x = name
      · simp [hname]
      · simp [hname, Ne.symm hname]

theorem keys_gather (xs : List β) :
    (gather key value xs).keys = ((xs.filter fun x => (value x).isSome).map key).eraseDups := by
  induction xs using List.reverseRecOn with
  | nil => rfl
  | append_singleton xs x ih =>
    rw [gather_concat, List.filter_append, List.map_append]
    cases hvalue : value x with
    | none => simpa [insertSome, hvalue] using ih
    | some v =>
      have hlast : ([x].filter fun x => (value x).isSome).map key = [key x] := by simp [hvalue]
      rw [insertSome, keys_insert, ih, hlast, eraseDups_concat]
      simp only [List.mem_eraseDups]

end Folding

end Table

end QueryModel
