/-!
# Tables in order of first insertion

A table maps keys to values and lists its keys in the order in which they first came
in. Inserting under a key that is present replaces the value and keeps the place. The
entries can be put in key order.
-/

set_option autoImplicit false

namespace QueryModel

namespace Entries

variable {α : Type}

/-- Replaces the value of the key, or adds the pair at the end. -/
def put (key : String) (value : α) : List (String × α) → List (String × α)
  | [] => [(key, value)]
  | (k, v) :: rest => if k = key then (k, value) :: rest else (k, v) :: put key value rest

def keys (entries : List (String × α)) : List String := entries.map Prod.fst

def place (entry : String × α) : List (String × α) → List (String × α)
  | [] => [entry]
  | e :: rest => if entry.1 < e.1 then entry :: e :: rest else e :: place entry rest

def inKeyOrder (entries : List (String × α)) : List (String × α) := entries.foldr place []

theorem place_perm (entry : String × α) (entries : List (String × α)) :
    (place entry entries).Perm (entry :: entries) := by
  induction entries with
  | nil => exact .refl _
  | cons e rest ih =>
    rw [place]
    split
    · exact .refl _
    · exact (ih.cons e).trans (.swap entry e rest)

theorem inKeyOrder_perm (entries : List (String × α)) : (inKeyOrder entries).Perm entries := by
  induction entries with
  | nil => exact .refl _
  | cons e rest ih => exact (place_perm e _).trans (ih.cons e)

theorem keys_put (key : String) (value : α) (entries : List (String × α)) :
    keys (put key value entries) =
      if key ∈ keys entries then keys entries else keys entries ++ [key] := by
  induction entries with
  | nil => simp [put, keys]
  | cons e rest ih =>
    obtain ⟨k, v⟩ := e
    by_cases h : k = key
    · simp [put, keys, h]
    · have hk : ¬ key = k := fun e => h e.symm
      simp only [keys, List.map_cons, put, h, if_false, List.mem_cons, hk, false_or] at ih ⊢
      rw [ih]
      split <;> rename_i hm <;> simp [hm]

theorem lookup_cons_of_ne {key other : String} (h : other ≠ key) (value : α)
    (rest : List (String × α)) : List.lookup other ((key, value) :: rest) = rest.lookup other := by
  rw [List.lookup_cons, beq_false_of_ne h]

theorem lookup_put_self (key : String) (value : α) (entries : List (String × α)) :
    (put key value entries).lookup key = some value := by
  induction entries with
  | nil => exact List.lookup_cons_self
  | cons e rest ih =>
    obtain ⟨k, v⟩ := e
    by_cases h : k = key
    · rw [put, if_pos h, h, List.lookup_cons_self]
    · rw [put, if_neg h, lookup_cons_of_ne (Ne.symm h), ih]

theorem lookup_put_of_ne {key other : String} (value : α) (entries : List (String × α))
    (h : other ≠ key) : (put key value entries).lookup other = entries.lookup other := by
  induction entries with
  | nil => exact lookup_cons_of_ne h value []
  | cons e rest ih =>
    obtain ⟨k, v⟩ := e
    by_cases hk : k = key
    · subst hk
      rw [put, if_pos rfl, lookup_cons_of_ne h, lookup_cons_of_ne h]
    · rw [put, if_neg hk, List.lookup_cons, List.lookup_cons, ih]

theorem lookup_isSome_iff (key : String) (entries : List (String × α)) :
    (entries.lookup key).isSome ↔ key ∈ keys entries := by
  simp [List.lookup_isSome_iff, keys]

theorem nodup_keys_put (key : String) (value : α) {entries : List (String × α)}
    (h : (keys entries).Nodup) : (keys (put key value entries)).Nodup := by
  rw [keys_put]
  split
  · exact h
  · rename_i hk
    rw [List.nodup_append]
    refine ⟨h, by simp, ?_⟩
    intro a ha b hb
    simp only [List.mem_singleton] at hb
    subst hb
    exact fun e => hk (e ▸ ha)

end Entries

structure Table (α : Type) where
  entries : List (String × α)
  distinct : (Entries.keys entries).Nodup

namespace Table

variable {α : Type}

def empty : Table α := ⟨[], by simp [Entries.keys]⟩

instance : EmptyCollection (Table α) := ⟨empty⟩

instance : Inhabited (Table α) := ⟨empty⟩

theorem ext {s t : Table α} (h : s.entries = t.entries) : s = t := by
  cases s; cases t; simp_all

instance [DecidableEq α] : DecidableEq (Table α) := fun s t =>
  if h : s.entries = t.entries then isTrue (ext h)
  else isFalse fun e => h (congrArg entries e)

def insert (t : Table α) (key : String) (value : α) : Table α :=
  ⟨Entries.put key value t.entries, Entries.nodup_keys_put key value t.distinct⟩

def get? (t : Table α) (key : String) : Option α := t.entries.lookup key

def keys (t : Table α) : List String := Entries.keys t.entries

def values (t : Table α) : List α := t.entries.map Prod.snd

def contains (t : Table α) (key : String) : Bool := (t.get? key).isSome

def isEmpty (t : Table α) : Bool := t.entries.isEmpty

def insertNew (t : Table α) (key : String) (value : α) : Table α :=
  if t.contains key then t else t.insert key value

def insertSome (t : Table α) (key : String) : Option α → Table α
  | some value => t.insert key value
  | none => t

def inKeyOrder (t : Table α) : Table α where
  entries := Entries.inKeyOrder t.entries
  distinct := ((Entries.inKeyOrder_perm t.entries).map Prod.fst).nodup_iff.mpr t.distinct

theorem nodup_keys (t : Table α) : t.keys.Nodup := t.distinct

theorem keys_insert (t : Table α) (key : String) (value : α) :
    (t.insert key value).keys = if key ∈ t.keys then t.keys else t.keys ++ [key] :=
  Entries.keys_put key value t.entries

theorem get?_insert (t : Table α) (key other : String) (value : α) :
    (t.insert key value).get? other = if other = key then some value else t.get? other := by
  by_cases h : other = key
  · subst h; simp [insert, get?, Entries.lookup_put_self]
  · simp [insert, get?, Entries.lookup_put_of_ne value t.entries h, h]

theorem contains_iff (t : Table α) (key : String) : t.contains key ↔ key ∈ t.keys :=
  Entries.lookup_isSome_iff key t.entries

end Table

end QueryModel
