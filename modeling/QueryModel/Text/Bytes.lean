/-!
# Byte offsets in a text

The bytes of a text are the UTF-8 bytes of its characters in order. An offset
counts bytes; cutting at an offset keeps whole characters, and is exact when the
offset lies between two characters.
-/

set_option autoImplicit false

namespace QueryModel.Text

def bytes (cs : List Char) : List UInt8 := cs.flatMap String.utf8EncodeChar

def dropBytes : Nat → List Char → List Char
  | 0, cs => cs
  | _ + 1, [] => []
  | n + 1, c :: cs => dropBytes (n + 1 - c.utf8Size) cs

def takeBytes : Nat → List Char → List Char
  | 0, _ => []
  | _ + 1, [] => []
  | n + 1, c :: cs => c :: takeBytes (n + 1 - c.utf8Size) cs

def slice (cs : List Char) (start stop : Nat) : List Char :=
  takeBytes (stop - start) (dropBytes start cs)

def IsBoundary (cs : List Char) (n : Nat) : Prop :=
  ∃ before after, cs = before ++ after ∧ (bytes before).length = n

theorem bytes_append (cs ds : List Char) : bytes (cs ++ ds) = bytes cs ++ bytes ds := by
  simp [bytes]

theorem length_bytes_singleton (c : Char) : (bytes [c]).length = c.utf8Size := by
  simp [bytes]

theorem dropBytes_append (cs ds : List Char) :
    dropBytes (bytes cs).length (cs ++ ds) = ds := by
  induction cs with
  | nil => simp [bytes, dropBytes]
  | cons c cs ih =>
    have hlen : (bytes (c :: cs)).length = c.utf8Size + (bytes cs).length := by
      simp [bytes]
    have hpos : 0 < c.utf8Size := c.utf8Size_pos
    obtain ⟨n, hn⟩ : ∃ n, (bytes (c :: cs)).length = n + 1 := ⟨_, by
      rw [hlen]; exact (Nat.sub_add_cancel (by omega : 1 ≤ c.utf8Size + (bytes cs).length)).symm⟩
    rw [hn, List.cons_append, dropBytes, ← hn, hlen, Nat.add_sub_cancel_left, ih]

theorem takeBytes_append (cs ds : List Char) :
    takeBytes (bytes cs).length (cs ++ ds) = cs := by
  induction cs with
  | nil => simp [bytes, takeBytes]
  | cons c cs ih =>
    have hlen : (bytes (c :: cs)).length = c.utf8Size + (bytes cs).length := by
      simp [bytes]
    have hpos : 0 < c.utf8Size := c.utf8Size_pos
    obtain ⟨n, hn⟩ : ∃ n, (bytes (c :: cs)).length = n + 1 := ⟨_, by
      rw [hlen]; exact (Nat.sub_add_cancel (by omega : 1 ≤ c.utf8Size + (bytes cs).length)).symm⟩
    rw [hn, List.cons_append, takeBytes, ← hn, hlen, Nat.add_sub_cancel_left, ih]

theorem slice_append (before middle after : List Char) :
    slice (before ++ middle ++ after) (bytes before).length
      ((bytes before).length + (bytes middle).length) = middle := by
  rw [slice, Nat.add_sub_cancel_left, List.append_assoc, dropBytes_append, takeBytes_append]

end QueryModel.Text
