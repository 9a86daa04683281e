/-!
# Punycode

A label with characters beyond ASCII is written as its ASCII characters, a hyphen and a
run of digits for the others. The others are taken in the order of their numbers; each
is given by the distance to its place from the place of the one before, counted over all
places and numbers in between. A distance is written with variable digits of base 36,
the last one below a threshold that follows a bias, and the bias follows the distances.
-/

set_option autoImplicit false

namespace QueryModel.Punycode

def digit (n : Nat) : Char :=
  if n < 26 then Char.ofNat (0x61 + n) else Char.ofNat (0x30 + (n - 26))

def digitValue? (c : Char) : Option Nat :=
  let n := c.toNat
  if 0x61 ≤ n && n ≤ 0x7A then some (n - 0x61)
  else if 0x41 ≤ n && n ≤ 0x5A then some (n - 0x41)
  else if 0x30 ≤ n && n ≤ 0x39 then some (n - 0x30 + 26)
  else none

/-- The threshold of the digit at weight position `k`, a multiple of 36. -/
def threshold (bias k : Nat) : Nat := max 1 (min 26 (k - bias))

theorem threshold_bounds (bias k : Nat) : 1 ≤ threshold bias k ∧ threshold bias k ≤ 26 := by
  simp only [threshold]
  omega

def distanceDigits (bias k distance : Nat) : List Char :=
  let t := threshold bias k
  if distance < t then [digit distance]
  else
    digit (t + (distance - t) % (36 - t)) ::
      distanceDigits bias (k + 36) ((distance - t) / (36 - t))
termination_by distance
decreasing_by
  have h := threshold_bounds bias k
  have := Nat.div_le_self (distance - threshold bias k) (36 - threshold bias k)
  omega

def shrink (k distance : Nat) : Nat :=
  if 455 < distance then shrink (k + 36) (distance / 35)
  else k + 36 * distance / (distance + 38)
termination_by distance
decreasing_by omega

/-- The bias after a distance, when `count` characters have their place. -/
def nextBias (distance count : Nat) (first : Bool) : Nat :=
  let halved := if first then distance / 700 else distance / 2
  shrink 0 (halved + halved / count)

structure State where
  written : List Char
  /-- The distance that no digits tell yet. -/
  distance : Nat
  bias : Nat
  /-- The characters that have their place. -/
  placed : Nat

/-- Passes a character of the label while those numbered `target` are placed. -/
def State.pass (basic target : Nat) (s : State) (c : Char) : State :=
  if c.toNat < target then { s with distance := s.distance + 1 }
  else if c.toNat = target then
    ⟨s.written ++ distanceDigits s.bias 36 s.distance, 0,
      nextBias s.distance (s.placed + 1) (s.placed = basic), s.placed + 1⟩
  else s

def State.place (label : List Char) (basic : Nat) : List Nat → Nat → State → State
  | [], _, s => s
  | target :: rest, number, s =>
    let s := { s with distance := s.distance + (target - number) * (s.placed + 1) }
    let s := label.foldl (State.pass basic target) s
    place label basic rest (target + 1) { s with distance := s.distance + 1 }

def isBasic (c : Char) : Bool := c.toNat < 0x80

def encode (label : List Char) : List Char :=
  let basic := label.filter isBasic
  let others := ((label.filter fun c => !isBasic c).map Char.toNat).eraseDups.mergeSort
  let start : State := ⟨[], 0, 72, basic.length⟩
  basic ++ (if basic.isEmpty then [] else ['-']) ++
    (start.place label basic.length others 0x80).written

/-- Numbers of this size and above are refused while digits are read. -/
def limit : Nat := 4294967296

/-- Reads the digits of one distance and adds it to the value: the sum and the characters
after the digits. -/
def readDistance (bias : Nat) : (k weight value : Nat) → List Char → Option (Nat × List Char)
  | _, _, _, [] => none
  | k, weight, value, c :: cs => do
    let d ← digitValue? c
    let t := threshold bias k
    let sum := value + d * weight
    if limit ≤ weight || limit ≤ sum then none
    else if d < t then return (sum, cs)
    else readDistance bias (k + 36) (weight * (36 - t)) sum cs

/-- Puts characters in their places as long as digits follow. The fuel bounds their number. -/
def readPlaces : (fuel bias number place : Nat) → List Char → List Char → Option (List Char)
  | _, _, _, _, label, [] => some label
  | 0, _, _, _, _, _ :: _ => none
  | fuel + 1, bias, number, place, label, cs => do
    let (sum, rest) ← readDistance bias 36 1 place cs
    let count := label.length + 1
    let number := number + sum / count
    let index := sum % count
    if number.isValidChar then
      readPlaces fuel (nextBias (sum - place) count (place = 0)) number (index + 1)
        (label.insertIdx index (Char.ofNat number)) rest
    else none

/-- The characters before the last hyphen and those after it; a hyphen at the start does
not count. -/
def splitBasic (cs : List Char) : List Char × List Char :=
  let after := (cs.reverse.takeWhile (· != '-')).reverse
  let before := cs.take (cs.length - after.length - 1)
  if before.isEmpty then ([], cs) else (before, after)

def decode? (cs : List Char) : Option (List Char) :=
  let (basic, digits) := splitBasic cs
  if basic.all isBasic then readPlaces digits.length 72 0x80 0 basic digits else none

end QueryModel.Punycode
