/-!
# Tables of character numbers

Membership in lists of inclusive ranges, of runs with a step, and the form that tables of
expansions and of shifted runs give to a character. A long table is written as lines of
rows with a space between two rows and a point between the numbers of a row, which are
hexadecimal.
-/

set_option autoImplicit false

namespace QueryModel.Text

def hexValue? (c : Char) : Option Nat :=
  let n := c.toNat
  if 0x30 ≤ n && n ≤ 0x39 then some (n - 0x30)
  else if 0x41 ≤ n && n ≤ 0x46 then some (n - 0x37)
  else if 0x61 ≤ n && n ≤ 0x66 then some (n - 0x57)
  else none

def digitValue? (base : Nat) (c : Char) : Option Nat := (hexValue? c).filter (· < base)

def digitsValue? (base : Nat) (digits : List Char) : Option Nat :=
  digits.foldlM (fun value c => (digitValue? base c).map (value * base + ·)) 0

def inRanges (ranges : List (Nat × Nat)) (n : Nat) : Bool :=
  ranges.any fun (first, last) => first ≤ n && n ≤ last

def inRun (first last step n : Nat) : Bool :=
  first ≤ n && n ≤ last && (n - first) % step == 0

def inRuns (runs : List (Nat × Nat × Nat)) (n : Nat) : Bool :=
  runs.any fun (first, last, step) => inRun first last step n

def shiftOf (shifts : List (Nat × Nat × Nat × Int)) (n : Nat) : Option Int :=
  shifts.findSome? fun (first, last, step, distance) =>
    if inRun first last step n then some distance else none

def formOf (expansions : List (Nat × List Nat)) (shifts : List (Nat × Nat × Nat × Int))
    (c : Char) : List Char :=
  match expansions.lookup c.toNat with
  | some cs => cs.map Char.ofNat
  | none =>
    match shiftOf shifts c.toNat with
    | some d => [Char.ofNat (c.toNat + d).toNat]
    | none => [c]

def rowOf (cs : List Char) : List Nat :=
  (cs.splitOn '.').filterMap (digitsValue? 16)

def rows (lines : List String) : List (List Nat) :=
  lines.flatMap fun line => (line.toList.splitOn ' ').map rowOf

def rangesOf (lines : List String) : List (Nat × Nat) :=
  (rows lines).filterMap fun
    | [first, last] => some (first, last)
    | _ => none

def triplesOf (lines : List String) : List (Nat × Nat × Nat) :=
  (rows lines).filterMap fun
    | [a, b, c] => some (a, b, c)
    | _ => none

/-- Runs whose rows end with what the first character becomes. -/
def shiftsOf (lines : List String) : List (Nat × Nat × Nat × Int) :=
  (rows lines).filterMap fun
    | [first, last, step, target] => some (first, last, step, (target : Int) - first)
    | _ => none

def expansionsOf (lines : List String) : List (Nat × List Nat) :=
  (rows lines).filterMap fun
    | n :: target => some (n, target)
    | [] => none

end QueryModel.Text
