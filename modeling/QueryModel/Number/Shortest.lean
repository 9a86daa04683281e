import QueryModel.Number.Binary64

/-!
# Shortest decimal of a double

The shortest decimal is the one with the fewest digits that reads back as the number,
and among those the nearest to it. The decimals that read back form an interval around
the number, closed when the mantissa is even. For each count of digits only the two
neighbours of the number on that decimal grid have to be tried.
-/

set_option autoImplicit false

namespace QueryModel

inductive HalfWay where
  | toEven
  | up
  deriving DecidableEq, Repr

namespace Shortest

/-- The exact bounds of the decimals that read back as `mantissa * 2 ^ exponent`, all four
times as large and over the common denominator `den`. -/
structure Interval where
  low : Nat
  value : Nat
  high : Nat
  den : Nat
  closed : Bool
  deriving Repr

def interval (mantissa : Nat) (exponent : Int) : Interval :=
  let below := if mantissa = Nat.pow 2 52 ∧ exponent > Binary64.leastExponent then 1 else 2
  let scale := Nat.pow 2 exponent.toNat
  { low := (4 * mantissa - below) * scale
    value := 4 * mantissa * scale
    high := (4 * mantissa + 2) * scale
    den := 4 * Nat.pow 2 (-exponent).toNat
    closed := mantissa % 2 == 0 }

def Interval.holds (i : Interval) (digits : Nat) (place : Int) : Bool :=
  let point := digits * Nat.pow 10 place.toNat * i.den
  let unit := Nat.pow 10 (-place).toNat
  if i.closed then i.low * unit ≤ point && point ≤ i.high * unit
  else i.low * unit < point && point < i.high * unit

/-- The floor of the number in units of `10 ^ place`, and twice the part cut off with the
size of the unit. -/
def Interval.floorAt (i : Interval) (place : Int) : Nat × Nat × Nat :=
  let num := i.value * Nat.pow 10 (-place).toNat
  let den := i.den * Nat.pow 10 place.toNat
  (num / den, 2 * (num % den), den)

def Interval.pick (i : Interval) (half : HalfWay) (place : Int) : Option Nat :=
  let (floor, twice, unit) := i.floorAt place
  match i.holds floor place && floor != 0, i.holds (floor + 1) place with
  | true, true =>
    let upward : Bool :=
      if twice = unit then
        match half with
        | .up => true
        | .toEven => floor % 2 == 1
      else twice > unit
    some (if upward then floor + 1 else floor)
  | true, false => some floor
  | false, true => some (floor + 1)
  | false, false => none

def search (i : Interval) (half : HalfWay) : Nat → Int → Nat × Int
  | 0, place => ((i.floorAt place).1, place)
  | n + 1, place =>
    match i.pick half place with
    | some digits => (digits, place)
    | none => search i half n (place - 1)

def stripZeros : Nat → Nat → Int → Nat × Int
  | 0, digits, place => (digits, place)
  | n + 1, digits, place =>
    if digits ≠ 0 ∧ digits % 10 = 0 then stripZeros n (digits / 10) (place + 1)
    else (digits, place)

def topPlace (mantissa : Nat) (exponent : Int) : Int :=
  ((Nat.log2 mantissa : Int) + 1 + exponent) * 30103 / 100000 + 1

def decimal (half : HalfWay) (mantissa : Nat) (exponent : Int) : Nat × Int :=
  let (digits, place) := search (interval mantissa exponent) half 20 (topPlace mantissa exponent)
  stripZeros 20 digits place

end Shortest

end QueryModel
