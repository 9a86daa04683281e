/-!
# Double precision numbers

A number is a signed `mantissa * 2 ^ exponent` with a mantissa below `2 ^ 53`, or an
infinity. Reading a decimal gives the nearest such number, a half going to the even
mantissa, and an infinity when the nearest one would need too large an exponent.
-/

set_option autoImplicit false

namespace QueryModel

inductive Binary64 where
  | finite (negative : Bool) (mantissa : Nat) (exponent : Int)
  | infinite (negative : Bool)
  deriving DecidableEq, Repr, Inhabited

/-- The quotient rounded to the nearest integer, a half going to the even one. -/
def divNearest (num den : Nat) : Nat :=
  if 2 * (num % den) < den then num / den
  else if 2 * (num % den) > den then num / den + 1
  else num / den + num / den % 2

namespace Binary64

def leastExponent : Int := -1074

def greatestExponent : Int := 971

def zero (negative : Bool) : Binary64 := .finite negative 0 leastExponent

/-- The binary exponent that puts a positive quotient between `2 ^ 52` and `2 ^ 53`. -/
def scaleOf (num den : Nat) : Int :=
  let guess : Int := (Nat.log2 num : Int) - (Nat.log2 den : Int) - 52
  let small : Bool :=
    if 0 ≤ guess then num < den * Nat.pow 2 (52 + guess.toNat)
    else num * Nat.pow 2 (-guess).toNat < den * Nat.pow 2 52
  max leastExponent (if small then guess - 1 else guess)

def ofQuotient (negative : Bool) (num den : Nat) : Binary64 :=
  let exponent := scaleOf num den
  let mantissa :=
    if 0 ≤ exponent then divNearest num (den * Nat.pow 2 exponent.toNat)
    else divNearest (num * Nat.pow 2 (-exponent).toNat) den
  let (mantissa, exponent) :=
    if mantissa = Nat.pow 2 53 then (Nat.pow 2 52, exponent + 1) else (mantissa, exponent)
  if exponent > greatestExponent then .infinite negative
  else if mantissa = 0 then zero negative
  else .finite negative mantissa exponent

/-- The nearest number to `digits * 10 ^ exponent`. Magnitudes that no double comes near
are answered without computing the power. -/
def ofDecimal (negative : Bool) (digits : Nat) (exponent : Int) : Binary64 :=
  let magnitude : Int := (Nat.toDigits 10 digits).length + exponent
  if digits = 0 then zero negative
  else if magnitude > 310 then .infinite negative
  else if magnitude < -330 then zero negative
  else if 0 ≤ exponent then ofQuotient negative (digits * Nat.pow 10 exponent.toNat) 1
  else ofQuotient negative digits (Nat.pow 10 (-exponent).toNat)

end Binary64

end QueryModel
