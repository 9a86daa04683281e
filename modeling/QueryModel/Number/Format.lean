import QueryModel.Number.Shortest

/-!
# Number text

Two written forms of a double. The data form keeps a fraction on whole numbers and
turns to an exponent for large and small magnitudes. The plain form is positional
throughout and writes whole numbers without a fraction.
-/

set_option autoImplicit false

namespace QueryModel

def digitText (n : Nat) : String := String.ofList (Nat.toDigits 10 n)

def intText (i : Int) : String :=
  if i < 0 then "-" ++ digitText i.natAbs else digitText i.natAbs

namespace Binary64

def signText (negative : Bool) : String := if negative then "-" else ""

def zeros (n : Nat) : String := String.ofList (List.replicate n '0')

/-- Digits with the decimal point after the first `point` of them; zeros fill the gaps. -/
def positional (digits : String) (point : Int) (wholeEnd : String) : String :=
  if point ≤ 0 then "0." ++ zeros (-point).toNat ++ digits
  else if point < digits.length then
    String.ofList (digits.toList.take point.toNat) ++ "." ++
      String.ofList (digits.toList.drop point.toNat)
  else digits ++ zeros (point.toNat - digits.length) ++ wholeEnd

def scientific (digits : String) (point : Int) : String :=
  let exponent := (if point < 1 then "e" else "e+") ++ intText (point - 1)
  match digits.toList with
  | [] => exponent
  | [d] => String.ofList [d] ++ exponent
  | d :: rest => String.ofList [d, '.'] ++ String.ofList rest ++ exponent

/-- Positional while the point stands from five places before the digits to sixteen
places into them. -/
def dataText : Binary64 → Option String
  | .infinite _ => none
  | .finite negative 0 _ => some (signText negative ++ "0.0")
  | .finite negative (m + 1) exponent =>
    let (n, place) := Shortest.decimal .toEven (m + 1) exponent
    let digits := digitText n
    let point : Int := digits.length + place
    some (signText negative ++
      if -5 < point ∧ point ≤ 16 then positional digits point ".0" else scientific digits point)

def plainText : Binary64 → String
  | .infinite negative => signText negative ++ "inf"
  | .finite negative 0 _ => signText negative ++ "0"
  | .finite negative (m + 1) exponent =>
    let (n, place) := Shortest.decimal .up (m + 1) exponent
    let digits := digitText n
    signText negative ++ positional digits (digits.length + place) ""

end Binary64

end QueryModel
