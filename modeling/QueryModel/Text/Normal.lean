import QueryModel.Text.Composites

/-!
# Normal form

A letter with marks can be written as one character or as several. In the normal form
the marks stand in the order of their classes and everything that has a composite is
composed. A mark composes with its letter unless a mark of the same or a higher class
stands between them. Nothing changes in a text of ASCII characters.
-/

set_option autoImplicit false

namespace QueryModel.Text

def markClass (c : Char) : Nat :=
  (markClasses.findSome? fun (first, last, cls) =>
    if first ≤ c.toNat && c.toNat ≤ last then some cls else none).getD 0

/-! ## Composites -/

/-- The parts of a Hangul syllable: its vowel or its last consonant is cut off. -/
def syllableParts? (n : Nat) : Option (Nat × Nat) :=
  if 0xAC00 ≤ n && n ≤ 0xD7A3 then
    let i := n - 0xAC00
    if i % 28 = 0 then some (0x1100 + i / 588, 0x1161 + i / 28 % 21)
    else some (n - i % 28, 0x11A7 + i % 28)
  else none

def syllable? (a b : Nat) : Option Nat :=
  if 0x1100 ≤ a && a ≤ 0x1112 && 0x1161 ≤ b && b ≤ 0x1175 then
    some (0xAC00 + ((a - 0x1100) * 21 + (b - 0x1161)) * 28)
  else if 0xAC00 ≤ a && a ≤ 0xD7A3 && (a - 0xAC00) % 28 = 0 && 0x11A8 ≤ b && b ≤ 0x11C2 then
    some (a + (b - 0x11A7))
  else none

def parts? (n : Nat) : Option (Nat × Nat) :=
  (syllableParts? n).or (composites.findSome? fun (a, b, whole) =>
    if whole = n then some (a, b) else none)

def composite? (a b : Char) : Option Char :=
  ((syllable? a.toNat b.toNat).or (composites.findSome? fun (first, second, whole) =>
    if first = a.toNat && second = b.toNat then some whole else none)).map Char.ofNat

/-- A character taken apart at most `depth` times; only a first part is a composite again. -/
def partsUpTo : Nat → Char → List Char
  | 0, c => [c]
  | depth + 1, c =>
    match parts? c.toNat with
    | some (a, b) => partsUpTo depth (Char.ofNat a) ++ [Char.ofNat b]
    | none => [c]

/-- No character is a composite of composites in more than three steps. -/
def decomposed (cs : List Char) : List Char := cs.flatMap (partsUpTo 3)

/-! ## Order -/

/-- Puts a character before ordered ones, behind the marks of lower classes at their head. -/
def placed (c : Char) : List Char → List Char
  | [] => [c]
  | d :: ds =>
    if 0 < markClass d && markClass d < markClass c then d :: placed c ds else c :: d :: ds

def ordered (cs : List Char) : List Char := cs.foldr placed []

/-! ## Composition -/

def composedFrom (letter : Char) (marks : List Char) : List Char → List Char
  | [] => letter :: marks
  | c :: cs =>
    let free := marks.getLast?.all fun m => markClass m < markClass c
    match if free then composite? letter c else none with
    | some whole => composedFrom whole marks cs
    | none =>
      if markClass c = 0 then letter :: marks ++ composedFrom c [] cs
      else composedFrom letter (marks ++ [c]) cs

def composed : List Char → List Char
  | [] => []
  | c :: cs => composedFrom c [] cs

def normal (cs : List Char) : List Char :=
  if cs.all fun c => c.toNat < 0x80 then cs else composed (ordered (decomposed cs))

end QueryModel.Text
