import QueryModel.Address.Domain
import QueryModel.Error

/-!
# Hosts

A host is a domain name, a number of 32 bits in its dotted forms, eight pieces of 16 bits
between brackets, or, for schemes without rules of their own, any text. A domain whose
last label is a number has to be a number as a whole.
-/

set_option autoImplicit false

namespace QueryModel

inductive Host where
  | empty
  | name (text : String)
  | ipv4 (value : Nat)
  | ipv6 (pieces : List Nat)
  deriving DecidableEq, Repr

namespace Host

/-! ## Four bytes -/

/-- A part of a dotted number: hexadecimal after `0x`, octal after a zero, else decimal. -/
def ipv4Part? (cs : List Char) : Option Nat :=
  match cs with
  | [] => none
  | '0' :: 'x' :: digits => Text.digitsValue? 16 digits
  | '0' :: 'X' :: digits => Text.digitsValue? 16 digits
  | '0' :: d :: digits => Text.digitsValue? 8 (d :: digits)
  | digits => Text.digitsValue? 10 digits

def endsInNumber (cs : List Char) : Bool :=
  let parts := (cs.splitOn '.').reverse
  let last := match parts with
    | [] :: rest => rest.head?.getD []
    | last :: _ => last
    | [] => []
  (!last.isEmpty && last.all Text.isAsciiDigit) || (ipv4Part? last).isSome

/-- The value of parts, of which all but the last are bytes and the last fills the rest. -/
def ipv4Value? (parts : List Nat) : Option Nat :=
  match parts.reverse with
  | [] => none
  | last :: before =>
    if parts.length ≤ 4 && before.all (· ≤ 255) && last < Nat.pow 256 (5 - parts.length) then
      some (before.reverse.foldl (fun value b => value * 256 + b) 0 *
        Nat.pow 256 (5 - parts.length) + last)
    else none

def ipv4? (cs : List Char) : Option Nat := do
  let parts := cs.splitOn '.'
  let parts := if parts.getLast? = some [] then parts.dropLast else parts
  let values ← parts.mapM ipv4Part?
  ipv4Value? values

def ipv4Text (value : Nat) : String :=
  ".".intercalate ([value / 16777216 % 256, value / 65536 % 256, value / 256 % 256,
    value % 256].map toString)

/-! ## Eight pieces -/

def piece? (cs : List Char) : Option Nat :=
  if cs.isEmpty || 4 < cs.length then none else Text.digitsValue? 16 cs

def byte? (cs : List Char) : Option Nat := do
  if cs.isEmpty || (cs.head? = some '0' && 1 < cs.length) then none
  else
    let value ← Text.digitsValue? 10 cs
    if value ≤ 255 then return value else none

def dottedPieces? (cs : List Char) : Option (List Nat) := do
  match ← (cs.splitOn '.').mapM byte? with
  | [a, b, c, d] => return [a * 256 + b, c * 256 + d]
  | _ => none

def lastPieces? (cs : List Char) : Option (List Nat) :=
  if cs.contains '.' then dottedPieces? cs else (piece? cs).map fun p => [p]

/-- The pieces between colons; `last` reads what follows the last colon. -/
def piecesOf? (last : List Char → Option (List Nat)) : List (List Char) → Option (List Nat)
  | [] => some []
  | [cs] => last cs
  | cs :: rest => do return (← piece? cs) :: (← piecesOf? last rest)

def pieces? (last : List Char → Option (List Nat)) (cs : List Char) : Option (List Nat) :=
  if cs.isEmpty then some [] else piecesOf? last (cs.splitOn ':')

def splitDoubleColon? : List Char → Option (List Char × List Char)
  | ':' :: ':' :: rest => some ([], rest)
  | [] => none
  | c :: rest => (splitDoubleColon? rest).map fun (before, after) => (c :: before, after)

/-- Eight pieces, with zeros for a double colon. -/
def ipv6? (cs : List Char) : Option (List Nat) :=
  match splitDoubleColon? cs with
  | none => do
    let pieces ← pieces? lastPieces? cs
    if pieces.length = 8 then return pieces else none
  | some (before, after) => do
    let left ← pieces? (fun cs => (piece? cs).map fun p => [p]) before
    let right ← pieces? lastPieces? after
    let known := left.length + right.length
    if known ≤ 7 then return left ++ List.replicate (8 - known) 0 ++ right else none

def zeros (pieces : List Nat) : Nat := (pieces.takeWhile (· == 0)).length

/-- Where the first longest run of zeros starts and how long it is. -/
def longestZeros : List Nat → Nat × Nat
  | [] => (0, 0)
  | p :: rest =>
    let (start, length) := longestZeros rest
    if length ≤ zeros (p :: rest) then (0, zeros (p :: rest)) else (start + 1, length)

def hexPieces (pieces : List Nat) : String :=
  ":".intercalate (pieces.map fun p => String.ofList (Nat.toDigits 16 p))

/-- The first longest run of at least two zeros is left out. -/
def ipv6Text (pieces : List Nat) : String :=
  let (start, length) := longestZeros pieces
  if length < 2 then hexPieces pieces
  else hexPieces (pieces.take start) ++ "::" ++ hexPieces (pieces.drop (start + length))

def text : Host → String
  | .empty => ""
  | .name text => text
  | .ipv4 value => ipv4Text value
  | .ipv6 pieces => "[" ++ ipv6Text pieces ++ "]"

/-! ## Reading -/

def ofBrackets (cs : List Char) : Except AddressFault Host :=
  if cs.getLast? = some ']' then
    match ipv6? (cs.drop 1).dropLast with
    | some pieces => .ok (.ipv6 pieces)
    | none => .error .ipv6
  else .error .ipv6

def ofDomain (cs : List Char) : Except AddressFault Host :=
  if cs.head? = some '[' then ofBrackets cs
  else
    match Domain.ofText? cs with
    | none => .error .domain
    | some domain =>
      if domain.isEmpty then .error .emptyHost
      else if endsInNumber domain.toList then
        match ipv4? domain.toList with
        | some value => .ok (.ipv4 value)
        | none => .error .ipv4
      else .ok (.name domain)

def isControl (c : Char) : Bool := c.toNat < 0x20 || c.toNat == 0x7F

def ofPlain (cs : List Char) : Except AddressFault Host :=
  if cs.head? = some '[' then ofBrackets cs
  else if cs.any fun c => "\x00\t\n\r #/:<>?@[\\]^|".toList.contains c then
    .error .hostCharacter
  else if cs.isEmpty then .ok .empty
  else .ok (.name (Text.percentEncode isControl cs))

end Host

end QueryModel
