import QueryModel.Error
import QueryModel.Text.Alphanumeric
import QueryModel.Text.Bytes
import QueryModel.Text.Lines

/-!
# Request headers

Names are token characters and stand in lowercase. Setting a name replaces its values;
only a set of headers given at once can hold a name several times.
-/

set_option autoImplicit false

namespace QueryModel

structure Header where
  name : String
  value : String
  deriving DecidableEq, Repr

abbrev Headers := List Header

namespace Header

def isNameChar (c : Char) : Bool :=
  Text.isAsciiLetter c || Text.isAsciiDigit c || "!#$%&'*+-.^_\x60|~".toList.contains c

def name? (cs : List Char) : Option String :=
  if !cs.isEmpty && cs.all isNameChar then some (String.ofList (cs.map Text.asciiLower)) else none

def isValueByte (b : UInt8) : Bool := (32 ≤ b.toNat && b.toNat != 127) || b.toNat == 9

def isValue (cs : List Char) : Bool := (Text.bytes cs).all isValueByte

def ofPair? (name value : String) : Option Header := do
  let name ← name? name.toList
  if isValue value.toList then return ⟨name, value⟩ else none

def ofText (text : String) : Except ConfigFault Header := do
  let cs := text.toList
  if !cs.contains ':' then throw (.headerShape text)
  let left := cs.takeWhile (· != ':')
  let right := Text.trim ((cs.dropWhile (· != ':')).drop 1)
  match name? (Text.trim left) with
  | none => throw (.headerName (String.ofList left))
  | some name =>
    if isValue right then return ⟨name, String.ofList right⟩ else throw (.headerValue name)

def le (a b : Header) : Bool := a.name < b.name || (a.name = b.name && a.value ≤ b.value)

end Header

namespace Headers

def without (hs : Headers) (name : String) : Headers := hs.filter fun h => h.name != name

def set (hs : Headers) (h : Header) : Headers := without hs h.name ++ [h]

def setAll (hs given : Headers) : Headers :=
  hs.filter (fun h => given.all fun g => g.name != h.name) ++ given

def sorted (hs : Headers) : Headers := List.mergeSort hs Header.le

end Headers

end QueryModel
