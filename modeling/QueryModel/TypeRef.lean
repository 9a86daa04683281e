import QueryModel.Json.Basic
import QueryModel.Text.Alphanumeric
import QueryModel.Text.Lines

/-!
# Type references

A reference names a type and wraps the name in lists and non-null marks. Its text puts
brackets around a list and a bang after what may not be null; blank space around any
part is ignored when a text is read. A doubled bang is never read.
-/

set_option autoImplicit false

namespace QueryModel

inductive TypeRef where
  | named (name : String)
  | list (of : TypeRef)
  | nonNull (of : TypeRef)
  deriving DecidableEq, Repr, Inhabited

namespace TypeRef

def name : TypeRef → String
  | .named n => n
  | .list t => t.name
  | .nonNull t => t.name

def text : TypeRef → String
  | .named n => n
  | .list t => "[" ++ t.text ++ "]"
  | .nonNull t => t.text ++ "!"

def dimension : TypeRef → Nat
  | .named _ => 0
  | .list t => t.dimension + 1
  | .nonNull t => t.dimension

def isNonNull : TypeRef → Bool
  | .nonNull _ => true
  | _ => false

/-- Whether some list holds non-null elements directly. -/
def hasRequiredElement : TypeRef → Bool
  | .named _ => false
  | .list t => t.isNonNull || t.hasRequiredElement
  | .nonNull t => t.hasRequiredElement

/-- Reads a reference. The bang is taken from the end first, then a pair of brackets. -/
def ofChars? (cs : List Char) : Option TypeRef :=
  if _h : (Text.trim cs).getLast? = some '!' then
    match ofChars? (Text.trim cs).dropLast with
    | some (.nonNull _) => none
    | some t => some (.nonNull t)
    | none => none
  else
    match _h' : Text.trim cs with
    | '[' :: rest =>
      if rest.getLast? = some ']' then (ofChars? rest.dropLast).map .list else none
    | other => if Text.isName other then some (.named (String.ofList other)) else none
termination_by cs.length
decreasing_by
  · have hl := Text.length_trim cs
    have hn : Text.trim cs ≠ [] := by intro e; simp [e] at _h
    have := List.length_pos_iff.mpr hn
    simp only [List.length_dropLast]
    omega
  · have hl := Text.length_trim cs
    simp only [_h', List.length_cons] at hl
    simp only [List.length_dropLast]
    omega

def ofText? (text : String) : Option TypeRef := ofChars? text.toList

end TypeRef

/-- What records tell about a reference. The name alone changes when a model takes the
place of the type. -/
structure TypeReference where
  name : String
  raw : String
  isRequired : Bool
  isArray : Bool
  isNullableArray : Bool
  /-- The number of lists, or -1 without one. -/
  dimension : Int
  deriving DecidableEq, Repr, Inhabited

def TypeRef.resolve (t : TypeRef) : TypeReference where
  name := t.name
  raw := t.text
  isRequired := t.isNonNull
  isArray := 0 < t.dimension
  isNullableArray := 0 < t.dimension && !t.hasRequiredElement
  dimension := if t.dimension = 0 then -1 else t.dimension

def TypeReference.members (r : TypeReference) : List (String × Json) := [
  ("type", .string r.name),
  ("raw", .string r.raw),
  ("isRequired", .bool r.isRequired),
  ("isArray", .bool r.isArray),
  ("isNullableArray", .bool r.isNullableArray),
  ("dimensionOfArray", .int r.dimension)]

end QueryModel
