import QueryModel.Json.Basic

/-!
# Value literals

The values that arguments and defaults are written with. The entries of an object value
are kept in key order with one entry a key. As JSON a variable is its name after a
dollar sign, an enum value its name, and a number without a finite value is null.
-/

set_option autoImplicit false

namespace QueryModel.Syntax

inductive Value where
  | null
  | boolean (b : Bool)
  | int (i : Int)
  | float (f : Binary64)
  | string (s : String)
  | enum (name : String)
  | variable (name : String)
  | list (items : List Value)
  | object (entries : List (String × Value))
  deriving Inhabited, Repr

namespace Value

def insertEntry (key : String) (value : Value) :
    List (String × Value) → List (String × Value)
  | [] => [(key, value)]
  | (k, v) :: rest =>
    if key < k then (key, value) :: (k, v) :: rest
    else if key = k then (key, value) :: rest
    else (k, v) :: insertEntry key value rest

def ofEntries (entries : List (String × Value)) : Value :=
  .object (entries.foldl (fun sorted (key, value) => insertEntry key value sorted) [])

def floatJson : Binary64 → Json
  | .infinite _ => .null
  | f => .float f

mutual

def toJson : Value → Json
  | .null => .null
  | .boolean b => .bool b
  | .int i => .int i
  | .float f => floatJson f
  | .string s => .string s
  | .enum name => .string name
  | .variable name => .string ("$" ++ name)
  | .list items => .array (itemsJson items)
  | .object entries => .object (entriesJson entries)

def itemsJson : List Value → List Json
  | [] => []
  | v :: vs => v.toJson :: itemsJson vs

def entriesJson : List (String × Value) → List (String × Json)
  | [] => []
  | (key, v) :: rest => (key, v.toJson) :: entriesJson rest

end

end Value

structure Directive where
  name : String
  arguments : List (String × Value)
  deriving Inhabited, Repr

end QueryModel.Syntax
