import QueryModel.Json.Basic
import QueryModel.Number.Format

/-!
# JSON text

The compact form on one line and the indented form with two spaces a level. Members are
written in the order in which the object lists them. Text is written raw but for the
quote, the backslash and the control characters below the space. A number without a
finite value is written as null.
-/

set_option autoImplicit false

namespace QueryModel.Json

def controlEscape (c : Char) : String :=
  let digits := Nat.toDigits 16 c.toNat
  "\\u" ++ String.ofList (List.replicate (4 - digits.length) '0' ++ digits)

def escape (c : Char) : String :=
  if c = '"' then "\\\""
  else if c = '\\' then "\\\\"
  else if c = '\n' then "\\n"
  else if c = '\r' then "\\r"
  else if c = '\t' then "\\t"
  else if c = '\x08' then "\\b"
  else if c = '\x0c' then "\\f"
  else if c.toNat < 0x20 then controlEscape c
  else String.singleton c

def quoted (s : String) : String :=
  "\"" ++ s.foldl (fun text c => text ++ escape c) "" ++ "\""

def floatText (f : Binary64) : String := f.dataText.getD "null"

mutual

def compact : Json → String
  | .null => "null"
  | .bool b => if b then "true" else "false"
  | .int i => intText i
  | .float f => floatText f
  | .string s => quoted s
  | .array js => "[" ++ compactItems js ++ "]"
  | .object ms => "\x7b" ++ compactMembers ms ++ "\x7d"

def compactItems : List Json → String
  | [] => ""
  | [j] => compact j
  | j :: k :: js => compact j ++ "," ++ compactItems (k :: js)

def compactMembers : List (String × Json) → String
  | [] => ""
  | [(key, j)] => quoted key ++ ":" ++ compact j
  | (key, j) :: m :: ms => quoted key ++ ":" ++ compact j ++ "," ++ compactMembers (m :: ms)

end

def newline (depth : Nat) : String :=
  "\n" ++ String.ofList (List.replicate (2 * depth) ' ')

mutual

def indented (depth : Nat) : Json → String
  | .null => "null"
  | .bool b => if b then "true" else "false"
  | .int i => intText i
  | .float f => floatText f
  | .string s => quoted s
  | .array [] => "[]"
  | .array (j :: js) =>
    "[" ++ newline (depth + 1) ++ indentedItems (depth + 1) (j :: js) ++ newline depth ++ "]"
  | .object [] => "\x7b\x7d"
  | .object (m :: ms) =>
    "\x7b" ++ newline (depth + 1) ++ indentedMembers (depth + 1) (m :: ms) ++ newline depth ++
      "\x7d"

def indentedItems (depth : Nat) : List Json → String
  | [] => ""
  | [j] => indented depth j
  | j :: k :: js =>
    indented depth j ++ "," ++ newline depth ++ indentedItems depth (k :: js)

def indentedMembers (depth : Nat) : List (String × Json) → String
  | [] => ""
  | [(key, j)] => quoted key ++ ": " ++ indented depth j
  | (key, j) :: m :: ms =>
    quoted key ++ ": " ++ indented depth j ++ "," ++ newline depth ++
      indentedMembers depth (m :: ms)

end

def pretty (j : Json) : String := indented 0 j.sorted

end QueryModel.Json
