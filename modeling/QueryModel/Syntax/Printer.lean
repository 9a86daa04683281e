import QueryModel.Number.Format
import QueryModel.Syntax.Executable
import QueryModel.Text.Lines

/-!
# Printed definitions

One selection a line, two spaces a level. A text of several lines is printed as a block
string, indented below the line that holds it.
-/

set_option autoImplicit false

namespace QueryModel.Syntax

open QueryModel.Text

def spaces (n : Nat) : String := String.ofList (List.replicate n ' ')

def isPlain (c : Char) : Bool := 0x20 ≤ c.toNat && c.toNat ≤ 0xFFFF

/-- A character with no other form is written by its decimal number. -/
def printedChar (c : Char) : String :=
  if c = '\r' then "\\r"
  else if c = '\n' then "\\n"
  else if c = '\t' then "\\t"
  else if c = '"' then "\\\""
  else if c = '\\' then "\\\\"
  else if isPlain c then String.singleton c
  else
    let digits := Nat.toDigits 10 c.toNat
    "\\u" ++ String.ofList (List.replicate (4 - digits.length) '0' ++ digits)

/-- A text goes into a block string when it has a line feed and no character that needs
an escape by number. -/
def isBlockText (cs : List Char) : Bool :=
  cs.contains '\n' && cs.all fun c => c == '\n' || c == '\r' || c == '\t' || isPlain c

def escapedQuotes : List Char → List Char
  | '"' :: '"' :: '"' :: cs => '\\' :: '"' :: '"' :: '"' :: escapedQuotes cs
  | c :: cs => c :: escapedQuotes cs
  | [] => []

def printedLine (indent : Nat) (line : List Char) : String :=
  if line.all isBlank then "\n" else spaces indent ++ String.ofList (escapedQuotes line) ++ "\n"

def printedText (indent : Nat) (s : String) : String :=
  let cs := s.toList
  if isBlockText cs then
    "\"\"\"\n" ++ String.join ((lines cs).map (printedLine (indent + 2))) ++ spaces indent ++
      "\"\"\""
  else "\"" ++ String.join (cs.map printedChar) ++ "\""

mutual

def Value.printed (indent : Nat) : Value → String
  | .null => "null"
  | .boolean b => if b then "true" else "false"
  | .int i => intText i
  | .float f => f.plainText
  | .string s => printedText indent s
  | .enum name => name
  | .variable name => "$" ++ name
  | .list items => "[" ++ ", ".intercalate (printedItems indent items) ++ "]"
  | .object entries => "\x7b" ++ ", ".intercalate (printedEntries indent entries) ++ "\x7d"

def printedItems (indent : Nat) : List Value → List String
  | [] => []
  | v :: vs => v.printed indent :: printedItems indent vs

def printedEntries (indent : Nat) : List (String × Value) → List String
  | [] => []
  | (key, v) :: rest => (key ++ ": " ++ v.printed indent) :: printedEntries indent rest

end

def printedArguments (indent : Nat) (arguments : List (String × Value)) : String :=
  if arguments.isEmpty then ""
  else "(" ++ ", ".intercalate (printedEntries indent arguments) ++ ")"

def printedDirectives (indent : Nat) (directives : List Directive) : String :=
  String.join (directives.map fun d => " @" ++ d.name ++ printedArguments indent d.arguments)

mutual

def Selection.printed (indent : Nat) : Selection → String
  | .field label name arguments directives items =>
    spaces indent ++ (label.map (· ++ ": ")).getD "" ++ name ++
      printedArguments indent arguments ++ printedDirectives indent directives ++
      if items.isEmpty then "\n"
      else " \x7b\n" ++ printedSelections (indent + 2) items ++ spaces indent ++ "\x7d\n"
  | .inlineFragment condition directives items =>
    spaces indent ++ "..." ++ (condition.map (" on " ++ ·)).getD "" ++
      printedDirectives indent directives ++
      " \x7b\n" ++ printedSelections (indent + 2) items ++ spaces indent ++ "\x7d\n"
  | .spread name directives =>
    spaces indent ++ "..." ++ name ++ printedDirectives indent directives ++ "\n"

def printedSelections (indent : Nat) : List Selection → String
  | [] => ""
  | s :: rest => s.printed indent ++ printedSelections indent rest

end

def VariableDefinition.printed (v : VariableDefinition) : String :=
  "$" ++ v.name ++ ": " ++ v.type.text ++ (v.default.map (" = " ++ ·.printed 0)).getD ""

/-- A subscription prints its variables only after a name, and without a separator. -/
def printedVariables (kind : OperationKind) (name : Option String)
    (declaredVariables : List VariableDefinition) : String :=
  let printed := declaredVariables.map VariableDefinition.printed
  if declaredVariables.isEmpty then ""
  else if kind = .subscription then
    if name.isSome then "(" ++ String.join printed ++ ")" else ""
  else "(" ++ ", ".intercalate printed ++ ")"

def printedBody (items : List Selection) : String :=
  "\x7b\n" ++ printedSelections 2 items ++ "\x7d\n"

def Definition.printed : Definition → String
  | .shorthand items => printedBody items
  | .operation kind name declaredVariables directives items =>
    kind.text ++ (name.map (" " ++ ·)).getD "" ++ printedVariables kind name declaredVariables ++
      printedDirectives 0 directives ++ " " ++ printedBody items
  | .fragment name onType directives items =>
    "fragment " ++ name ++ " on " ++ onType ++ printedDirectives 0 directives ++ " " ++
      printedBody items

end QueryModel.Syntax
