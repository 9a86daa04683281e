import QueryModel.Number.Binary64
import QueryModel.Syntax.Lexer
import QueryModel.Text.Bytes
import QueryModel.Text.Lines
import QueryModel.Text.Tables

/-!
# Values of literals

What the text of a number, a string or a block string stands for. Whole numbers are
limited to 64 bits with sign.
-/

set_option autoImplicit false

namespace QueryModel.Syntax

open QueryModel.Text

inductive LiteralFault where
  | tooLarge
  | tooSmall
  | float
  | escape (c : Char)
  | shortCodePoint (found : String)
  | codePoint (digits : String)
  deriving DecidableEq, Repr

def LiteralFault.message : LiteralFault → String
  | .tooLarge => "number too large to fit in target type"
  | .tooSmall => "number too small to fit in target type"
  | .float => "invalid float literal"
  | .escape c => "Unexpected bad escaped char " ++ quotedChar c
  | .shortCodePoint found =>
    "Unexpected \\u must have 4 characters after it, only found '" ++ found ++ "'"
  | .codePoint digits => "Unexpected " ++ digits ++ " is not a valid unicode code point"

def digitValue (c : Char) : Nat := c.toNat - '0'.toNat

def digitsValue (cs : List Char) : Nat := cs.foldl (fun n c => 10 * n + digitValue c) 0

def intValue (cs : List Char) : Except LiteralFault Int :=
  match cs with
  | '-' :: digits =>
    if digitsValue digits ≤ Nat.pow 2 63 then .ok (-(digitsValue digits : Int))
    else .error .tooSmall
  | digits =>
    if digitsValue digits < Nat.pow 2 63 then .ok (digitsValue digits) else .error .tooLarge

/-- The exponent after its mark; a sign alone is none. -/
def exponentValue? : List Char → Option Int
  | '+' :: digits => if digits.isEmpty then none else some (digitsValue digits)
  | '-' :: digits => if digits.isEmpty then none else some (-(digitsValue digits : Int))
  | digits => if digits.isEmpty then none else some (digitsValue digits)

def decimalValue (negative : Bool) (number : List Char) (exponent : Int) : Binary64 :=
  match splitLast isPoint number with
  | some (whole, fraction) =>
    .ofDecimal negative (digitsValue (whole ++ fraction)) (exponent - fraction.length)
  | none => .ofDecimal negative (digitsValue number) exponent

def floatValue (cs : List Char) : Except LiteralFault Binary64 :=
  let negative := ['-'].isPrefixOf cs
  let unsigned := if negative then cs.drop 1 else cs
  match splitLast isExponentMark unsigned with
  | some (number, exponent) =>
    match exponentValue? exponent with
    | some e => .ok (decimalValue negative number e)
    | none => .error .float
  | none => .ok (decimalValue negative unsigned 0)

/-- The character with the given number in hexadecimal, which may have a plus sign. -/
def codePoint? (cs : List Char) : Option Char := do
  let n ← digitsValue? 16 (if ['+'].isPrefixOf cs then cs.drop 1 else cs)
  if n.isValidChar then some (Char.ofNat n) else none

def escapedValue? (c : Char) : Option Char :=
  if c = '"' ∨ c = '\\' ∨ c = '/' then some c
  else if c = 'b' then some '\x10'
  else if c = 'f' then some '\x0c'
  else if c = 'n' then some '\n'
  else if c = 'r' then some '\r'
  else if c = 't' then some '\t'
  else none

def unescaped : List Char → Except LiteralFault (List Char)
  | [] => .ok []
  | '\\' :: 'u' :: a :: b :: c :: d :: cs =>
    match codePoint? [a, b, c, d] with
    | some x => (unescaped cs).map (x :: ·)
    | none => .error (.codePoint (String.ofList [a, b, c, d]))
  | '\\' :: 'u' :: cs => .error (.shortCodePoint (String.ofList cs))
  | '\\' :: c :: cs =>
    match escapedValue? c with
    | some x => (unescaped cs).map (x :: ·)
    | none => .error (.escape c)
  | c :: cs => (unescaped cs).map (c :: ·)

def stringValue (cs : List Char) : Except LiteralFault String :=
  (unescaped ((cs.drop 1).dropLast)).map String.ofList

def isBlankLine (line : List Char) : Bool := line.all isBlank

def indentSize (line : List Char) : Nat := (bytes (line.takeWhile isBlank)).length

def commonIndent (lines : List (List Char)) : Option Nat :=
  ((lines.filter fun line => !isBlankLine line).map indentSize).min?

def outdent (indent : Option Nat) (line : List Char) : List Char :=
  match indent with
  | some n => if n ≤ (bytes line).length then dropBytes n line else line
  | none => line

def unescapedQuotes : List Char → List Char
  | '\\' :: '"' :: '"' :: '"' :: cs => '"' :: '"' :: '"' :: unescapedQuotes cs
  | c :: cs => c :: unescapedQuotes cs
  | [] => []

def dropBlankEnds (lines : List (List Char)) : List (List Char) :=
  ((lines.dropWhile isBlankLine).reverse.dropWhile isBlankLine).reverse

def joinLines : List (List Char) → List Char
  | [] => []
  | [line] => line
  | line :: next :: rest => line ++ '\n' :: joinLines (next :: rest)

/-- The lines of a block string without the indent that all but the first have in
common, and without the blank lines at both ends. -/
def blockLines : List (List Char) → List (List Char)
  | [] => []
  | first :: rest => dropBlankEnds (first :: rest.map (outdent (commonIndent rest)))

def blockValue (cs : List Char) : String :=
  let content := ((cs.drop 3).reverse.drop 3).reverse
  String.ofList (joinLines ((blockLines (lines content)).map unescapedQuotes))

end QueryModel.Syntax
