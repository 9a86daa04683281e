import QueryModel.Text.Lines
import QueryModel.Text.Quoted

/-!
# Tokens

Tokens carry their kind and their source text. A text is read into the tokens before
the first fault, if there is one, and the position where reading stopped.
-/

set_option autoImplicit false

namespace QueryModel.Syntax

structure Position where
  line : Nat
  column : Nat
  deriving DecidableEq, Repr, Inhabited

namespace Position

def start : Position := ⟨1, 1⟩

def right (p : Position) (n : Nat) : Position := ⟨p.line, p.column + n⟩

def nextLine (p : Position) : Position := ⟨p.line + 1, 1⟩

def past (p : Position) : List Char → Position
  | [] => p
  | c :: cs => (if c = '\n' then p.nextLine else p.right 1).past cs

def text (p : Position) : String := toString p.line ++ ":" ++ toString p.column

end Position

inductive TokenKind where
  | punctuator
  | name
  | intValue
  | floatValue
  | stringValue
  | blockString
  deriving DecidableEq, Repr, Inhabited

def TokenKind.label : TokenKind → String
  | .punctuator => "Punctuator"
  | .name => "Name"
  | .intValue => "IntValue"
  | .floatValue => "FloatValue"
  | .stringValue => "StringValue"
  | .blockString => "BlockString"

structure Token where
  kind : TokenKind
  text : String
  deriving DecidableEq, Repr, Inhabited

def Token.shown (t : Token) : String := t.text ++ "[" ++ t.kind.label ++ "]"

inductive LexicalFault where
  | bareDot
  | integer (text : String)
  | float (text : String)
  | string
  | blockString
  | character (c : Char)
  /-- An opening bracket inside too many others. -/
  | nesting
  deriving DecidableEq, Repr

/-- The nesting fault has no wording of its own. -/
def LexicalFault.message : LexicalFault → Option String
  | .bareDot => some "bare dot '.' is not supported, only \"...\""
  | .integer text => some ("unsupported integer " ++ Text.quotedText text)
  | .float text => some ("unsupported float " ++ Text.quotedText text)
  | .string => some "unterminated string value"
  | .blockString => some "unterminated block string value"
  | .character c => some ("unexpected character " ++ Text.quotedChar c)
  | .nesting => none

structure Placed where
  position : Position
  token : Token
  deriving DecidableEq, Repr

structure Tokens where
  pending : List Placed
  stop : Position
  fault : Option LexicalFault
  deriving DecidableEq, Repr

def Tokens.cons (t : Placed) (ts : Tokens) : Tokens := { ts with pending := t :: ts.pending }

end QueryModel.Syntax
