import QueryModel.Text.Bytes

/-!
# Lexemes of a source

A source is cut into lexemes byte by byte: comments, string literals, brackets, names,
names after an at sign or a dollar sign, gaps, and any other byte by itself. Nothing is
dropped, so the lexemes in order are the source.
-/

set_option autoImplicit false

namespace QueryModel.Lexeme

inductive Mark where
  | comment
  | text
  | opening (brace : Bool)
  | closing (brace : Bool)
  | directive
  | variable
  | word
  | gap
  | other
  deriving DecidableEq, Repr

def isByte (b : UInt8) (c : Char) : Bool := b == c.toUInt8

def isLetterByte (b : UInt8) : Bool :=
  isByte b '_' || ('A'.toUInt8 ≤ b && b ≤ 'Z'.toUInt8) || ('a'.toUInt8 ≤ b && b ≤ 'z'.toUInt8)

def isNameByte (b : UInt8) : Bool := isLetterByte b || ('0'.toUInt8 ≤ b && b ≤ '9'.toUInt8)

def isGapByte (b : UInt8) : Bool :=
  isByte b ' ' || isByte b ',' || isByte b '\t' || isByte b '\n' || isByte b '\x0c' ||
    isByte b '\r'

def markOf (b : UInt8) : Mark :=
  if isByte b '#' then .comment
  else if isByte b '"' then .text
  else if isByte b '\x7b' then .opening true
  else if isByte b '(' || isByte b '[' then .opening false
  else if isByte b '\x7d' then .closing true
  else if isByte b ')' || isByte b ']' then .closing false
  else if isByte b '@' then .directive
  else if isByte b '$' then .variable
  else if isLetterByte b then .word
  else if isGapByte b then .gap
  else .other

/-- Bytes of a block literal after its opening quotes, up to and with the closing quotes.
A backslash before three quotes keeps them inside. Without closing quotes the literal
takes the rest. -/
def blockLiteral : List UInt8 → Nat
  | 0x5C :: 0x22 :: 0x22 :: 0x22 :: rest => blockLiteral rest + 4
  | 0x22 :: 0x22 :: 0x22 :: _ => 3
  | _ :: rest => blockLiteral rest + 1
  | [] => 0

/-- Bytes of an ordinary literal after its opening quote. A backslash takes the next byte
with it, and a line feed ends the literal before it. -/
def plainLiteral : List UInt8 → Nat
  | [] => 0
  | [0x5C] => 1
  | 0x5C :: _ :: rest => plainLiteral rest + 2
  | 0x22 :: _ => 1
  | 0x0A :: _ => 0
  | _ :: rest => plainLiteral rest + 1

def literalRest : List UInt8 → Nat
  | 0x22 :: 0x22 :: rest => blockLiteral rest + 2
  | rest => plainLiteral rest

def extent (mark : Mark) (rest : List UInt8) : Nat :=
  match mark with
  | .comment => (rest.takeWhile fun b => !isByte b '\n').length
  | .text => literalRest rest
  | .directive | .variable | .word => (rest.takeWhile isNameByte).length
  | _ => 0

end Lexeme

structure Lexeme where
  mark : Lexeme.Mark
  bytes : List UInt8
  deriving DecidableEq, Repr

namespace Lexeme

def all (bs : List UInt8) : List Lexeme :=
  match bs with
  | [] => []
  | b :: rest =>
    let mark := markOf b
    let n := extent mark rest
    ⟨mark, b :: rest.take n⟩ :: all (rest.drop n)
termination_by bs.length
decreasing_by
  simp only [List.length_drop, List.length_cons]
  omega

def ascii (l : Lexeme) : String := String.ofList (l.bytes.map fun b => Char.ofNat b.toNat)

theorem flatMap_all (bs : List UInt8) : (all bs).flatMap bytes = bs := by
  match bs with
  | [] => simp [all]
  | b :: rest =>
    rw [all, List.flatMap_cons, flatMap_all, List.cons_append, List.take_append_drop]
termination_by bs.length
decreasing_by
  simp only [List.length_drop, List.length_cons]
  omega

end Lexeme

end QueryModel
