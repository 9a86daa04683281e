import QueryModel.Document.Split
import QueryModel.Text.Alphanumeric

/-!
# Forms of written definitions

How a definition may be written, as far as its words, brackets, string literals and
comments tell: a shorthand query, an executable definition with a body, or a type system
definition with or without one. Nothing is said about what stands inside brackets but that
brackets come in pairs there.
-/

set_option autoImplicit false

namespace QueryModel

def Stops (rest : List Char) : Prop := ∀ c ∈ rest.head?, Text.isNameChar c = false

theorem Stops.append {cs rest : List Char} (h : Stops cs) (hrest : Stops rest) :
    Stops (cs ++ rest) := by
  cases cs with
  | nil => exact hrest
  | cons c cs => exact h

inductive PlainLiteral : List Char → Prop
  | close : PlainLiteral ['"']
  | char {c : Char} {cs : List Char} (hc : c ≠ '"' ∧ c ≠ '\\' ∧ c ≠ '\n')
      (h : PlainLiteral cs) : PlainLiteral (c :: cs)
  | escape {c : Char} {cs : List Char} (hc : c ≠ '\n') (h : PlainLiteral cs) :
      PlainLiteral ('\\' :: c :: cs)

inductive BlockLiteral : List Char → Prop
  | close : BlockLiteral ['"', '"', '"']
  | escape {cs : List Char} (h : BlockLiteral cs) :
      BlockLiteral ('\\' :: '"' :: '"' :: '"' :: cs)
  | char {c : Char} {cs : List Char} (hclose : ¬ ['"', '"', '"'] <+: c :: cs)
      (hescape : ¬ ['\\', '"', '"', '"'] <+: c :: cs) (h : BlockLiteral cs) :
      BlockLiteral (c :: cs)

inductive IsLiteral : List Char → Prop
  | plain {cs : List Char} (h : PlainLiteral cs) : IsLiteral ('"' :: cs)
  | block {cs : List Char} (h : BlockLiteral cs) : IsLiteral ('"' :: '"' :: '"' :: cs)

/-- A quote after the empty literal would make it a block literal. -/
def LiteralStops (literal rest : List Char) : Prop :=
  literal = ['"', '"'] → rest.head? ≠ some '"'

theorem LiteralStops.append {literal cs rest : List Char} (h : LiteralStops literal cs)
    (hrest : rest.head? ≠ some '"') : LiteralStops literal (cs ++ rest) := by
  intro hliteral
  cases cs with
  | nil => exact hrest
  | cons c cs => exact h hliteral

inductive BracketPair : Char → Char → Prop
  | round : BracketPair '(' ')'
  | square : BracketPair '[' ']'
  | curly : BracketPair '\x7b' '\x7d'

def markedChars : List Char := ['#', '"', '(', ')', '[', ']', '\x7b', '\x7d']

/-- Text in which brackets come in pairs. What stands in literals and comments does not
count. A comment runs to the line feed. -/
inductive Balanced : List Char → Prop
  | nil : Balanced []
  | char {c : Char} {cs : List Char} (hc : c ∉ markedChars) (h : Balanced cs) :
      Balanced (c :: cs)
  | comment {line cs : List Char} (hline : '\n' ∉ line) (h : Balanced cs) :
      Balanced ('#' :: line ++ '\n' :: cs)
  | literal {literal cs : List Char} (hliteral : IsLiteral literal)
      (hstops : LiteralStops literal cs) (h : Balanced cs) : Balanced (literal ++ cs)
  | nested {o c : Char} {inner cs : List Char} (hpair : BracketPair o c)
      (hinner : Balanced inner) (h : Balanced cs) : Balanced (o :: inner ++ c :: cs)

def gapChars : List Char := [' ', ',', '\t', '\n', '\x0c', '\r']

inductive Space : List Char → Prop
  | nil : Space []
  | gap {c : Char} {cs : List Char} (hc : c ∈ gapChars) (h : Space cs) :
      Space (c :: cs)
  | comment {line cs : List Char} (hline : '\n' ∉ line) (h : Space cs) :
      Space ('#' :: line ++ '\n' :: cs)

def punctuators : List Char := ['!', '&', ':', '=', '|']

/-- The names, directives, punctuators and groups in brackets that stand before a body,
with space between them. Only allowed names stand outside brackets. -/
inductive HeaderText (allowed : String → Prop) : List Char → Prop
  | nil : HeaderText allowed []
  | space {sp cs : List Char} (hspace : Space sp) (h : HeaderText allowed cs) :
      HeaderText allowed (sp ++ cs)
  | name {n cs : List Char} (hn : Text.isName n = true) (hallowed : allowed (String.ofList n))
      (hstops : Stops cs) (h : HeaderText allowed cs) : HeaderText allowed (n ++ cs)
  | directive {n cs : List Char} (hn : Text.isName n = true) (hstops : Stops cs)
      (h : HeaderText allowed cs) : HeaderText allowed ('@' :: n ++ cs)
  | punctuator {c : Char} {cs : List Char} (hc : c ∈ punctuators) (h : HeaderText allowed cs) :
      HeaderText allowed (c :: cs)
  | group {o c : Char} {inner cs : List Char} (hpair : BracketPair o c) (ho : o ≠ '\x7b')
      (hinner : Balanced inner) (h : HeaderText allowed cs) :
      HeaderText allowed (o :: inner ++ c :: cs)

def braced (inner : List Char) : List Char := '\x7b' :: inner ++ ['\x7d']

def executableWords : List String := ["query", "mutation", "subscription", "fragment"]

def bodyKinds : List String := ["schema", "type", "interface", "enum", "input"]

/-- What may stand right after the kind: a name, even a keyword, or a directive. -/
inductive NameSlot : List Char → Prop
  | name {n : List Char} (hn : Text.isName n = true) : NameSlot n
  | directive {n : List Char} (hn : Text.isName n = true) : NameSlot ('@' :: n)

def NoKeyword (word : String) : Prop := word ∉ definitionKeywords

inductive NamedKind (kind : String) : List Char → Prop
  | mk {sp slot header : List Char} (hspace : Space sp) (hslot : NameSlot slot)
      (hstops : Stops (sp ++ slot)) (hend : Stops header) (hheader : HeaderText NoKeyword header) :
      NamedKind kind (kind.toList ++ (sp ++ (slot ++ header)))

/-- A type system definition from its kind on, and whether it has a body. Only the kind
`schema` goes without a name, and only before a body. -/
inductive Declaration : String → Bool → List Char → Prop
  | bare {kind : String} {cs : List Char} (hkind : kind ∈ typeSystemKinds)
      (hnamed : NamedKind kind cs) : Declaration kind false cs
  | body {kind : String} {cs inner : List Char} (hkind : kind ∈ bodyKinds)
      (hnamed : NamedKind kind cs) (hinner : Balanced inner) :
      Declaration kind true (cs ++ braced inner)
  | schema {header inner : List Char} (hstops : Stops header)
      (hheader : HeaderText NoKeyword header) (hinner : Balanced inner) :
      Declaration "schema" true ("schema".toList ++ header ++ braced inner)

inductive TypeSystemText (kind : String) (body : Bool) : List Char → Prop
  | definition {cs : List Char} (h : Declaration kind body cs) : TypeSystemText kind body cs
  | extension {sp cs : List Char} (hspace : Space sp) (hne : sp ≠ [])
      (h : Declaration kind body cs) : TypeSystemText kind body ("extend".toList ++ (sp ++ cs))

inductive DefinitionForm where
  | shorthand
  | executable
  | typeSystem (kind : String) (body : Bool)

inductive HasForm : DefinitionForm → List Char → Prop
  | shorthand {inner : List Char} (hinner : Balanced inner) : HasForm .shorthand (braced inner)
  | executable {word : String} {header inner : List Char} (hword : word ∈ executableWords)
      (hstops : Stops header) (hheader : HeaderText (fun _ => True) header)
      (hinner : Balanced inner) :
      HasForm .executable (word.toList ++ header ++ braced inner)
  | typeSystem {kind : String} {body : Bool} {cs : List Char}
      (h : TypeSystemText kind body cs) : HasForm (.typeSystem kind body) cs
  | described {kind : String} {body : Bool} {literal sp cs : List Char}
      (hliteral : IsLiteral literal) (hspace : Space sp) (h : TypeSystemText kind body cs) :
      HasForm (.typeSystem kind body) (literal ++ (sp ++ cs))

/-- A definition of a kind that may have a body, but without one, would take a shorthand
query after it for its body. -/
def Separable (d e : List Char) : Prop :=
  ∀ kind ∈ bodyKinds, HasForm (.typeSystem kind false) d → ¬ HasForm .shorthand e

end QueryModel
