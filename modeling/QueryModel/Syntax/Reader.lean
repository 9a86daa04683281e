import QueryModel.Syntax.Literal
import QueryModel.Syntax.Token

/-!
# Reading tokens by a grammar

A reader takes tokens from the front and gives a value, or the first position at which
no reading can go on together with what was found there. Every choice is made on the
next token alone.
-/

set_option autoImplicit false

namespace QueryModel.Syntax

inductive Cause where
  | token (t : Token)
  | endOfInput
  | lexical (fault : LexicalFault)
  | literal (fault : LiteralFault)
  /-- Unreadable text where the document could have ended. -/
  | trailing
  | duplicateRoot (kind : String)
  | unknownLocation
  /-- An extension that adds nothing. -/
  | emptyExtension
  deriving DecidableEq, Repr

/-- What is told beside the position. Only the first line of a token is shown. -/
def Cause.detail : Cause → Option String
  | .token t => some (String.ofList (Text.firstLine ("Unexpected `" ++ t.shown ++ "`").toList))
  | .endOfInput => some "Unexpected end of input"
  | .lexical fault =>
    fault.message.map fun m => String.ofList (Text.firstLine ("Unexpected " ++ m).toList)
  | .literal fault => some (String.ofList (Text.firstLine fault.message.toList))
  | .trailing => none
  | .duplicateRoot kind => some ("Unexpected duplicate `" ++ kind ++ "` operation")
  | .unknownLocation => some "invalid directive location"
  | .emptyExtension => none

structure Failure where
  position : Position
  cause : Cause
  deriving DecidableEq, Repr

def Failure.message (f : Failure) : String :=
  "Parse error at " ++ f.position.text ++
    match f.cause.detail with
    | some line => "\n" ++ line
    | none => ""

def Tokens.failure (ts : Tokens) : Failure :=
  match ts.pending, ts.fault with
  | t :: _, _ => ⟨t.position, .token t.token⟩
  | [], none => ⟨ts.stop, .endOfInput⟩
  | [], some fault => ⟨ts.stop, .lexical fault⟩

/-- What it means that a part of a definition cannot start. A bracket nested too deep then
counts as the end of the text. -/
def Tokens.missing (ts : Tokens) : Failure :=
  match ts.pending, ts.fault with
  | [], some .nesting => ⟨ts.stop, .endOfInput⟩
  | _, _ => ts.failure

abbrev Reader (α : Type) := StateT Tokens (Except Failure) α

namespace Reader

variable {α β : Type}

def fail (f : Failure) : Reader α := fun _ => .error f

def unexpected : Reader α := fun ts => .error ts.failure

def missing : Reader α := fun ts => .error ts.missing

def next? : Reader (Option Token) := do return (← get).pending.head?.map (·.token)

def position : Reader Position := do
  let ts ← get
  return (ts.pending.head?.map (·.position)).getD ts.stop

def advance : Reader Unit := modify fun ts => { ts with pending := ts.pending.drop 1 }

def isNext (t : Token) : Reader Bool := do return (← next?) = some t

def sign (text : String) : Token := ⟨.punctuator, text⟩

def word (text : String) : Token := ⟨.name, text⟩

def expect (t : Token) : Reader Unit := do
  if ← isNext t then advance else unexpected

def accept (t : Token) : Reader Bool := do
  if ← isNext t then advance; return true else return false

def ofKind (kind : TokenKind) : Reader String := do
  match ← next? with
  | some t => if t.kind = kind then advance; return t.text else unexpected
  | none => unexpected

def name : Reader String := ofKind .name

def isNameNext : Reader Bool := do return (← next?).any fun t => t.kind = .name

def literal (p : Position) (value : Except LiteralFault α) : Reader α :=
  match value with
  | .ok a => return a
  | .error fault => fail ⟨p, .literal fault⟩

/-- Items up to the closing token, which is taken too and which is what is missing at the
end. The count bounds the items. -/
def itemsUntil (close : Token) (item : Reader α) : Nat → Reader (List α)
  | 0 => unexpected
  | n + 1 => do
    if ← accept close then return []
    if (← next?).isNone then unexpected
    let a ← item
    let rest ← itemsUntil close item n
    return a :: rest

/-- Items up to the closing token. Every item takes a token, so there are no more items
than tokens. -/
def manyUntil (close : Token) (item : Reader α) : Reader (List α) := do
  itemsUntil close item ((← get).pending.length + 1)

def someBetween (opening close : Token) (item : Reader α) : Reader (List α) := do
  expect opening
  let first ← item
  let rest ← manyUntil close item
  return first :: rest

def optionalBetween (opening close : Token) (item : Reader α) : Reader (List α) := do
  if ← isNext opening then someBetween opening close item else return []

def whileNext (mark : Token) (item : Reader α) : Nat → Reader (List α)
  | 0 => return []
  | n + 1 => do
    if ← accept mark then
      let a ← item
      let rest ← whileNext mark item n
      return a :: rest
    else return []

def each (mark : Token) (item : Reader α) : Reader (List α) := do
  whileNext mark item (← get).pending.length

def separated (mark : Token) (item : Reader α) : Reader (List α) := do
  let first ← item
  let rest ← each mark item
  return first :: rest

def untilEnd (item : Reader α) : Nat → Reader (List α)
  | 0 => unexpected
  | n + 1 => do
    let ts ← get
    match ts.pending, ts.fault with
    | [], none => return []
    | [], some _ => fail ⟨ts.stop, .trailing⟩
    | _ :: _, _ =>
      let a ← item
      let rest ← untilEnd item n
      return a :: rest

def document (item : Reader α) : Reader (List α) := do
  let first ← item
  let rest ← untilEnd item ((← get).pending.length + 1)
  return first :: rest

def read (reader : Reader α) (text : String) : Except Failure α :=
  (reader (Tokens.ofText text)).map Prod.fst

end Reader

end QueryModel.Syntax
