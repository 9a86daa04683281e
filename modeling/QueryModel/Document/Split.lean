import QueryModel.Document.Lexeme
import QueryModel.Text.Lines

/-!
# Cutting a source into definitions

A source that holds both executable and type system definitions is cut where a new
definition has to start. Outside all brackets a new definition starts at a definition
keyword after a closed body or after the name of a type system definition, at a brace
after a closed body or after the name of a definition without a body, and at a string
after any header. Comments and string literals are passed over.
-/

set_option autoImplicit false

namespace QueryModel

def definitionKeywords : List String := [
  "query", "mutation", "subscription", "fragment", "schema", "scalar", "type", "interface",
  "union", "enum", "input", "directive", "extend"]

def typeSystemKinds : List String := [
  "schema", "scalar", "type", "interface", "union", "enum", "input", "directive"]

def bodylessKinds : List String := ["scalar", "union", "directive"]

/-- Where the scan stands. The header lists the words of the current definition outside
all brackets; an applied directive counts as the word `@`. -/
structure SplitState where
  depth : Nat
  started : Bool
  header : List String
  /-- The last lexeme outside all brackets closed a body. -/
  closed : Bool
  deriving DecidableEq, Repr

namespace SplitState

def initial : SplitState := ⟨0, false, [], false⟩

def kindAndRest (s : SplitState) : Option (String × List String) :=
  match s.header with
  | [] => none
  | first :: rest =>
    if first = "extend" then
      match rest with
      | [] => none
      | kind :: more => some (kind, more)
    else some (first, rest)

def pastName (s : SplitState) : Bool := s.kindAndRest.any fun (_, rest) => !rest.isEmpty

def isTypeSystem (s : SplitState) : Bool :=
  s.kindAndRest.any fun (kind, _) => typeSystemKinds.contains kind

def isBodyless (s : SplitState) : Bool :=
  s.kindAndRest.any fun (kind, _) => bodylessKinds.contains kind

/-- Goes on with the current definition, or starts one if `boundary` says so or none has
started. Tells whether one starts here. -/
def begin (s : SplitState) (boundary : Bool) : SplitState × Bool :=
  if s.started && boundary then ({ s with header := [], closed := false }, true)
  else ({ s with started := true, closed := false }, !s.started)

def wordBoundary (s : SplitState) (word : String) : Bool :=
  definitionKeywords.contains word && (s.closed || (s.isTypeSystem && s.pastName))

def braceBoundary (s : SplitState) : Bool := s.closed || (s.isBodyless && s.pastName)

def textBoundary (s : SplitState) : Bool := s.closed || !s.header.isEmpty

def push (word : String) (r : SplitState × Bool) : SplitState × Bool :=
  ({ r.1 with header := r.1.header ++ [word] }, r.2)

def outer (s : SplitState) (l : Lexeme) : SplitState × Bool :=
  match l.mark with
  | .comment | .gap | .closing _ => (s, false)
  | .text => s.begin s.textBoundary
  | .opening true => s.begin s.braceBoundary
  | .opening false | .variable | .other => s.begin false
  | .directive => push "@" (s.begin false)
  | .word => push l.ascii (s.begin (s.wordBoundary l.ascii))

/-- The depth after a lexeme. Closing brackets without a partner are let pass. -/
def nest (s : SplitState) (l : Lexeme) : SplitState :=
  match l.mark with
  | .opening _ => { s with depth := s.depth + 1 }
  | .closing brace =>
    { s with depth := s.depth - 1, closed := s.closed || (brace && s.depth ≤ 1) }
  | _ => s

def step (s : SplitState) (l : Lexeme) : SplitState × Bool :=
  let (s, starts) := if s.depth = 0 then s.outer l else (s, false)
  (s.nest l, starts)

end SplitState

def startsFrom (s : SplitState) (offset : Nat) : List Lexeme → List Nat
  | [] => []
  | l :: rest =>
    let (next, starts) := s.step l
    let more := startsFrom next (offset + l.bytes.length) rest
    if starts then offset :: more else more

def definitionStarts (bs : List UInt8) : List Nat := startsFrom .initial 0 (Lexeme.all bs)

def piecesAt (cs : List Char) (stop : Nat) : List Nat → List (List Char)
  | [] => []
  | [start] => [Text.slice cs start stop]
  | start :: next :: rest => Text.slice cs start next :: piecesAt cs stop (next :: rest)

def splitChars (cs : List Char) : List (List Char) :=
  let bs := Text.bytes cs
  ((piecesAt cs bs.length (definitionStarts bs)).map Text.trim).filter fun piece =>
    !piece.isEmpty

def splitDefinitions (text : String) : List String := (splitChars text.toList).map String.ofList

end QueryModel
