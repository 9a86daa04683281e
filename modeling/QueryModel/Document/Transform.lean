import QueryModel.Document.Basic
import QueryModel.Document.Split
import QueryModel.Error
import QueryModel.Selection.Build
import QueryModel.Syntax.ExecutableGrammar
import QueryModel.Syntax.Printer
import QueryModel.Syntax.TypeSystemGrammar

/-!
# Documents from sources

Definitions are resolved in order. An operation without a name gets one from a count
that goes on over all sources of a run and is not taken back when a definition fails. A
source that is not executable as a whole is cut into definitions; the type system
definitions among them are passed over with a warning. The count and the journal
outlive an error.
-/

set_option autoImplicit false

namespace QueryModel

structure Progress where
  /-- The operations that were given a name. -/
  unnamed : Nat
  journal : Journal
  deriving DecidableEq

def Progress.start : Progress := ⟨0, []⟩

/-- A step of a run. The progress is kept when the step fails. -/
abbrev Run (α : Type) := ExceptT Error (StateM Progress) α

structure RunSettings where
  schema : Schema
  details : Bool

structure Source where
  file : Option String
  content : String
  deriving DecidableEq, Repr

def Source.label (s : Source) : String := s.file.getD "document"

namespace Run

def note (m : Message) : Run Unit :=
  modify fun p => { p with journal := p.journal ++ [m] }

def debug (text : String) : Run Unit := note (.debug text none)

def liftResult {α : Type} (result : Except Error α) : Run α := ExceptT.mk (pure result)

def operationName (kind : OperationKind) : Option String → Run String
  | some name => return name
  | none => do
    modify fun p => { p with unnamed := p.unnamed + 1 }
    return "Anonymous_" ++ kind.text ++ "_" ++ toString (← get).unnamed

def rootType (s : Schema) (kind : OperationKind) : Except Error TypeDeclaration :=
  match s.rootType? kind with
  | some t => .ok t
  | none => .error (.missingRootType kind)

def operation (s : Schema) (file : Option String) (printed : String) (kind : OperationKind)
    (name : Option String) (declaredVariables : List Syntax.VariableDefinition)
    (directives : List Syntax.Directive) (items : List Syntax.Selection) : Run Operation := do
  let root ← liftResult (rootType s kind)
  let name ← operationName kind name
  debug ("[transform_operation] transforming " ++ name)
  let set ← liftResult (SelectionSet.build s root items)
  let declaredVariables ← liftResult (Variable.resolveAll s declaredVariables)
  let uses := DirectiveUses.ofWritten s directives
  return {
    name := name
    kind := kind
    set := set
    declaredVariables := declaredVariables
    hasVariables := !declaredVariables.isEmpty
    directives := uses
    usesDirectives := !uses.isEmpty
    file := file
    printed := printed }

def fragment (s : Schema) (file : Option String) (printed name onType : String)
    (directives : List Syntax.Directive) (items : List Syntax.Selection) : Run Fragment := do
  let root ← liftResult (s.typeNamed onType)
  debug ("[transform_fragment] transforming " ++ name)
  let set ← liftResult (SelectionSet.build s root items)
  let uses := DirectiveUses.ofWritten s directives
  return {
    name := name
    onType := onType
    set := set
    directives := uses
    usesDirectives := !uses.isEmpty
    file := file
    printed := printed }

def definition (s : Schema) (file : Option String) (d : Syntax.Definition) :
    Run ResolvedDefinition :=
  match d with
  | .shorthand items => do
    return .operation (← operation s file d.printed .query none [] [] items)
  | .operation kind name declaredVariables directives items => do
    return .operation (← operation s file d.printed kind name declaredVariables directives items)
  | .fragment name onType directives items => do
    return .fragment (← fragment s file d.printed name onType directives items)

def definitions (s : Schema) (file : Option String) (result : Document) :
    List Syntax.Definition → Run Document
  | [] => return result
  | d :: rest => do
    let one ← definition s file d
    definitions s file (result.push one) rest

def start : Run Unit := debug "[transform_document] started..."

def finish (details : Bool) (result : Document) : Run Document := do
  let result := result.refresh
  if details then
    note (.debug "[transform_document] done, result is:" (some result.toJson))
  return result

def document (settings : RunSettings) (file : Option String)
    (written : List Syntax.Definition) : Run Document := do
  start
  let result ← definitions settings.schema file ∅ written
  finish settings.details result

def skipWarning (label piece : String) : Message :=
  .warn (label ++ ": skipping type system definition `" ++
    String.ofList (Text.firstLine piece.toList) ++ "`")

/-- Resolves the pieces of a source one by one. A piece that no grammar reads gives the
failure of the whole source. -/
def pieces (s : Schema) (source : Source) (failure : Syntax.Failure) (result : Document) :
    List String → Run Document
  | [] => return result
  | piece :: rest =>
    match Syntax.readExecutable piece with
    | .ok written => do
      let result ← definitions s source.file result written
      pieces s source failure result rest
    | .error _ =>
      match Syntax.readTypeSystem piece with
      | .ok _ => do
        note (skipWarning source.label piece)
        pieces s source failure result rest
      | .error _ => throw (.parse source.label .query failure)

def mixedSource (settings : RunSettings) (source : Source) (failure : Syntax.Failure) :
    Run Document := do
  start
  let result ← pieces settings.schema source failure ∅ (splitDefinitions source.content)
  finish settings.details result

def source (settings : RunSettings) (source : Source) : Run Document :=
  match Syntax.readExecutable source.content with
  | .ok written => document settings source.file written
  | .error failure => mixedSource settings source failure

def sourcesAfter (settings : RunSettings) (result : Document) : List Source → Run Document
  | [] => return result
  | first :: rest => do
    let one ← source settings first
    sourcesAfter settings (result ++ one) rest

def sources (settings : RunSettings) (all : List Source) : Run Document :=
  sourcesAfter settings ∅ all

def runFrom {α : Type} (step : Run α) (progress : Progress) : Except Error α × Progress :=
  step.run.run progress

end Run

end QueryModel
