import QueryModel.Catalog.Build
import QueryModel.Command.Arguments
import QueryModel.Command.Log
import QueryModel.Flatten.Document
import QueryModel.Loading.FileTree
import QueryModel.Loading.Load

/-!
# The command

From words to an outcome: the schema is loaded and catalogued, the documents are loaded
and resolved, and both are given as one JSON text, printed or saved to a file.
-/

set_option autoImplicit false

namespace QueryModel

structure CommandSettings where
  details : Bool
  threshold : LogThreshold
  deriving DecidableEq, Repr

def CommandSettings.ofEnvironment (get? : String → Option String) : CommandSettings :=
  ⟨asksForDetails (get? detailSetting), .ofSetting (get? LogThreshold.settingName)⟩

namespace Command

def model (w : Surroundings) (details : Bool) (o : CommandOptions) : Run (Document × String) := do
  let source ← Run.liftResult ((SourceSettings.ofLocation o.schema).withHeaderTexts o.headers)
  let schema ← Run.liftResult (w.loadSchema source)
  (Catalog.journal details schema).forM Run.note
  let catalog ← Run.liftResult (Catalog.build schema)
  let sources ← Run.liftResult (w.loadDocuments o.documents)
  let document ← Run.sources ⟨schema, details⟩ sources
  let documents := if o.flatten then document.flatten.toJson else document.toJson
  return (document, Json.pretty (.object [("documents", documents), ("schema", catalog.toJson)]))

inductive Delivery where
  | print (text : String)
  | save (path text : String)
  deriving DecidableEq, Repr

structure Report where
  lines : List LogLine
  result : Except Error Delivery

def speaker : String := "gql_model"

def summary (d : Document) : LogLine :=
  ⟨.info, speaker, "transformed documents",
    [("operations", toString d.operations.length), ("fragments", toString d.fragments.length)]⟩

def report (w : Surroundings) (details : Bool) (o : CommandOptions) : Report :=
  let (result, progress) := (model w details o).runFrom .start
  let lines := LogLine.ofJournal details progress.journal
  match result with
  | .error e => ⟨lines, .error e⟩
  | .ok (document, text) =>
    ⟨lines ++ [summary document],
      .ok (match o.out with
        | some path => .save path text
        | none => .print (text ++ "\n"))⟩

structure Outcome where
  exitCode : Nat
  stdout : String
  stderr : String
  deriving DecidableEq, Repr

def failed (t : LogThreshold) (lines : List LogLine) (e : Error) : Outcome :=
  ⟨1, "", t.render (lines ++ [⟨.error, speaker, e.message, []⟩])⟩

/-- The outcome of a report; `saved` tells whether a text that is to be saved can be. -/
def Report.outcome (r : Report) (t : LogThreshold) (saved : Except ReadFault Unit) : Outcome :=
  match r.result, saved with
  | .error e, _ => failed t r.lines e
  | .ok (.print text), _ => ⟨0, text, t.render r.lines⟩
  | .ok (.save _ _), .ok () => ⟨0, "", t.render r.lines⟩
  | .ok (.save path _), .error fault => failed t r.lines (.read path fault)

def usage (fault : UsageFault) : Outcome :=
  match fault.message? with
  | none => ⟨0, CommandOptions.help, ""⟩
  | some message => ⟨1, "", message ++ "\n\n" ++ CommandOptions.help ++ "\n"⟩

def runIn (tree : FileTree) (ask : Request → Option Reply) (settings : CommandSettings)
    (words : List String) : Outcome × FileTree :=
  match CommandOptions.ofWords words with
  | .error fault => (usage fault, tree)
  | .ok options =>
    let r := report ⟨tree.readText, ask⟩ settings.details options
    match r.result with
    | .ok (.save path text) =>
      match tree.writeText path text with
      | .ok after => (r.outcome settings.threshold (.ok ()), after)
      | .error fault => (r.outcome settings.threshold (.error fault), tree)
    | _ => (r.outcome settings.threshold (.ok ()), tree)

end Command

end QueryModel
