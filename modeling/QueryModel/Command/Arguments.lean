/-!
# Command-line words

Words are read from the left in groups: a flag that takes the next word as its value,
whatever that word is, or a flag that stands alone. The first group that cannot be read
decides, and only then is a schema missed.
-/

set_option autoImplicit false

namespace QueryModel

inductive ValueFlag where
  | schema
  | header
  | document
  | out
  deriving DecidableEq, Repr

def ValueFlag.word : ValueFlag → String
  | .schema => "--schema"
  | .header => "--header"
  | .document => "--document"
  | .out => "--out"

inductive Flag where
  | valued (flag : ValueFlag)
  | flatten
  | help
  deriving DecidableEq, Repr

def Flag.ofWord? (word : String) : Option Flag :=
  if word = "--schema" then some (.valued .schema)
  else if word = "--header" then some (.valued .header)
  else if word = "--document" then some (.valued .document)
  else if word = "--out" then some (.valued .out)
  else if word = "--flatten" then some .flatten
  else if word = "--help" || word = "-h" then some .help
  else none

inductive UsageFault where
  | help
  | unknown (word : String)
  | valueless (flag : ValueFlag)
  | noSchema
  deriving DecidableEq, Repr

def UsageFault.message? : UsageFault → Option String
  | .help => none
  | .unknown word => some ("unknown argument: " ++ word)
  | .valueless flag => some (flag.word ++ " requires a value")
  | .noSchema => some "--schema is required"

structure CommandOptions where
  schema : String
  headers : List String
  documents : List String
  flatten : Bool
  out : Option String
  deriving DecidableEq, Repr

namespace CommandOptions

/-- Options of which the schema may still be missing. -/
structure Draft where
  schema : Option String
  headers : List String
  documents : List String
  flatten : Bool
  out : Option String
  deriving DecidableEq, Repr

def Draft.start : Draft := ⟨none, [], [], false, none⟩

def Draft.set (d : Draft) (flag : ValueFlag) (value : String) : Draft :=
  match flag with
  | .schema => { d with schema := some value }
  | .header => { d with headers := d.headers ++ [value] }
  | .document => { d with documents := d.documents ++ [value] }
  | .out => { d with out := some value }

def Draft.read (d : Draft) : List String → Except UsageFault Draft
  | [] => .ok d
  | word :: rest =>
    match Flag.ofWord? word with
    | none => .error (.unknown word)
    | some .help => .error .help
    | some .flatten => Draft.read { d with flatten := true } rest
    | some (.valued flag) =>
      match rest with
      | [] => .error (.valueless flag)
      | value :: rest => Draft.read (d.set flag value) rest

def ofWords (words : List String) : Except UsageFault CommandOptions := do
  let d ← Draft.start.read words
  match d.schema with
  | none => throw .noSchema
  | some schema => return ⟨schema, d.headers, d.documents, d.flatten, d.out⟩

def help : String := "\n".intercalate [
  "gql-model: build the codegen semantic model for a graphql schema and documents",
  "",
  "usage:",
  "  gql-model --schema <path|url> [--header <name:value>]... [--document <path>]... " ++
    "[--flatten] [--out <file>]",
  "",
  "options:",
  "  --schema <path|url>     schema sdl file, or an http(s) url serving the sdl",
  "  --header <name:value>   extra request header when fetching the schema (repeatable)",
  "  --document <path>       executable document file (repeatable)",
  "  --flatten               hoist nested selection shapes into named models",
  "  --out <file>            write the json model to a file instead of stdout",
  "  -h, --help              print this help",
  "",
  "environment:",
  "  CODEGEN_DEBUG           set to 1 to log debug messages from the model builders",
  "  RUST_LOG                tracing filter directives (default: info)",
  ""]

end CommandOptions

end QueryModel
