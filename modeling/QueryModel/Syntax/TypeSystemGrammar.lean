import QueryModel.Schema.Declaration
import QueryModel.Syntax.CommonGrammar

/-!
# Grammar of type system definitions

Definitions may be described, extensions and the schema definition may not. Bodies may
be left out and, but for the one of a schema definition, are not empty. The names that
an interface implements are read and not kept.
-/

set_option autoImplicit false

namespace QueryModel.Syntax

namespace Reader

def applied : Reader (List AppliedDirective) := do
  return (← directives).map Directive.applied

def isTextNext : Reader Bool := do
  match ← next? with
  | some t => return t.kind = .stringValue ∨ t.kind = .blockString
  | none => return false

def description : Reader (Option String) := do
  if ← isTextNext then return some (← text) else return none

def inputDeclaration : Reader InputDeclaration := do
  let about ← description
  let n ← name
  expect (sign ":")
  let t ← typeRef
  let default ← defaultValue
  return ⟨n, about, t, default.map Value.toJson, ← applied⟩

def argumentDeclarations : Reader (List InputDeclaration) :=
  optionalBetween (sign "(") (sign ")") inputDeclaration

def fieldDeclaration : Reader FieldDeclaration := do
  let about ← description
  let n ← name
  let args ← argumentDeclarations
  expect (sign ":")
  let t ← typeRef
  return ⟨n, about, t, args, ← applied⟩

def enumValueDeclaration : Reader EnumValueDeclaration := do
  let about ← description
  let n ← name
  return ⟨n, about, ← applied⟩

def optionalBody {α : Type} (item : Reader α) : Reader (List α) :=
  optionalBetween (sign "\x7b") (sign "\x7d") item

def implemented : Reader (List String) := do
  if ← accept (word "implements") then
    let _ ← accept (sign "&")
    separated (sign "&") name
  else return []

def unionMembers : Reader (List String) := do
  if ← accept (sign "=") then
    let _ ← accept (sign "|")
    separated (sign "|") name
  else return []

def typeBody (kind : String) (about : Option String) : Reader TypeDeclaration := do
  let n ← name
  match kind with
  | "scalar" => return ⟨n, about, ← applied, .scalar⟩
  | "type" =>
    let interfaces ← implemented
    let dirs ← applied
    return ⟨n, about, dirs, .object interfaces (← optionalBody fieldDeclaration)⟩
  | "interface" =>
    let _ ← implemented
    let dirs ← applied
    return ⟨n, about, dirs, .interface (← optionalBody fieldDeclaration)⟩
  | "union" =>
    let dirs ← applied
    return ⟨n, about, dirs, .union (← unionMembers)⟩
  | "enum" =>
    let dirs ← applied
    return ⟨n, about, dirs, .enum (← optionalBody enumValueDeclaration)⟩
  | _ =>
    let dirs ← applied
    return ⟨n, about, dirs, .inputObject (← optionalBody inputDeclaration)⟩

def typeKinds : List String := ["scalar", "type", "interface", "union", "enum", "input"]

def location : Reader DirectiveLocation := do
  let p ← position
  match DirectiveLocation.ofText? (← name) with
  | some l => return l
  | none => fail ⟨p, .unknownLocation⟩

/-- The locations after `on`; there may be none when neither a bar nor a name follows. -/
def locations : Reader (List DirectiveLocation) := do
  expect (word "on")
  let bar ← accept (sign "|")
  if bar || (← isNameNext) then separated (sign "|") location else return []

def directiveBody (about : Option String) : Reader DirectiveDeclaration := do
  expect (sign "@")
  let n ← name
  let args ← argumentDeclarations
  let _ ← accept (word "repeatable")
  return ⟨n, about, args, ← locations⟩

/-- Sets one root name; a name that is no root or is set already is a fault. -/
def addRoot (roots : RootNames) (entry : String × String) : Except Cause RootNames :=
  match entry.1 with
  | "query" =>
    if roots.query.isSome then .error (.duplicateRoot "query")
    else .ok { roots with query := some entry.2 }
  | "mutation" =>
    if roots.mutation.isSome then .error (.duplicateRoot "mutation")
    else .ok { roots with mutation := some entry.2 }
  | "subscription" =>
    if roots.subscription.isSome then .error (.duplicateRoot "subscription")
    else .ok { roots with subscription := some entry.2 }
  | other => .error (.token (word other))

def rootEntry : Reader (String × String) := do
  let key ← name
  expect (sign ":")
  return (key, ← name)

def schemaDefinition : Reader TypeSystemDefinition := do
  let p ← position
  advance
  let dirs ← applied
  expect (sign "\x7b")
  let entries ← manyUntil (sign "\x7d") rootEntry
  match entries.foldlM addRoot ⟨none, none, none⟩ with
  | .ok roots => return .schema dirs roots
  | .error cause => fail ⟨p, cause⟩

def addsSomething (t : TypeDeclaration) : Bool :=
  !t.directives.isEmpty ||
    match t.shape with
    | .scalar => false
    | .object interfaces fields => !interfaces.isEmpty || !fields.isEmpty
    | .interface fields => !fields.isEmpty
    | .union members => !members.isEmpty
    | .enum values => !values.isEmpty
    | .inputObject fields => !fields.isEmpty

def typeKind : Reader String := do
  match ← next? with
  | some ⟨.name, kind⟩ => if typeKinds.contains kind then advance; return kind else unexpected
  | _ => unexpected

def extension : Reader TypeSystemDefinition := do
  advance
  let p ← position
  let t ← typeBody (← typeKind) none
  if addsSomething t then return .extension t else fail ⟨p, .emptyExtension⟩

def described : Reader TypeSystemDefinition := do
  let about ← description
  if ← accept (word "directive") then return .directive (← directiveBody about)
  else return .type (← typeBody (← typeKind) about)

def typeSystemDefinition : Reader TypeSystemDefinition := do
  if ← isNext (word "schema") then schemaDefinition
  else if ← isNext (word "extend") then extension
  else described

end Reader

def readTypeSystem (text : String) : Except Failure (List TypeSystemDefinition) :=
  (Reader.document Reader.typeSystemDefinition).read text

end QueryModel.Syntax
