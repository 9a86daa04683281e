import QueryModel.DirectiveUses
import QueryModel.Syntax.Executable

/-!
# Resolved members

Arguments, fields and the variables of an operation with the facts about their types
looked up in the schema. A member whose type is not in the schema is an error; in a field
the type comes first and then the arguments in order. Variables carry no description.
-/

set_option autoImplicit false

namespace QueryModel

structure Argument where
  name : String
  description : String
  type : TypeReference
  kind : TypeKind
  directives : DirectiveUses
  usesDirectives : Bool
  default : Option Json
  hasDefault : Bool
  deriving DecidableEq

structure Field where
  name : String
  description : String
  type : TypeReference
  kind : TypeKind
  arguments : List Argument
  hasArguments : Bool
  directives : DirectiveUses
  usesDirectives : Bool
  default : Option Json
  hasDefault : Bool
  isDeprecated : Bool
  deprecationReason : Option String
  deriving DecidableEq

def defaultMembers (default : Option Json) (hasDefault : Bool) : List (String × Json) := [
  ("defaultValue", default.getD .null),
  ("hasDefaultValue", .bool hasDefault)]

namespace Argument

def resolve (s : Schema) (declared : InputDeclaration) : Except Error Argument := do
  let kind ← s.kindOf declared.type.name
  let directives := DirectiveUses.ofApplied s declared.directives
  return {
    name := declared.name
    description := declared.description.getD ""
    type := declared.type.resolve
    kind := kind
    directives := directives
    usesDirectives := !directives.isEmpty
    default := declared.default
    hasDefault := declared.default.isSome }

def resolveAll (s : Schema) (declared : List InputDeclaration) : Except Error (List Argument) :=
  declared.mapM (resolve s)

def toJson (a : Argument) : Json :=
  .object ([("name", .string a.name), ("description", .string a.description)] ++
    a.type.members ++ a.kind.members ++ a.directives.members a.usesDirectives ++
    defaultMembers a.default a.hasDefault)

def listMembers (arguments : List Argument) (hasArguments : Bool) : List (String × Json) := [
  ("arguments", .array (arguments.map toJson)),
  ("hasArguments", .bool hasArguments)]

end Argument

namespace Field

def resolve (s : Schema) (declared : FieldDeclaration) : Except Error Field := do
  let kind ← s.kindOf declared.type.name
  let arguments ← Argument.resolveAll s declared.arguments
  let directives := DirectiveUses.ofApplied s declared.directives
  let (isDeprecated, deprecationReason) := directives.deprecation
  return {
    name := declared.name
    description := declared.description.getD ""
    type := declared.type.resolve
    kind := kind
    arguments := arguments
    hasArguments := !arguments.isEmpty
    directives := directives
    usesDirectives := !directives.isEmpty
    default := none
    hasDefault := false
    isDeprecated := isDeprecated
    deprecationReason := deprecationReason }

def resolveAll (s : Schema) (declared : List FieldDeclaration) : Except Error (List Field) :=
  declared.mapM (resolve s)

/-- A field of an input type is resolved as an argument is, and takes over its flags. -/
def ofArgument (a : Argument) : Field where
  name := a.name
  description := a.description
  type := a.type
  kind := a.kind
  arguments := []
  hasArguments := false
  directives := a.directives
  usesDirectives := a.usesDirectives
  default := a.default
  hasDefault := a.hasDefault
  isDeprecated := a.directives.deprecation.1
  deprecationReason := a.directives.deprecation.2

def resolveInput (s : Schema) (declared : InputDeclaration) : Except Error Field :=
  (Argument.resolve s declared).map ofArgument

def resolveInputs (s : Schema) (declared : List InputDeclaration) : Except Error (List Field) :=
  declared.mapM (resolveInput s)

def toJson (f : Field) : Json :=
  .object ([("name", .string f.name), ("description", .string f.description)] ++
    f.type.members ++ f.kind.members ++ Argument.listMembers f.arguments f.hasArguments ++
    f.directives.members f.usesDirectives ++ defaultMembers f.default f.hasDefault ++
    deprecationMembers f.isDeprecated f.deprecationReason)

def listMembers (fields : List Field) (hasFields : Bool) : List (String × Json) := [
  ("fields", .array (fields.map toJson)),
  ("hasFields", .bool hasFields)]

end Field

structure Variable where
  name : String
  type : TypeReference
  kind : TypeKind
  default : Option Json
  hasDefault : Bool
  deriving DecidableEq

namespace Variable

def resolve (s : Schema) (written : Syntax.VariableDefinition) : Except Error Variable := do
  let kind ← s.kindOf written.type.name
  let default := written.default.map Syntax.Value.toJson
  return {
    name := written.name
    type := written.type.resolve
    kind := kind
    default := default
    hasDefault := default.isSome }

def resolveAll (s : Schema) (written : List Syntax.VariableDefinition) :
    Except Error (List Variable) :=
  written.mapM (resolve s)

def toJson (v : Variable) : Json :=
  .object ([("name", .string v.name), ("description", .string "")] ++ v.type.members ++
    v.kind.members ++ defaultMembers v.default v.hasDefault)

end Variable

end QueryModel
