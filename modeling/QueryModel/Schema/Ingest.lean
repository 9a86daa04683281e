import QueryModel.Schema.Basic
import QueryModel.Syntax.TypeSystemGrammar

/-!
# Schemas from definitions

A later definition of a type replaces an earlier one in its place. The builtin scalars
and directives are added where the document defines none of the name. Extensions add to
the types they name, wherever in the document they stand. The last schema definition
names the root types; without one the conventional names count if such types exist.
-/

set_option autoImplicit false

namespace QueryModel

def builtinScalars : List String := ["String", "Int", "Float", "Boolean", "ID"]

def builtinScalar (name : String) : TypeDeclaration := ⟨name, none, [], .scalar⟩

def builtinDirectives : List DirectiveDeclaration :=
  let executable : List DirectiveLocation := [.field, .fragmentSpread, .inlineFragment]
  [ ⟨"skip", none, [⟨"if", none, .nonNull (.named "Boolean"), none, []⟩], executable⟩,
    ⟨"include", none, [⟨"if", none, .nonNull (.named "Boolean"), none, []⟩], executable⟩,
    ⟨"deprecated", none,
      [⟨"reason", none, .named "String", some (.string "No longer supported"), []⟩],
      [.fieldDefinition, .argumentDefinition, .inputFieldDefinition, .enumValue]⟩,
    ⟨"specifiedBy", none, [⟨"url", none, .nonNull (.named "String"), none, []⟩], [.scalar]⟩ ]

def TypeShape.join? : TypeShape → TypeShape → Option TypeShape
  | .scalar, .scalar => some .scalar
  | .object interfaces fields, .object more others =>
    some (.object (interfaces ++ more) (fields ++ others))
  | .interface fields, .interface others => some (.interface (fields ++ others))
  | .union members, .union others => some (.union (members ++ others))
  | .enum values, .enum others => some (.enum (values ++ others))
  | .inputObject fields, .inputObject others => some (.inputObject (fields ++ others))
  | _, _ => none

def TypeDeclaration.extend? (t addition : TypeDeclaration) : Option TypeDeclaration :=
  (t.shape.join? addition.shape).map fun shape =>
    { t with shape := shape, directives := t.directives ++ addition.directives }

namespace Schema

def defineType (types : Table TypeDeclaration) (d : TypeSystemDefinition) :
    Table TypeDeclaration :=
  match d with
  | .type declaration => types.insert declaration.name declaration
  | _ => types

def addBuiltin (types : Table TypeDeclaration) (name : String) : Table TypeDeclaration :=
  types.insertNew name (builtinScalar name)

/-- The defined types and then the builtin scalars that are not defined. -/
def definedTypes (definitions : List TypeSystemDefinition) : Table TypeDeclaration :=
  builtinScalars.foldl addBuiltin (definitions.foldl defineType ∅)

def extendType (types : Table TypeDeclaration) (addition : TypeDeclaration) :
    Except Error (Table TypeDeclaration) :=
  match types.get? addition.name with
  | none => .error (.unknownType addition.name)
  | some t =>
    match t.extend? addition with
    | none => .error (.classification addition.name)
    | some extended => .ok (types.insert addition.name extended)

def extensions (definitions : List TypeSystemDefinition) : List TypeDeclaration :=
  definitions.filterMap fun
    | .extension addition => some addition
    | _ => none

def definedDirectives (definitions : List TypeSystemDefinition) : List DirectiveDeclaration :=
  definitions.filterMap fun
    | .directive declaration => some declaration
    | _ => none

def allDirectives (definitions : List TypeSystemDefinition) : List DirectiveDeclaration :=
  let defined := definedDirectives definitions
  defined ++ builtinDirectives.filter fun b => !defined.any fun d => d.name == b.name

def schemaApplied (definitions : List TypeSystemDefinition) : List AppliedDirective :=
  definitions.flatMap fun
    | .schema applied _ => applied
    | _ => []

def schemaRoots (definitions : List TypeSystemDefinition) : List RootNames :=
  definitions.filterMap fun
    | .schema _ roots => some roots
    | _ => none

def conventionalRoot (types : Table TypeDeclaration) (name : String) : Option String :=
  if types.contains name then some name else none

def conventionalRoots (types : Table TypeDeclaration) : RootNames :=
  ⟨conventionalRoot types "Query", conventionalRoot types "Mutation",
    conventionalRoot types "Subscription"⟩

def ofDefinitions (definitions : List TypeSystemDefinition) : Except Error Schema := do
  let types ← (extensions definitions).foldlM extendType (definedTypes definitions)
  return {
    types := types
    directives := allDirectives definitions
    applied := schemaApplied definitions
    roots := (schemaRoots definitions).getLast?.getD (conventionalRoots types) }

def read (source text : String) : Except Error Schema :=
  match Syntax.readTypeSystem text with
  | .ok definitions => ofDefinitions definitions
  | .error failure => .error (.parse source .schema failure)

end Schema

end QueryModel
