import QueryModel.Member

/-!
# Catalog records

One record for every type that a schema defines, in six lists by kind, and one for
every directive.
-/

set_option autoImplicit false

namespace QueryModel

structure ObjectRecord where
  name : String
  description : String
  fields : List Field
  hasFields : Bool
  interfaces : List String
  hasInterfaces : Bool
  directives : DirectiveUses
  usesDirectives : Bool
  deriving DecidableEq

structure InputRecord where
  name : String
  description : String
  fields : List Field
  hasFields : Bool
  directives : DirectiveUses
  usesDirectives : Bool
  deriving DecidableEq

structure EnumValueRecord where
  name : String
  value : String
  description : String
  directives : DirectiveUses
  usesDirectives : Bool
  isDeprecated : Bool
  deprecationReason : Option String
  deriving DecidableEq

structure EnumRecord where
  name : String
  description : String
  values : List EnumValueRecord
  directives : DirectiveUses
  usesDirectives : Bool
  deriving DecidableEq

structure UnionRecord where
  name : String
  description : String
  possibleTypes : List String
  hasPossibleTypes : Bool
  directives : DirectiveUses
  usesDirectives : Bool
  deriving DecidableEq

structure InterfaceRecord where
  name : String
  description : String
  fields : List Field
  hasFields : Bool
  implementingTypes : List String
  hasImplementingTypes : Bool
  directives : DirectiveUses
  usesDirectives : Bool
  deriving DecidableEq

structure ScalarRecord where
  name : String
  description : String
  directives : DirectiveUses
  usesDirectives : Bool
  deriving DecidableEq

structure DirectiveRecord where
  name : String
  description : String
  arguments : List Argument
  hasArguments : Bool
  locations : List DirectiveLocation
  deriving DecidableEq

structure Catalog where
  types : List ObjectRecord
  inputTypes : List InputRecord
  enums : List EnumRecord
  unions : List UnionRecord
  interfaces : List InterfaceRecord
  scalars : List ScalarRecord
  definedDirectives : List DirectiveRecord
  hasTypes : Bool
  hasInputTypes : Bool
  hasEnums : Bool
  hasUnions : Bool
  hasInterfaces : Bool
  hasScalars : Bool
  hasDefinedDirectives : Bool
  directives : DirectiveUses
  usesDirectives : Bool
  deriving DecidableEq

def namedMembers (name description : String) : List (String × Json) := [
  ("name", .string name),
  ("description", .string description)]

def ObjectRecord.toJson (r : ObjectRecord) : Json :=
  .object (namedMembers r.name r.description ++ Field.listMembers r.fields r.hasFields ++ [
    ("interfaces", .ofStrings r.interfaces),
    ("hasInterfaces", .bool r.hasInterfaces)] ++ r.directives.members r.usesDirectives)

def InputRecord.toJson (r : InputRecord) : Json :=
  .object (namedMembers r.name r.description ++ Field.listMembers r.fields r.hasFields ++
    r.directives.members r.usesDirectives)

def EnumValueRecord.toJson (r : EnumValueRecord) : Json :=
  .object (namedMembers r.name r.description ++ [("value", .string r.value)] ++
    r.directives.members r.usesDirectives ++
    deprecationMembers r.isDeprecated r.deprecationReason)

def EnumRecord.toJson (r : EnumRecord) : Json :=
  .object (namedMembers r.name r.description ++
    [("values", .array (r.values.map EnumValueRecord.toJson))] ++
    r.directives.members r.usesDirectives)

def UnionRecord.toJson (r : UnionRecord) : Json :=
  .object (namedMembers r.name r.description ++ [
    ("possibleTypes", .ofStrings r.possibleTypes),
    ("hasPossibleTypes", .bool r.hasPossibleTypes)] ++ r.directives.members r.usesDirectives)

def InterfaceRecord.toJson (r : InterfaceRecord) : Json :=
  .object (namedMembers r.name r.description ++ Field.listMembers r.fields r.hasFields ++ [
    ("implementingTypes", .ofStrings r.implementingTypes),
    ("hasImplementingTypes", .bool r.hasImplementingTypes)] ++
    r.directives.members r.usesDirectives)

def ScalarRecord.toJson (r : ScalarRecord) : Json :=
  .object (namedMembers r.name r.description ++ r.directives.members r.usesDirectives)

def DirectiveLocation.member : DirectiveLocation → String
  | .query => "onQuery"
  | .mutation => "onMutation"
  | .subscription => "onSubscription"
  | .field => "onField"
  | .fragmentDefinition => "onFragment"
  | .fragmentSpread => "onFragmentSpread"
  | .inlineFragment => "onInlineFragment"
  | .variableDefinition => "onVariableDefinition"
  | .schema => "onSchema"
  | .scalar => "onScalar"
  | .object => "onObject"
  | .fieldDefinition => "onFieldDefinition"
  | .argumentDefinition => "onArgument"
  | .interface => "onInterface"
  | .union => "onUnion"
  | .enum => "onEnum"
  | .enumValue => "onEnumValue"
  | .inputObject => "onInputObject"
  | .inputFieldDefinition => "onInputField"

def DirectiveRecord.toJson (r : DirectiveRecord) : Json :=
  .object (namedMembers r.name r.description ++ Argument.listMembers r.arguments r.hasArguments ++
    [("locations", .ofStrings (r.locations.map DirectiveLocation.text))] ++
    DirectiveLocation.all.map fun l => (l.member, .bool (r.locations.contains l)))

namespace Catalog

def listMembers {α : Type} (name flag : String) (toJson : α → Json) (records : List α)
    (present : Bool) : List (String × Json) := [
  (name, .array (records.map toJson)),
  (flag, .bool present)]

def toJson (c : Catalog) : Json :=
  .object (
    listMembers "types" "hasTypes" ObjectRecord.toJson c.types c.hasTypes ++
    listMembers "inputTypes" "hasInputTypes" InputRecord.toJson c.inputTypes c.hasInputTypes ++
    listMembers "enums" "hasEnums" EnumRecord.toJson c.enums c.hasEnums ++
    listMembers "unions" "hasUnions" UnionRecord.toJson c.unions c.hasUnions ++
    listMembers "interfaces" "hasInterfaces" InterfaceRecord.toJson c.interfaces
      c.hasInterfaces ++
    listMembers "scalars" "hasScalars" ScalarRecord.toJson c.scalars c.hasScalars ++
    listMembers "definedDirectives" "hasDefinedDirectives" DirectiveRecord.toJson
      c.definedDirectives c.hasDefinedDirectives ++
    c.directives.members c.usesDirectives)

def object? (c : Catalog) (name : String) : Option ObjectRecord :=
  c.types.find? fun r => r.name == name

def interface? (c : Catalog) (name : String) : Option InterfaceRecord :=
  c.interfaces.find? fun r => r.name == name

end Catalog

end QueryModel
