import QueryModel.Json.Basic
import QueryModel.Syntax.Value
import QueryModel.TypeRef

/-!
# Type system declarations

Types, their fields and values, and directives as a schema declares them. A definition
of a type and an extension of it have the same parts but for the description.
-/

set_option autoImplicit false

namespace QueryModel

/-- A directive applied to an element, its arguments in order and with repetitions. -/
structure AppliedDirective where
  name : String
  arguments : List (String × Json)
  deriving DecidableEq, Inhabited, Repr

def Syntax.Directive.applied (d : Syntax.Directive) : AppliedDirective :=
  ⟨d.name, d.arguments.map fun (name, value) => (name, value.toJson)⟩

structure InputDeclaration where
  name : String
  description : Option String
  type : TypeRef
  default : Option Json
  directives : List AppliedDirective
  deriving DecidableEq, Inhabited, Repr

structure FieldDeclaration where
  name : String
  description : Option String
  type : TypeRef
  arguments : List InputDeclaration
  directives : List AppliedDirective
  deriving DecidableEq, Inhabited, Repr

structure EnumValueDeclaration where
  name : String
  description : Option String
  directives : List AppliedDirective
  deriving DecidableEq, Inhabited, Repr

inductive DirectiveLocation where
  | query
  | mutation
  | subscription
  | field
  | fragmentDefinition
  | fragmentSpread
  | inlineFragment
  | variableDefinition
  | schema
  | scalar
  | object
  | fieldDefinition
  | argumentDefinition
  | interface
  | union
  | enum
  | enumValue
  | inputObject
  | inputFieldDefinition
  deriving DecidableEq, Inhabited, Repr

namespace DirectiveLocation

def text : DirectiveLocation → String
  | .query => "QUERY"
  | .mutation => "MUTATION"
  | .subscription => "SUBSCRIPTION"
  | .field => "FIELD"
  | .fragmentDefinition => "FRAGMENT_DEFINITION"
  | .fragmentSpread => "FRAGMENT_SPREAD"
  | .inlineFragment => "INLINE_FRAGMENT"
  | .variableDefinition => "VARIABLE_DEFINITION"
  | .schema => "SCHEMA"
  | .scalar => "SCALAR"
  | .object => "OBJECT"
  | .fieldDefinition => "FIELD_DEFINITION"
  | .argumentDefinition => "ARGUMENT_DEFINITION"
  | .interface => "INTERFACE"
  | .union => "UNION"
  | .enum => "ENUM"
  | .enumValue => "ENUM_VALUE"
  | .inputObject => "INPUT_OBJECT"
  | .inputFieldDefinition => "INPUT_FIELD_DEFINITION"

def all : List DirectiveLocation := [
  .query, .mutation, .subscription, .field, .fragmentDefinition, .fragmentSpread,
  .inlineFragment, .variableDefinition, .schema, .scalar, .object, .fieldDefinition,
  .argumentDefinition, .interface, .union, .enum, .enumValue, .inputObject,
  .inputFieldDefinition]

def ofText? (name : String) : Option DirectiveLocation := all.find? fun l => l.text == name

end DirectiveLocation

structure DirectiveDeclaration where
  name : String
  description : Option String
  arguments : List InputDeclaration
  locations : List DirectiveLocation
  deriving DecidableEq, Inhabited, Repr

inductive TypeShape where
  | scalar
  | object (interfaces : List String) (fields : List FieldDeclaration)
  | interface (fields : List FieldDeclaration)
  | union (members : List String)
  | enum (values : List EnumValueDeclaration)
  | inputObject (fields : List InputDeclaration)
  deriving DecidableEq, Inhabited, Repr

structure TypeDeclaration where
  name : String
  description : Option String
  directives : List AppliedDirective
  shape : TypeShape
  deriving DecidableEq, Inhabited, Repr

namespace TypeDeclaration

def fields (t : TypeDeclaration) : List FieldDeclaration :=
  match t.shape with
  | .object _ fields => fields
  | .interface fields => fields
  | _ => []

def inputFields (t : TypeDeclaration) : List InputDeclaration :=
  match t.shape with
  | .inputObject fields => fields
  | _ => []

def field? (t : TypeDeclaration) (name : String) : Option FieldDeclaration :=
  t.fields.find? fun f => f.name == name

def interfaces (t : TypeDeclaration) : List String :=
  match t.shape with
  | .object interfaces _ => interfaces
  | _ => []

def enumValues (t : TypeDeclaration) : List EnumValueDeclaration :=
  match t.shape with
  | .enum values => values
  | _ => []

def unionMembers (t : TypeDeclaration) : List String :=
  match t.shape with
  | .union members => members
  | _ => []

end TypeDeclaration

structure RootNames where
  query : Option String
  mutation : Option String
  subscription : Option String
  deriving DecidableEq, Inhabited, Repr

inductive TypeSystemDefinition where
  | schema (directives : List AppliedDirective) (roots : RootNames)
  | type (declaration : TypeDeclaration)
  | extension (addition : TypeDeclaration)
  | directive (declaration : DirectiveDeclaration)
  deriving DecidableEq, Inhabited, Repr

end QueryModel
