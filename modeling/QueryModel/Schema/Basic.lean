import QueryModel.Error
import QueryModel.Schema.Kind
import QueryModel.Table

/-!
# Schemas

A schema holds its types by name in order of definition, its directives, what is
applied to the schema itself and the names of its root types.
-/

set_option autoImplicit false

namespace QueryModel

structure Schema where
  types : Table TypeDeclaration
  directives : List DirectiveDeclaration
  applied : List AppliedDirective
  roots : RootNames

def RootNames.get (roots : RootNames) : OperationKind → Option String
  | .query => roots.query
  | .mutation => roots.mutation
  | .subscription => roots.subscription

def TypeDeclaration.classify (t : TypeDeclaration) : Except Error TypeKind :=
  match TypeKind.ofCapabilities? t.kind.capabilities with
  | some kind => .ok kind
  | none => .error (.classification t.name)

theorem TypeDeclaration.classify_eq_ok (t : TypeDeclaration) : t.classify = .ok t.kind := by
  rw [classify, TypeKind.ofCapabilities?_capabilities]

namespace Schema

def type? (s : Schema) (name : String) : Option TypeDeclaration := s.types.get? name

def typeNamed (s : Schema) (name : String) : Except Error TypeDeclaration :=
  match s.type? name with
  | some t => .ok t
  | none => .error (.unknownType name)

def kindOf (s : Schema) (name : String) : Except Error TypeKind :=
  s.typeNamed name >>= TypeDeclaration.classify

def directive? (s : Schema) (name : String) : Option DirectiveDeclaration :=
  s.directives.find? fun d => d.name == name

def rootType? (s : Schema) (kind : OperationKind) : Option TypeDeclaration :=
  (s.roots.get kind).bind s.type?

/-- The object types that declare the interface, in order of definition. -/
def implementations (s : Schema) (interface : String) : List String :=
  (s.types.values.filter fun t => t.interfaces.contains interface).map (·.name)

end Schema

end QueryModel
