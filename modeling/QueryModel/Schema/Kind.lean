import QueryModel.Schema.Declaration

/-!
# Kinds of types

Every type is of one of six kinds, told apart by what can be asked of it. Records show
the kind as six flags of which one is set.
-/

set_option autoImplicit false

namespace QueryModel

inductive TypeKind where
  | scalar
  | enum
  | object
  | inputObject
  | interface
  | union
  deriving DecidableEq, Inhabited, Repr

namespace TypeKind

def label : TypeKind → String
  | .scalar => "Scalar"
  | .enum => "Enum"
  | .object => "Object"
  | .inputObject => "InputObject"
  | .interface => "Interface"
  | .union => "Union"

def members (kind : TypeKind) : List (String × Json) := [
  ("isScalar", .bool (kind = .scalar)),
  ("isEnum", .bool (kind = .enum)),
  ("isType", .bool (kind = .object)),
  ("isInputType", .bool (kind = .inputObject)),
  ("isInterface", .bool (kind = .interface)),
  ("isUnion", .bool (kind = .union))]

def hasFieldMap : TypeKind → Bool
  | .object | .interface | .inputObject => true
  | _ => false

def isLeaf : TypeKind → Bool
  | .scalar | .enum => true
  | _ => false

def isAbstract : TypeKind → Bool
  | .interface | .union => true
  | _ => false

def capabilities (kind : TypeKind) : List String :=
  (if kind.hasFieldMap then ["fields"] else []) ++
  (if kind = .object then ["interfaces"] else []) ++
  (if kind = .enum then ["enumValues"] else []) ++
  (if kind = .union then ["members"] else []) ++
  (if kind.isLeaf then ["leaf"] else []) ++
  (if kind.isAbstract then ["abstract"] else [])

/-- The kind of a type that these things can be asked of. Enums come before other leaves,
abstract types before other types with fields. -/
def ofCapabilities? (capabilities : List String) : Option TypeKind :=
  if capabilities.contains "enumValues" then some .enum
  else if capabilities.contains "leaf" then some .scalar
  else if capabilities.contains "abstract" && capabilities.contains "fields" then some .interface
  else if capabilities.contains "abstract" && capabilities.contains "members" then some .union
  else if capabilities.contains "fields" && !capabilities.contains "interfaces" then
    some .inputObject
  else if capabilities.contains "fields" && capabilities.contains "interfaces" then some .object
  else none

theorem ofCapabilities?_capabilities (kind : TypeKind) :
    ofCapabilities? kind.capabilities = some kind := by
  cases kind <;> decide

end TypeKind

def TypeShape.kind : TypeShape → TypeKind
  | .scalar => .scalar
  | .object _ _ => .object
  | .interface _ => .interface
  | .union _ => .union
  | .enum _ => .enum
  | .inputObject _ => .inputObject

def TypeDeclaration.kind (t : TypeDeclaration) : TypeKind := t.shape.kind

end QueryModel
