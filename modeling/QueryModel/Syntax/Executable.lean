import QueryModel.Syntax.Value
import QueryModel.TypeRef

/-!
# Executable definitions

Operations and fragments as written. A shorthand query is a selection set alone.
-/

set_option autoImplicit false

namespace QueryModel

inductive OperationKind where
  | query
  | mutation
  | subscription
  deriving DecidableEq, Repr, Inhabited

def OperationKind.text : OperationKind → String
  | .query => "query"
  | .mutation => "mutation"
  | .subscription => "subscription"

def OperationKind.all : List OperationKind := [.query, .mutation, .subscription]

namespace Syntax

/-- One item of a selection set. A field without a sub-selection has no items. -/
inductive Selection where
  | field (label : Option String) (name : String) (arguments : List (String × Value))
      (directives : List Directive) (items : List Selection)
  | inlineFragment (condition : Option String) (directives : List Directive)
      (items : List Selection)
  | spread (name : String) (directives : List Directive)
  deriving Inhabited, Repr

structure VariableDefinition where
  name : String
  type : TypeRef
  default : Option Value
  deriving Inhabited, Repr

inductive Definition where
  | shorthand (items : List Selection)
  | operation (kind : OperationKind) (name : Option String)
      (declaredVariables : List VariableDefinition) (directives : List Directive)
      (items : List Selection)
  | fragment (name : String) (onType : String) (directives : List Directive)
      (items : List Selection)
  deriving Inhabited, Repr

namespace Definition

def items : Definition → List Selection
  | .shorthand items => items
  | .operation _ _ _ _ items => items
  | .fragment _ _ _ items => items

def declaredVariables : Definition → List VariableDefinition
  | .operation _ _ declaredVariables _ _ => declaredVariables
  | _ => []

end Definition

end Syntax

end QueryModel
