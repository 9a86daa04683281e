import QueryModel.Document.Basic
import QueryModel.Flatten.Basic

/-!
# Flattened documents

Every operation and every fragment is flattened with names of its own.
-/

set_option autoImplicit false

namespace QueryModel

structure FlatOperation where
  operation : Operation
  models : List Model
  isFlatten : Bool

structure FlatFragment where
  fragment : Fragment
  models : List Model
  isFlatten : Bool

structure FlatDocument where
  operations : List FlatOperation
  fragments : List FlatFragment
  hasOperations : Bool
  hasFragments : Bool

def modelMembers (models : List Model) (isFlatten : Bool) : List (String × Json) := [
  ("innerModels", .array (models.map Model.toJson)),
  ("isFlatten", .bool isFlatten)]

def FlatOperation.toJson (o : FlatOperation) : Json :=
  .object (o.operation.members ++ modelMembers o.models o.isFlatten)

def FlatFragment.toJson (f : FlatFragment) : Json :=
  .object (f.fragment.members ++ modelMembers f.models f.isFlatten)

def Operation.flatten (o : Operation) : FlatOperation :=
  let (set, models) := o.set.flatten
  ⟨{ o with set := set }, models, true⟩

def Fragment.flatten (f : Fragment) : FlatFragment :=
  let (set, models) := f.set.flatten
  ⟨{ f with set := set }, models, true⟩

def Document.flatten (d : Document) : FlatDocument :=
  let operations := d.operations.map Operation.flatten
  let fragments := d.fragments.map Fragment.flatten
  ⟨operations, fragments, !operations.isEmpty, !fragments.isEmpty⟩

namespace FlatDocument

def document (d : FlatDocument) : Document :=
  ⟨d.operations.map (·.operation), d.fragments.map (·.fragment), d.hasOperations, d.hasFragments⟩

def toJson (d : FlatDocument) : Json :=
  .object [
    ("operations", .array (d.operations.map FlatOperation.toJson)),
    ("fragments", .array (d.fragments.map FlatFragment.toJson)),
    ("hasOperations", .bool d.hasOperations),
    ("hasFragments", .bool d.hasFragments)]

end FlatDocument

end QueryModel
