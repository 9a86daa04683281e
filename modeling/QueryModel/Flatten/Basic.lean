import QueryModel.Selection.Basic
import QueryModel.Selection.Record
import QueryModel.Text.Words

/-!
# Flattened selections

Every field with a selection on it and every inline fragment becomes a model with a name
of its own, and the selection names the model in place of the schema type. Names come
from the response key or the type condition in Pascal case, with underscores put in
front until the name is free. Models stand in the order in which their names are given,
parents before what they hold.
-/

set_option autoImplicit false

namespace QueryModel

structure Model where
  baseType : String
  modelType : String
  set : SelectionSet

def Model.toJson (m : Model) : Json :=
  .object ([("schemaBaseType", .string m.baseType), ("modelType", .string m.modelType)] ++
    m.set.members)

/-- Names that would hide a root type. -/
def reservedNames : List String := ["Query", "Mutation", "Subscription"]

def freeNameFrom (taken : List String) : Nat → String → String
  | 0, name => name
  | tries + 1, name =>
    if taken.contains name then freeNameFrom taken tries ("_" ++ name) else name

/-- A name that is not taken. No more underscores are needed than there are taken names. -/
def freeName (taken : List String) (candidate : String) : String :=
  freeNameFrom taken taken.length candidate

def fieldCandidate (selected : SelectedField) : String := Text.pascalCase selected.name

def fragmentCandidate (onType : String) : String := Text.pascalCase onType ++ "InlineFragment"

def SelectedField.withType (f : SelectedField) (name : String) : SelectedField :=
  { f with type := { f.type with name := name } }

structure Flattener where
  taken : List String
  models : List Model

namespace Flattener

def start : Flattener := ⟨reservedNames, []⟩

def reserve (f : Flattener) (baseType name : String) : Flattener :=
  ⟨name :: f.taken, f.models ++ [⟨baseType, name, .empty⟩]⟩

def fill (f : Flattener) (slot : Nat) (set : SelectionSet) : Flattener :=
  { f with models := f.models.modify slot fun m => { m with set := set } }

/-- Names a shape, reserves its slot, and fills it with what `inner` makes of the items
below. The slot comes before the slots of the shapes inside. -/
def hoist (f : Flattener) (candidate baseType : String) (hasTypename : Bool)
    (inner : Flattener → List SelectionItem × Flattener) :
    String × List SelectionItem × Flattener :=
  let name := freeName f.taken candidate
  let slot := f.models.length
  let (children, after) := inner (f.reserve baseType name)
  (name, children, after.fill slot ⟨hasTypename, children⟩)

mutual

def item (f : Flattener) : SelectionItem → SelectionItem × Flattener
  | .field selected hasTypename items =>
    if items.isEmpty then (.field selected hasTypename items, f)
    else
      let (name, children, after) := f.hoist (fieldCandidate selected) selected.type.name
        hasTypename fun g => g.items items
      (.field (selected.withType name) hasTypename children, after)
  | .inlineFragment onType directives usesDirectives hasTypename items =>
    let (name, children, after) := f.hoist (fragmentCandidate onType) onType hasTypename
      fun g => g.items items
    (.inlineFragment name directives usesDirectives hasTypename children, after)
  | .spread name directives usesDirectives => (.spread name directives usesDirectives, f)

def items (f : Flattener) : List SelectionItem → List SelectionItem × Flattener
  | [] => ([], f)
  | one :: rest =>
    let (first, next) := f.item one
    let (others, last) := next.items rest
    (first :: others, last)

end

end Flattener

def SelectionSet.flatten (set : SelectionSet) : SelectionSet × List Model :=
  let (items, after) := Flattener.start.items set.items
  (⟨set.hasTypename, items⟩, after.models)

end QueryModel
