import QueryModel.Schema.Basic
import QueryModel.Selection.Basic

/-!
# Building selections

A written selection is resolved on a type. A field must be declared by the type, and the
types of the field and of its arguments must be in the schema. An inline fragment
without a condition is resolved on the type around it. Asking for the name of the type
leaves no item. The first item that cannot be resolved is the error; in a field the
order is the field, its type, what is selected on it, and then its arguments.
-/

set_option autoImplicit false

namespace QueryModel

def typenameField : String := "__typename"

namespace SelectionSet

/-- The level with an item in front, or with the name of the type asked for. -/
def add (item : Option SelectionItem) (set : SelectionSet) : SelectionSet :=
  match item with
  | some i => ⟨set.hasTypename, i :: set.items⟩
  | none => ⟨true, set.items⟩

end SelectionSet

def declaredField (parent : TypeDeclaration) (name : String) : Except Error FieldDeclaration :=
  match parent.field? name with
  | some f => .ok f
  | none => .error (.unknownField parent.name name)

def conditionType (s : Schema) (parent : TypeDeclaration) :
    Option String → Except Error TypeDeclaration
  | some name => s.typeNamed name
  | none => .ok parent

mutual

/-- The item for a written selection, or none for the name of the type. -/
def buildItem (s : Schema) (parent : TypeDeclaration) :
    Syntax.Selection → Except Error (Option SelectionItem)
  | .field label name _ directives items =>
    if name = typenameField then .ok none
    else do
      let declared ← declaredField parent name
      let type ← s.typeNamed declared.type.name
      let kind ← type.classify
      let set ← buildItems s type items
      let arguments ← Argument.resolveAll s declared.arguments
      let uses := DirectiveUses.ofWritten s directives
      return some (.field {
        name := label.getD name
        fieldName := name
        label := label
        type := declared.type.resolve
        kind := kind
        arguments := arguments
        hasArguments := !arguments.isEmpty
        directives := uses
        usesDirectives := !uses.isEmpty } set.hasTypename set.items)
  | .inlineFragment condition directives items => do
    let type ← conditionType s parent condition
    let set ← buildItems s type items
    let uses := DirectiveUses.ofWritten s directives
    return some (.inlineFragment type.name uses (!uses.isEmpty) set.hasTypename set.items)
  | .spread name directives =>
    let uses := DirectiveUses.ofWritten s directives
    .ok (some (.spread name uses (!uses.isEmpty)))

def buildItems (s : Schema) (parent : TypeDeclaration) :
    List Syntax.Selection → Except Error SelectionSet
  | [] => .ok .empty
  | item :: rest => do
    let built ← buildItem s parent item
    let set ← buildItems s parent rest
    return set.add built

end

def SelectionSet.build (s : Schema) (parent : TypeDeclaration)
    (items : List Syntax.Selection) : Except Error SelectionSet :=
  buildItems s parent items

end QueryModel
