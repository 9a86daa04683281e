import QueryModel.Member

/-!
# Selections

What a document selects on a type, with every field resolved. A level of a selection
lists its items in order and tells whether the name of the type was asked for.
-/

set_option autoImplicit false

namespace QueryModel

structure SelectedField where
  /-- The key in the response: the alias, or else the name of the field. -/
  name : String
  fieldName : String
  label : Option String
  type : TypeReference
  kind : TypeKind
  /-- The arguments that the schema declares. -/
  arguments : List Argument
  hasArguments : Bool
  directives : DirectiveUses
  usesDirectives : Bool
  deriving DecidableEq

inductive SelectionItem where
  | field (selected : SelectedField) (hasTypename : Bool) (items : List SelectionItem)
  | inlineFragment (onType : String) (directives : DirectiveUses) (usesDirectives : Bool)
      (hasTypename : Bool) (items : List SelectionItem)
  | spread (name : String) (directives : DirectiveUses) (usesDirectives : Bool)

structure SelectionSet where
  hasTypename : Bool
  items : List SelectionItem

namespace SelectionSet

def empty : SelectionSet := ⟨false, []⟩

instance : Inhabited SelectionSet := ⟨empty⟩

def length (set : SelectionSet) : Nat := set.items.length

def isEmpty (set : SelectionSet) : Bool := set.items.isEmpty

end SelectionSet

inductive ItemKind where
  | field
  | inlineFragment
  | spread
  deriving DecidableEq, Repr

def ItemKind.label : ItemKind → String
  | .field => "Field"
  | .inlineFragment => "InlineFragment"
  | .spread => "FragmentSpread"

def SelectionItem.kind : SelectionItem → ItemKind
  | .field _ _ _ => .field
  | .inlineFragment _ _ _ _ _ => .inlineFragment
  | .spread _ _ _ => .spread

def SelectionSet.count (set : SelectionSet) (kind : ItemKind) : Nat :=
  (set.items.filter fun item => item.kind = kind).length

end QueryModel
