import QueryModel.Selection.Basic

/-!
# Selection records

A level is written with all its items, each tagged with its kind, and again with the
items of each kind in a list of their own, without the tag.
-/

set_option autoImplicit false

namespace QueryModel

abbrev ItemRecord := ItemKind × List (String × Json)

namespace ItemRecord

def tagged (r : ItemRecord) : Json := .object (("kind", .string r.1.label) :: r.2)

def plain (r : ItemRecord) : Json := .object r.2

def ofKind (kind : ItemKind) (records : List ItemRecord) : List Json :=
  (records.filter fun r => r.1 = kind).map plain

def levelMembers (hasTypename : Bool) (records : List ItemRecord) : List (String × Json) := [
  ("selectionSet", .array (records.map tagged)),
  ("fields", .array (ofKind .field records)),
  ("fragmentsSpread", .array (ofKind .spread records)),
  ("inlineFragments", .array (ofKind .inlineFragment records)),
  ("hasFields", .bool !(ofKind .field records).isEmpty),
  ("hasFragmentsSpread", .bool !(ofKind .spread records).isEmpty),
  ("hasInlineFragments", .bool !(ofKind .inlineFragment records).isEmpty),
  ("hasTypename", .bool hasTypename)]

end ItemRecord

def SelectedField.members (f : SelectedField) : List (String × Json) :=
  [("name", .string f.name), ("fieldName", .string f.fieldName),
    ("alias", .ofOption .string f.label)] ++
  f.type.members ++ f.kind.members ++ Argument.listMembers f.arguments f.hasArguments ++
  f.directives.members f.usesDirectives

mutual

def SelectionItem.members : SelectionItem → List (String × Json)
  | .field selected hasTypename items =>
    selected.members ++ ItemRecord.levelMembers hasTypename (itemRecords items)
  | .inlineFragment onType directives usesDirectives hasTypename items =>
    ("onType", .string onType) :: directives.members usesDirectives ++
      ItemRecord.levelMembers hasTypename (itemRecords items)
  | .spread name directives usesDirectives =>
    ("fragmentName", .string name) :: directives.members usesDirectives

def itemRecords : List SelectionItem → List ItemRecord
  | [] => []
  | item :: rest => (item.kind, item.members) :: itemRecords rest

end

namespace SelectionSet

def members (set : SelectionSet) : List (String × Json) :=
  ItemRecord.levelMembers set.hasTypename (itemRecords set.items)

def toJson (set : SelectionSet) : Json := .object set.members

end SelectionSet

end QueryModel
