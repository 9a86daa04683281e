import QueryModel.Catalog.Basic
import QueryModel.Flatten.Document
import QueryModel.Proofs.Table

/-!
# Records

All that is written as an object of its own, in catalogs, documents and flattened documents, and
what it holds of that kind. An item of a selection is written twice where it stands, once with its
kind as a tag. No form of a record has a key twice.
-/

set_option autoImplicit false

namespace QueryModel

inductive Record where
  | catalog (c : Catalog)
  | object (r : ObjectRecord)
  | input (r : InputRecord)
  | enum (r : EnumRecord)
  | enumValue (r : EnumValueRecord)
  | union (r : UnionRecord)
  | interface (r : InterfaceRecord)
  | scalar (r : ScalarRecord)
  | directive (r : DirectiveRecord)
  | field (f : Field)
  | argument (a : Argument)
  | document (d : Document)
  | operation (o : Operation)
  | fragment (f : Fragment)
  | declaredVariable (v : Variable)
  | item (i : SelectionItem)
  | flatDocument (d : FlatDocument)
  | flatOperation (o : FlatOperation)
  | flatFragment (f : FlatFragment)
  | model (m : Model)

namespace Record

def toJson : Record → Json
  | .catalog c => c.toJson
  | .object r => r.toJson
  | .input r => r.toJson
  | .enum r => r.toJson
  | .enumValue r => r.toJson
  | .union r => r.toJson
  | .interface r => r.toJson
  | .scalar r => r.toJson
  | .directive r => r.toJson
  | .field f => f.toJson
  | .argument a => a.toJson
  | .document d => d.toJson
  | .operation o => o.toJson
  | .fragment f => f.toJson
  | .declaredVariable v => v.toJson
  | .item i => ItemRecord.plain (i.kind, i.members)
  | .flatDocument d => d.toJson
  | .flatOperation o => o.toJson
  | .flatFragment f => f.toJson
  | .model m => m.toJson

inductive WrittenAs : Record → Json → Prop where
  | plain (r : Record) : WrittenAs r r.toJson
  | tagged (i : SelectionItem) : WrittenAs (.item i) (ItemRecord.tagged (i.kind, i.members))

/-- The records that the record holds itself, in the order in which they are written. -/
def parts : Record → List Record
  | .catalog c =>
    c.types.map .object ++ c.inputTypes.map .input ++ c.enums.map .enum ++ c.unions.map .union ++
      c.interfaces.map .interface ++ c.scalars.map .scalar ++ c.definedDirectives.map .directive
  | .object r => r.fields.map .field
  | .input r => r.fields.map .field
  | .enum r => r.values.map .enumValue
  | .enumValue _ => []
  | .union _ => []
  | .interface r => r.fields.map .field
  | .scalar _ => []
  | .directive r => r.arguments.map .argument
  | .field f => f.arguments.map .argument
  | .argument _ => []
  | .document d => d.operations.map .operation ++ d.fragments.map .fragment
  | .operation o => o.set.items.map .item ++ o.declaredVariables.map .declaredVariable
  | .fragment f => f.set.items.map .item
  | .declaredVariable _ => []
  | .item (.field selected _ items) => selected.arguments.map .argument ++ items.map .item
  | .item (.inlineFragment _ _ _ _ items) => items.map .item
  | .item (.spread _ _ _) => []
  | .flatDocument d => d.operations.map .flatOperation ++ d.fragments.map .flatFragment
  | .flatOperation o =>
    o.operation.set.items.map .item ++ o.operation.declaredVariables.map .declaredVariable ++
      o.models.map .model
  | .flatFragment f => f.fragment.set.items.map .item ++ f.models.map .model
  | .model m => m.set.items.map .item

/-- The record is the other one or stands in it at some depth. -/
inductive Within : Record → Record → Prop where
  | self (r : Record) : Within r r
  | part {r part whole : Record} (hpart : part ∈ whole.parts) (h : Within r part) : Within r whole

end Record

section Keys

def namedKeys : List String := ["name", "description"]

def typeKeys : List String :=
  ["type", "raw", "isRequired", "isArray", "isNullableArray", "dimensionOfArray"]

def kindKeys : List String :=
  ["isScalar", "isEnum", "isType", "isInputType", "isInterface", "isUnion"]

def usesKeys : List String := ["directives", "usesDirectives"]

def argumentsKeys : List String := ["arguments", "hasArguments"]

def fieldsKeys : List String := ["fields", "hasFields"]

def defaultKeys : List String := ["defaultValue", "hasDefaultValue"]

def deprecationKeys : List String := ["isDeprecated", "deprecationReason"]

def levelKeys : List String :=
  ["selectionSet", "fields", "fragmentsSpread", "inlineFragments", "hasFields",
    "hasFragmentsSpread", "hasInlineFragments", "hasTypename"]

def originKeys : List String := ["originalFile", "document"]

def documentKeys : List String := ["operations", "fragments", "hasOperations", "hasFragments"]

def operationKeys : List String :=
  ["name", "operationType"] ++ levelKeys ++ ["variables", "hasVariables"] ++ usesKeys ++ originKeys

def fragmentKeys : List String := ["name", "onType"] ++ levelKeys ++ usesKeys ++ originKeys

def modelsKeys : List String := ["innerModels", "isFlatten"]

def Record.keys : Record → List String
  | .catalog _ =>
    ["types", "hasTypes", "inputTypes", "hasInputTypes", "enums", "hasEnums", "unions",
      "hasUnions", "interfaces", "hasInterfaces", "scalars", "hasScalars", "definedDirectives",
      "hasDefinedDirectives"] ++ usesKeys
  | .object _ => namedKeys ++ fieldsKeys ++ ["interfaces", "hasInterfaces"] ++ usesKeys
  | .input _ => namedKeys ++ fieldsKeys ++ usesKeys
  | .enum _ => namedKeys ++ ["values"] ++ usesKeys
  | .enumValue _ => namedKeys ++ ["value"] ++ usesKeys ++ deprecationKeys
  | .union _ => namedKeys ++ ["possibleTypes", "hasPossibleTypes"] ++ usesKeys
  | .interface _ =>
    namedKeys ++ fieldsKeys ++ ["implementingTypes", "hasImplementingTypes"] ++ usesKeys
  | .scalar _ => namedKeys ++ usesKeys
  | .directive _ =>
    namedKeys ++ argumentsKeys ++ ["locations"] ++ DirectiveLocation.all.map (·.member)
  | .field _ =>
    namedKeys ++ typeKeys ++ kindKeys ++ argumentsKeys ++ usesKeys ++ defaultKeys ++
      deprecationKeys
  | .argument _ => namedKeys ++ typeKeys ++ kindKeys ++ usesKeys ++ defaultKeys
  | .document _ => documentKeys
  | .operation _ => operationKeys
  | .fragment _ => fragmentKeys
  | .declaredVariable _ => namedKeys ++ typeKeys ++ kindKeys ++ defaultKeys
  | .item (.field _ _ _) =>
    ["name", "fieldName", "alias"] ++ typeKeys ++ kindKeys ++ argumentsKeys ++ usesKeys ++ levelKeys
  | .item (.inlineFragment _ _ _ _ _) => ["onType"] ++ usesKeys ++ levelKeys
  | .item (.spread _ _ _) => ["fragmentName"] ++ usesKeys
  | .flatDocument _ => documentKeys
  | .flatOperation _ => operationKeys ++ modelsKeys
  | .flatFragment _ => fragmentKeys ++ modelsKeys
  | .model _ => ["schemaBaseType", "modelType"] ++ levelKeys

namespace Record

theorem keys_toJson (r : Record) : Entries.keys r.toJson.members = r.keys := by
  cases r
  case item i => cases i <;> rfl
  all_goals rfl

theorem kind_keys_nodup (r : Record) : ("kind" :: r.keys).Nodup := by
  cases r
  case item i => cases i <;> simp only [keys] <;> decide
  all_goals (simp only [keys]; decide)

theorem WrittenAs.keys_nodup {r : Record} {j : Json} (h : r.WrittenAs j) :
    (Entries.keys j.members).Nodup := by
  have hkeys := kind_keys_nodup r
  rw [← keys_toJson] at hkeys
  cases h with
  | plain => exact (List.nodup_cons.mp hkeys).2
  | tagged i => exact hkeys

end Record

end Keys

theorem Json.find?_of_mem {j : Json} (hkeys : (Entries.keys j.members).Nodup) {key : String}
    {value : Json} (h : (key, value) ∈ j.members) : j.find? key = some value := by
  have hget := Table.get?_of_mem (t := ⟨j.members, hkeys⟩) h
  exact hget

theorem itemRecords_eq (items : List SelectionItem) :
    itemRecords items = items.map fun i => (i.kind, i.members) := by
  induction items with
  | nil => rfl
  | cons i items ih => rw [itemRecords, ih, List.map_cons]

end QueryModel
