import QueryModel.Catalog.Basic
import QueryModel.Error
import QueryModel.Schema.Ingest

/-!
# Building the catalog

The types of a schema but for the builtin scalar names and the names that start with two
underscores go, in order, to the list of their kind; then the directives follow. The
first type name that the schema does not know is the error.
-/

set_option autoImplicit false

namespace QueryModel

def isUserType (name : String) : Bool :=
  !builtinScalars.contains name && !List.isPrefixOf ['_', '_'] name.toList

namespace ObjectRecord

def ofType (s : Schema) (t : TypeDeclaration) : Except Error ObjectRecord := do
  let fields ← Field.resolveAll s t.fields
  let directives := DirectiveUses.ofApplied s t.directives
  return {
    name := t.name
    description := t.description.getD ""
    fields := fields
    hasFields := !fields.isEmpty
    interfaces := t.interfaces
    hasInterfaces := !t.interfaces.isEmpty
    directives := directives
    usesDirectives := !directives.isEmpty }

end ObjectRecord

namespace InputRecord

def ofType (s : Schema) (t : TypeDeclaration) : Except Error InputRecord := do
  let fields ← Field.resolveInputs s t.inputFields
  let directives := DirectiveUses.ofApplied s t.directives
  return {
    name := t.name
    description := t.description.getD ""
    fields := fields
    hasFields := !fields.isEmpty
    directives := directives
    usesDirectives := !directives.isEmpty }

end InputRecord

def EnumValueRecord.ofDeclaration (s : Schema) (v : EnumValueDeclaration) : EnumValueRecord :=
  let directives := DirectiveUses.ofApplied s v.directives
  let (isDeprecated, deprecationReason) := directives.deprecation
  { name := v.name
    value := v.name
    description := v.description.getD ""
    directives := directives
    usesDirectives := !directives.isEmpty
    isDeprecated := isDeprecated
    deprecationReason := deprecationReason }

def EnumRecord.ofType (s : Schema) (t : TypeDeclaration) : EnumRecord :=
  let directives := DirectiveUses.ofApplied s t.directives
  { name := t.name
    description := t.description.getD ""
    values := t.enumValues.map (EnumValueRecord.ofDeclaration s)
    directives := directives
    usesDirectives := !directives.isEmpty }

def UnionRecord.ofType (s : Schema) (t : TypeDeclaration) : UnionRecord :=
  let directives := DirectiveUses.ofApplied s t.directives
  { name := t.name
    description := t.description.getD ""
    possibleTypes := t.unionMembers
    hasPossibleTypes := !t.unionMembers.isEmpty
    directives := directives
    usesDirectives := !directives.isEmpty }

namespace InterfaceRecord

def ofType (s : Schema) (t : TypeDeclaration) : Except Error InterfaceRecord := do
  let fields ← Field.resolveAll s t.fields
  let implementingTypes := s.implementations t.name
  let directives := DirectiveUses.ofApplied s t.directives
  return {
    name := t.name
    description := t.description.getD ""
    fields := fields
    hasFields := !fields.isEmpty
    implementingTypes := implementingTypes
    hasImplementingTypes := !implementingTypes.isEmpty
    directives := directives
    usesDirectives := !directives.isEmpty }

end InterfaceRecord

def ScalarRecord.ofType (s : Schema) (t : TypeDeclaration) : ScalarRecord :=
  let directives := DirectiveUses.ofApplied s t.directives
  { name := t.name
    description := t.description.getD ""
    directives := directives
    usesDirectives := !directives.isEmpty }

namespace DirectiveRecord

def ofDeclaration (s : Schema) (d : DirectiveDeclaration) : Except Error DirectiveRecord := do
  let arguments ← Argument.resolveAll s d.arguments
  return ⟨d.name, d.description.getD "", arguments, !arguments.isEmpty, d.locations⟩

def all (s : Schema) : Except Error (List DirectiveRecord) :=
  s.directives.mapM (ofDeclaration s)

end DirectiveRecord

namespace Catalog

def addType (s : Schema) (c : Catalog) (t : TypeDeclaration) : Except Error Catalog := do
  match ← t.classify with
  | .object => return { c with types := c.types ++ [← ObjectRecord.ofType s t] }
  | .inputObject => return { c with inputTypes := c.inputTypes ++ [← InputRecord.ofType s t] }
  | .enum => return { c with enums := c.enums ++ [EnumRecord.ofType s t] }
  | .union => return { c with unions := c.unions ++ [UnionRecord.ofType s t] }
  | .interface =>
    return { c with interfaces := c.interfaces ++ [← InterfaceRecord.ofType s t] }
  | .scalar => return { c with scalars := c.scalars ++ [ScalarRecord.ofType s t] }

def userTypes (s : Schema) : List TypeDeclaration :=
  s.types.values.filter fun t => isUserType t.name

def blank (s : Schema) : Catalog :=
  let directives := DirectiveUses.ofApplied s s.applied
  { types := [], inputTypes := [], enums := [], unions := [], interfaces := [], scalars := []
    definedDirectives := []
    hasTypes := false, hasInputTypes := false, hasEnums := false, hasUnions := false
    hasInterfaces := false, hasScalars := false, hasDefinedDirectives := false
    directives := directives
    usesDirectives := !directives.isEmpty }

/-- The flags of the lists, which routing leaves as they were. -/
def refresh (c : Catalog) : Catalog :=
  { c with
    hasTypes := !c.types.isEmpty
    hasInputTypes := !c.inputTypes.isEmpty
    hasEnums := !c.enums.isEmpty
    hasUnions := !c.unions.isEmpty
    hasInterfaces := !c.interfaces.isEmpty
    hasScalars := !c.scalars.isEmpty
    hasDefinedDirectives := !c.definedDirectives.isEmpty }

def build (s : Schema) : Except Error Catalog := do
  let c ← (userTypes s).foldlM (addType s) (blank s)
  let definedDirectives ← DirectiveRecord.all s
  return refresh { c with definedDirectives := definedDirectives }

def journal (details : Bool) (s : Schema) : Journal :=
  [.debug "[build_catalog] started..." none,
    .debug ("[build_catalog] got total of " ++ toString (userTypes s).length ++
      " types in the schema") none] ++
  match build s with
  | .ok c => if details then [.debug "[build_catalog] done, result is:" (some c.toJson)] else []
  | .error _ => []

end Catalog

end QueryModel
