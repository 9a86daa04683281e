import QueryModel.Member
import QueryModel.Selection.Record

/-!
# Documents

Operations and fragments resolved against a schema, each with its printed source and the
file it came from.
-/

set_option autoImplicit false

namespace QueryModel

structure Operation where
  name : String
  kind : OperationKind
  set : SelectionSet
  declaredVariables : List Variable
  hasVariables : Bool
  directives : DirectiveUses
  usesDirectives : Bool
  file : Option String
  printed : String

structure Fragment where
  name : String
  onType : String
  set : SelectionSet
  directives : DirectiveUses
  usesDirectives : Bool
  file : Option String
  printed : String

structure Document where
  operations : List Operation
  fragments : List Fragment
  hasOperations : Bool
  hasFragments : Bool

inductive ResolvedDefinition where
  | operation (o : Operation)
  | fragment (f : Fragment)

def originMembers (file : Option String) (printed : String) : List (String × Json) := [
  ("originalFile", .ofOption .string file),
  ("document", .string printed)]

namespace Operation

def members (o : Operation) : List (String × Json) :=
  [("name", .string o.name), ("operationType", .string o.kind.text)] ++ o.set.members ++
  [("variables", .array (o.declaredVariables.map Variable.toJson)),
    ("hasVariables", .bool o.hasVariables)] ++
  o.directives.members o.usesDirectives ++ originMembers o.file o.printed

def toJson (o : Operation) : Json := .object o.members

end Operation

namespace Fragment

def members (f : Fragment) : List (String × Json) :=
  [("name", .string f.name), ("onType", .string f.onType)] ++ f.set.members ++
  f.directives.members f.usesDirectives ++ originMembers f.file f.printed

def toJson (f : Fragment) : Json := .object f.members

end Fragment

namespace Document

def empty : Document := ⟨[], [], false, false⟩

instance : EmptyCollection Document := ⟨empty⟩

instance : Inhabited Document := ⟨empty⟩

def refresh (d : Document) : Document :=
  { d with hasOperations := !d.operations.isEmpty, hasFragments := !d.fragments.isEmpty }

/-- The definitions of both, with the flags of all of them. -/
def append (d e : Document) : Document :=
  refresh { d with
    operations := d.operations ++ e.operations
    fragments := d.fragments ++ e.fragments }

instance : Append Document := ⟨append⟩

/-- The definition behind the others of its kind. The flags are left as they were. -/
def push (d : Document) : ResolvedDefinition → Document
  | .operation o => { d with operations := d.operations ++ [o] }
  | .fragment f => { d with fragments := d.fragments ++ [f] }

def operation? (d : Document) (name : String) : Option Operation :=
  d.operations.find? fun o => o.name == name

def fragment? (d : Document) (name : String) : Option Fragment :=
  d.fragments.find? fun f => f.name == name

def toJson (d : Document) : Json :=
  .object [
    ("operations", .array (d.operations.map Operation.toJson)),
    ("fragments", .array (d.fragments.map Fragment.toJson)),
    ("hasOperations", .bool d.hasOperations),
    ("hasFragments", .bool d.hasFragments)]

end Document

end QueryModel
