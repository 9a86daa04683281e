import QueryModel.Schema.Basic

/-!
# Uses of directives

The directives applied to one element, each with the values of its declared arguments.
The first application of a name counts, and in it the first value of an argument; an
argument that is not given takes its default. What the schema does not declare is left
out. The uses stand in the order in which the schema declares the directives, the
arguments of a use in key order.
-/

set_option autoImplicit false

namespace QueryModel

abbrev DirectiveUses := Table (Table Json)

namespace DirectiveUses

def argumentValue? (given : AppliedDirective) (declared : InputDeclaration) : Option Json :=
  (given.arguments.lookup declared.name).or declared.default

def addArgument (given : AppliedDirective) (values : Table Json) (declared : InputDeclaration) :
    Table Json :=
  values.insertSome declared.name (argumentValue? given declared)

def argumentValues (declaration : DirectiveDeclaration) (given : AppliedDirective) : Table Json :=
  (declaration.arguments.foldl (addArgument given) ∅).inKeyOrder

def useOf? (applied : List AppliedDirective) (declaration : DirectiveDeclaration) :
    Option (Table Json) :=
  (applied.find? fun d => d.name == declaration.name).map (argumentValues declaration)

def addUse (applied : List AppliedDirective) (uses : DirectiveUses)
    (declaration : DirectiveDeclaration) : DirectiveUses :=
  uses.insertSome declaration.name (useOf? applied declaration)

def ofApplied (s : Schema) (applied : List AppliedDirective) : DirectiveUses :=
  s.directives.foldl (addUse applied) ∅

def ofWritten (s : Schema) (directives : List Syntax.Directive) : DirectiveUses :=
  ofApplied s (directives.map Syntax.Directive.applied)

def toApplied (uses : DirectiveUses) : List AppliedDirective :=
  uses.entries.map fun (name, values) => ⟨name, values.entries⟩

def toJson (uses : DirectiveUses) : Json :=
  .object (uses.entries.map fun (name, values) => (name, .object values.entries))

/-- Whether the element is deprecated, and the reason if it is given as a text. -/
def deprecation (uses : DirectiveUses) : Bool × Option String :=
  match uses.get? "deprecated" with
  | some values => (true, (values.get? "reason").bind Json.asString?)
  | none => (false, none)

def members (uses : DirectiveUses) (usesDirectives : Bool) : List (String × Json) := [
  ("directives", uses.toJson),
  ("usesDirectives", .bool usesDirectives)]

end DirectiveUses

def deprecationMembers (isDeprecated : Bool) (reason : Option String) : List (String × Json) := [
  ("isDeprecated", .bool isDeprecated),
  ("deprecationReason", .ofOption .string reason)]

end QueryModel
