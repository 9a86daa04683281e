import QueryModel.Proofs.Catalog.Order
import QueryModel.Proofs.Document.Stability

/-!
# Documents and the order of definitions

Resolving a document asks a schema for types by name, for its directives and for its root names.
The order of the type map is never seen, so schemas that differ at most there resolve a document
in the same way, down to the error of one that fails.
-/

set_option autoImplicit false

namespace QueryModel

section Alike

variable {s u : Schema} (h : s.Alike u)

include h

theorem typeNamed_alike (name : String) : u.typeNamed name = s.typeNamed name := by
  rw [Schema.typeNamed, h.type_eq, Schema.typeNamed]

theorem kindOf_alike (name : String) : u.kindOf name = s.kindOf name := by
  rw [Schema.kindOf, typeNamed_alike h, Schema.kindOf]

theorem ofWritten_alike (directives : List Syntax.Directive) :
    DirectiveUses.ofWritten u directives = DirectiveUses.ofWritten s directives :=
  ofApplied_congr h.directives_eq _

theorem resolveArguments_alike (declared : List InputDeclaration) :
    Argument.resolveAll u declared = Argument.resolveAll s declared := by
  have hone : Argument.resolve u = Argument.resolve s := by
    funext d
    simp only [Argument.resolve, kindOf_alike h, ofApplied_congr h.directives_eq]
  rw [Argument.resolveAll, hone, Argument.resolveAll]

theorem resolveVariables_alike (declared : List Syntax.VariableDefinition) :
    Variable.resolveAll u declared = Variable.resolveAll s declared := by
  have hone : Variable.resolve u = Variable.resolve s := by
    funext v
    simp only [Variable.resolve, kindOf_alike h]
  rw [Variable.resolveAll, hone, Variable.resolveAll]

theorem conditionType_alike (parent : TypeDeclaration) (condition : Option String) :
    conditionType u parent condition = conditionType s parent condition := by
  cases condition with
  | none => rfl
  | some name => exact typeNamed_alike h name

theorem buildItems_alike (parent : TypeDeclaration) (written : List Syntax.Selection) :
    buildItems u parent written = buildItems s parent written := by
  induction written using selections_induction generalizing parent with
  | nil => rfl
  | field label name arguments directives items rest ihItems ihRest =>
    simp only [buildItems, buildItem, typeNamed_alike h, ihItems, ihRest, resolveArguments_alike h,
      ofWritten_alike h]
  | inlineFragment condition directives items rest ihItems ihRest =>
    simp only [buildItems, buildItem, conditionType_alike h, ihItems, ihRest, ofWritten_alike h]
  | spread name directives rest ihRest =>
    simp only [buildItems, buildItem, ihRest, ofWritten_alike h]

end Alike

namespace Run

section Alike

variable {s u : Schema} (h : s.Alike u) (file : Option String)

include h

theorem rootType_alike (kind : OperationKind) : rootType u kind = rootType s kind := by
  have hroot : u.rootType? kind = s.rootType? kind := by
    rw [Schema.rootType?, h.roots_eq, funext h.type_eq, Schema.rootType?]
  rw [rootType, hroot, rootType]

theorem definition_alike (d : Syntax.Definition) : definition u file d = definition s file d := by
  cases d with
  | shorthand items =>
    simp only [definition, operation, rootType_alike h, SelectionSet.build, buildItems_alike h,
      resolveVariables_alike h, ofWritten_alike h]
  | operation kind name declared directives items =>
    simp only [definition, operation, rootType_alike h, SelectionSet.build, buildItems_alike h,
      resolveVariables_alike h, ofWritten_alike h]
  | fragment name onType directives items =>
    simp only [definition, fragment, typeNamed_alike h, SelectionSet.build, buildItems_alike h,
      ofWritten_alike h]

theorem definitions_alike (written : List Syntax.Definition) (result : Document) :
    definitions u file result written = definitions s file result written := by
  induction written generalizing result with
  | nil => rfl
  | cons d rest ih => simp only [definitions, definition_alike h, ih]

theorem document_alike (details : Bool) (written : List Syntax.Definition) :
    document ⟨u, details⟩ file written = document ⟨s, details⟩ file written := by
  simp only [document, definitions_alike h]

end Alike

/-- Where no type is defined twice, definitions in another order have a schema when the first
ones do. The schemas give the same types by name, the same directives and the same root names,
and resolve every document with the same result or error. One has a catalog when the other has,
and their records are the same up to order. -/
theorem rearranged_same_meaning {definitions rearranged : List TypeSystemDefinition}
    (h : Schema.Rearranges definitions rearranged)
    (hnames : (Schema.definedNames definitions).Nodup) :
    ((∃ s, Schema.ofDefinitions definitions = .ok s) ↔
      ∃ u, Schema.ofDefinitions rearranged = .ok u) ∧
    ∀ s u, Schema.ofDefinitions definitions = .ok s → Schema.ofDefinitions rearranged = .ok u →
      s.Alike u ∧
      (∀ details file written start, runFrom (document ⟨u, details⟩ file written) start =
        runFrom (document ⟨s, details⟩ file written) start) ∧
      ((∃ c, Catalog.build s = .ok c) ↔ ∃ c', Catalog.build u = .ok c') ∧
      ∀ c c', Catalog.build s = .ok c → Catalog.build u = .ok c' →
        (∀ kind, c.Alike c' kind) ∧ c'.definedDirectives = c.definedDirectives := by
  refine ⟨h.exists_ok_iff hnames, fun s u hs hu => ?_⟩
  have hdescribes := Schema.describes_of_ok hs
  have halike := h.alike hnames hdescribes (Schema.describes_of_ok hu)
  have hkeys : ∀ e ∈ s.types.entries, e.2.name = e.1 := fun e he =>
    hdescribes.key_eq e.1 e.2 (Table.get?_of_mem he)
  refine ⟨halike, fun details file written start => ?_, exists_build_alike halike,
    fun c c' hc hc' => Catalog.build_alike halike hkeys hc hc'⟩
  rw [document_alike halike]

/-- An interface is moved behind the types that implement it, one of them before the other, and
the extensions of the two before them all. -/
theorem rearranged_same_meaning_extended :
    let definitions : List TypeSystemDefinition :=
      [.type ⟨"Node", none, [], .interface []⟩, .type ⟨"A", none, [], .object ["Node"] []⟩,
        .type ⟨"B", none, [], .object ["Node"] []⟩,
        .extension ⟨"A", none, [], .object [] [⟨"b", none, .named "B", [], []⟩]⟩,
        .extension ⟨"B", none, [⟨"key", []⟩], .object [] []⟩]
    let rearranged : List TypeSystemDefinition :=
      [.extension ⟨"B", none, [⟨"key", []⟩], .object [] []⟩,
        .extension ⟨"A", none, [], .object [] [⟨"b", none, .named "B", [], []⟩]⟩,
        .type ⟨"B", none, [], .object ["Node"] []⟩, .type ⟨"A", none, [], .object ["Node"] []⟩,
        .type ⟨"Node", none, [], .interface []⟩]
    Schema.Rearranges definitions rearranged ∧ (Schema.definedNames definitions).Nodup ∧
      ∃ s u c c', Schema.ofDefinitions definitions = .ok s ∧
        Schema.ofDefinitions rearranged = .ok u ∧ Catalog.build s = .ok c ∧
        Catalog.build u = .ok c' ∧ c.interfaces.map (·.implementingTypes) = [["A", "B"]] ∧
        c'.interfaces.map (·.implementingTypes) = [["B", "A"]] ∧ s.Alike u ∧
        ∀ kind, c.Alike c' kind := by
  intro definitions rearranged
  have hrearranges : Schema.Rearranges definitions rearranged := by
    refine ⟨?perm, rfl, rfl, fun name => ?extensions⟩
    case perm => decide
    case extensions =>
      by_cases hA : "A" = name
      · subst hA
        rfl
      · by_cases hB : "B" = name <;>
          simp [Schema.named, Schema.extensions, definitions, rearranged, hA, hB]
  have hnames : (Schema.definedNames definitions).Nodup := by decide
  have hmeaning := (rearranged_same_meaning hrearranges hnames).2
  subst definitions rearranged
  obtain ⟨halike, -, -, hcatalog⟩ := hmeaning _ _ rfl rfl
  refine ⟨hrearranges, hnames, _, _, ?catalog, ?other, rfl, rfl, ?built, ?builtOther, ?types,
    ?typesOther, halike, (hcatalog _ _ ?built ?builtOther).1⟩
  case built => rfl
  case builtOther => rfl
  case types => rfl
  case typesOther => rfl

end Run

end QueryModel
