import QueryModel.Document.Transform
import QueryModel.Proofs.Schema.Growth

/-!
# Documents on growing schemas

A document that is resolved on a schema is resolved on what the schema has grown to, with the
same result and the same progress. Only definitions that fail can come out differently.
-/

set_option autoImplicit false

namespace QueryModel

namespace Run

variable {α β : Type}

theorem runFrom_bind (step : Run α) (next : α → Run β) (progress : Progress) :
    runFrom (step >>= next) progress =
      match runFrom step progress with
      | (.ok a, after) => runFrom (next a) after
      | (.error e, after) => (.error e, after) := by
  simp only [runFrom, ExceptT.run_bind, StateT.run_bind]
  rcases h : (ExceptT.run step).run progress with ⟨result, after⟩
  cases result <;> rfl

/-- What the first run gives the second gives too, and leaves the same progress. -/
def Refines (x y : Run α) : Prop :=
  ∀ start a after, runFrom x start = (.ok a, after) → runFrom y start = (.ok a, after)

namespace Refines

theorem refl (x : Run α) : Refines x x := fun _ _ _ h => h

theorem bind {x y : Run α} {f g : α → Run β} (h : Refines x y) (hnext : ∀ a, Refines (f a) (g a)) :
    Refines (x >>= f) (y >>= g) := by
  intro start b after hrun
  rw [runFrom_bind] at hrun ⊢
  rcases hx : runFrom x start with ⟨result, middle⟩
  cases result with
  | error e => simp [hx] at hrun
  | ok a =>
    rw [hx] at hrun
    rw [h start a middle hx]
    exact hnext a middle b after hrun

theorem lookup {γ : Type} {r : Except Error α} {r' : Except Error β} {f : α → Run γ} {g : β → Run γ}
    (h : ∀ a, r = .ok a → ∃ b, r' = .ok b ∧ Refines (f a) (g b)) :
    Refines (liftResult r >>= f) (liftResult r' >>= g) := by
  intro start c after hrun
  cases r with
  | error e => cases hrun
  | ok a =>
    obtain ⟨b, rfl, hnext⟩ := h a rfl
    exact hnext start c after hrun

end Refines

section Growing

variable {s u : Schema} (h : s.Grows u) (file : Option String)

include h

theorem operation_refines (printed : String) (kind : OperationKind) (name : Option String)
    (declared : List Syntax.VariableDefinition) (directives : List Syntax.Directive)
    (items : List Syntax.Selection) :
    Refines (operation s file printed kind name declared directives items)
      (operation u file printed kind name declared directives items) := by
  refine .lookup fun root hroot => ?_
  rw [rootType] at hroot
  split at hroot
  · rename_i t ht
    obtain rfl := Except.ok.inj hroot
    obtain ⟨root', hroot', hgrows⟩ := h.root_grows ht
    refine ⟨root', by rw [rootType, hroot'], ?_⟩
    refine .bind (.refl _) fun name => .bind (.refl _) fun _ => ?_
    refine .lookup fun set hset => ⟨set, h.buildSelection hgrows hset, ?_⟩
    refine .lookup fun resolved hresolved => ⟨resolved, h.resolveVariables hresolved, ?_⟩
    rw [DirectiveUses.ofWritten, DirectiveUses.ofWritten, ofApplied_congr h.directives_eq]
    exact .refl _
  · contradiction

theorem fragment_refines (printed name onType : String) (directives : List Syntax.Directive)
    (items : List Syntax.Selection) :
    Refines (fragment s file printed name onType directives items)
      (fragment u file printed name onType directives items) := by
  refine .lookup fun root hroot => ?_
  obtain ⟨root', hroot', hgrows⟩ := h.type_grows (Schema.typeNamed_eq_ok.mp hroot)
  refine ⟨root', Schema.typeNamed_eq_ok.mpr hroot', .bind (.refl _) fun _ => ?_⟩
  refine .lookup fun set hset => ⟨set, h.buildSelection hgrows hset, ?_⟩
  rw [DirectiveUses.ofWritten, DirectiveUses.ofWritten, ofApplied_congr h.directives_eq]
  exact .refl _

theorem definition_refines (d : Syntax.Definition) :
    Refines (definition s file d) (definition u file d) := by
  cases d with
  | shorthand items => exact .bind (operation_refines h file _ _ _ _ _ items) fun _ => .refl _
  | operation kind name declared directives items =>
    exact .bind (operation_refines h file _ kind name declared directives items) fun _ => .refl _
  | fragment name onType directives items =>
    exact .bind (fragment_refines h file _ name onType directives items) fun _ => .refl _

theorem definitions_refines (written : List Syntax.Definition) (result : Document) :
    Refines (definitions s file result written) (definitions u file result written) := by
  induction written generalizing result with
  | nil => exact .refl _
  | cons d rest ih => exact .bind (definition_refines h file d) fun one => ih (result.push one)

end Growing

/-- A document that is resolved on the schema of some definitions is resolved in the same way,
with the same names given to its operations, after extensions and new types are added to the
definitions. -/
theorem document_eq_of_append {declared more : List TypeSystemDefinition} {s u : Schema}
    (hs : Schema.ofDefinitions declared = .ok s)
    (hu : Schema.ofDefinitions (declared ++ more) = .ok u) (hmore : ∀ d ∈ more, s.Admits d)
    (details : Bool) (file : Option String) (written : List Syntax.Definition)
    {start after : Progress} {result : Document}
    (hrun : runFrom (document ⟨s, details⟩ file written) start = (.ok result, after)) :
    runFrom (document ⟨u, details⟩ file written) start = (.ok result, after) := by
  have hgrows := Schema.grows_of_append hs hu hmore
  have hdocument :
      Refines (document ⟨s, details⟩ file written) (document ⟨u, details⟩ file written) :=
    .bind (.refl _) fun _ => .bind (definitions_refines hgrows file written ∅) fun _ => .refl _
  exact hdocument start result after hrun

/-- The field `a` of the root type is an integer. An extension adds another `a` of a type that
is defined only after it. -/
theorem document_before_added_field :
    let declared : List TypeSystemDefinition :=
      [.type ⟨"Query", none, [], .object [] [⟨"a", none, .named "Int", [], []⟩]⟩]
    let more : List TypeSystemDefinition :=
      [.extension ⟨"Query", none, [], .object [] [⟨"a", none, .named "Node", [], []⟩]⟩,
        .type ⟨"Node", none, [], .interface []⟩]
    let written : List Syntax.Definition := [.shorthand [.field none "a" [] [] []]]
    ∃ s u result after, Schema.ofDefinitions declared = .ok s ∧
      Schema.ofDefinitions (declared ++ more) = .ok u ∧ (∀ d ∈ more, s.Admits d) ∧
      runFrom (document ⟨s, false⟩ none written) ⟨2, []⟩ = (.ok result, after) ∧
      after.unnamed = 3 ∧
      runFrom (document ⟨u, false⟩ none written) ⟨2, []⟩ = (.ok result, after) := by
  intro declared more written
  have hs : Schema.ofDefinitions declared = .ok _ := rfl
  have hu : Schema.ofDefinitions (declared ++ more) = .ok _ := rfl
  have hmore (s : Schema) (hnew : "Node" ∉ s.types.keys) : ∀ d ∈ more, s.Admits d :=
    List.forall_mem_cons.mpr ⟨trivial, List.forall_mem_singleton.mpr hnew⟩
  have hnew : "Node" ∉ (Schema.definedTypes declared).keys := by decide
  refine ⟨_, _, ?result, ?after, hs, hu, hmore _ hnew, ?run, ?count,
    document_eq_of_append hs hu (hmore _ hnew) _ _ _ ?run⟩
  case run => rfl
  case count => rfl

end Run

end QueryModel
