import Mathlib.Data.List.Nodup
import QueryModel.Proofs.Catalog.Resolution
import QueryModel.Proofs.Schema.Growth

/-!
# The order of definitions

The definitions of a document can change places as long as the directive definitions, the schema
definitions and the extensions of each type stay in order among themselves. When no type is
defined twice, the schema then differs at most in the order of its type map.
-/

set_option autoImplicit false

namespace QueryModel

def TypeSystemDefinition.isSchema : TypeSystemDefinition → Bool
  | .schema _ _ => true
  | _ => false

namespace Schema

/-- The same definitions in an order that keeps that of the directive definitions, of the schema
definitions and of the extensions of each type. -/
structure Rearranges (definitions rearranged : List TypeSystemDefinition) : Prop where
  perm : rearranged.Perm definitions
  directives : definedDirectives rearranged = definedDirectives definitions
  schemas : rearranged.filter (·.isSchema) = definitions.filter (·.isSchema)
  extensions : ∀ name,
    named name (Schema.extensions rearranged) = named name (Schema.extensions definitions)

/-- The schemas differ at most in the order of their type maps. -/
structure Alike (s u : Schema) : Prop where
  type_eq : ∀ name, u.type? name = s.type? name
  directives_eq : u.directives = s.directives
  applied_eq : u.applied = s.applied
  roots_eq : u.roots = s.roots

section Rearranged

variable {definitions rearranged : List TypeSystemDefinition}

theorem exists_ofDefinitions_eq_ok : (∃ s, ofDefinitions definitions = .ok s) ↔
    ∀ addition ∈ extensions definitions, Extends definitions addition := by
  simp only [← extensionFault?_eq_none, ← List.findSome?_eq_none_iff]
  obtain ⟨fault, hfault, hrun⟩ | ⟨hnone, s, hrun, -⟩ := ofDefinitions_cases definitions
  · simp [hfault, hrun]
  · simp [hnone, hrun]

theorem length_named_le_one {declarations : List TypeDeclaration}
    (h : (declarations.map (·.name)).Nodup) (name : String) :
    (named name declarations).length ≤ 1 := by
  have hnames : (named name declarations).map (·.name) =
      List.replicate (named name declarations).length name := by
    rw [List.eq_replicate_iff, List.length_map]
    refine ⟨rfl, fun other hother => ?_⟩
    obtain ⟨t, ht, rfl⟩ := List.mem_map.mp hother
    exact of_decide_eq_true (List.mem_filter.mp ht).2
  have hnodup : ((named name declarations).map (·.name)).Nodup :=
    (List.filter_sublist.map _).nodup h
  rw [hnames] at hnodup
  exact List.nodup_replicate.mp hnodup

theorem base?_perm (hperm : rearranged.Perm definitions) (hnames : (definedNames definitions).Nodup)
    (name : String) : base? rearranged name = base? definitions name := by
  have hnamed : (named name (typeDefinitions rearranged)).Perm
      (named name (typeDefinitions definitions)) := (hperm.filterMap _).filter _
  have hlength := length_named_le_one hnames name
  have heq : named name (typeDefinitions rearranged) =
      named name (typeDefinitions definitions) := by
    generalize named name (typeDefinitions definitions) = declared at hnamed hlength ⊢
    rcases declared with _ | ⟨t, _ | ⟨_, _⟩⟩
    · exact hnamed.eq_nil
    · exact List.perm_singleton.mp hnamed
    · simp at hlength
  rw [base?, heq, base?]

theorem schemaApplied_filter (definitions : List TypeSystemDefinition) :
    schemaApplied (definitions.filter (·.isSchema)) = schemaApplied definitions := by
  induction definitions with
  | nil => rfl
  | cons d rest ih =>
    cases d with
    | schema applied roots => exact congrArg (applied ++ ·) ih
    | type _ | extension _ | directive _ => exact ih

theorem schemaRoots_filter (definitions : List TypeSystemDefinition) :
    schemaRoots (definitions.filter (·.isSchema)) = schemaRoots definitions := by
  induction definitions with
  | nil => rfl
  | cons d rest ih =>
    cases d with
    | schema applied roots => exact congrArg (roots :: ·) ih
    | type _ | extension _ | directive _ => exact ih

theorem Rearranges.exists_ok_iff (h : Rearranges definitions rearranged)
    (hnames : (definedNames definitions).Nodup) :
    (∃ s, ofDefinitions definitions = .ok s) ↔ ∃ u, ofDefinitions rearranged = .ok u := by
  have hextensions : (Schema.extensions rearranged).Perm (Schema.extensions definitions) :=
    h.perm.filterMap _
  simp only [exists_ofDefinitions_eq_ok, Extends, base?_perm h.perm hnames, hextensions.mem_iff]

theorem has_congr {s u : Schema} (h : ∀ name, u.type? name = s.type? name) (name : String) :
    u.Has name ↔ s.Has name := by
  rw [has_iff, has_iff, h]

theorem Rearranges.alike (h : Rearranges definitions rearranged)
    (hnames : (definedNames definitions).Nodup) {s u : Schema}
    (hs : s.Describes definitions) (hu : u.Describes rearranged) : s.Alike u := by
  have htype (name : String) : u.type? name = s.type? name := by
    rw [hu.type_eq, base?_perm h.perm hnames, h.extensions, hs.type_eq]
  have hpresent (name : String) : u.present? name = s.present? name :=
    if_congr (has_congr htype name) rfl rfl
  refine ⟨htype, ?_, ?_, ?_⟩
  · rw [hu.directives_eq, h.directives, hs.directives_eq]
  · rw [hu.applied_eq, ← schemaApplied_filter, h.schemas, schemaApplied_filter, hs.applied_eq]
  · rw [hu.roots_eq, ← schemaRoots_filter, h.schemas, schemaRoots_filter, hs.roots_eq]
    simp only [hpresent]

end Rearranged

theorem Alike.entries_perm {s u : Schema} (h : s.Alike u) :
    s.types.entries.Perm u.types.entries := by
  rw [List.perm_ext_iff_of_nodup (List.Nodup.of_map _ s.types.distinct)
    (List.Nodup.of_map _ u.types.distinct)]
  rintro ⟨name, t⟩
  rw [← Table.get?_eq_some, ← Table.get?_eq_some]
  change s.type? name = some t ↔ u.type? name = some t
  rw [h.type_eq]

end Schema

end QueryModel
