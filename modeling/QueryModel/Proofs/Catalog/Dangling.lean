import QueryModel.Proofs.Catalog.Resolution

/-!
# Dangling references

Building a catalog fails for one reason only: a member of a catalogued type or an argument of a
directive names a type that the schema does not have. The error tells the first such name, types
before directives and the type of a field before those of its arguments. Which interfaces an object
lists and which members a union has makes no difference.
-/

set_option autoImplicit false

namespace QueryModel

def TypeShape.relink (names : List String) : TypeShape → TypeShape
  | .object _ fields => .object names fields
  | .union _ => .union names
  | shape => shape

def TypeDeclaration.relink (names : List String) (t : TypeDeclaration) : TypeDeclaration :=
  { t with shape := t.shape.relink names }

theorem TypeDeclaration.references_relink (names : List String) (t : TypeDeclaration) :
    (t.relink names).references = t.references := by
  obtain ⟨name, description, directives, shape⟩ := t
  cases shape <;> rfl

namespace Schema

/-- The schema in which each type has the interfaces, or the union members, that `links` gives for
its key. -/
def relink (links : String → List String) (s : Schema) : Schema where
  types := {
    entries := s.types.entries.map fun e => (e.1, e.2.relink (links e.1))
    distinct := by
      rw [Entries.keys, List.map_map]
      exact s.types.distinct }
  directives := s.directives
  applied := s.applied
  roots := s.roots

variable {links : String → List String} {s : Schema}

theorem has_relink {name : String} : (s.relink links).Has name ↔ s.Has name := by
  simp [Has, Table.keys, Entries.keys, relink]

theorem references_relink : (s.relink links).references = s.references := by
  have hone (e : String × TypeDeclaration) :
      (e.2.relink (links e.1)).references = e.2.references := e.2.references_relink _
  simp only [references, Table.values, relink, List.map_map, List.filter_map, List.flatMap_map,
    Function.comp_def, hone]
  rfl

end Schema

namespace Catalog

/-- A catalog is built exactly when the schema has every type that it refers to; else the error
tells the first name that is missing, and there is no other error. The interfaces of objects and
the members of unions are never looked up. -/
theorem build_fails_at_first_missing (s : Schema) :
    ((∃ c, build s = .ok c) ↔ ∀ name ∈ s.references, s.Has name) ∧
    (∀ e, build s = .error e ↔
      ∃ name, FirstWith (¬ s.Has ·) s.references name ∧ e = .unknownType name) ∧
    (∀ links e, build (s.relink links) = .error e ↔ build s = .error e) ∧
    ∀ name, build s ≠ .error (.classification name) := by
  have herror (u : Schema) (e : Error) := (build_asks u).eq_error_iff (e := e)
  refine ⟨exists_build_eq_ok, herror s, ?_, ?_⟩
  · intro links e
    simp only [herror, Schema.references_relink, Schema.has_relink]
  · intro name hfailed
    obtain ⟨missing, -, hother⟩ := (herror s _).mp hfailed
    cases hother

/-- The argument comes before the field after it, and both before the directive. The interface and
the union member that are missing do not count. -/
example :
    let s : Schema := {
      types := (∅ : Table TypeDeclaration).insert "T" ⟨"T", none, [], .object ["Absent"] [
          ⟨"f", none, .named "T", [⟨"a", none, .list (.named "First"), none, []⟩], []⟩,
          ⟨"g", none, .named "Second", [], []⟩]⟩ |>.insert "U" ⟨"U", none, [], .union ["Absent"]⟩
      directives := [⟨"d", none, [⟨"a", none, .named "Third", none, []⟩], []⟩]
      applied := []
      roots := ⟨none, none, none⟩ }
    s.references = ["T", "First", "Second", "Third"] ∧
      build s = .error (.unknownType "First") := by
  decide +kernel

end Catalog

end QueryModel
