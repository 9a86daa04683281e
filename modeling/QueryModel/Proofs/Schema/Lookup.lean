import Mathlib.Data.List.Forall2
import QueryModel.Member

/-!
# Looking up types and members

A look-up succeeds exactly when what it asks for is there. Resolving the arguments of a
field succeeds exactly when each of their types is in the schema, and gives one argument
for each declared one, in order.
-/

set_option autoImplicit false

namespace QueryModel

section Outcome

variable {ε α β : Type}

theorem ok_bind (a : α) (f : α → Except ε β) : (Except.ok a : Except ε α) >>= f = f a := rfl

theorem bind_eq_ok {x : Except ε α} {f : α → Except ε β} {b : β} :
    x >>= f = .ok b ↔ ∃ a, x = .ok a ∧ f a = .ok b := by
  cases x with
  | error e => simp [bind, Except.bind]
  | ok a => simp [bind, Except.bind]

theorem map_eq_ok {x : Except ε α} {f : α → β} {b : β} :
    x.map f = .ok b ↔ ∃ a, x = .ok a ∧ f a = b := by
  cases x with
  | error e => simp [Except.map]
  | ok a => simp [Except.map]

theorem toOption_eq_some {x : Except ε α} {a : α} : x.toOption = some a ↔ x = .ok a := by
  cases x with
  | error e => simp [Except.toOption]
  | ok b => simp [Except.toOption]

theorem mapM_eq_ok {f : α → Except ε β} {xs : List α} {ys : List β} :
    xs.mapM f = .ok ys ↔ List.Forall₂ (fun x y => f x = .ok y) xs ys := by
  induction xs generalizing ys with
  | nil =>
    rw [List.mapM_nil, List.forall₂_nil_left_iff]
    exact ⟨fun h => (Except.ok.inj h).symm, fun h => congrArg Except.ok h.symm⟩
  | cons x xs ih =>
    rw [List.mapM_cons, bind_eq_ok, List.forall₂_cons_left_iff]
    constructor
    · rintro ⟨y, hy, h⟩
      obtain ⟨rest, hrest, hys⟩ := bind_eq_ok.mp h
      exact ⟨y, rest, hy, ih.mp hrest, (Except.ok.inj hys).symm⟩
    · rintro ⟨y, rest, hy, hrest, rfl⟩
      exact ⟨y, hy, bind_eq_ok.mpr ⟨rest, ih.mpr hrest, rfl⟩⟩

theorem exists_mapM_eq_ok {f : α → Except ε β} {xs : List α} :
    (∃ ys, xs.mapM f = .ok ys) ↔ ∀ x ∈ xs, ∃ y, f x = .ok y := by
  induction xs with
  | nil => exact ⟨fun _ _ h => by simp at h, fun _ => ⟨[], rfl⟩⟩
  | cons x xs ih =>
    simp only [List.mem_cons, forall_eq_or_imp, ← ih, mapM_eq_ok, List.forall₂_cons_left_iff]
    constructor
    · rintro ⟨-, y, rest, hy, hrest, rfl⟩
      exact ⟨⟨y, hy⟩, ⟨rest, hrest⟩⟩
    · rintro ⟨⟨y, hy⟩, ⟨rest, hrest⟩⟩
      exact ⟨y :: rest, y, rest, hy, hrest, rfl⟩

theorem exists_of_forall₂ {R : α → β → Prop} {xs : List α} {ys : List β}
    (h : List.Forall₂ R xs ys) {y : β} (hy : y ∈ ys) : ∃ x ∈ xs, R x y := by
  induction h with
  | nil => exact absurd hy List.not_mem_nil
  | @cons x first xs ys hxy _ ih =>
    rcases List.mem_cons.mp hy with rfl | hrest
    · exact ⟨x, List.mem_cons_self, hxy⟩
    · obtain ⟨x', hx', hR⟩ := ih hrest
      exact ⟨x', List.mem_cons_of_mem _ hx', hR⟩

end Outcome

def FailsOnly {α : Type} (P : Error → Prop) (x : Except Error α) : Prop := ∀ e, x = .error e → P e

namespace FailsOnly

variable {α β : Type} {P : Error → Prop}

theorem ok (a : α) : FailsOnly P (.ok a) := by
  intro e h
  cases h

theorem bind {x : Except Error α} {f : α → Except Error β} (hx : FailsOnly P x)
    (hf : ∀ a, x = .ok a → FailsOnly P (f a)) : FailsOnly P (x >>= f) := by
  cases x with
  | error e =>
    rintro _ ⟨⟩
    exact hx e rfl
  | ok a => exact hf a rfl

theorem mapM {f : α → Except Error β} {xs : List α} (h : ∀ x ∈ xs, FailsOnly P (f x)) :
    FailsOnly P (xs.mapM f) := by
  induction xs with
  | nil => exact ok []
  | cons x xs ih =>
    rw [List.mapM_cons]
    apply bind (h x (by simp))
    intro y _
    apply bind (ih fun x hx => h x (List.mem_cons_of_mem _ hx))
    intro ys _
    exact ok (y :: ys)

end FailsOnly

namespace Schema

theorem typeNamed_eq_ok {s : Schema} {name : String} {type : TypeDeclaration} :
    s.typeNamed name = .ok type ↔ s.type? name = some type := by
  rw [typeNamed]
  cases s.type? name with
  | none => simp
  | some found => simp

theorem kindOf_eq_ok {s : Schema} {name : String} {kind : TypeKind} :
    s.kindOf name = .ok kind ↔ ∃ type, s.type? name = some type ∧ type.kind = kind := by
  simp only [kindOf, bind_eq_ok, typeNamed_eq_ok, TypeDeclaration.classify_eq_ok, Except.ok.injEq]

def Has (s : Schema) (name : String) : Prop := name ∈ s.types.keys

theorem has_iff {s : Schema} {name : String} : s.Has name ↔ ∃ type, s.type? name = some type := by
  rw [Has, ← s.types.contains_iff, Table.contains, Option.isSome_iff_exists]
  rfl

end Schema

def TypeDeclaration.Declares (t : TypeDeclaration) (name : String) (declared : FieldDeclaration) :
    Prop :=
  declared.name = name ∧ ∃ before after, t.fields = before ++ declared :: after ∧
    ∀ f ∈ before, f.name ≠ name

theorem field?_eq_some {t : TypeDeclaration} {name : String} {declared : FieldDeclaration} :
    t.field? name = some declared ↔ t.Declares name declared := by
  simp [TypeDeclaration.field?, TypeDeclaration.Declares, List.find?_eq_some_iff_append]

def Argument.Mirrors (s : Schema) (declared : InputDeclaration) (a : Argument) : Prop :=
  ∃ type, s.type? declared.type.name = some type ∧
    a = { name := declared.name
          description := declared.description.getD ""
          type := declared.type.resolve
          kind := type.kind
          directives := .ofApplied s declared.directives
          usesDirectives := !(DirectiveUses.ofApplied s declared.directives).isEmpty
          default := declared.default
          hasDefault := declared.default.isSome }

namespace Argument

theorem resolve_eq_ok {s : Schema} {declared : InputDeclaration} {a : Argument} :
    resolve s declared = .ok a ↔ Mirrors s declared a := by
  rw [resolve, bind_eq_ok, Mirrors]
  constructor
  · rintro ⟨kind, hkind, ha⟩
    obtain ⟨type, htype, rfl⟩ := Schema.kindOf_eq_ok.mp hkind
    exact ⟨type, htype, (Except.ok.inj ha).symm⟩
  · rintro ⟨type, htype, rfl⟩
    exact ⟨type.kind, Schema.kindOf_eq_ok.mpr ⟨type, htype, rfl⟩, rfl⟩

theorem resolveAll_eq_ok {s : Schema} {declared : List InputDeclaration} {as : List Argument} :
    resolveAll s declared = .ok as ↔ List.Forall₂ (Mirrors s) declared as := by
  simp only [resolveAll, mapM_eq_ok, resolve_eq_ok]

theorem exists_resolveAll_eq_ok {s : Schema} {declared : List InputDeclaration} :
    (∃ as, resolveAll s declared = .ok as) ↔ ∀ d ∈ declared, s.Has d.type.name := by
  have hone (d : InputDeclaration) : (∃ a, resolve s d = .ok a) ↔ s.Has d.type.name := by
    rw [Schema.has_iff]
    simp only [resolve_eq_ok, Mirrors]
    exact ⟨fun ⟨_, type, h, _⟩ => ⟨type, h⟩, fun ⟨type, h⟩ => ⟨_, type, h, rfl⟩⟩
  simp only [resolveAll, exists_mapM_eq_ok, hone]

end Argument

end QueryModel
