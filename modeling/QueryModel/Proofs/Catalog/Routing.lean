import Mathlib.Data.List.Perm.Basic
import QueryModel.Catalog.Build
import QueryModel.Proofs.Schema.Ingestion

/-!
# The records of a catalog

Every type of a schema that is no builtin scalar and no introspection type has one record, in
the list of its kind, and the lists have no other records. A list keeps the order of the type
map, and a record has the parts that its type declares, one by one.
-/

set_option autoImplicit false

namespace QueryModel

def Field.Mirrors (s : Schema) (declared : FieldDeclaration) (f : Field) : Prop :=
  ∃ type arguments, s.type? declared.type.name = some type ∧
    List.Forall₂ (Argument.Mirrors s) declared.arguments arguments ∧
    f = { name := declared.name
          description := declared.description.getD ""
          type := declared.type.resolve
          kind := type.kind
          arguments := arguments
          hasArguments := !arguments.isEmpty
          directives := .ofApplied s declared.directives
          usesDirectives := !(DirectiveUses.ofApplied s declared.directives).isEmpty
          default := none
          hasDefault := false
          isDeprecated := (DirectiveUses.ofApplied s declared.directives).deprecation.1
          deprecationReason := (DirectiveUses.ofApplied s declared.directives).deprecation.2 }

def Field.MirrorsInput (s : Schema) (declared : InputDeclaration) (f : Field) : Prop :=
  ∃ a, Argument.Mirrors s declared a ∧ f = .ofArgument a

namespace Field

theorem resolveAll_eq_ok {s : Schema} {declared : List FieldDeclaration} {fields : List Field} :
    resolveAll s declared = .ok fields ↔ List.Forall₂ (Mirrors s) declared fields := by
  have hone (d : FieldDeclaration) (f : Field) : resolve s d = .ok f ↔ Mirrors s d f := by
    simp only [resolve, bind_eq_ok, Schema.kindOf_eq_ok, Argument.resolveAll_eq_ok, Mirrors]
    constructor
    · rintro ⟨-, ⟨type, htype, rfl⟩, arguments, harguments, hf⟩
      exact ⟨type, arguments, htype, harguments, (Except.ok.inj hf).symm⟩
    · rintro ⟨type, arguments, htype, harguments, rfl⟩
      exact ⟨type.kind, ⟨type, htype, rfl⟩, arguments, harguments, rfl⟩
  simp only [resolveAll, mapM_eq_ok, hone]

theorem resolveInputs_eq_ok {s : Schema} {declared : List InputDeclaration} {fields : List Field} :
    resolveInputs s declared = .ok fields ↔ List.Forall₂ (MirrorsInput s) declared fields := by
  have hone (d : InputDeclaration) (f : Field) : resolveInput s d = .ok f ↔ MirrorsInput s d f := by
    simp only [resolveInput, map_eq_ok, Argument.resolve_eq_ok, MirrorsInput, @eq_comm _ f]
  simp only [resolveInputs, mapM_eq_ok, hone]

end Field

section Records

variable (s : Schema) (entry : String × TypeDeclaration)

def ObjectRecord.Mirrors (r : ObjectRecord) : Prop :=
  ∃ fields, List.Forall₂ (Field.Mirrors s) entry.2.fields fields ∧
    r = { name := entry.1
          description := entry.2.description.getD ""
          fields := fields
          hasFields := !fields.isEmpty
          interfaces := entry.2.interfaces
          hasInterfaces := !entry.2.interfaces.isEmpty
          directives := .ofApplied s entry.2.directives
          usesDirectives := !(DirectiveUses.ofApplied s entry.2.directives).isEmpty }

def InputRecord.Mirrors (r : InputRecord) : Prop :=
  ∃ fields, List.Forall₂ (Field.MirrorsInput s) entry.2.inputFields fields ∧
    r = { name := entry.1
          description := entry.2.description.getD ""
          fields := fields
          hasFields := !fields.isEmpty
          directives := .ofApplied s entry.2.directives
          usesDirectives := !(DirectiveUses.ofApplied s entry.2.directives).isEmpty }

def EnumValueRecord.Mirrors (declared : EnumValueDeclaration) (r : EnumValueRecord) : Prop :=
  r = { name := declared.name
        value := declared.name
        description := declared.description.getD ""
        directives := .ofApplied s declared.directives
        usesDirectives := !(DirectiveUses.ofApplied s declared.directives).isEmpty
        isDeprecated := (DirectiveUses.ofApplied s declared.directives).deprecation.1
        deprecationReason := (DirectiveUses.ofApplied s declared.directives).deprecation.2 }

def EnumRecord.Mirrors (r : EnumRecord) : Prop :=
  ∃ values, List.Forall₂ (EnumValueRecord.Mirrors s) entry.2.enumValues values ∧
    r = { name := entry.1
          description := entry.2.description.getD ""
          values := values
          directives := .ofApplied s entry.2.directives
          usesDirectives := !(DirectiveUses.ofApplied s entry.2.directives).isEmpty }

def UnionRecord.Mirrors (r : UnionRecord) : Prop :=
  r = { name := entry.1
        description := entry.2.description.getD ""
        possibleTypes := entry.2.unionMembers
        hasPossibleTypes := !entry.2.unionMembers.isEmpty
        directives := .ofApplied s entry.2.directives
        usesDirectives := !(DirectiveUses.ofApplied s entry.2.directives).isEmpty }

def InterfaceRecord.Mirrors (r : InterfaceRecord) : Prop :=
  ∃ fields, List.Forall₂ (Field.Mirrors s) entry.2.fields fields ∧
    r = { name := entry.1
          description := entry.2.description.getD ""
          fields := fields
          hasFields := !fields.isEmpty
          implementingTypes := s.implementations entry.1
          hasImplementingTypes := !(s.implementations entry.1).isEmpty
          directives := .ofApplied s entry.2.directives
          usesDirectives := !(DirectiveUses.ofApplied s entry.2.directives).isEmpty }

def ScalarRecord.Mirrors (r : ScalarRecord) : Prop :=
  r = { name := entry.1
        description := entry.2.description.getD ""
        directives := .ofApplied s entry.2.directives
        usesDirectives := !(DirectiveUses.ofApplied s entry.2.directives).isEmpty }

def DirectiveRecord.Mirrors (declared : DirectiveDeclaration) (r : DirectiveRecord) : Prop :=
  ∃ arguments, List.Forall₂ (Argument.Mirrors s) declared.arguments arguments ∧
    r = { name := declared.name
          description := declared.description.getD ""
          arguments := arguments
          hasArguments := !arguments.isEmpty
          locations := declared.locations }

end Records

def ofKind (kind : TypeKind) (entries : List (String × TypeDeclaration)) :
    List (String × TypeDeclaration) :=
  entries.filter fun e => e.2.kind = kind

/-- The list of the kind has a record for each of the types, in order, and no other. -/
def Catalog.Holds (s : Schema) (c : Catalog) (types : List (String × TypeDeclaration)) :
    TypeKind → Prop
  | .object => List.Forall₂ (ObjectRecord.Mirrors s) types c.types
  | .inputObject => List.Forall₂ (InputRecord.Mirrors s) types c.inputTypes
  | .enum => List.Forall₂ (EnumRecord.Mirrors s) types c.enums
  | .union => List.Forall₂ (UnionRecord.Mirrors s) types c.unions
  | .interface => List.Forall₂ (InterfaceRecord.Mirrors s) types c.interfaces
  | .scalar => List.Forall₂ (ScalarRecord.Mirrors s) types c.scalars

def Catalog.namesOf (c : Catalog) : TypeKind → List String
  | .object => c.types.map (·.name)
  | .inputObject => c.inputTypes.map (·.name)
  | .enum => c.enums.map (·.name)
  | .union => c.unions.map (·.name)
  | .interface => c.interfaces.map (·.name)
  | .scalar => c.scalars.map (·.name)

def listedKinds : List TypeKind := [.object, .inputObject, .enum, .union, .interface, .scalar]

/-- The names of all records, each with the kind whose list it stands in. -/
def Catalog.recordNames (c : Catalog) : List (TypeKind × String) :=
  listedKinds.flatMap fun kind => (c.namesOf kind).map fun name => (kind, name)

/-- The entries of the type map that are no builtin scalars and no introspection types. -/
def Schema.userEntries (s : Schema) : List (String × TypeDeclaration) :=
  s.types.entries.filter fun e => e.1 ∉ builtinScalars ∧ ¬ ['_', '_'] <+: e.1.toList

section Route

variable {s : Schema} {c c' : Catalog}

theorem forall₂_concat {α β : Type} {R : α → β → Prop} {xs : List α} {ys : List β} {x : α} {y : β}
    (h : List.Forall₂ R xs ys) (hxy : R x y) : List.Forall₂ R (xs ++ [x]) (ys ++ [y]) :=
  List.rel_append h (.cons hxy .nil)

theorem enumValues_mirror (s : Schema) (declared : List EnumValueDeclaration) :
    List.Forall₂ (EnumValueRecord.Mirrors s) declared
      (declared.map (EnumValueRecord.ofDeclaration s)) := by
  induction declared with
  | nil => exact .nil
  | cons d declared ih => exact .cons rfl ih

theorem ObjectRecord.ofType_mirrors {t : TypeDeclaration} {r : ObjectRecord}
    (h : ofType s t = .ok r) : Mirrors s (t.name, t) r := by
  obtain ⟨fields, hfields, hr⟩ := bind_eq_ok.mp h
  exact ⟨fields, Field.resolveAll_eq_ok.mp hfields, (Except.ok.inj hr).symm⟩

theorem InputRecord.ofType_mirrors {t : TypeDeclaration} {r : InputRecord}
    (h : ofType s t = .ok r) : Mirrors s (t.name, t) r := by
  obtain ⟨fields, hfields, hr⟩ := bind_eq_ok.mp h
  exact ⟨fields, Field.resolveInputs_eq_ok.mp hfields, (Except.ok.inj hr).symm⟩

theorem InterfaceRecord.ofType_mirrors {t : TypeDeclaration} {r : InterfaceRecord}
    (h : ofType s t = .ok r) : Mirrors s (t.name, t) r := by
  obtain ⟨fields, hfields, hr⟩ := bind_eq_ok.mp h
  exact ⟨fields, Field.resolveAll_eq_ok.mp hfields, (Except.ok.inj hr).symm⟩

theorem DirectiveRecord.all_eq_ok {rs : List DirectiveRecord} :
    all s = .ok rs ↔ List.Forall₂ (Mirrors s) s.directives rs := by
  have hone (d : DirectiveDeclaration) (r : DirectiveRecord) :
      ofDeclaration s d = .ok r ↔ Mirrors s d r := by
    simp only [ofDeclaration, bind_eq_ok, Argument.resolveAll_eq_ok, pure, Except.pure,
      Except.ok.injEq, Mirrors, @eq_comm _ r]
  simp only [all, mapM_eq_ok, hone]

namespace Catalog

theorem addType_holds {types : List (String × TypeDeclaration)} {name : String}
    {t : TypeDeclaration} (hname : t.name = name) (h : c.Holds s types t.kind)
    (hadd : addType s c t = .ok c') : c'.Holds s (types ++ [(name, t)]) t.kind := by
  subst hname
  cases hkind : t.kind <;> rw [hkind] at h <;>
    simp only [addType, TypeDeclaration.classify_eq_ok, hkind, ok_bind, bind_eq_ok, pure,
      Except.pure, Except.ok.injEq] at hadd
  case object =>
    obtain ⟨r, hr, rfl⟩ := hadd
    exact forall₂_concat h (ObjectRecord.ofType_mirrors hr)
  case inputObject =>
    obtain ⟨r, hr, rfl⟩ := hadd
    exact forall₂_concat h (InputRecord.ofType_mirrors hr)
  case interface =>
    obtain ⟨r, hr, rfl⟩ := hadd
    exact forall₂_concat h (InterfaceRecord.ofType_mirrors hr)
  case enum =>
    subst hadd
    exact forall₂_concat h ⟨_, enumValues_mirror s t.enumValues, rfl⟩
  case union | scalar =>
    subst hadd
    exact forall₂_concat h rfl

theorem addType_other {types : List (String × TypeDeclaration)} {t : TypeDeclaration}
    {kind : TypeKind} (hkind : t.kind ≠ kind) (hadd : addType s c t = .ok c') :
    c'.Holds s types kind ↔ c.Holds s types kind := by
  cases ht : t.kind <;>
    simp only [addType, TypeDeclaration.classify_eq_ok, ht, ok_bind, bind_eq_ok, pure, Except.pure,
      Except.ok.injEq] at hadd
  case object | inputObject | interface =>
    obtain ⟨r, -, rfl⟩ := hadd
    cases kind <;> first | rfl | exact absurd ht hkind
  case enum | union | scalar =>
    subst hadd
    cases kind <;> first | rfl | exact absurd ht hkind

theorem foldlM_addType_holds {entries : List (String × TypeDeclaration)}
    (hnames : ∀ e ∈ entries, e.2.name = e.1)
    (hfold : (entries.map Prod.snd).foldlM (addType s) (blank s) = .ok c) (kind : TypeKind) :
    c.Holds s (ofKind kind entries) kind := by
  induction entries using List.reverseRecOn generalizing c with
  | nil =>
    obtain rfl := Except.ok.inj hfold
    cases kind <;> exact .nil
  | append_singleton entries e ih =>
    rw [List.map_append, List.foldlM_append] at hfold
    obtain ⟨middle, hmiddle, hlast⟩ := bind_eq_ok.mp hfold
    rw [List.map_singleton, List.foldlM_cons] at hlast
    obtain ⟨last, hadd, hend⟩ := bind_eq_ok.mp hlast
    obtain rfl := Except.ok.inj hend
    have hbefore := ih (fun x hx => hnames x (List.mem_append_left _ hx)) hmiddle
    by_cases hkind : e.2.kind = kind
    · have hconcat : ofKind kind (entries ++ [e]) = ofKind kind entries ++ [e] := by
        simp [ofKind, hkind]
      rw [hconcat]
      subst hkind
      exact addType_holds (hnames e (by simp)) hbefore hadd
    · have hsame : ofKind kind (entries ++ [e]) = ofKind kind entries := by
        simp [ofKind, hkind]
      rw [hsame]
      exact (addType_other hkind hadd).mpr hbefore

end Catalog

end Route

section Names

variable {s : Schema} {entries : List (String × TypeDeclaration)}

theorem flatMap_ofKind_perm {kinds : List TypeKind} (hkinds : kinds.Nodup)
    (hall : ∀ e ∈ entries, e.2.kind ∈ kinds) : (kinds.flatMap (ofKind · entries)).Perm entries := by
  induction kinds generalizing entries with
  | nil =>
    cases entries with
    | nil => exact .nil
    | cons e entries => exact absurd (hall e List.mem_cons_self) List.not_mem_nil
  | cons kind kinds ih =>
    obtain ⟨hkind, hnodup⟩ := List.nodup_cons.mp hkinds
    -- The other kinds are found among the entries that are not of the first kind.
    let others := entries.filter fun e => !decide (e.2.kind = kind)
    have hothers : kinds.flatMap (ofKind · entries) = kinds.flatMap (ofKind · others) := by
      apply List.flatMap_congr
      intro other hother
      have hne : other ≠ kind := fun h => hkind (h ▸ hother)
      rw [ofKind, ofKind, List.filter_filter]
      apply List.filter_congr
      intro e _
      by_cases he : e.2.kind = other
      · simp [he, hne]
      · simp [he]
    have hrest : (kinds.flatMap (ofKind · others)).Perm others := by
      apply ih hnodup
      intro e he
      obtain ⟨hmem, hne⟩ := List.mem_filter.mp he
      exact (List.mem_cons.mp (hall e hmem)).resolve_left (by simpa using hne)
    rw [List.flatMap_cons, hothers]
    exact (hrest.append_left _).trans (List.filter_append_perm _ entries)

theorem map_eq_of_forall₂ {α β γ : Type} {R : α → β → Prop} {f : α → γ} {g : β → γ} {xs : List α}
    {ys : List β} (h : List.Forall₂ R xs ys) (heq : ∀ x y, R x y → g y = f x) :
    ys.map g = xs.map f := by
  induction h with
  | nil => rfl
  | cons hxy _ ih => rw [List.map_cons, List.map_cons, heq _ _ hxy, ih]

theorem Catalog.Holds.namesOf_eq {c : Catalog} {kind : TypeKind} (h : c.Holds s entries kind) :
    c.namesOf kind = entries.map Prod.fst := by
  cases kind with
  | object | inputObject | enum | interface =>
    apply map_eq_of_forall₂ h
    rintro e r ⟨parts, -, rfl⟩
    rfl
  | union | scalar =>
    apply map_eq_of_forall₂ h
    rintro e r ⟨rfl⟩
    rfl

theorem Catalog.recordNames_perm {c : Catalog}
    (h : ∀ kind, c.Holds s (ofKind kind entries) kind) :
    c.recordNames.Perm (entries.map fun e => (e.2.kind, e.1)) := by
  have hnames : c.recordNames =
      (listedKinds.flatMap (ofKind · entries)).map fun e => (e.2.kind, e.1) := by
    rw [recordNames, List.map_flatMap]
    apply List.flatMap_congr
    intro kind _
    rw [(h kind).namesOf_eq, List.map_map]
    apply List.map_congr_left
    intro e he
    have hkind : e.2.kind = kind := by simpa using (List.mem_filter.mp he).2
    rw [hkind]
    rfl
  have hlisted : ∀ kind : TypeKind, kind ∈ listedKinds := by
    intro kind
    cases kind <;> decide
  rw [hnames]
  exact (flatMap_ofKind_perm (by decide) fun e _ => hlisted e.2.kind).map _

end Names

theorem isUserType_eq (name : String) :
    isUserType name = decide (name ∉ builtinScalars ∧ ¬ ['_', '_'] <+: name.toList) := by
  rw [Bool.eq_iff_iff]
  simp [isUserType, ← List.isPrefixOf_iff_prefix]

namespace Schema

variable {s : Schema}

theorem userTypes_eq (hkeys : ∀ e ∈ s.types.entries, e.2.name = e.1) :
    Catalog.userTypes s = s.userEntries.map Prod.snd := by
  rw [Catalog.userTypes, Table.values, List.filter_map, userEntries]
  congr 1
  apply List.filter_congr
  intro e he
  rw [Function.comp_apply, hkeys e he, isUserType_eq]

theorem userEntries_nodup (s : Schema) : (s.userEntries.map Prod.fst).Nodup :=
  (List.filter_sublist.map _).nodup s.types.distinct

end Schema

namespace Catalog

/-- A catalog has one record for each type of the schema that is no builtin scalar and no
introspection type, in the list of its kind and in the order of the type map, and no other
records. No two records have one name, and the directives follow those of the schema. -/
theorem build_records {definitions : List TypeSystemDefinition} {s : Schema} {c : Catalog}
    (hs : Schema.ofDefinitions definitions = .ok s) (hc : build s = .ok c) :
    (∀ kind, c.Holds s (ofKind kind s.userEntries) kind) ∧
    c.recordNames.Perm (s.userEntries.map fun e => (e.2.kind, e.1)) ∧
    (c.recordNames.map Prod.snd).Nodup ∧
    List.Forall₂ (DirectiveRecord.Mirrors s) s.directives c.definedDirectives := by
  have hkeys : ∀ e ∈ s.types.entries, e.2.name = e.1 := fun e he =>
    (Schema.describes_of_ok hs).key_eq e.1 e.2 (Table.get?_of_mem he)
  obtain ⟨routed, hfold, hrest⟩ := bind_eq_ok.mp hc
  obtain ⟨directives, hdirectives, hc⟩ := bind_eq_ok.mp hrest
  obtain rfl := Except.ok.inj hc
  rw [Schema.userTypes_eq hkeys] at hfold
  have hholds (kind : TypeKind) :
      Holds s (refresh { routed with definedDirectives := directives })
        (ofKind kind s.userEntries) kind := by
    have hrouted := foldlM_addType_holds
      (fun e he => hkeys e (List.mem_of_mem_filter he)) hfold kind
    cases kind <;> exact hrouted
  have hperm := recordNames_perm hholds
  refine ⟨hholds, hperm, ?_, DirectiveRecord.all_eq_ok.mp hdirectives⟩
  rw [(hperm.map Prod.snd).nodup_iff, List.map_map]
  exact s.userEntries_nodup

/-- A type, an enum and a union between a redefined builtin scalar and an introspection type. -/
theorem build_records_mixed :
    let definitions : List TypeSystemDefinition :=
      [.type ⟨"Query", none, [], .object [] [⟨"e", none, .named "E", [], []⟩]⟩,
        .type ⟨"Int", none, [], .enum []⟩, .type ⟨"E", none, [], .enum [⟨"X", none, []⟩]⟩,
        .type ⟨"__Type", none, [], .object [] []⟩, .type ⟨"U", none, [], .union ["Query"]⟩]
    ∃ s c, Schema.ofDefinitions definitions = .ok s ∧ build s = .ok c ∧
      c.recordNames = [(.object, "Query"), (.enum, "E"), (.union, "U")] ∧
      (∀ kind, c.Holds s (ofKind kind s.userEntries) kind) ∧
      c.recordNames.Perm (s.userEntries.map fun e => (e.2.kind, e.1)) ∧
      (c.recordNames.map Prod.snd).Nodup ∧
      List.Forall₂ (DirectiveRecord.Mirrors s) s.directives c.definedDirectives := by
  intro definitions
  have hs : Schema.ofDefinitions definitions = .ok _ := rfl
  refine ⟨_, ?catalog, hs, ?built, ?names, build_records hs ?built⟩
  case built => rfl
  case names => rfl

end Catalog

end QueryModel
