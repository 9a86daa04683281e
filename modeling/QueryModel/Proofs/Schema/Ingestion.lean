import QueryModel.Proofs.Schema.Lookup
import QueryModel.Proofs.Table
import QueryModel.Schema.Ingest

/-!
# What a schema document means

The schema of a document told without a pass over it: a type is the last definition of its
name, or a builtin scalar, with the parts of all its extensions at the end. Reading the
definitions one after another and then applying the extensions gives just that schema, or
the fault of the first extension that has no type of its kind.
-/

set_option autoImplicit false

namespace QueryModel

/-- The shape with the parts of the additions at the end, each part from all of them. -/
def TypeShape.extendAll (additions : List TypeDeclaration) : TypeShape → TypeShape
  | .scalar => .scalar
  | .object interfaces fields =>
    .object (interfaces ++ additions.flatMap (·.interfaces))
      (fields ++ additions.flatMap (·.fields))
  | .interface fields => .interface (fields ++ additions.flatMap (·.fields))
  | .union members => .union (members ++ additions.flatMap (·.unionMembers))
  | .enum values => .enum (values ++ additions.flatMap (·.enumValues))
  | .inputObject fields => .inputObject (fields ++ additions.flatMap (·.inputFields))

def TypeDeclaration.extendAll (t : TypeDeclaration) (additions : List TypeDeclaration) :
    TypeDeclaration :=
  { t with
    shape := t.shape.extendAll additions
    directives := t.directives ++ additions.flatMap (·.directives) }

namespace TypeDeclaration

variable {t addition : TypeDeclaration} {additions : List TypeDeclaration}

@[simp] theorem extendAll_name : (t.extendAll additions).name = t.name := rfl

@[simp] theorem extendAll_kind : (t.extendAll additions).kind = t.kind := by
  cases h : t.shape <;> simp [extendAll, kind, TypeShape.extendAll, TypeShape.kind, h]

theorem extendAll_nil (t : TypeDeclaration) : t.extendAll [] = t := by
  obtain ⟨name, description, directives, shape⟩ := t
  cases shape <;> simp [extendAll, TypeShape.extendAll]

theorem extendAll_extendAll (t : TypeDeclaration) (first second : List TypeDeclaration) :
    (t.extendAll first).extendAll second = t.extendAll (first ++ second) := by
  obtain ⟨name, description, directives, shape⟩ := t
  cases shape <;> simp [extendAll, TypeShape.extendAll, List.append_assoc]

theorem extend?_eq (t addition : TypeDeclaration) :
    t.extend? addition =
      if t.kind = addition.kind then some (t.extendAll [addition]) else none := by
  obtain ⟨name, description, directives, shape⟩ := t
  obtain ⟨_, _, _, other⟩ := addition
  cases shape <;> cases other <;>
    simp [extend?, TypeShape.join?, kind, TypeShape.kind, extendAll, TypeShape.extendAll,
      interfaces, fields, unionMembers, enumValues, inputFields]

end TypeDeclaration

namespace Schema

variable {definitions : List TypeSystemDefinition}

/-- The type definitions of a document in order, a name with each of its definitions. -/
def typeDefinitions (definitions : List TypeSystemDefinition) : List TypeDeclaration :=
  definitions.filterMap fun
    | .type declaration => some declaration
    | _ => none

def definedNames (definitions : List TypeSystemDefinition) : List String :=
  (typeDefinitions definitions).map (·.name)

def named (name : String) (declarations : List TypeDeclaration) : List TypeDeclaration :=
  declarations.filter fun d => d.name = name

def builtin? (name : String) : Option TypeDeclaration :=
  if name ∈ builtinScalars then some (builtinScalar name) else none

/-- The type of the name before any extension: its last definition, or a builtin scalar. -/
def base? (definitions : List TypeSystemDefinition) (name : String) : Option TypeDeclaration :=
  (named name (typeDefinitions definitions)).getLast?.or (builtin? name)

def extensionFault? (lookup : String → Option TypeDeclaration) (addition : TypeDeclaration) :
    Option Error :=
  match lookup addition.name with
  | none => some (.unknownType addition.name)
  | some t => if t.kind = addition.kind then none else some (.classification addition.name)

def Extends (definitions : List TypeSystemDefinition) (addition : TypeDeclaration) : Prop :=
  ∃ t, base? definitions addition.name = some t ∧ t.kind = addition.kind

def present? (s : Schema) (name : String) : Option String :=
  if name ∈ s.types.keys then some name else none

/-- The schema is what the definitions say. -/
structure Describes (s : Schema) (definitions : List TypeSystemDefinition) : Prop where
  keys_eq : s.types.keys = (definedNames definitions).eraseDups ++
    builtinScalars.filter fun name => name ∉ definedNames definitions
  key_eq : ∀ name t, s.type? name = some t → t.name = name
  type_eq : ∀ name, s.type? name = (base? definitions name).map
    (·.extendAll (named name (extensions definitions)))
  directives_eq : s.directives = definedDirectives definitions ++
    builtinDirectives.filter fun b => b.name ∉ (definedDirectives definitions).map (·.name)
  applied_eq : s.applied = schemaApplied definitions
  roots_eq : s.roots = (schemaRoots definitions).getLast?.getD
    ⟨s.present? "Query", s.present? "Mutation", s.present? "Subscription"⟩

section Definitions

theorem typeDefinitions_append (first second : List TypeSystemDefinition) :
    typeDefinitions (first ++ second) = typeDefinitions first ++ typeDefinitions second :=
  List.filterMap_append ..

theorem keys_foldl_defineType (definitions : List TypeSystemDefinition) :
    (definitions.foldl defineType ∅).keys = (definedNames definitions).eraseDups := by
  induction definitions using List.reverseRecOn with
  | nil => rfl
  | append_singleton rest d ih =>
    rw [List.foldl_append, List.foldl_cons, List.foldl_nil]
    cases d with
    | type t =>
      have hnames : definedNames (rest ++ [.type t]) = definedNames rest ++ [t.name] := by
        rw [definedNames, typeDefinitions_append, List.map_append]
        rfl
      rw [defineType, Table.keys_insert, ih, hnames, eraseDups_concat]
      simp only [List.mem_eraseDups]
    | schema _ _ | extension _ | directive _ =>
      simpa [defineType, definedNames, typeDefinitions_append, typeDefinitions] using ih

theorem get?_foldl_defineType (definitions : List TypeSystemDefinition) (name : String) :
    (definitions.foldl defineType ∅).get? name =
      (named name (typeDefinitions definitions)).getLast? := by
  induction definitions using List.reverseRecOn with
  | nil => rfl
  | append_singleton rest d ih =>
    rw [List.foldl_append, List.foldl_cons, List.foldl_nil, typeDefinitions_append]
    cases d with
    | type t =>
      rw [defineType, Table.get?_insert, ih]
      by_cases ht : t.name = name
      · simp [named, typeDefinitions, ht]
      · simp [named, typeDefinitions, ht, Ne.symm ht]
    | schema _ _ | extension _ | directive _ => simpa [defineType, typeDefinitions] using ih

theorem get?_foldl_addBuiltin (names : List String) (types : Table TypeDeclaration)
    (name : String) :
    (names.foldl addBuiltin types).get? name =
      (types.get? name).or (if name ∈ names then some (builtinScalar name) else none) := by
  induction names generalizing types with
  | nil => simp
  | cons first names ih =>
    rw [List.foldl_cons, ih, addBuiltin, Table.get?_insertNew, Option.or_assoc]
    by_cases hfirst : name = first
    · simp [hfirst]
    · simp [hfirst]

theorem keys_foldl_addBuiltin {names : List String} (hnames : names.Nodup)
    (types : Table TypeDeclaration) :
    (names.foldl addBuiltin types).keys =
      types.keys ++ names.filter fun name => name ∉ types.keys := by
  induction names generalizing types with
  | nil => simp
  | cons first names ih =>
    obtain ⟨hfirst, hnodup⟩ := List.nodup_cons.mp hnames
    rw [List.foldl_cons, ih hnodup, addBuiltin, Table.keys_insertNew]
    by_cases hkey : first ∈ types.keys
    · simp [hkey]
    · have hrest : names.filter (fun name => name ∉ types.keys ++ [first]) =
          names.filter fun name => name ∉ types.keys := by
        apply List.filter_congr
        intro name hname
        have hne : name ≠ first := fun h => hfirst (h ▸ hname)
        simp [hne]
      rw [if_neg hkey, hrest, List.filter_cons_of_pos (by simpa using hkey), List.append_assoc,
        List.singleton_append]

theorem keys_definedTypes (definitions : List TypeSystemDefinition) :
    (definedTypes definitions).keys = (definedNames definitions).eraseDups ++
      builtinScalars.filter fun name => name ∉ definedNames definitions := by
  rw [definedTypes, keys_foldl_addBuiltin (by decide), keys_foldl_defineType]
  simp only [List.mem_eraseDups]

theorem get?_definedTypes (definitions : List TypeSystemDefinition) (name : String) :
    (definedTypes definitions).get? name = base? definitions name := by
  rw [definedTypes, get?_foldl_addBuiltin, get?_foldl_defineType, base?, builtin?]

theorem base?_name {name : String} {t : TypeDeclaration} (h : base? definitions name = some t) :
    t.name = name := by
  rw [base?, Option.or_eq_some_iff] at h
  rcases h with h | ⟨-, h⟩
  · have hmem := List.mem_of_getLast? h
    simpa [named] using (List.mem_filter.mp hmem).2
  · rw [builtin?] at h
    split at h
    · rw [← Option.some.inj h]
      rfl
    · contradiction

end Definitions

section Extensions

def ExtendedBy (types : Table TypeDeclaration) (additions : List TypeDeclaration)
    (extended : Table TypeDeclaration) : Prop :=
  extended.keys = types.keys ∧
    ∀ name, extended.get? name = (types.get? name).map (·.extendAll (named name additions))

theorem extendType_eq (types : Table TypeDeclaration) (addition : TypeDeclaration) :
    (∃ fault, extensionFault? types.get? addition = some fault ∧
      extendType types addition = .error fault) ∨
    (extensionFault? types.get? addition = none ∧ ∃ extended,
      extendType types addition = .ok extended ∧ ExtendedBy types [addition] extended) := by
  cases ht : types.get? addition.name with
  | none => exact .inl ⟨.unknownType addition.name, by simp [extensionFault?, extendType, ht]⟩
  | some t =>
    by_cases hkind : t.kind = addition.kind
    · refine .inr ⟨by simp [extensionFault?, ht, hkind],
        types.insert addition.name (t.extendAll [addition]),
        by simp [extendType, ht, TypeDeclaration.extend?_eq, hkind], ?_, fun name => ?_⟩
      · have hmem : addition.name ∈ types.keys := by
          rw [← Table.contains_iff, Table.contains, ht]
          rfl
        rw [Table.keys_insert, if_pos hmem]
      · rw [Table.get?_insert]
        by_cases hname : name = addition.name
        · simp [hname, ht, named]
        · have hnone : named name [addition] = [] := by simp [named, Ne.symm hname]
          have hid : (·.extendAll []) = (id : TypeDeclaration → TypeDeclaration) :=
            funext TypeDeclaration.extendAll_nil
          rw [if_neg hname, hnone, hid, Option.map_id_fun, id]
    · exact .inl ⟨.classification addition.name,
        by simp [extensionFault?, extendType, ht, TypeDeclaration.extend?_eq, hkind]⟩

/-- An extension changes no kind and no name, so the faults of the others stay. -/
theorem ExtendedBy.fault?_eq {types extended : Table TypeDeclaration}
    {additions : List TypeDeclaration} (h : ExtendedBy types additions extended)
    (addition : TypeDeclaration) :
    extensionFault? extended.get? addition = extensionFault? types.get? addition := by
  rw [extensionFault?, extensionFault?, h.2]
  cases types.get? addition.name with
  | none => rfl
  | some t => simp

theorem ExtendedBy.cons {types middle extended : Table TypeDeclaration}
    {addition : TypeDeclaration} {additions : List TypeDeclaration}
    (h : ExtendedBy types [addition] middle) (h' : ExtendedBy middle additions extended) :
    ExtendedBy types (addition :: additions) extended := by
  refine ⟨h'.1.trans h.1, fun name => ?_⟩
  rw [h'.2, h.2, Option.map_map]
  congr 1
  funext t
  have hsplit : named name (addition :: additions) =
      named name [addition] ++ named name additions :=
    List.filter_append [addition] additions
  rw [Function.comp, TypeDeclaration.extendAll_extendAll, hsplit]

/-- Extensions applied one after another: the first fault, or all of them applied. -/
theorem foldlM_extendType (additions : List TypeDeclaration) (types : Table TypeDeclaration) :
    (∃ fault, additions.findSome? (extensionFault? types.get?) = some fault ∧
      additions.foldlM extendType types = .error fault) ∨
    (additions.findSome? (extensionFault? types.get?) = none ∧ ∃ extended,
      additions.foldlM extendType types = .ok extended ∧ ExtendedBy types additions extended) := by
  induction additions generalizing types with
  | nil =>
    refine .inr ⟨rfl, types, rfl, rfl, fun name => ?_⟩
    simp [named, TypeDeclaration.extendAll_nil]
  | cons addition additions ih =>
    rw [List.foldlM_cons, List.findSome?_cons]
    obtain ⟨fault, hfault, hstep⟩ | ⟨hnone, middle, hstep, hmiddle⟩ := extendType_eq types addition
    · exact .inl ⟨fault, by rw [hfault], by rw [hstep]; rfl⟩
    · have hfaults : extensionFault? middle.get? = extensionFault? types.get? :=
        funext hmiddle.fault?_eq
      rw [hnone, hstep]
      obtain ⟨fault, hfault, hrest⟩ | ⟨hfault, extended, hrest, hextended⟩ := ih middle
      · exact .inl ⟨fault, hfaults ▸ hfault, hrest⟩
      · exact .inr ⟨hfaults ▸ hfault, extended, hrest, hmiddle.cons hextended⟩

end Extensions

theorem conventionalRoots_eq {s : Schema} :
    conventionalRoots s.types =
      ⟨s.present? "Query", s.present? "Mutation", s.present? "Subscription"⟩ := by
  simp only [conventionalRoots, conventionalRoot, present?, Table.contains_iff]

theorem allDirectives_eq (definitions : List TypeSystemDefinition) :
    allDirectives definitions = definedDirectives definitions ++ builtinDirectives.filter fun b =>
      b.name ∉ (definedDirectives definitions).map (·.name) := by
  rw [allDirectives]
  congr 1
  apply List.filter_congr
  intro b hb
  rw [Bool.eq_iff_iff]
  simp

theorem Describes.unique {s t : Schema} (hs : s.Describes definitions)
    (ht : t.Describes definitions) : s = t := by
  have htypes : s.types = t.types :=
    Table.ext_get? (hs.keys_eq.trans ht.keys_eq.symm) fun name =>
      (hs.type_eq name).trans (ht.type_eq name).symm
  have hdirectives := hs.directives_eq.trans ht.directives_eq.symm
  have happlied := hs.applied_eq.trans ht.applied_eq.symm
  have hroots := hs.roots_eq
  rw [← conventionalRoots_eq, htypes, conventionalRoots_eq, ← ht.roots_eq] at hroots
  cases s
  cases t
  simp_all

/-- The extensions are applied to the defined types, or the first of them that cannot be
applied is the error. -/
theorem ofDefinitions_cases (definitions : List TypeSystemDefinition) :
    (∃ fault, (extensions definitions).findSome? (extensionFault? (base? definitions)) =
        some fault ∧ ofDefinitions definitions = .error fault) ∨
    ((extensions definitions).findSome? (extensionFault? (base? definitions)) = none ∧
      ∃ s, ofDefinitions definitions = .ok s ∧ s.Describes definitions) := by
  have hlookup : (definedTypes definitions).get? = base? definitions :=
    funext (get?_definedTypes definitions)
  have hfold := foldlM_extendType (extensions definitions) (definedTypes definitions)
  rw [hlookup] at hfold
  rw [ofDefinitions]
  obtain ⟨fault, hfault, hrun⟩ | ⟨hnone, types, hrun, hkeys, htypes⟩ := hfold
  · exact .inl ⟨fault, hfault, by rw [hrun]; rfl⟩
  · refine .inr ⟨hnone, _, by rw [hrun]; rfl, ?_, ?_, ?_, ?_, rfl, ?_⟩
    · exact hkeys.trans (keys_definedTypes definitions)
    · intro name t ht
      rw [type?, htypes, hlookup] at ht
      obtain ⟨base, hbase, rfl⟩ := Option.map_eq_some_iff.mp ht
      rw [TypeDeclaration.extendAll_name, base?_name hbase]
    · intro name
      rw [type?, htypes, hlookup]
    · exact allDirectives_eq definitions
    · rw [conventionalRoots_eq.symm]

theorem describes_of_ok {s : Schema} (h : ofDefinitions definitions = .ok s) :
    s.Describes definitions := by
  obtain ⟨fault, -, hrun⟩ | ⟨-, t, hrun, ht⟩ := ofDefinitions_cases definitions
  · rw [hrun] at h
    contradiction
  · rw [hrun] at h
    exact Except.ok.inj h ▸ ht

theorem extensionFault?_eq_none {addition : TypeDeclaration} :
    extensionFault? (base? definitions) addition = none ↔ Extends definitions addition := by
  rw [extensionFault?, Extends]
  cases base? definitions addition.name with
  | none => simp
  | some t => simp

/-- A document gives the schema that it describes, and does so exactly when each of its
extensions names a type of its own kind. Otherwise the error is that of the first extension
that does not. -/
theorem ofDefinitions_eq_described (definitions : List TypeSystemDefinition) :
    ((∃ s, ofDefinitions definitions = .ok s) ↔
      ∀ addition ∈ extensions definitions, Extends definitions addition) ∧
    (∀ fault, ofDefinitions definitions = .error fault ↔
      (extensions definitions).findSome? (extensionFault? (base? definitions)) = some fault) ∧
    ∀ s, ofDefinitions definitions = .ok s ↔
      (∀ addition ∈ extensions definitions, Extends definitions addition) ∧
        s.Describes definitions := by
  simp only [← extensionFault?_eq_none, ← List.findSome?_eq_none_iff]
  obtain ⟨fault, hfault, hrun⟩ | ⟨hnone, s, hrun, hs⟩ := ofDefinitions_cases definitions
  · simp [hfault, hrun]
  · rw [hnone, hrun]
    refine ⟨by simp, by simp, fun other => ⟨?_, ?_⟩⟩
    · rintro ⟨rfl⟩
      exact ⟨rfl, hs⟩
    · rintro ⟨-, hother⟩
      rw [hs.unique hother]

end Schema

end QueryModel
