import QueryModel.Proofs.Catalog.Routing

/-!
# When a catalog is built

The members of the catalogued types and the arguments of the directives name types. A catalog is
built exactly when the schema has all of them, and else the first name that it lacks is the error.
The names of interfaces and of union members are not asked for.
-/

set_option autoImplicit false

namespace QueryModel

theorem Schema.mem_values_of_type? {s : Schema} {name : String} {t : TypeDeclaration}
    (h : s.type? name = some t) : t ∈ s.types.values :=
  List.mem_map_of_mem (Table.get?_eq_some.mp h)

/-- The type of the field and then those of its arguments. -/
def FieldDeclaration.references (f : FieldDeclaration) : List String :=
  f.type.name :: f.arguments.map (·.type.name)

def TypeDeclaration.references (t : TypeDeclaration) : List String :=
  t.fields.flatMap FieldDeclaration.references ++ t.inputFields.map (·.type.name)

namespace Schema

/-- The type names in the members of the types that are no builtin scalars and no introspection
types, and then those in the arguments of the directives. -/
def references (s : Schema) : List String :=
  (s.types.values.filter fun t =>
    t.name ∉ builtinScalars ∧ ¬ ['_', '_'] <+: t.name.toList).flatMap TypeDeclaration.references ++
  s.directives.flatMap fun d => d.arguments.map (·.type.name)

def Provides (s : Schema) (f : FieldDeclaration) : Prop :=
  s.Has f.type.name ∧ ∀ a ∈ f.arguments, s.Has a.type.name

theorem provides_iff {s : Schema} {f : FieldDeclaration} :
    s.Provides f ↔ ∀ name ∈ f.references, s.Has name := by
  simp [Provides, FieldDeclaration.references]

def missing? (s : Schema) (names : List String) : Option String :=
  names.find? fun name => !s.types.contains name

/-- There is a result if the schema has all of the names, and else the error tells the first that
it lacks. -/
def Asks {α : Type} (s : Schema) (names : List String) (x : Except Error α) : Prop :=
  match s.missing? names with
  | none => ∃ a, x = .ok a
  | some name => x = .error (.unknownType name)

end Schema

section Asks

variable {α β : Type} {s : Schema} {names more : List String}

theorem Schema.missing?_eq_none : s.missing? names = none ↔ ∀ name ∈ names, s.Has name := by
  simp [missing?, Has, s.types.contains_iff]

theorem Schema.missing?_eq_some {name : String} :
    s.missing? names = some name ↔ FirstWith (¬ s.Has ·) names name := by
  simp [missing?, find?_eq_some_iff_firstWith, FirstWith, Has, ← s.types.contains_iff]

namespace Schema.Asks

theorem ok (a : α) : s.Asks [] (.ok a) := ⟨a, rfl⟩

theorem bind {x : Except Error α} {f : α → Except Error β} (hx : s.Asks names x)
    (hf : ∀ a, s.Asks more (f a)) : s.Asks (names ++ more) (x >>= f) := by
  have happend : s.missing? (names ++ more) = (s.missing? names).or (s.missing? more) :=
    List.find?_append
  rw [Asks] at hx ⊢
  rw [happend]
  cases hnames : s.missing? names with
  | none =>
    rw [hnames] at hx
    obtain ⟨a, rfl⟩ := hx
    exact hf a
  | some name =>
    rw [hnames] at hx
    rw [hx]
    rfl

theorem andThen {x : Except Error α} {f : α → β} (hx : s.Asks names x) :
    s.Asks names (x >>= fun a => .ok (f a)) := by
  simpa using hx.bind fun a => ok (f a)

theorem mapM {f : α → Except Error β} {names : α → List String}
    (h : ∀ x, s.Asks (names x) (f x)) (xs : List α) :
    s.Asks (xs.flatMap names) (xs.mapM f) := by
  induction xs with
  | nil => exact ok []
  | cons x xs ih =>
    rw [List.mapM_cons, List.flatMap_cons]
    exact (h x).bind fun y => ih.andThen

theorem foldlM {f : β → α → Except Error β} {names : α → List String}
    (h : ∀ b x, s.Asks (names x) (f b x)) (xs : List α) (b : β) :
    s.Asks (xs.flatMap names) (xs.foldlM f b) := by
  induction xs generalizing b with
  | nil => exact ok b
  | cons x xs ih =>
    rw [List.foldlM_cons, List.flatMap_cons]
    exact (h b x).bind ih

theorem exists_eq_ok_iff {x : Except Error α} (h : s.Asks names x) :
    (∃ a, x = .ok a) ↔ ∀ name ∈ names, s.Has name := by
  rw [← missing?_eq_none]
  rw [Asks] at h
  cases hnames : s.missing? names with
  | none => simpa [hnames] using h
  | some name =>
    have hx : x = .error (.unknownType name) := by simpa [hnames] using h
    simp [hx]

theorem eq_error_iff {x : Except Error α} (h : s.Asks names x) {e : Error} :
    x = .error e ↔ ∃ name, FirstWith (¬ s.Has ·) names name ∧ e = .unknownType name := by
  simp only [← missing?_eq_some]
  rw [Asks] at h
  cases hnames : s.missing? names with
  | none =>
    obtain ⟨a, rfl⟩ : ∃ a, x = .ok a := by simpa [hnames] using h
    simp
  | some name =>
    have hx : x = .error (.unknownType name) := by simpa [hnames] using h
    simp [hx, eq_comm]

end Schema.Asks

end Asks

section Members

variable {s : Schema}

theorem kindOf_asks (name : String) : s.Asks [name] (s.kindOf name) := by
  have htype : s.Asks [name] (s.typeNamed name) := by
    rw [Schema.Asks, Schema.missing?, Schema.typeNamed]
    cases hfound : s.type? name with
    | none => simp [Table.contains, show s.types.get? name = none from hfound]
    | some t => simp [Table.contains, show s.types.get? name = some t from hfound]
  have hkind (t : TypeDeclaration) : s.Asks [] t.classify := t.classify_eq_ok ▸ .ok t.kind
  exact htype.bind hkind

theorem argument_asks (declared : InputDeclaration) :
    s.Asks [declared.type.name] (Argument.resolve s declared) :=
  (kindOf_asks _).andThen

theorem arguments_ask (declared : List InputDeclaration) :
    s.Asks (declared.map (·.type.name)) (Argument.resolveAll s declared) := by
  rw [List.map_eq_flatMap]
  exact .mapM argument_asks declared

theorem field_asks (declared : FieldDeclaration) :
    s.Asks declared.references (Field.resolve s declared) :=
  (kindOf_asks declared.type.name).bind fun _ => (arguments_ask declared.arguments).andThen

theorem fields_ask (declared : List FieldDeclaration) :
    s.Asks (declared.flatMap FieldDeclaration.references) (Field.resolveAll s declared) :=
  .mapM field_asks declared

theorem inputFields_ask (declared : List InputDeclaration) :
    s.Asks (declared.map (·.type.name)) (Field.resolveInputs s declared) := by
  rw [List.map_eq_flatMap]
  exact .mapM (fun d => (argument_asks d).andThen) declared

theorem directives_ask :
    s.Asks (s.directives.flatMap fun d => d.arguments.map (·.type.name)) (DirectiveRecord.all s) :=
  .mapM (fun d => (arguments_ask d.arguments).andThen) s.directives

end Members

namespace Catalog

variable {s : Schema}

theorem addType_asks (c : Catalog) (t : TypeDeclaration) :
    s.Asks t.references (addType s c t) := by
  obtain ⟨name, description, directives, shape⟩ := t
  rw [addType, TypeDeclaration.classify_eq_ok, ok_bind]
  cases shape with
  | object interfaces fields =>
    rw [TypeDeclaration.references, TypeDeclaration.inputFields, List.map_nil, List.append_nil]
    exact (fields_ask fields).andThen.andThen
  | interface fields =>
    rw [TypeDeclaration.references, TypeDeclaration.inputFields, List.map_nil, List.append_nil]
    exact (fields_ask fields).andThen.andThen
  | inputObject fields => exact (inputFields_ask fields).andThen.andThen
  | scalar | union members | enum values => exact .ok _

theorem build_asks (s : Schema) : s.Asks s.references (build s) := by
  have husers : userTypes s = s.types.values.filter fun t =>
      t.name ∉ builtinScalars ∧ ¬ ['_', '_'] <+: t.name.toList := by
    apply List.filter_congr
    intro t _
    exact isUserType_eq t.name
  rw [Schema.references, ← husers]
  exact (Schema.Asks.foldlM addType_asks _ _).bind fun c => directives_ask.andThen

theorem exists_build_eq_ok : (∃ c, build s = .ok c) ↔ ∀ name ∈ s.references, s.Has name :=
  (build_asks s).exists_eq_ok_iff

end Catalog

end QueryModel
