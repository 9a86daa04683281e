import QueryModel.Proofs.Catalog.Order

/-!
# References inside a catalog

The type name of a member leads back into the catalog, to a record in the list of the kind that
the member tells. Only builtin scalars and introspection types have no record to lead to. Objects
name the interfaces that they implement and interfaces the types that implement them, and the two
tell the same.
-/

set_option autoImplicit false

namespace QueryModel

def TypeKind.flag : TypeKind → String
  | .scalar => "isScalar"
  | .enum => "isEnum"
  | .object => "isType"
  | .inputObject => "isInputType"
  | .interface => "isInterface"
  | .union => "isUnion"

/-- The flags of kinds that are set in a written record. -/
def Json.kindFlags (record : Json) : List String :=
  (record.members.filter fun m => m.1 ∈ listedKinds.map TypeKind.flag ∧ m.2 = .bool true).map
    Prod.fst

theorem Argument.kindFlags_toJson (a : Argument) : a.toJson.kindFlags = [a.kind.flag] := by
  obtain ⟨name, description, type, kind, directives, uses, default, present⟩ := a
  cases kind <;>
    simp [toJson, Json.kindFlags, Json.members, TypeReference.members, TypeKind.members,
      DirectiveUses.members, defaultMembers, listedKinds, TypeKind.flag]

theorem Field.kindFlags_toJson (f : Field) : f.toJson.kindFlags = [f.kind.flag] := by
  obtain ⟨name, description, type, kind⟩ := f
  cases kind <;>
    simp [toJson, Json.kindFlags, Json.members, TypeReference.members, TypeKind.members,
      DirectiveUses.members, deprecationMembers, Argument.listMembers,
      defaultMembers, listedKinds, TypeKind.flag]

namespace Catalog

def fields (c : Catalog) : List Field :=
  c.types.flatMap (·.fields) ++ c.inputTypes.flatMap (·.fields) ++
    c.interfaces.flatMap (·.fields)

def arguments (c : Catalog) : List Argument :=
  c.fields.flatMap (·.arguments) ++ c.definedDirectives.flatMap (·.arguments)

/-- The name is that of a type without a record, or of a record in the list of the kind and in no
other list. -/
def Leads (c : Catalog) (name : String) (kind : TypeKind) : Prop :=
  name ∈ builtinScalars ∨ ['_', '_'] <+: name.toList ∨
    ∀ other, name ∈ c.namesOf other ↔ other = kind

end Catalog

section Members

variable {s : Schema}

def Schema.HasOfKind (s : Schema) (name : String) (kind : TypeKind) : Prop :=
  ∃ t, s.type? name = some t ∧ t.kind = kind

theorem Argument.Mirrors.hasOfKind {declared : InputDeclaration} {a : Argument}
    (h : Argument.Mirrors s declared a) : s.HasOfKind a.type.name a.kind := by
  obtain ⟨t, ht, rfl⟩ := h
  exact ⟨t, ht, rfl⟩

theorem arguments_hasOfKind {declared : List InputDeclaration} {as : List Argument}
    (h : List.Forall₂ (Argument.Mirrors s) declared as) :
    ∀ a ∈ as, s.HasOfKind a.type.name a.kind := by
  intro a ha
  obtain ⟨d, -, hd⟩ := exists_of_forall₂ h ha
  exact hd.hasOfKind

def Schema.Explains (s : Schema) (f : Field) : Prop :=
  s.HasOfKind f.type.name f.kind ∧ ∀ a ∈ f.arguments, s.HasOfKind a.type.name a.kind

theorem fields_explained {declared : List FieldDeclaration} {fields : List Field}
    (h : List.Forall₂ (Field.Mirrors s) declared fields) : ∀ f ∈ fields, s.Explains f := by
  intro f hf
  obtain ⟨d, -, t, as, ht, has, rfl⟩ := exists_of_forall₂ h hf
  exact ⟨⟨t, ht, rfl⟩, arguments_hasOfKind has⟩

theorem inputFields_explained {declared : List InputDeclaration} {fields : List Field}
    (h : List.Forall₂ (Field.MirrorsInput s) declared fields) : ∀ f ∈ fields, s.Explains f := by
  intro f hf
  obtain ⟨d, -, a, ha, rfl⟩ := exists_of_forall₂ h hf
  exact ⟨ha.hasOfKind, List.forall_mem_nil _⟩

end Members

section Built

variable {s : Schema} {c : Catalog} (hkeys : ∀ e ∈ s.types.entries, e.2.name = e.1)
  (hc : Catalog.build s = .ok c)

include hkeys hc

theorem mem_namesOf_iff {name : String} {kind : TypeKind} : name ∈ c.namesOf kind ↔
    ∃ t, (name, t) ∈ s.userEntries ∧ t.kind = kind := by
  rw [((Catalog.holds_of_build hkeys hc).1 kind).namesOf_eq, List.mem_map]
  constructor
  · rintro ⟨⟨key, t⟩, he, rfl⟩
    obtain ⟨hmem, hkind⟩ := List.mem_filter.mp he
    exact ⟨t, hmem, by simpa using hkind⟩
  · rintro ⟨t, hmem, hkind⟩
    exact ⟨(name, t), List.mem_filter.mpr ⟨hmem, by simpa using hkind⟩, rfl⟩

theorem leads_of_hasOfKind {name : String} {kind : TypeKind} (h : s.HasOfKind name kind) :
    c.Leads name kind := by
  obtain ⟨t, ht, rfl⟩ := h
  by_cases hbuiltin : name ∈ builtinScalars
  · exact .inl hbuiltin
  by_cases hhidden : ['_', '_'] <+: name.toList
  · exact .inr (.inl hhidden)
  have huser : (name, t) ∈ s.userEntries :=
    List.mem_filter.mpr ⟨Table.get?_eq_some.mp ht, by simp [hbuiltin, hhidden]⟩
  refine .inr (.inr fun other => ?_)
  rw [mem_namesOf_iff hkeys hc]
  constructor
  · rintro ⟨u, hu, rfl⟩
    have hfound : s.type? name = some u := Table.get?_of_mem (List.mem_of_mem_filter hu)
    rw [ht] at hfound
    rw [Option.some.inj hfound]
  · rintro rfl
    exact ⟨t, huser, rfl⟩

theorem build_fields_explained : ∀ f ∈ c.fields, s.Explains f := by
  obtain ⟨hholds, -⟩ := Catalog.holds_of_build hkeys hc
  intro f hf
  simp only [Catalog.fields, List.mem_append, List.mem_flatMap] at hf
  rcases hf with (⟨r, hr, hf⟩ | ⟨r, hr, hf⟩) | ⟨r, hr, hf⟩
  · obtain ⟨e, -, fields, hfields, rfl⟩ := exists_of_forall₂ (hholds .object) hr
    exact fields_explained hfields f hf
  · obtain ⟨e, -, fields, hfields, rfl⟩ := exists_of_forall₂ (hholds .inputObject) hr
    exact inputFields_explained hfields f hf
  · obtain ⟨e, -, fields, hfields, rfl⟩ := exists_of_forall₂ (hholds .interface) hr
    exact fields_explained hfields f hf

theorem build_arguments_explained : ∀ a ∈ c.arguments, s.HasOfKind a.type.name a.kind := by
  intro a ha
  simp only [Catalog.arguments, List.mem_append, List.mem_flatMap] at ha
  rcases ha with ⟨f, hf, ha⟩ | ⟨r, hr, ha⟩
  · exact (build_fields_explained hkeys hc f hf).2 a ha
  · have hall := DirectiveRecord.all_eq_ok.mp (Catalog.holds_of_build hkeys hc).2
    obtain ⟨d, -, as, has, rfl⟩ := exists_of_forall₂ hall hr
    exact arguments_hasOfKind has a ha

end Built

section Implementations

variable {s : Schema} (hkeys : ∀ e ∈ s.types.entries, e.2.name = e.1)

include hkeys

theorem Schema.implementations_eq (interface : String) : s.implementations interface =
    (s.types.entries.filter fun e => e.2.interfaces.contains interface).map Prod.fst := by
  rw [implementations, Table.values, List.filter_map, List.map_map]
  apply List.map_congr_left
  intro e he
  exact hkeys e (List.mem_of_mem_filter he)

theorem Schema.implementations_sublist (interface : String) :
    (s.implementations interface).Sublist s.types.keys := by
  rw [implementations_eq hkeys]
  exact List.filter_sublist.map Prod.fst

theorem Schema.mem_implementations_iff {name interface : String} {t : TypeDeclaration}
    (ht : (name, t) ∈ s.types.entries) :
    name ∈ s.implementations interface ↔ interface ∈ t.interfaces := by
  rw [implementations_eq hkeys, List.mem_map]
  constructor
  · rintro ⟨⟨key, u⟩, he, rfl⟩
    obtain ⟨hmem, hlists⟩ := List.mem_filter.mp he
    -- A name has one type, however often that type lists the interface.
    have hsame : t = u :=
      Option.some.inj ((Table.get?_of_mem ht).symm.trans (Table.get?_of_mem hmem))
    rw [hsame]
    simpa using hlists
  · intro hlists
    exact ⟨(name, t), List.mem_filter.mpr ⟨ht, by simpa using hlists⟩, rfl⟩

end Implementations

namespace Catalog

/-- Every field and every argument of a catalog sets one flag, that of its kind, and its type name
leads to a record in the list of that kind, or to a type that has no record. An object lists an
interface exactly when the interface lists the object, and the list of an interface has no name
twice and follows the type map. -/
theorem build_references {definitions : List TypeSystemDefinition} {s : Schema} {c : Catalog}
    (hs : Schema.ofDefinitions definitions = .ok s) (hc : build s = .ok c) :
    (∀ f ∈ c.fields, f.toJson.kindFlags = [f.kind.flag] ∧ c.Leads f.type.name f.kind) ∧
    (∀ a ∈ c.arguments, a.toJson.kindFlags = [a.kind.flag] ∧ c.Leads a.type.name a.kind) ∧
    (∀ t ∈ c.types, ∀ i ∈ c.interfaces, t.name ∈ i.implementingTypes ↔ i.name ∈ t.interfaces) ∧
    ∀ i ∈ c.interfaces, i.implementingTypes.Nodup ∧ i.implementingTypes.Sublist s.types.keys := by
  have hkeys : ∀ e ∈ s.types.entries, e.2.name = e.1 := fun e he =>
    (Schema.describes_of_ok hs).key_eq e.1 e.2 (Table.get?_of_mem he)
  have hinterfaces : ∀ i ∈ c.interfaces, i.implementingTypes = s.implementations i.name := by
    intro i hi
    obtain ⟨e, -, fields, -, rfl⟩ := exists_of_forall₂ ((holds_of_build hkeys hc).1 .interface) hi
    rfl
  refine ⟨fun f hf => ⟨f.kindFlags_toJson, ?_⟩, fun a ha => ⟨a.kindFlags_toJson, ?_⟩, ?_, ?_⟩
  · exact leads_of_hasOfKind hkeys hc (build_fields_explained hkeys hc f hf).1
  · exact leads_of_hasOfKind hkeys hc (build_arguments_explained hkeys hc a ha)
  · intro t ht i hi
    obtain ⟨e, he, fields, -, rfl⟩ := exists_of_forall₂ ((holds_of_build hkeys hc).1 .object) ht
    have hentry : e ∈ s.types.entries := List.mem_of_mem_filter (List.mem_of_mem_filter he)
    rw [hinterfaces i hi]
    exact Schema.mem_implementations_iff hkeys hentry
  · intro i hi
    have hsublist := Schema.implementations_sublist hkeys i.name
    rw [hinterfaces i hi]
    exact ⟨hsublist.nodup s.types.nodup_keys, hsublist⟩

/-- An object lists its interface twice and once more by an extension. Its field has an argument of
an input type, a directive has one of an enum. -/
theorem build_references_repeated :
    let definitions : List TypeSystemDefinition :=
      [.extension ⟨"A", none, [], .object ["Node"] []⟩,
        .type ⟨"Node", none, [], .interface [⟨"id", none, .nonNull (.named "ID"), [], []⟩]⟩,
        .type ⟨"A", none, [], .object ["Node", "Node"] [⟨"next", none, .list (.named "Node"),
          [⟨"like", none, .named "Like", none, []⟩], []⟩]⟩,
        .type ⟨"Like", none, [], .inputObject [⟨"e", none, .named "E", none, []⟩]⟩,
        .type ⟨"E", none, [], .enum [⟨"X", none, []⟩]⟩,
        .directive ⟨"at", none, [⟨"e", none, .named "E", none, []⟩], [.object]⟩]
    ∃ s c, Schema.ofDefinitions definitions = .ok s ∧ build s = .ok c ∧
      c.types.map (·.interfaces) = [["Node", "Node", "Node"]] ∧
      c.interfaces.map (·.implementingTypes) = [["A"]] ∧
      c.fields.map (·.kind) = [.interface, .enum, .scalar] ∧
      (∀ f ∈ c.fields, f.toJson.kindFlags = [f.kind.flag] ∧ c.Leads f.type.name f.kind) ∧
      (∀ a ∈ c.arguments, a.toJson.kindFlags = [a.kind.flag] ∧ c.Leads a.type.name a.kind) ∧
      (∀ t ∈ c.types, ∀ i ∈ c.interfaces,
        t.name ∈ i.implementingTypes ↔ i.name ∈ t.interfaces) ∧
      ∀ i ∈ c.interfaces,
        i.implementingTypes.Nodup ∧ i.implementingTypes.Sublist s.types.keys := by
  intro definitions
  obtain ⟨s, hs, hcatalog⟩ : ∃ s, Schema.ofDefinitions definitions = .ok s ∧
      (build s).toOption.map (fun c => (c.types.map (·.interfaces),
        c.interfaces.map (·.implementingTypes), c.fields.map (·.kind))) =
      some ([["Node", "Node", "Node"]], [["A"]], [.interface, .enum, .scalar]) :=
    ⟨_, rfl, by decide +kernel⟩
  cases hc : build s with
  | error e => simp [hc, Except.toOption] at hcatalog
  | ok c =>
    simp only [hc, Except.toOption, Option.map_some, Option.some.injEq, Prod.mk.injEq] at hcatalog
    obtain ⟨hinterfaces, himplementing, hkinds⟩ := hcatalog
    exact ⟨s, c, hs, hc, hinterfaces, himplementing, hkinds, build_references hs hc⟩

end Catalog

end QueryModel
