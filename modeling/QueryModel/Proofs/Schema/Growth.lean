import QueryModel.Member
import QueryModel.Proofs.Schema.Ingestion
import QueryModel.Proofs.Selection.Typing

/-!
# Growing schemas

A schema grows when types are added and when types get more parts at their end. Types keep
their names and kinds, and what was the first field of a name stays the first. Appending
extensions and definitions of new types to a document makes its schema grow, and what can be
resolved on a schema is resolved in the same way on one that it has grown to.
-/

set_option autoImplicit false

namespace QueryModel

/-- The type with more parts: it keeps its name, its kind and its fields in front. -/
structure TypeDeclaration.Grows (t u : TypeDeclaration) : Prop where
  name_eq : u.name = t.name
  kind_eq : u.kind = t.kind
  fields_prefix : t.fields <+: u.fields

namespace TypeDeclaration

theorem grows_extendAll (t : TypeDeclaration) (additions : List TypeDeclaration) :
    t.Grows (t.extendAll additions) := by
  refine ⟨extendAll_name, extendAll_kind, ?_⟩
  cases hshape : t.shape <;> simp [fields, extendAll, TypeShape.extendAll, hshape]

theorem Grows.declares {t u : TypeDeclaration} (h : t.Grows u) {name : String}
    {declared : FieldDeclaration} (hfield : t.Declares name declared) :
    u.Declares name declared := by
  obtain ⟨hname, before, after, hsplit, hbefore⟩ := hfield
  obtain ⟨added, hadded⟩ := h.fields_prefix
  exact ⟨hname, before, after ++ added, by rw [← hadded, hsplit]; simp, hbefore⟩

end TypeDeclaration

/-- The types of the first schema have grown in the second one, in which there may be more;
the directives are the same. -/
structure Schema.Grows (s u : Schema) : Prop where
  type_grows : ∀ {name : String} {t : TypeDeclaration}, s.type? name = some t →
    ∃ t', u.type? name = some t' ∧ t.Grows t'
  root_grows : ∀ {kind : OperationKind} {t : TypeDeclaration}, s.rootType? kind = some t →
    ∃ t', u.rootType? kind = some t' ∧ t.Grows t'
  directives_eq : u.directives = s.directives

namespace Schema

section Append

/-- What may be added to a document: an extension, or a type whose name the schema lacks. -/
def Admits (s : Schema) : TypeSystemDefinition → Prop
  | .extension _ => True
  | .type t => ¬ s.Has t.name
  | .schema _ _ | .directive _ => False

variable {s u : Schema} {definitions more : List TypeSystemDefinition}

theorem named_append (name : String) (first second : List TypeDeclaration) :
    named name (first ++ second) = named name first ++ named name second :=
  List.filter_append ..

theorem extensions_append (definitions more : List TypeSystemDefinition) :
    extensions (definitions ++ more) = extensions definitions ++ extensions more :=
  List.filterMap_append ..

theorem base?_append (definitions : List TypeSystemDefinition) (hmore : ∀ d ∈ more, s.Admits d)
    {name : String} (hname : s.Has name) :
    base? (definitions ++ more) name = base? definitions name := by
  have hnone : named name (typeDefinitions more) = [] := by
    rw [named, List.filter_eq_nil_iff]
    intro t ht
    obtain ⟨d, hd, ht⟩ := List.mem_filterMap.mp ht
    have hadmits := hmore d hd
    cases d with
    | type declared =>
      obtain rfl := Option.some.inj ht
      simp only [decide_eq_true_eq]
      rintro rfl
      exact hadmits hname
    | schema _ _ | extension _ | directive _ => contradiction
  rw [base?, base?, typeDefinitions_append, named_append, hnone, List.append_nil]

theorem schemaRoots_append (hmore : ∀ d ∈ more, s.Admits d) :
    schemaRoots (definitions ++ more) = schemaRoots definitions := by
  have hnone : schemaRoots more = [] := by
    rw [schemaRoots, List.filterMap_eq_nil_iff]
    intro d hd
    have hadmits := hmore d hd
    cases d with
    | schema _ _ => contradiction
    | type _ | extension _ | directive _ => rfl
  rw [schemaRoots, List.filterMap_append]
  exact (congrArg _ hnone).trans (List.append_nil _)

theorem definedDirectives_append (hmore : ∀ d ∈ more, s.Admits d) :
    definedDirectives (definitions ++ more) = definedDirectives definitions := by
  have hnone : definedDirectives more = [] := by
    rw [definedDirectives, List.filterMap_eq_nil_iff]
    intro d hd
    have hadmits := hmore d hd
    cases d with
    | directive _ => contradiction
    | schema _ _ | type _ | extension _ => rfl
  rw [definedDirectives, List.filterMap_append]
  exact (congrArg _ hnone).trans (List.append_nil _)

theorem Describes.type_grows (hs : s.Describes definitions) (hu : u.Describes (definitions ++ more))
    (hmore : ∀ d ∈ more, s.Admits d) {name : String} {t : TypeDeclaration}
    (ht : s.type? name = some t) : ∃ t', u.type? name = some t' ∧ t.Grows t' := by
  have hbase := base?_append definitions hmore (has_iff.mpr ⟨t, ht⟩)
  rw [hs.type_eq] at ht
  obtain ⟨base, hfound, rfl⟩ := Option.map_eq_some_iff.mp ht
  refine ⟨_, ?_, TypeDeclaration.grows_extendAll _ (named name (extensions more))⟩
  rw [hu.type_eq, hbase, hfound, extensions_append, named_append,
    TypeDeclaration.extendAll_extendAll]
  rfl

/-- Without a schema definition a conventional name that is a root stays one. -/
theorem present?_of_has {name : String} (h : s.Has name) : s.present? name = some name :=
  if_pos h

theorem Describes.root_grows (hs : s.Describes definitions) (hu : u.Describes (definitions ++ more))
    (hmore : ∀ d ∈ more, s.Admits d) {kind : OperationKind} {t : TypeDeclaration}
    (ht : s.rootType? kind = some t) : ∃ t', u.rootType? kind = some t' ∧ t.Grows t' := by
  obtain ⟨name, hname, ht⟩ := Option.bind_eq_some_iff.mp ht
  obtain ⟨t', ht', hgrows⟩ := hs.type_grows hu hmore ht
  have hroots := hu.roots_eq
  rw [schemaRoots_append hmore] at hroots
  have hroot : u.roots.get kind = some name := by
    rw [hs.roots_eq] at hname
    rw [hroots]
    cases hlast : (schemaRoots definitions).getLast? with
    | some roots => simpa [hlast] using hname
    | none =>
      have hpresent : ∀ {conventional : String}, s.present? conventional = some name →
          u.present? conventional = some name := by
        intro conventional h
        rw [present?] at h
        split at h
        · rw [← Option.some.inj h] at ht'
          rw [present?_of_has (has_iff.mpr ⟨t', ht'⟩), Option.some.inj h]
        · contradiction
      rw [hlast] at hname
      cases kind <;> exact hpresent hname
  exact ⟨t', by rw [rootType?, hroot]; exact ht', hgrows⟩

/-- Extensions and definitions of new types make a schema grow. -/
theorem grows_of_append (hs : ofDefinitions definitions = .ok s)
    (hu : ofDefinitions (definitions ++ more) = .ok u) (hmore : ∀ d ∈ more, s.Admits d) :
    s.Grows u := by
  have hs := describes_of_ok hs
  have hu := describes_of_ok hu
  refine ⟨hs.type_grows hu hmore, hs.root_grows hu hmore, ?_⟩
  rw [hs.directives_eq, hu.directives_eq, definedDirectives_append hmore]

end Append

end Schema

section Resolution

variable {s u : Schema}

theorem ofApplied_congr (h : u.directives = s.directives) (applied : List AppliedDirective) :
    DirectiveUses.ofApplied u applied = DirectiveUses.ofApplied s applied := by
  rw [DirectiveUses.ofApplied, h, DirectiveUses.ofApplied]

namespace Schema.Grows

theorem kindOf (h : s.Grows u) {name : String} {kind : TypeKind}
    (hkind : s.kindOf name = .ok kind) : u.kindOf name = .ok kind := by
  obtain ⟨t, ht, rfl⟩ := kindOf_eq_ok.mp hkind
  obtain ⟨t', ht', hgrows⟩ := h.type_grows ht
  exact kindOf_eq_ok.mpr ⟨t', ht', hgrows.kind_eq⟩

theorem resolveArguments (h : s.Grows u) {declared : List InputDeclaration}
    {resolved : List Argument} (hresolved : Argument.resolveAll s declared = .ok resolved) :
    Argument.resolveAll u declared = .ok resolved := by
  rw [Argument.resolveAll_eq_ok] at hresolved ⊢
  apply hresolved.imp
  rintro d a ⟨t, ht, rfl⟩
  obtain ⟨t', ht', hgrows⟩ := h.type_grows ht
  exact ⟨t', ht', by rw [hgrows.kind_eq, ofApplied_congr h.directives_eq]⟩

theorem resolveVariables (h : s.Grows u) {written : List Syntax.VariableDefinition}
    {resolved : List Variable} (hresolved : Variable.resolveAll s written = .ok resolved) :
    Variable.resolveAll u written = .ok resolved := by
  rw [Variable.resolveAll, mapM_eq_ok] at hresolved ⊢
  apply hresolved.imp
  intro w v hv
  obtain ⟨kind, hkind, hv⟩ := bind_eq_ok.mp hv
  exact bind_eq_ok.mpr ⟨kind, h.kindOf hkind, hv⟩

theorem fragmentType (h : s.Grows u) {parent parent' type : TypeDeclaration}
    (hparent : parent.Grows parent') {condition : Option String}
    (htype : s.FragmentType parent condition type) :
    ∃ type', u.FragmentType parent' condition type' ∧ type.Grows type' := by
  cases condition with
  | some name => exact h.type_grows htype
  | none =>
    obtain rfl : type = parent := htype
    exact ⟨parent', rfl, hparent⟩

theorem buildSelection (h : s.Grows u) {parent parent' : TypeDeclaration}
    (hparent : parent.Grows parent') {written : List Syntax.Selection} {set : SelectionSet}
    (hset : buildItems s parent written = .ok set) : buildItems u parent' written = .ok set := by
  have huses (directives : List Syntax.Directive) :
      DirectiveUses.ofWritten u directives = DirectiveUses.ofWritten s directives :=
    ofApplied_congr h.directives_eq _
  induction written using selections_induction generalizing parent parent' set with
  | nil => exact hset
  | field label name arguments directives items rest ihItems ihRest =>
    obtain ⟨built, tail, hbuilt, htail, rfl⟩ := buildItems_cons_eq_ok.mp hset
    refine buildItems_cons_eq_ok.mpr ⟨built, tail, ?_, ihRest hparent htail, rfl⟩
    by_cases hname : name = typenameField
    · subst hname
      rw [buildItem_typename] at hbuilt ⊢
      exact hbuilt
    · obtain ⟨declared, type, inner, resolved, hfield, htype, hinner, hresolved, rfl⟩ :=
        (buildItem_field_eq_ok hname).mp hbuilt
      obtain ⟨type', htype', hgrows⟩ := h.type_grows htype
      exact (buildItem_field_eq_ok hname).mpr ⟨declared, type', inner, resolved,
        hparent.declares hfield, htype', ihItems hgrows hinner, h.resolveArguments hresolved,
        by rw [hgrows.kind_eq, huses]⟩
  | inlineFragment condition directives items rest ihItems ihRest =>
    obtain ⟨built, tail, hbuilt, htail, rfl⟩ := buildItems_cons_eq_ok.mp hset
    refine buildItems_cons_eq_ok.mpr ⟨built, tail, ?_, ihRest hparent htail, rfl⟩
    obtain ⟨type, inner, htype, hinner, rfl⟩ := buildItem_inlineFragment_eq_ok.mp hbuilt
    obtain ⟨type', htype', hgrows⟩ := h.fragmentType hparent htype
    exact buildItem_inlineFragment_eq_ok.mpr ⟨type', inner, htype', ihItems hgrows hinner,
      by rw [hgrows.name_eq, huses]⟩
  | spread name directives rest ihRest =>
    obtain ⟨built, tail, hbuilt, htail, rfl⟩ := buildItems_cons_eq_ok.mp hset
    refine buildItems_cons_eq_ok.mpr ⟨built, tail, ?_, ihRest hparent htail, rfl⟩
    rw [buildItem] at hbuilt ⊢
    rw [huses, hbuilt]

end Schema.Grows

end Resolution

end QueryModel
