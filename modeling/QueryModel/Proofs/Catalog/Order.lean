import QueryModel.Proofs.Schema.Order

/-!
# Catalogs in another order

Schemas that differ at most in the order of their type maps have catalogs with the same records.
The lists of records follow the type map, and so do the implementing types of an interface.
-/

set_option autoImplicit false

namespace QueryModel

def InterfaceRecord.Alike (r r' : InterfaceRecord) : Prop :=
  ∃ names, r.implementingTypes.Perm names ∧ r' = { r with implementingTypes := names }

/-- The lists of the kind have the same records in some order, the implementing types of an
interface too. -/
def Catalog.Alike (c c' : Catalog) : TypeKind → Prop
  | .object => c.types.Perm c'.types
  | .inputObject => c.inputTypes.Perm c'.inputTypes
  | .enum => c.enums.Perm c'.enums
  | .union => c.unions.Perm c'.unions
  | .interface => ∃ records, List.Forall₂ InterfaceRecord.Alike c.interfaces records ∧
      records.Perm c'.interfaces
  | .scalar => c.scalars.Perm c'.scalars

section Related

variable {α β : Type} {R R' : α → β → Prop} {xs xs' : List α} {ys ys' : List β}

theorem exists_perm_of_forall₂ {Q : β → β → Prop} (h : List.Forall₂ R xs ys)
    (h' : List.Forall₂ R' xs' ys') (hperm : xs.Perm xs')
    (hQ : ∀ x y z, R x y → R' x z → Q y z) : ∃ zs, List.Forall₂ Q ys zs ∧ zs.Perm ys' := by
  obtain ⟨zs, hzs, hys⟩ := List.perm_comp_forall₂ hperm h'
  refine ⟨zs, ?_, hys⟩
  clear hperm hys h'
  induction h generalizing zs with
  | nil =>
    cases hzs
    exact .nil
  | cons hxy _ ih =>
    cases hzs with
    | cons hxz hrest => exact .cons (hQ _ _ _ hxy hxz) (ih _ hrest)

theorem perm_of_forall₂ (h : List.Forall₂ R xs ys) (h' : List.Forall₂ R' xs' ys')
    (hperm : xs.Perm xs') (heq : ∀ x y z, R x y → R' x z → y = z) : ys.Perm ys' := by
  obtain ⟨zs, hzs, hys⟩ := exists_perm_of_forall₂ h h' hperm heq
  rw [List.forall₂_eq_eq_eq] at hzs
  exact hzs ▸ hys

end Related

section Alike

variable {s u : Schema} (h : s.Alike u)

include h

theorem argument_mirrors_alike : Argument.Mirrors u = Argument.Mirrors s := by
  funext declared a
  simp only [Argument.Mirrors, h.type_eq, ofApplied_congr h.directives_eq]

theorem field_mirrors_alike : Field.Mirrors u = Field.Mirrors s := by
  funext declared f
  simp only [Field.Mirrors, h.type_eq, argument_mirrors_alike h, ofApplied_congr h.directives_eq]

theorem input_mirrors_alike : Field.MirrorsInput u = Field.MirrorsInput s := by
  funext declared f
  simp only [Field.MirrorsInput, argument_mirrors_alike h]

theorem implementations_alike (name : String) :
    (s.implementations name).Perm (u.implementations name) :=
  ((h.entries_perm.map Prod.snd).filter _).map _

theorem userEntries_alike : s.userEntries.Perm u.userEntries := h.entries_perm.filter _

theorem fields_eq_alike {declared : List FieldDeclaration} {fields fields' : List Field}
    (hs : List.Forall₂ (Field.Mirrors s) declared fields)
    (hu : List.Forall₂ (Field.Mirrors u) declared fields') : fields = fields' := by
  rw [field_mirrors_alike h] at hu
  rw [← Field.resolveAll_eq_ok] at hs hu
  exact Except.ok.inj (hs.symm.trans hu)

theorem inputFields_eq_alike {declared : List InputDeclaration} {fields fields' : List Field}
    (hs : List.Forall₂ (Field.MirrorsInput s) declared fields)
    (hu : List.Forall₂ (Field.MirrorsInput u) declared fields') : fields = fields' := by
  rw [input_mirrors_alike h] at hu
  rw [← Field.resolveInputs_eq_ok] at hs hu
  exact Except.ok.inj (hs.symm.trans hu)

theorem enumValues_eq_alike {declared : List EnumValueDeclaration}
    {values values' : List EnumValueRecord}
    (hs : List.Forall₂ (EnumValueRecord.Mirrors s) declared values)
    (hu : List.Forall₂ (EnumValueRecord.Mirrors u) declared values') : values = values' := by
  induction hs generalizing values' with
  | nil =>
    cases hu
    rfl
  | cons hv _ ih =>
    cases hu with
    | cons hv' hrest =>
      rw [hv, hv', ih hrest, ofApplied_congr h.directives_eq]

theorem holds_alike {c c' : Catalog} {types types' : List (String × TypeDeclaration)}
    (hperm : types.Perm types') {kind : TypeKind} (hc : c.Holds s types kind)
    (hc' : c'.Holds u types' kind) : c.Alike c' kind := by
  have huses := ofApplied_congr h.directives_eq
  cases kind with
  | object =>
    apply perm_of_forall₂ hc hc' hperm
    rintro e _ _ ⟨fields, hfields, rfl⟩ ⟨fields', hfields', rfl⟩
    rw [fields_eq_alike h hfields hfields', huses]
  | inputObject =>
    apply perm_of_forall₂ hc hc' hperm
    rintro e _ _ ⟨fields, hfields, rfl⟩ ⟨fields', hfields', rfl⟩
    rw [inputFields_eq_alike h hfields hfields', huses]
  | enum =>
    apply perm_of_forall₂ hc hc' hperm
    rintro e _ _ ⟨values, hvalues, rfl⟩ ⟨values', hvalues', rfl⟩
    rw [enumValues_eq_alike h hvalues hvalues', huses]
  | union | scalar =>
    apply perm_of_forall₂ hc hc' hperm
    rintro e _ _ ⟨rfl⟩ ⟨rfl⟩
    rw [huses]
  | interface =>
    apply exists_perm_of_forall₂ hc hc' hperm
    rintro e _ _ ⟨fields, hfields, rfl⟩ ⟨fields', hfields', rfl⟩
    rw [fields_eq_alike h hfields hfields', huses]
    have himplementations := implementations_alike h e.1
    exact ⟨_, himplementations, by rw [himplementations.isEmpty_eq]⟩

theorem directiveRecords_alike {rs rs' : List DirectiveRecord} (hs : DirectiveRecord.all s = .ok rs)
    (hu : DirectiveRecord.all u = .ok rs') : rs = rs' := by
  have hmirrors : DirectiveRecord.Mirrors u = DirectiveRecord.Mirrors s := by
    funext declared r
    simp only [DirectiveRecord.Mirrors, argument_mirrors_alike h]
  rw [DirectiveRecord.all_eq_ok, hmirrors, h.directives_eq, ← DirectiveRecord.all_eq_ok] at hu
  exact Except.ok.inj (hs.symm.trans hu)

theorem exists_build_alike :
    (∃ c, Catalog.build s = .ok c) ↔ ∃ c', Catalog.build u = .ok c' := by
  have hhas := Schema.has_congr h.type_eq
  have hreferences : s.references.Perm u.references := by
    rw [Schema.references, Schema.references, h.directives_eq]
    exact (((h.entries_perm.map Prod.snd).filter _).flatMap_right _).append_right _
  simp only [Catalog.exists_build_eq_ok, hhas, hreferences.mem_iff]

end Alike

namespace Catalog

theorem holds_of_build {s : Schema} {c : Catalog} (hkeys : ∀ e ∈ s.types.entries, e.2.name = e.1)
    (hc : build s = .ok c) : (∀ kind, c.Holds s (ofKind kind s.userEntries) kind) ∧
      DirectiveRecord.all s = .ok c.definedDirectives := by
  obtain ⟨routed, hfold, hrest⟩ := bind_eq_ok.mp hc
  obtain ⟨records, hrecords, hc⟩ := bind_eq_ok.mp hrest
  obtain rfl := Except.ok.inj hc
  rw [Schema.userTypes_eq hkeys] at hfold
  refine ⟨fun kind => ?_, hrecords⟩
  have hrouted := foldlM_addType_holds (fun e he => hkeys e (List.mem_of_mem_filter he)) hfold kind
  cases kind <;> exact hrouted

theorem build_alike {s u : Schema} (h : s.Alike u)
    (hkeys : ∀ e ∈ s.types.entries, e.2.name = e.1) {c c' : Catalog} (hc : build s = .ok c)
    (hc' : build u = .ok c') :
    (∀ kind, c.Alike c' kind) ∧ c'.definedDirectives = c.definedDirectives := by
  have hkeys' : ∀ e ∈ u.types.entries, e.2.name = e.1 := fun e he =>
    hkeys e (h.entries_perm.mem_iff.mpr he)
  obtain ⟨hholds, hrecords⟩ := holds_of_build hkeys hc
  obtain ⟨hholds', hrecords'⟩ := holds_of_build hkeys' hc'
  refine ⟨fun kind => ?_, (directiveRecords_alike h hrecords hrecords').symm⟩
  exact holds_alike h ((userEntries_alike h).filter _) (hholds kind) (hholds' kind)

end Catalog

end QueryModel
