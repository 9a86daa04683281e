import QueryModel.Proofs.Catalog.Routing
import QueryModel.Proofs.Document.Joining
import QueryModel.Proofs.Flatten.Direct
import QueryModel.Proofs.Record.Basic

/-!
# Stored flags

Records store flags beside the lists, maps and defaults that they describe. A record is kept when
its flags say what it holds, and sound when this goes for all records in it. A constructor sets the
flags of its own record, a field of an input type takes those of the argument it is made from, and
flattening takes those of the item it renames. The lists of a catalog and of a document grow after
their flags are first set: these flags are stale until the catalog or the document is refreshed.
-/

set_option autoImplicit false

namespace QueryModel

structure DeprecationKept (uses : DirectiveUses) (isDeprecated : Bool) (reason : Option String) :
    Prop where
  flag_eq : isDeprecated = uses.contains "deprecated"
  of_reason : reason.isSome = true → isDeprecated = true

structure Argument.Kept (a : Argument) : Prop where
  uses_eq : a.usesDirectives = !a.directives.isEmpty
  default_eq : a.hasDefault = a.default.isSome

structure Field.Kept (f : Field) : Prop where
  arguments_eq : f.hasArguments = !f.arguments.isEmpty
  uses_eq : f.usesDirectives = !f.directives.isEmpty
  default_eq : f.hasDefault = f.default.isSome
  deprecation : DeprecationKept f.directives f.isDeprecated f.deprecationReason

structure ObjectRecord.Kept (r : ObjectRecord) : Prop where
  fields_eq : r.hasFields = !r.fields.isEmpty
  interfaces_eq : r.hasInterfaces = !r.interfaces.isEmpty
  uses_eq : r.usesDirectives = !r.directives.isEmpty

structure InputRecord.Kept (r : InputRecord) : Prop where
  fields_eq : r.hasFields = !r.fields.isEmpty
  uses_eq : r.usesDirectives = !r.directives.isEmpty

structure EnumValueRecord.Kept (r : EnumValueRecord) : Prop where
  uses_eq : r.usesDirectives = !r.directives.isEmpty
  deprecation : DeprecationKept r.directives r.isDeprecated r.deprecationReason

structure UnionRecord.Kept (r : UnionRecord) : Prop where
  possibleTypes_eq : r.hasPossibleTypes = !r.possibleTypes.isEmpty
  uses_eq : r.usesDirectives = !r.directives.isEmpty

structure InterfaceRecord.Kept (r : InterfaceRecord) : Prop where
  fields_eq : r.hasFields = !r.fields.isEmpty
  implementingTypes_eq : r.hasImplementingTypes = !r.implementingTypes.isEmpty
  uses_eq : r.usesDirectives = !r.directives.isEmpty

structure Catalog.Kept (c : Catalog) : Prop where
  types_eq : c.hasTypes = !c.types.isEmpty
  inputTypes_eq : c.hasInputTypes = !c.inputTypes.isEmpty
  enums_eq : c.hasEnums = !c.enums.isEmpty
  unions_eq : c.hasUnions = !c.unions.isEmpty
  interfaces_eq : c.hasInterfaces = !c.interfaces.isEmpty
  scalars_eq : c.hasScalars = !c.scalars.isEmpty
  definedDirectives_eq : c.hasDefinedDirectives = !c.definedDirectives.isEmpty
  uses_eq : c.usesDirectives = !c.directives.isEmpty

structure SelectedField.Kept (f : SelectedField) : Prop where
  arguments_eq : f.hasArguments = !f.arguments.isEmpty
  uses_eq : f.usesDirectives = !f.directives.isEmpty

structure Operation.Kept (o : Operation) : Prop where
  variables_eq : o.hasVariables = !o.declaredVariables.isEmpty
  uses_eq : o.usesDirectives = !o.directives.isEmpty

structure Document.Kept (d : Document) : Prop where
  operations_eq : d.hasOperations = !d.operations.isEmpty
  fragments_eq : d.hasFragments = !d.fragments.isEmpty

structure FlatDocument.Kept (d : FlatDocument) : Prop where
  operations_eq : d.hasOperations = !d.operations.isEmpty
  fragments_eq : d.hasFragments = !d.fragments.isEmpty

namespace Record

/-- The flags that the record stores say what it holds. -/
def Kept : Record → Prop
  | .catalog c => c.Kept
  | .object r => r.Kept
  | .input r => r.Kept
  | .enum r => r.usesDirectives = !r.directives.isEmpty
  | .enumValue r => r.Kept
  | .union r => r.Kept
  | .interface r => r.Kept
  | .scalar r => r.usesDirectives = !r.directives.isEmpty
  | .directive r => r.hasArguments = !r.arguments.isEmpty
  | .field f => f.Kept
  | .argument a => a.Kept
  | .document d => d.Kept
  | .operation o => o.Kept
  | .fragment f => f.usesDirectives = !f.directives.isEmpty
  | .declaredVariable v => v.hasDefault = v.default.isSome
  | .item (.field selected _ _) => selected.Kept
  | .item (.inlineFragment _ directives usesDirectives _ _) => usesDirectives = !directives.isEmpty
  | .item (.spread _ directives usesDirectives) => usesDirectives = !directives.isEmpty
  | .flatDocument d => d.Kept
  | .flatOperation o => o.operation.Kept
  | .flatFragment f => f.fragment.usesDirectives = !f.fragment.directives.isEmpty
  | .model _ => True

/-- The record and all that stands in it are kept. -/
def Sound (root : Record) : Prop := ∀ r : Record, r.Within root → r.Kept

theorem sound_iff {r : Record} : r.Sound ↔ r.Kept ∧ ∀ p ∈ r.parts, p.Sound := by
  constructor
  · intro h
    exact ⟨h r (.self r), fun p hp q hq => h q (.part hp hq)⟩
  · rintro ⟨hkept, hparts⟩ q hq
    cases hq with
    | self => exact hkept
    | part hp hq => exact hparts _ hp q hq

theorem Sound.kept {r : Record} (h : r.Sound) : r.Kept := (sound_iff.mp h).1

theorem operation_sound_iff {o : Operation} :
    (operation o).Sound ↔ o.Kept ∧ (∀ i ∈ o.set.items, (item i).Sound) ∧
      ∀ v ∈ o.declaredVariables, (declaredVariable v).Sound := by
  rw [sound_iff]
  simp only [Kept, parts, List.forall_mem_append, List.forall_mem_map]

theorem fieldItem_sound_iff {selected : SelectedField} {hasTypename : Bool}
    {items : List SelectionItem} :
    (item (.field selected hasTypename items)).Sound ↔ selected.Kept ∧
      (∀ a ∈ selected.arguments, (argument a).Sound) ∧ ∀ i ∈ items, (item i).Sound := by
  rw [sound_iff]
  simp only [Kept, parts, List.forall_mem_append, List.forall_mem_map]

end Record

section Members

variable {s : Schema}

theorem DirectiveUses.deprecation_kept (uses : DirectiveUses) :
    DeprecationKept uses uses.deprecation.1 uses.deprecation.2 := by
  cases h : uses.get? "deprecated" with
  | none => constructor <;> simp [deprecation, h, Table.contains]
  | some values => constructor <;> simp [deprecation, h, Table.contains]

/-- A field that is made from an argument has the flags of the argument. -/
theorem Argument.Kept.ofArgument {a : Argument} (h : a.Kept) : (Field.ofArgument a).Kept :=
  ⟨rfl, h.uses_eq, h.default_eq, a.directives.deprecation_kept⟩

namespace Record

theorem argument_sound {declared : InputDeclaration} {a : Argument}
    (h : Argument.Mirrors s declared a) : (argument a).Sound := by
  obtain ⟨type, -, rfl⟩ := h
  exact sound_iff.mpr ⟨⟨rfl, rfl⟩, by simp [parts]⟩

theorem arguments_sound {declared : List InputDeclaration} {arguments : List Argument}
    (h : List.Forall₂ (Argument.Mirrors s) declared arguments) :
    ∀ a ∈ arguments, (argument a).Sound := by
  intro a ha
  obtain ⟨d, -, hd⟩ := exists_of_forall₂ h ha
  exact argument_sound hd

theorem fields_sound {declared : List FieldDeclaration} {fields : List Field}
    (h : List.Forall₂ (Field.Mirrors s) declared fields) : ∀ f ∈ fields, (field f).Sound := by
  intro f hf
  obtain ⟨d, -, type, arguments, -, harguments, rfl⟩ := exists_of_forall₂ h hf
  refine sound_iff.mpr ⟨⟨rfl, rfl, rfl, DirectiveUses.deprecation_kept _⟩, ?_⟩
  exact List.forall_mem_map.mpr (arguments_sound harguments)

theorem inputFields_sound {declared : List InputDeclaration} {fields : List Field}
    (h : List.Forall₂ (Field.MirrorsInput s) declared fields) :
    ∀ f ∈ fields, (field f).Sound := by
  intro f hf
  obtain ⟨d, -, a, ha, rfl⟩ := exists_of_forall₂ h hf
  exact sound_iff.mpr ⟨(argument_sound ha).kept.ofArgument, List.forall_mem_nil _⟩

end Record

end Members

section Catalogs

theorem forall_mem_concat {α : Type} {P : α → Prop} {xs : List α} {x : α} (h : ∀ y ∈ xs, P y)
    (hx : P x) : ∀ y ∈ xs ++ [x], P y :=
  List.forall_mem_append.mpr ⟨h, List.forall_mem_singleton.mpr hx⟩

variable {s : Schema} {e : String × TypeDeclaration}

namespace Record

theorem object_sound {r : ObjectRecord} (h : ObjectRecord.Mirrors s e r) : (object r).Sound := by
  obtain ⟨fields, hfields, rfl⟩ := h
  exact sound_iff.mpr ⟨⟨rfl, rfl, rfl⟩, List.forall_mem_map.mpr (fields_sound hfields)⟩

theorem input_sound {r : InputRecord} (h : InputRecord.Mirrors s e r) : (input r).Sound := by
  obtain ⟨fields, hfields, rfl⟩ := h
  exact sound_iff.mpr ⟨⟨rfl, rfl⟩, List.forall_mem_map.mpr (inputFields_sound hfields)⟩

theorem interface_sound {r : InterfaceRecord} (h : InterfaceRecord.Mirrors s e r) :
    (interface r).Sound := by
  obtain ⟨fields, hfields, rfl⟩ := h
  exact sound_iff.mpr ⟨⟨rfl, rfl, rfl⟩, List.forall_mem_map.mpr (fields_sound hfields)⟩

theorem enum_sound (s : Schema) (t : TypeDeclaration) : (enum (.ofType s t)).Sound := by
  have hvalue (v : EnumValueDeclaration) : (enumValue (.ofDeclaration s v)).Sound :=
    sound_iff.mpr ⟨⟨rfl, DirectiveUses.deprecation_kept _⟩, List.forall_mem_nil _⟩
  refine sound_iff.mpr ⟨rfl, ?_⟩
  simp only [parts, EnumRecord.ofType, List.forall_mem_map]
  exact fun v _ => hvalue v

theorem union_sound (s : Schema) (t : TypeDeclaration) : (union (.ofType s t)).Sound :=
  sound_iff.mpr ⟨⟨rfl, rfl⟩, List.forall_mem_nil _⟩

theorem scalar_sound (s : Schema) (t : TypeDeclaration) : (scalar (.ofType s t)).Sound :=
  sound_iff.mpr ⟨rfl, List.forall_mem_nil _⟩

theorem directives_sound {rs : List DirectiveRecord} (h : DirectiveRecord.all s = .ok rs) :
    ∀ r ∈ rs, (directive r).Sound := by
  intro r hr
  obtain ⟨d, -, arguments, harguments, rfl⟩ :=
    exists_of_forall₂ (DirectiveRecord.all_eq_ok.mp h) hr
  exact sound_iff.mpr ⟨rfl, List.forall_mem_map.mpr (arguments_sound harguments)⟩

end Record

namespace Catalog

/-- What holds of a catalog to which types are added: its records are sound and it tells of its
directives. The flags of its lists are stale. -/
structure Routed (c : Catalog) : Prop where
  types : ∀ r ∈ c.types, (Record.object r).Sound
  inputTypes : ∀ r ∈ c.inputTypes, (Record.input r).Sound
  enums : ∀ r ∈ c.enums, (Record.enum r).Sound
  unions : ∀ r ∈ c.unions, (Record.union r).Sound
  interfaces : ∀ r ∈ c.interfaces, (Record.interface r).Sound
  scalars : ∀ r ∈ c.scalars, (Record.scalar r).Sound
  uses_eq : c.usesDirectives = !c.directives.isEmpty

theorem blank_routed (s : Schema) : (blank s).Routed := by
  constructor <;> simp [blank]

theorem addType_routed {c c' : Catalog} {t : TypeDeclaration} (h : c.Routed)
    (hadd : addType s c t = .ok c') : c'.Routed := by
  cases hkind : t.kind <;>
    simp only [addType, TypeDeclaration.classify_eq_ok, hkind, ok_bind, bind_eq_ok, pure,
      Except.pure, Except.ok.injEq] at hadd
  case object =>
    obtain ⟨r, hr, rfl⟩ := hadd
    have hsound := Record.object_sound (ObjectRecord.ofType_mirrors hr)
    exact { h with types := forall_mem_concat h.types hsound }
  case inputObject =>
    obtain ⟨r, hr, rfl⟩ := hadd
    have hsound := Record.input_sound (InputRecord.ofType_mirrors hr)
    exact { h with inputTypes := forall_mem_concat h.inputTypes hsound }
  case interface =>
    obtain ⟨r, hr, rfl⟩ := hadd
    have hsound := Record.interface_sound (InterfaceRecord.ofType_mirrors hr)
    exact { h with interfaces := forall_mem_concat h.interfaces hsound }
  case enum =>
    subst hadd
    exact { h with enums := forall_mem_concat h.enums (Record.enum_sound s t) }
  case union =>
    subst hadd
    exact { h with unions := forall_mem_concat h.unions (Record.union_sound s t) }
  case scalar =>
    subst hadd
    exact { h with scalars := forall_mem_concat h.scalars (Record.scalar_sound s t) }

theorem foldlM_addType_routed {types : List TypeDeclaration} {c c' : Catalog} (h : c.Routed)
    (hfold : types.foldlM (addType s) c = .ok c') : c'.Routed := by
  induction types generalizing c with
  | nil =>
    obtain rfl := Except.ok.inj hfold
    exact h
  | cons t rest ih =>
    rw [List.foldlM_cons] at hfold
    obtain ⟨middle, hadd, hrest⟩ := bind_eq_ok.mp hfold
    exact ih (addType_routed h hadd) hrest

theorem sound_of_build {c : Catalog} (h : build s = .ok c) : (Record.catalog c).Sound := by
  obtain ⟨routed, hfold, hrest⟩ := bind_eq_ok.mp h
  obtain ⟨directives, hdirectives, hc⟩ := bind_eq_ok.mp hrest
  obtain rfl := Except.ok.inj hc
  have hrouted := foldlM_addType_routed (blank_routed s) hfold
  refine Record.sound_iff.mpr ⟨⟨rfl, rfl, rfl, rfl, rfl, rfl, rfl, hrouted.uses_eq⟩, ?_⟩
  simp only [Record.parts, refresh, List.forall_mem_append, List.forall_mem_map]
  exact ⟨⟨⟨⟨⟨⟨hrouted.types, hrouted.inputTypes⟩, hrouted.enums⟩, hrouted.unions⟩,
    hrouted.interfaces⟩, hrouted.scalars⟩, Record.directives_sound hdirectives⟩

end Catalog

end Catalogs

section Selections

variable {s : Schema}

theorem SelectionSet.add_sound {built : Option SelectionItem} {tail : SelectionSet}
    (hbuilt : ∀ i, built = some i → (Record.item i).Sound)
    (htail : ∀ i ∈ tail.items, (Record.item i).Sound) :
    ∀ i ∈ (tail.add built).items, (Record.item i).Sound := by
  cases built with
  | none => exact htail
  | some i => exact List.forall_mem_cons.mpr ⟨hbuilt i rfl, htail⟩

theorem buildItems_sound {parent : TypeDeclaration} {written : List Syntax.Selection}
    {set : SelectionSet} (h : buildItems s parent written = .ok set) :
    ∀ i ∈ set.items, (Record.item i).Sound := by
  induction written using selections_induction generalizing parent set with
  | nil =>
    obtain rfl := Except.ok.inj h
    exact List.forall_mem_nil _
  | field label name arguments directives items rest ihItems ihRest =>
    obtain ⟨built, tail, hbuilt, htail, rfl⟩ := buildItems_cons_eq_ok.mp h
    refine SelectionSet.add_sound (fun i hi => ?_) (ihRest htail)
    by_cases hname : name = typenameField
    · subst hname hi
      rw [buildItem_typename] at hbuilt
      cases hbuilt
    · obtain ⟨declared, type, inner, resolved, -, -, hinner, hresolved, heq⟩ :=
        (buildItem_field_eq_ok hname).mp hbuilt
      obtain rfl := Option.some.inj (heq.trans hi)
      have harguments := Record.arguments_sound (Argument.resolveAll_eq_ok.mp hresolved)
      exact Record.fieldItem_sound_iff.mpr ⟨⟨rfl, rfl⟩, harguments, ihItems hinner⟩
  | inlineFragment condition directives items rest ihItems ihRest =>
    obtain ⟨built, tail, hbuilt, htail, rfl⟩ := buildItems_cons_eq_ok.mp h
    refine SelectionSet.add_sound (fun i hi => ?_) (ihRest htail)
    obtain ⟨type, inner, -, hinner, heq⟩ := buildItem_inlineFragment_eq_ok.mp hbuilt
    obtain rfl := Option.some.inj (heq.trans hi)
    exact Record.sound_iff.mpr ⟨rfl, List.forall_mem_map.mpr (ihItems hinner)⟩
  | spread name directives rest ihRest =>
    obtain ⟨built, tail, hbuilt, htail, rfl⟩ := buildItems_cons_eq_ok.mp h
    refine SelectionSet.add_sound (fun i hi => ?_) (ihRest htail)
    obtain rfl := Option.some.inj ((Except.ok.inj hbuilt).trans hi)
    exact Record.sound_iff.mpr ⟨rfl, List.forall_mem_nil _⟩

end Selections

section Documents

/-- What holds of a document to which definitions are pushed. Its own flags are stale. -/
structure Document.Pushed (d : Document) : Prop where
  operations : ∀ o ∈ d.operations, (Record.operation o).Sound
  fragments : ∀ f ∈ d.fragments, (Record.fragment f).Sound

def ResolvedDefinition.record : ResolvedDefinition → Record
  | .operation o => .operation o
  | .fragment f => .fragment f

namespace Document

theorem sound_iff {d : Document} : (Record.document d).Sound ↔ d.Kept ∧ d.Pushed := by
  rw [Record.sound_iff]
  simp only [Record.parts, List.forall_mem_append, List.forall_mem_map]
  exact and_congr_right' ⟨fun h => ⟨h.1, h.2⟩, fun h => ⟨h.operations, h.fragments⟩⟩

theorem Pushed.push {d : Document} {one : ResolvedDefinition} (h : d.Pushed)
    (hone : one.record.Sound) : (d.push one).Pushed := by
  cases one with
  | operation o => exact { h with operations := forall_mem_concat h.operations hone }
  | fragment f => exact { h with fragments := forall_mem_concat h.fragments hone }

theorem Pushed.refresh {d : Document} (h : d.Pushed) : (Record.document d.refresh).Sound :=
  sound_iff.mpr ⟨⟨rfl, rfl⟩, h.operations, h.fragments⟩

theorem Pushed.append {d e : Document} (hd : d.Pushed) (he : e.Pushed) :
    (Record.document (d ++ e)).Sound :=
  sound_iff.mpr ⟨⟨rfl, rfl⟩, List.forall_mem_append.mpr ⟨hd.operations, he.operations⟩,
    List.forall_mem_append.mpr ⟨hd.fragments, he.fragments⟩⟩

theorem empty_pushed : Pushed ∅ := ⟨List.forall_mem_nil _, List.forall_mem_nil _⟩

theorem empty_sound : (Record.document ∅).Sound := sound_iff.mpr ⟨⟨rfl, rfl⟩, empty_pushed⟩

end Document

namespace Run

open Syntax

variable (s : Schema) (file : Option String)

theorem variables_sound {declared : List VariableDefinition} {resolved : List Variable}
    (h : Variable.resolveAll s declared = .ok resolved) :
    ∀ v ∈ resolved, (Record.declaredVariable v).Sound := by
  intro v hv
  obtain ⟨d, -, hd⟩ := exists_of_forall₂ (mapM_eq_ok.mp h) hv
  obtain ⟨kind, -, hkind⟩ := bind_eq_ok.mp hd
  obtain rfl := Except.ok.inj hkind
  exact Record.sound_iff.mpr ⟨rfl, List.forall_mem_nil _⟩

theorem operation_sound (printed : String) (kind : OperationKind) (name : Option String)
    (declared : List VariableDefinition) (directives : List Directive) (items : List Selection) :
    Gives (fun o => (Record.operation o).Sound)
      (operation s file printed kind name declared directives items) := by
  refine .after fun root => .after fun given => .after fun _ => ?_
  refine .lookup fun set hset => .lookup fun resolved hresolved => .pure ?_
  exact Record.operation_sound_iff.mpr
    ⟨⟨rfl, rfl⟩, buildItems_sound hset, variables_sound s hresolved⟩

theorem fragment_sound (printed name onType : String) (directives : List Directive)
    (items : List Selection) :
    Gives (fun f => (Record.fragment f).Sound)
      (fragment s file printed name onType directives items) := by
  refine .after fun root => .after fun _ => .lookup fun set hset => .pure ?_
  exact Record.sound_iff.mpr ⟨rfl, List.forall_mem_map.mpr (buildItems_sound hset)⟩

theorem definition_sound (d : Definition) :
    Gives (fun one => one.record.Sound) (definition s file d) := by
  cases d with
  | shorthand items => exact .bind (operation_sound s file _ _ _ _ _ items) fun _ ho => .pure ho
  | operation kind name declared directives items =>
    exact .bind (operation_sound s file _ kind name declared directives items) fun _ ho => .pure ho
  | fragment name onType directives items =>
    exact .bind (fragment_sound s file _ name onType directives items) fun _ hf => .pure hf

theorem definitions_pushed (written : List Definition) {result : Document} (h : result.Pushed) :
    Gives Document.Pushed (definitions s file result written) := by
  induction written generalizing result with
  | nil => exact .pure h
  | cons d rest ih => exact .bind (definition_sound s file d) fun one hone => ih (h.push hone)

theorem pieces_pushed (source : Source) (failure : Failure) (ps : List String)
    {result : Document} (h : result.Pushed) :
    Gives Document.Pushed (pieces s source failure result ps) := by
  induction ps generalizing result with
  | nil => exact .pure h
  | cons piece rest ih =>
    rw [pieces]
    cases readExecutable piece with
    | ok written =>
      exact .bind (definitions_pushed s source.file written h) fun _ hmore => ih hmore
    | error _ =>
      cases readTypeSystem piece with
      | ok _ => exact .after fun _ => ih h
      | error _ =>
        intro start d hd
        cases hd

theorem finish_sound (details : Bool) {result : Document} (h : result.Pushed) :
    Gives (fun d => (Record.document d).Sound) (finish details result) := by
  cases details with
  | true => exact .after fun _ => .pure h.refresh
  | false => exact .pure h.refresh

theorem source_sound (settings : RunSettings) (source : Source) :
    Gives (fun d => (Record.document d).Sound) (Run.source settings source) := by
  rw [Run.source]
  cases readExecutable source.content with
  | ok written =>
    exact .after fun _ =>
      .bind (definitions_pushed settings.schema source.file written Document.empty_pushed)
        fun _ h => finish_sound settings.details h
  | error failure =>
    exact .after fun _ =>
      .bind (pieces_pushed settings.schema source failure _ Document.empty_pushed)
        fun _ h => finish_sound settings.details h

theorem sourcesAfter_sound (settings : RunSettings) (all : List Source) {done : Document}
    (h : (Record.document done).Sound) :
    Gives (fun d => (Record.document d).Sound) (sourcesAfter settings done all) := by
  induction all generalizing done with
  | nil => exact .pure h
  | cons source rest ih =>
    refine .bind (source_sound settings source) fun one hone => ih ?_
    exact (Document.sound_iff.mp h).2.append (Document.sound_iff.mp hone).2

end Run

end Documents

section Flattened

variable {item : SelectionItem} {shape : Shape}

theorem shape_items_sound (h : item.shape? = some shape) (hitem : (Record.item item).Sound) :
    ∀ i ∈ shape.set.items, (Record.item i).Sound := by
  cases item with
  | field selected hasTypename items =>
    simp only [SelectionItem.shape?, Option.ite_none_left_eq_some, Option.some.injEq] at h
    obtain ⟨-, rfl⟩ := h
    exact (Record.fieldItem_sound_iff.mp hitem).2.2
  | inlineFragment onType directives uses hasTypename items =>
    obtain rfl := Option.some.inj h
    exact List.forall_mem_map.mp (Record.sound_iff.mp hitem).2
  | spread name directives uses => simp [SelectionItem.shape?] at h

/-- Renaming a shape leaves the flags of the item, which describe nothing that is renamed. -/
theorem refill_sound (hitem : (Record.item item).Sound) (name : String)
    {items : List SelectionItem} (hitems : ∀ i ∈ items, (Record.item i).Sound) :
    (Record.item (item.refill name items)).Sound := by
  cases item with
  | field selected hasTypename inner =>
    obtain ⟨hkept, harguments, -⟩ := Record.fieldItem_sound_iff.mp hitem
    exact Record.fieldItem_sound_iff.mpr
      ⟨⟨hkept.arguments_eq, hkept.uses_eq⟩, harguments, hitems⟩
  | inlineFragment onType directives uses hasTypename inner =>
    exact Record.sound_iff.mpr ⟨hitem.kept, List.forall_mem_map.mpr hitems⟩
  | spread spreadName directives uses => exact hitem

theorem flattenItems_sound (taken : List String) {items : List SelectionItem}
    (h : ∀ i ∈ items, (Record.item i).Sound) :
    (∀ i ∈ (flattenItems taken items).result, (Record.item i).Sound) ∧
      ∀ m ∈ (flattenItems taken items).models, (Record.model m).Sound := by
  induction items using items_induction generalizing taken with
  | nil => simp [flattenItems]
  | plain item rest hplain ih =>
    obtain ⟨hitem, hrest⟩ := List.forall_mem_cons.mp h
    obtain ⟨hresult, hmodels⟩ := ih taken hrest
    rw [flattenItems_cons_plain hplain]
    exact ⟨List.forall_mem_cons.mpr ⟨hitem, hresult⟩, hmodels⟩
  | shape item shape rest hshape ihItems ihRest =>
    obtain ⟨hitem, hrest⟩ := List.forall_mem_cons.mp h
    rw [flattenItems_cons_shape hshape]
    set name := freeName taken item.candidate
    set inner := flattenItems (name :: taken) shape.set.items
    obtain ⟨hinner, hbelow⟩ := ihItems (name :: taken) (shape_items_sound hshape hitem)
    obtain ⟨hresult, hmodels⟩ := ihRest inner.taken hrest
    have hmodel : (Record.model ⟨shape.name, name, ⟨shape.set.hasTypename, inner.result⟩⟩).Sound :=
      Record.sound_iff.mpr ⟨trivial, List.forall_mem_map.mpr hinner⟩
    exact ⟨List.forall_mem_cons.mpr ⟨refill_sound hitem name hinner, hresult⟩,
      List.forall_mem_cons.mpr ⟨hmodel, List.forall_mem_append.mpr ⟨hbelow, hmodels⟩⟩⟩

theorem SelectionSet.flatten_sound {set : SelectionSet}
    (h : ∀ i ∈ set.items, (Record.item i).Sound) :
    (∀ i ∈ set.flatten.1.items, (Record.item i).Sound) ∧
      ∀ m ∈ set.flatten.2, (Record.model m).Sound := by
  rw [SelectionSet.flatten_eq]
  exact flattenItems_sound reservedNames h

theorem Operation.flatten_sound {o : Operation} (h : (Record.operation o).Sound) :
    (Record.flatOperation o.flatten).Sound := by
  obtain ⟨hkept, hset, hvariables⟩ := Record.operation_sound_iff.mp h
  obtain ⟨hitems, hmodels⟩ := SelectionSet.flatten_sound hset
  refine Record.sound_iff.mpr ⟨⟨hkept.variables_eq, hkept.uses_eq⟩, ?_⟩
  simp only [Record.parts, List.forall_mem_append, List.forall_mem_map]
  exact ⟨⟨hitems, hvariables⟩, hmodels⟩

theorem Fragment.flatten_sound {f : Fragment} (h : (Record.fragment f).Sound) :
    (Record.flatFragment f.flatten).Sound := by
  obtain ⟨hkept, hparts⟩ := Record.sound_iff.mp h
  obtain ⟨hitems, hmodels⟩ := SelectionSet.flatten_sound (List.forall_mem_map.mp hparts)
  refine Record.sound_iff.mpr ⟨hkept, ?_⟩
  simp only [Record.parts, List.forall_mem_append, List.forall_mem_map]
  exact ⟨hitems, hmodels⟩

/-- A flattened document has flags of its own, whatever those of the document say. -/
theorem Document.Pushed.flatten_sound {d : Document} (h : d.Pushed) :
    (Record.flatDocument d.flatten).Sound := by
  refine Record.sound_iff.mpr ⟨⟨rfl, rfl⟩, ?_⟩
  simp only [Record.parts, Document.flatten, List.forall_mem_append, List.forall_mem_map]
  exact ⟨fun o ho => Operation.flatten_sound (h.operations o ho),
    fun f hf => Fragment.flatten_sound (h.fragments f hf)⟩

end Flattened

end QueryModel
