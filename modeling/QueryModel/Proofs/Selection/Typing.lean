import QueryModel.Proofs.Schema.Lookup
import QueryModel.Selection.Build

/-!
# Well-typed selections

A written selection is well typed on a type when every field is declared by the type
around it and all types that are met on the way are in the schema. Just the well-typed
selections can be built, and what is built follows the written selection item by item.
-/

set_option autoImplicit false

namespace QueryModel

def Syntax.Selection.isTypename : Syntax.Selection → Bool
  | .field _ name _ _ _ => name = typenameField
  | _ => false

/-- The type that an inline fragment selects on: that of its condition, or the type around
it. -/
def Schema.FragmentType (s : Schema) (parent : TypeDeclaration) (condition : Option String)
    (type : TypeDeclaration) : Prop :=
  match condition with
  | some name => s.type? name = some type
  | none => type = parent

/-- The selection can be made on the type, which changes with every field and fragment. -/
inductive WellTyped (s : Schema) : TypeDeclaration → Syntax.Selection → Prop
  | typename {parent : TypeDeclaration} {label : Option String}
      {arguments : List (String × Syntax.Value)} {directives : List Syntax.Directive}
      {items : List Syntax.Selection} :
      WellTyped s parent (.field label typenameField arguments directives items)
  | field {parent type : TypeDeclaration} {declared : FieldDeclaration} {label : Option String}
      {name : String} {arguments : List (String × Syntax.Value)}
      {directives : List Syntax.Directive} {items : List Syntax.Selection}
      (hname : name ≠ typenameField) (hfield : parent.Declares name declared)
      (htype : s.type? declared.type.name = some type)
      (harguments : ∀ a ∈ declared.arguments, s.Has a.type.name)
      (hitems : ∀ item ∈ items, WellTyped s type item) :
      WellTyped s parent (.field label name arguments directives items)
  | inlineFragment {parent type : TypeDeclaration} {condition : Option String}
      {directives : List Syntax.Directive} {items : List Syntax.Selection}
      (htype : s.FragmentType parent condition type)
      (hitems : ∀ item ∈ items, WellTyped s type item) :
      WellTyped s parent (.inlineFragment condition directives items)
  | spread {parent : TypeDeclaration} {name : String} {directives : List Syntax.Directive} :
      WellTyped s parent (.spread name directives)

def TypenameMirrors (written : List Syntax.Selection) (hasTypename : Bool) : Prop :=
  hasTypename = true ↔ ∃ w ∈ written, w.isTypename = true

def itemsWritten (written : List Syntax.Selection) : List Syntax.Selection :=
  written.filter fun w => !w.isTypename

mutual

/-- The item stands for the written selection, made on the type. -/
inductive ItemMirrors (s : Schema) : TypeDeclaration → Syntax.Selection → SelectionItem → Prop
  | field {parent type : TypeDeclaration} {declared : FieldDeclaration} {label : Option String}
      {name : String} {arguments : List (String × Syntax.Value)}
      {directives : List Syntax.Directive} {written : List Syntax.Selection}
      {resolved : List Argument} {hasTypename : Bool} {items : List SelectionItem}
      (hfield : parent.Declares name declared)
      (htype : s.type? declared.type.name = some type)
      (harguments : List.Forall₂ (Argument.Mirrors s) declared.arguments resolved)
      (htypename : TypenameMirrors written hasTypename)
      (hitems : ItemsMirror s type (itemsWritten written) items) :
      ItemMirrors s parent (.field label name arguments directives written)
        (.field {
          name := label.getD name
          fieldName := name
          label := label
          type := declared.type.resolve
          kind := type.kind
          arguments := resolved
          hasArguments := !resolved.isEmpty
          directives := .ofWritten s directives
          usesDirectives := !(DirectiveUses.ofWritten s directives).isEmpty } hasTypename items)
  | inlineFragment {parent type : TypeDeclaration} {condition : Option String}
      {directives : List Syntax.Directive} {written : List Syntax.Selection}
      {hasTypename : Bool} {items : List SelectionItem}
      (htype : s.FragmentType parent condition type)
      (htypename : TypenameMirrors written hasTypename)
      (hitems : ItemsMirror s type (itemsWritten written) items) :
      ItemMirrors s parent (.inlineFragment condition directives written)
        (.inlineFragment type.name (.ofWritten s directives)
          (!(DirectiveUses.ofWritten s directives).isEmpty) hasTypename items)
  | spread {parent : TypeDeclaration} {name : String} {directives : List Syntax.Directive} :
      ItemMirrors s parent (.spread name directives)
        (.spread name (.ofWritten s directives)
          (!(DirectiveUses.ofWritten s directives).isEmpty))

inductive ItemsMirror (s : Schema) :
    TypeDeclaration → List Syntax.Selection → List SelectionItem → Prop
  | nil {parent : TypeDeclaration} : ItemsMirror s parent [] []
  | cons {parent : TypeDeclaration} {w : Syntax.Selection} {item : SelectionItem}
      {written : List Syntax.Selection} {items : List SelectionItem}
      (hitem : ItemMirrors s parent w item) (hitems : ItemsMirror s parent written items) :
      ItemsMirror s parent (w :: written) (item :: items)

end

/-- The level stands for the written selections: it has an item for each of them but those
that ask for the name of the type, and tells whether there are such. -/
def SelectionSet.Mirrors (s : Schema) (parent : TypeDeclaration)
    (written : List Syntax.Selection) (set : SelectionSet) : Prop :=
  TypenameMirrors written set.hasTypename ∧ ItemsMirror s parent (itemsWritten written) set.items

theorem selections_induction {motive : List Syntax.Selection → Prop} (nil : motive [])
    (field : ∀ label name arguments directives items rest, motive items → motive rest →
      motive (.field label name arguments directives items :: rest))
    (inlineFragment : ∀ condition directives items rest, motive items → motive rest →
      motive (.inlineFragment condition directives items :: rest))
    (spread : ∀ name directives rest, motive rest → motive (.spread name directives :: rest)) :
    ∀ written, motive written
  | [] => nil
  | .field label name arguments directives items :: rest =>
    field label name arguments directives items rest
      (selections_induction nil field inlineFragment spread items)
      (selections_induction nil field inlineFragment spread rest)
  | .inlineFragment condition directives items :: rest =>
    inlineFragment condition directives items rest
      (selections_induction nil field inlineFragment spread items)
      (selections_induction nil field inlineFragment spread rest)
  | .spread name directives :: rest =>
    spread name directives rest (selections_induction nil field inlineFragment spread rest)

section Build

variable {s : Schema} {parent : TypeDeclaration} {label : Option String} {name : String}
  {arguments : List (String × Syntax.Value)} {directives : List Syntax.Directive}
  {condition : Option String} {items rest : List Syntax.Selection}

theorem declaredField_eq_ok {declared : FieldDeclaration} :
    declaredField parent name = .ok declared ↔ parent.Declares name declared := by
  rw [declaredField, ← field?_eq_some]
  cases parent.field? name with
  | none => simp
  | some found => simp

theorem conditionType_eq_ok {type : TypeDeclaration} :
    conditionType s parent condition = .ok type ↔ s.FragmentType parent condition type := by
  cases condition with
  | none => exact ⟨fun h => (Except.ok.inj h).symm, fun h => congrArg Except.ok h.symm⟩
  | some name => exact Schema.typeNamed_eq_ok

theorem buildItem_typename :
    buildItem s parent (.field label typenameField arguments directives items) = .ok none := by
  simp [buildItem]

theorem buildItem_field_eq_ok (hname : name ≠ typenameField) {built : Option SelectionItem} :
    buildItem s parent (.field label name arguments directives items) = .ok built ↔
      ∃ declared type set resolved, parent.Declares name declared ∧
        s.type? declared.type.name = some type ∧ buildItems s type items = .ok set ∧
        Argument.resolveAll s declared.arguments = .ok resolved ∧
        some (.field {
          name := label.getD name
          fieldName := name
          label := label
          type := declared.type.resolve
          kind := type.kind
          arguments := resolved
          hasArguments := !resolved.isEmpty
          directives := .ofWritten s directives
          usesDirectives := !(DirectiveUses.ofWritten s directives).isEmpty }
          set.hasTypename set.items) = built := by
  simp only [buildItem, hname, if_false, bind_eq_ok, declaredField_eq_ok, Schema.typeNamed_eq_ok,
    TypeDeclaration.classify_eq_ok, ok_bind, pure, Except.pure, Except.ok.injEq, exists_and_left]

theorem buildItem_inlineFragment_eq_ok {built : Option SelectionItem} :
    buildItem s parent (.inlineFragment condition directives items) = .ok built ↔
      ∃ type set, s.FragmentType parent condition type ∧ buildItems s type items = .ok set ∧
        some (.inlineFragment type.name (.ofWritten s directives)
          (!(DirectiveUses.ofWritten s directives).isEmpty) set.hasTypename set.items) =
          built := by
  simp only [buildItem, bind_eq_ok, conditionType_eq_ok, pure, Except.pure, Except.ok.injEq,
    exists_and_left]

theorem buildItems_cons_eq_ok {w : Syntax.Selection} {set : SelectionSet} :
    buildItems s parent (w :: rest) = .ok set ↔
      ∃ built tail, buildItem s parent w = .ok built ∧ buildItems s parent rest = .ok tail ∧
        tail.add built = set := by
  simp only [buildItems, bind_eq_ok, pure, Except.pure, Except.ok.injEq, exists_and_left]

theorem exists_buildItems_cons {w : Syntax.Selection} :
    (∃ set, buildItems s parent (w :: rest) = .ok set) ↔
      (∃ built, buildItem s parent w = .ok built) ∧
        ∃ tail, buildItems s parent rest = .ok tail := by
  simp only [buildItems_cons_eq_ok]
  constructor
  · rintro ⟨set, built, tail, hbuilt, htail, -⟩
    exact ⟨⟨built, hbuilt⟩, ⟨tail, htail⟩⟩
  · rintro ⟨⟨built, hbuilt⟩, ⟨tail, htail⟩⟩
    exact ⟨_, built, tail, hbuilt, htail, rfl⟩

theorem exists_buildItem_field
    (ih : ∀ type, (∃ set, buildItems s type items = .ok set) ↔
      ∀ item ∈ items, WellTyped s type item) :
    (∃ built, buildItem s parent (.field label name arguments directives items) = .ok built) ↔
      WellTyped s parent (.field label name arguments directives items) := by
  by_cases hname : name = typenameField
  · subst hname
    exact ⟨fun _ => .typename, fun _ => ⟨none, buildItem_typename⟩⟩
  · simp only [buildItem_field_eq_ok hname]
    constructor
    · rintro ⟨-, declared, type, set, resolved, hfield, htype, hset, hresolved, -⟩
      exact .field hname hfield htype (Argument.exists_resolveAll_eq_ok.mp ⟨resolved, hresolved⟩)
        ((ih type).mp ⟨set, hset⟩)
    · intro h
      cases h with
      | typename => exact absurd rfl hname
      | field _ hfield htype harguments hitems =>
        obtain ⟨set, hset⟩ := (ih _).mpr hitems
        obtain ⟨resolved, hresolved⟩ := Argument.exists_resolveAll_eq_ok.mpr harguments
        exact ⟨_, _, _, set, resolved, hfield, htype, hset, hresolved, rfl⟩

theorem exists_buildItem_inlineFragment
    (ih : ∀ type, (∃ set, buildItems s type items = .ok set) ↔
      ∀ item ∈ items, WellTyped s type item) :
    (∃ built, buildItem s parent (.inlineFragment condition directives items) = .ok built) ↔
      WellTyped s parent (.inlineFragment condition directives items) := by
  simp only [buildItem_inlineFragment_eq_ok]
  constructor
  · rintro ⟨-, type, set, htype, hset, -⟩
    exact .inlineFragment htype ((ih type).mp ⟨set, hset⟩)
  · intro h
    cases h with
    | inlineFragment htype hitems =>
      obtain ⟨set, hset⟩ := (ih _).mpr hitems
      exact ⟨_, _, set, htype, hset, rfl⟩

end Build

theorem exists_buildItems_iff (s : Schema) (parent : TypeDeclaration)
    (written : List Syntax.Selection) :
    (∃ set, buildItems s parent written = .ok set) ↔ ∀ w ∈ written, WellTyped s parent w := by
  induction written using selections_induction generalizing parent with
  | nil => simp [buildItems]
  | field label name arguments directives items rest ihItems ihRest =>
    rw [exists_buildItems_cons, List.forall_mem_cons, exists_buildItem_field ihItems, ihRest]
  | inlineFragment condition directives items rest ihItems ihRest =>
    rw [exists_buildItems_cons, List.forall_mem_cons, exists_buildItem_inlineFragment ihItems,
      ihRest]
  | spread name directives rest ihRest =>
    rw [exists_buildItems_cons, List.forall_mem_cons, ihRest]
    have hspread : ∃ built, buildItem s parent (.spread name directives) = .ok built := ⟨_, rfl⟩
    simp only [hspread, true_and, WellTyped.spread]

theorem mirrors_nil (s : Schema) (parent : TypeDeclaration) :
    SelectionSet.Mirrors s parent [] .empty := by
  constructor
  · simp [TypenameMirrors, SelectionSet.empty]
  · exact .nil

theorem mirrors_cons_typename {s : Schema} {parent : TypeDeclaration} {w : Syntax.Selection}
    {written : List Syntax.Selection} {tail : SelectionSet} (hw : w.isTypename = true)
    (htail : SelectionSet.Mirrors s parent written tail) :
    SelectionSet.Mirrors s parent (w :: written) (tail.add none) := by
  constructor
  · simp [TypenameMirrors, SelectionSet.add, hw]
  · simpa [itemsWritten, SelectionSet.add, hw] using htail.2

theorem mirrors_cons_item {s : Schema} {parent : TypeDeclaration} {w : Syntax.Selection}
    {written : List Syntax.Selection} {item : SelectionItem} {tail : SelectionSet}
    (hw : w.isTypename = false) (hitem : ItemMirrors s parent w item)
    (htail : SelectionSet.Mirrors s parent written tail) :
    SelectionSet.Mirrors s parent (w :: written) (tail.add (some item)) := by
  constructor
  · simpa [TypenameMirrors, SelectionSet.add, hw] using htail.1
  · simpa [itemsWritten, SelectionSet.add, hw] using ItemsMirror.cons hitem htail.2

theorem mirrors_of_buildItems {s : Schema} {parent : TypeDeclaration}
    {written : List Syntax.Selection} {set : SelectionSet}
    (h : buildItems s parent written = .ok set) : SelectionSet.Mirrors s parent written set := by
  induction written using selections_induction generalizing parent set with
  | nil =>
    obtain rfl := Except.ok.inj h
    exact mirrors_nil s parent
  | field label name arguments directives items rest ihItems ihRest =>
    obtain ⟨built, tail, hbuilt, htail, rfl⟩ := buildItems_cons_eq_ok.mp h
    by_cases hname : name = typenameField
    · subst hname
      rw [buildItem_typename] at hbuilt
      obtain rfl := Except.ok.inj hbuilt
      exact mirrors_cons_typename (by simp [Syntax.Selection.isTypename]) (ihRest htail)
    · obtain ⟨declared, type, inner, resolved, hfield, htype, hinner, hresolved, rfl⟩ :=
        (buildItem_field_eq_ok hname).mp hbuilt
      have hmirrors := ihItems hinner
      exact mirrors_cons_item (by simp [Syntax.Selection.isTypename, hname])
        (.field hfield htype (Argument.resolveAll_eq_ok.mp hresolved) hmirrors.1 hmirrors.2)
        (ihRest htail)
  | inlineFragment condition directives items rest ihItems ihRest =>
    obtain ⟨built, tail, hbuilt, htail, rfl⟩ := buildItems_cons_eq_ok.mp h
    obtain ⟨type, inner, htype, hinner, rfl⟩ := buildItem_inlineFragment_eq_ok.mp hbuilt
    have hmirrors := ihItems hinner
    exact mirrors_cons_item rfl (.inlineFragment htype hmirrors.1 hmirrors.2) (ihRest htail)
  | spread name directives rest ihRest =>
    obtain ⟨built, tail, hbuilt, htail, rfl⟩ := buildItems_cons_eq_ok.mp h
    obtain rfl := Except.ok.inj hbuilt
    exact mirrors_cons_item rfl .spread (ihRest htail)

/-- A selection is built on a type exactly when it is well typed there, and what is built
stands for it at every depth. -/
theorem build_ok_iff_wellTyped (s : Schema) (parent : TypeDeclaration)
    (written : List Syntax.Selection) :
    ((∃ set, SelectionSet.build s parent written = .ok set) ↔
      ∀ w ∈ written, WellTyped s parent w) ∧
    ∀ set, SelectionSet.build s parent written = .ok set →
      SelectionSet.Mirrors s parent written set :=
  ⟨exists_buildItems_iff s parent written, fun _ h => mirrors_of_buildItems h⟩

end QueryModel
