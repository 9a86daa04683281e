import QueryModel.Proofs.Record.Kept

/-!
# Flags

Records are written with their stored flags beside the lists, maps and defaults. Where a record is
kept, each flag of the object that is written for it is what the record holds, and it is what the
written list or map beside it shows. Catalogs, documents and flattened documents are sound, so that
this goes for every object in them, at every depth. A record is marked as deprecated just when its
directives say so.
-/

set_option autoImplicit false

namespace QueryModel

namespace Json

/-- The members with values from the schema or the document: no record stands in them. -/
def dataKeys : List String := ["directives", "defaultValue"]

/-- The second value is an object that stands in the first, outside of such data. -/
inductive Holds : Json → Json → Prop where
  | self (ms : List (String × Json)) : Holds (.object ms) (.object ms)
  | member {ms : List (String × Json)} {m : String × Json} {k : Json} (hm : m ∈ ms)
      (hkey : m.1 ∉ dataKeys) (h : Holds m.2 k) : Holds (.object ms) k
  | entry {js : List Json} {e k : Json} (he : e ∈ js) (h : Holds e k) : Holds (.array js) k

def Flat (j : Json) : Prop := ∀ k, ¬ j.Holds k

@[simp] theorem flat_null : Json.null.Flat := by
  intro k h
  cases h

@[simp] theorem flat_bool (b : Bool) : (Json.bool b).Flat := by
  intro k h
  cases h

@[simp] theorem flat_int (i : Int) : (Json.int i).Flat := by
  intro k h
  cases h

@[simp] theorem flat_string (s : String) : (Json.string s).Flat := by
  intro k h
  cases h

@[simp] theorem flat_ofOption_string (text : Option String) : (ofOption .string text).Flat := by
  cases text with
  | none => exact flat_null
  | some s => exact flat_string s

@[simp] theorem flat_ofStrings (texts : List String) : (ofStrings texts).Flat := by
  intro k h
  cases h with
  | entry he h =>
    obtain ⟨s, -, rfl⟩ := List.mem_map.mp he
    exact flat_string s k h

def holdsAny : Json → Bool
  | .array js => !js.isEmpty
  | .object ms => !ms.isEmpty
  | _ => false

end Json

/-- The names of flags: all that start with `has` or `uses`, and that of the deprecation. -/
def isFlag (key : String) : Bool :=
  ['h', 'a', 's'].isPrefixOf key.toList || ['u', 's', 'e', 's'].isPrefixOf key.toList ||
    key == "isDeprecated"

def described : List (String × String) := [
  ("hasTypes", "types"), ("hasInputTypes", "inputTypes"), ("hasEnums", "enums"),
  ("hasUnions", "unions"), ("hasInterfaces", "interfaces"), ("hasScalars", "scalars"),
  ("hasDefinedDirectives", "definedDirectives"), ("hasFields", "fields"),
  ("hasPossibleTypes", "possibleTypes"), ("hasImplementingTypes", "implementingTypes"),
  ("hasArguments", "arguments"), ("hasOperations", "operations"), ("hasFragments", "fragments"),
  ("hasVariables", "variables"), ("hasInlineFragments", "inlineFragments"),
  ("hasFragmentsSpread", "fragmentsSpread"), ("usesDirectives", "directives")]

theorem described_apart : ∀ p ∈ described, ∀ q ∈ described,
    p.1 ≠ q.2 ∧ (p.1 = q.1 → p.2 = q.2) ∧ (p.2 = q.2 → p.1 = q.1) := by
  decide +kernel

theorem isFlag_described : ∀ p ∈ described, isFlag p.1 = true ∧ isFlag p.2 = false := by
  decide +kernel

def isUnflagged (key : String) : Bool := !isFlag key && !(described.map Prod.snd).contains key

namespace Record

section Flags

def usesFlags (uses : DirectiveUses) : List (String × Bool) := [("usesDirectives", !uses.isEmpty)]

def defaultFlags (default : Option Json) : List (String × Bool) :=
  [("hasDefaultValue", default.isSome)]

def deprecationFlags (uses : DirectiveUses) : List (String × Bool) :=
  [("isDeprecated", uses.contains "deprecated")]

def argumentsFlags (arguments : List Argument) : List (String × Bool) :=
  [("hasArguments", !arguments.isEmpty)]

def fieldsFlags (fields : List Field) : List (String × Bool) := [("hasFields", !fields.isEmpty)]

/-- Asking for the name of the type leaves no item, so that the level itself has to tell it. -/
def levelFlags (hasTypename : Bool) (items : List SelectionItem) : List (String × Bool) := [
  ("hasFields", items.any fun i => i.kind = .field),
  ("hasFragmentsSpread", items.any fun i => i.kind = .spread),
  ("hasInlineFragments", items.any fun i => i.kind = .inlineFragment),
  ("hasTypename", hasTypename)]

def operationFlags (o : Operation) : List (String × Bool) :=
  levelFlags o.set.hasTypename o.set.items ++
    [("hasVariables", !o.declaredVariables.isEmpty)] ++ usesFlags o.directives

def fragmentFlags (f : Fragment) : List (String × Bool) :=
  levelFlags f.set.hasTypename f.set.items ++ usesFlags f.directives

/-- The flags of a record and what they have to tell of it. -/
def flags : Record → List (String × Bool)
  | .catalog c => [
      ("hasTypes", !c.types.isEmpty), ("hasInputTypes", !c.inputTypes.isEmpty),
      ("hasEnums", !c.enums.isEmpty), ("hasUnions", !c.unions.isEmpty),
      ("hasInterfaces", !c.interfaces.isEmpty), ("hasScalars", !c.scalars.isEmpty),
      ("hasDefinedDirectives", !c.definedDirectives.isEmpty)] ++ usesFlags c.directives
  | .object r =>
    fieldsFlags r.fields ++ [("hasInterfaces", !r.interfaces.isEmpty)] ++ usesFlags r.directives
  | .input r => fieldsFlags r.fields ++ usesFlags r.directives
  | .enum r => usesFlags r.directives
  | .enumValue r => usesFlags r.directives ++ deprecationFlags r.directives
  | .union r => [("hasPossibleTypes", !r.possibleTypes.isEmpty)] ++ usesFlags r.directives
  | .interface r =>
    fieldsFlags r.fields ++ [("hasImplementingTypes", !r.implementingTypes.isEmpty)] ++
      usesFlags r.directives
  | .scalar r => usesFlags r.directives
  | .directive r => argumentsFlags r.arguments
  | .field f =>
    argumentsFlags f.arguments ++ usesFlags f.directives ++ defaultFlags f.default ++
      deprecationFlags f.directives
  | .argument a => usesFlags a.directives ++ defaultFlags a.default
  | .document d =>
    [("hasOperations", !d.operations.isEmpty), ("hasFragments", !d.fragments.isEmpty)]
  | .operation o => operationFlags o
  | .fragment f => fragmentFlags f
  | .declaredVariable v => defaultFlags v.default
  | .item (.field selected hasTypename items) =>
    argumentsFlags selected.arguments ++ usesFlags selected.directives ++
      levelFlags hasTypename items
  | .item (.inlineFragment _ directives _ hasTypename items) =>
    usesFlags directives ++ levelFlags hasTypename items
  | .item (.spread _ directives _) => usesFlags directives
  | .flatDocument d =>
    [("hasOperations", !d.operations.isEmpty), ("hasFragments", !d.fragments.isEmpty)]
  | .flatOperation o => operationFlags o.operation
  | .flatFragment f => fragmentFlags f.fragment
  | .model m => levelFlags m.set.hasTypename m.set.items

end Flags

/-- The object tells the truth about the record: no member stands twice, every flag of the record
is there and right, there is no other flag, and each flag is what the member beside it shows. -/
structure Truthful (r : Record) (j : Json) : Prop where
  distinct : (Entries.keys j.members).Nodup
  told : ∀ f ∈ r.flags, j.find? f.1 = some (.bool f.2)
  complete : ∀ key ∈ Entries.keys j.members, isFlag key = true → key ∈ r.flags.map Prod.fst
  shown : ∀ p ∈ described, j.find? p.1 = (j.find? p.2).map fun value => .bool value.holdsAny
  deprecated : ∀ value, j.find? "isDeprecated" = some value →
    ∃ uses, j.find? "directives" = some uses ∧ value = .bool (uses.find? "deprecated").isSome
  reason : ∀ text, j.find? "deprecationReason" = some text → text ≠ .null →
    j.find? "isDeprecated" = some (.bool true)

section Pieces

/-- What is written for the member is data, holds no object, or is a list of the records. -/
def Carries (ps : List Record) (m : String × Json) : Prop :=
  m.1 ∈ Json.dataKeys ∨ m.2.Flat ∨
    ∃ js, m.2 = .array js ∧ ∀ j ∈ js, ∃ p ∈ ps, p.WrittenAs j

/-- The members are some of those of a record that holds the records `ps`, with the flags `fs`. -/
structure Piece (fs : List (String × Bool)) (ps : List Record) (ms : List (String × Json)) :
    Prop where
  told : ∀ f ∈ fs, (f.1, Json.bool f.2) ∈ ms
  complete : ∀ key ∈ Entries.keys ms, isFlag key = true → key ∈ fs.map Prod.fst
  shown : ∀ p ∈ described, ∀ value, (p.2, value) ∈ ms → (p.1, Json.bool value.holdsAny) ∈ ms
  paired : ∀ p ∈ described, p.1 ∈ Entries.keys ms → p.2 ∈ Entries.keys ms
  carried : ∀ m ∈ ms, Carries ps m

variable {fs gs : List (String × Bool)} {ps : List Record} {ms ns : List (String × Json)}

theorem Piece.append (h : Piece fs ps ms) (h' : Piece gs ps ns) :
    Piece (fs ++ gs) ps (ms ++ ns) := by
  have hkeys : Entries.keys (ms ++ ns) = Entries.keys ms ++ Entries.keys ns := List.map_append
  constructor
  · intro f hf
    rcases List.mem_append.mp hf with hf | hf
    · exact List.mem_append_left _ (h.told f hf)
    · exact List.mem_append_right _ (h'.told f hf)
  · intro key hkey hflag
    rw [List.map_append]
    rcases List.mem_append.mp (hkeys ▸ hkey) with hkey | hkey
    · exact List.mem_append_left _ (h.complete key hkey hflag)
    · exact List.mem_append_right _ (h'.complete key hkey hflag)
  · intro p hp value hvalue
    rcases List.mem_append.mp hvalue with hvalue | hvalue
    · exact List.mem_append_left _ (h.shown p hp value hvalue)
    · exact List.mem_append_right _ (h'.shown p hp value hvalue)
  · intro p hp hkey
    rw [hkeys] at hkey ⊢
    rcases List.mem_append.mp hkey with hkey | hkey
    · exact List.mem_append_left _ (h.paired p hp hkey)
    · exact List.mem_append_right _ (h'.paired p hp hkey)
  · intro m hm
    rcases List.mem_append.mp hm with hm | hm
    · exact h.carried m hm
    · exact h'.carried m hm

theorem Piece.unflagged (keys : List String) (hkeys : Entries.keys ms = keys)
    (hunflagged : keys.all isUnflagged = true) (hms : ∀ m ∈ ms, Carries ps m) :
    Piece [] ps ms := by
  have hkey {key : String} (h : key ∈ Entries.keys ms) :
      isFlag key = false ∧ key ∉ described.map Prod.snd := by
    simpa [isUnflagged] using List.all_eq_true.mp hunflagged key (hkeys ▸ h)
  constructor
  · simp
  · intro key h hflag
    rw [(hkey h).1] at hflag
    cases hflag
  · intro p hp value hvalue
    exact absurd (List.mem_map_of_mem hp) (hkey (List.mem_map_of_mem hvalue)).2
  · intro p hp h
    have hflag := (isFlag_described p hp).1
    rw [(hkey h).1] at hflag
    cases hflag
  · exact hms

theorem Piece.flat (keys : List String) (hkeys : Entries.keys ms = keys)
    (hunflagged : keys.all isUnflagged = true) (hms : ∀ m ∈ ms, m.2.Flat) : Piece [] ps ms :=
  .unflagged keys hkeys hunflagged fun m hm => .inr (.inl (hms m hm))

theorem Piece.pair {flag key : String} (hpair : (flag, key) ∈ described) {value : Json}
    (hvalue : Carries ps (key, value)) :
    Piece [(flag, value.holdsAny)] ps [(key, value), (flag, .bool value.holdsAny)] := by
  have hkey : isFlag key = false := (isFlag_described _ hpair).2
  constructor
  · simp
  · simp [Entries.keys, hkey]
  · intro p hp shown hshown
    obtain ⟨-, -, hsame⟩ := described_apart p hp _ hpair
    obtain ⟨hflagApart, -⟩ := described_apart _ hpair p hp
    simp only [List.mem_cons, Prod.mk.injEq, List.not_mem_nil, or_false] at hshown ⊢
    rcases hshown with ⟨hname, rfl⟩ | ⟨hname, -⟩
    · exact .inr ⟨hsame hname, rfl⟩
    · exact absurd hname.symm hflagApart
  · intro p hp h
    obtain ⟨hapart, hsame, -⟩ := described_apart p hp _ hpair
    simp only [Entries.keys, List.map_cons, List.map_nil, List.mem_cons, List.not_mem_nil,
      or_false] at h ⊢
    rcases h with h | h
    · exact absurd h hapart
    · exact .inl (hsame h)
  · intro m hm
    simp only [List.mem_cons, List.not_mem_nil, or_false] at hm
    rcases hm with rfl | rfl
    · exact hvalue
    · exact .inr (.inl (Json.flat_bool _))

theorem carries_list {α : Type} {key : String} (mk : α → Record) {xs : List α}
    (hparts : ∀ x ∈ xs, mk x ∈ ps) :
    Carries ps (key, .array (xs.map fun x => (mk x).toJson)) := by
  refine .inr (.inr ⟨_, rfl, ?_⟩)
  intro j hj
  obtain ⟨x, hx, rfl⟩ := List.mem_map.mp hj
  exact ⟨mk x, hparts x hx, .plain _⟩

theorem Piece.list {α : Type} {flag key : String} (hpair : (flag, key) ∈ described)
    (mk : α → Record) {xs : List α} (hparts : ∀ x ∈ xs, mk x ∈ ps) {stored : Bool}
    (hstored : stored = !xs.isEmpty) :
    Piece [(flag, !xs.isEmpty)] ps
      [(key, .array (xs.map fun x => (mk x).toJson)), (flag, .bool stored)] := by
  subst hstored
  have hlist : Carries ps (key, .array (xs.map fun x => (mk x).toJson)) := carries_list mk hparts
  have h := Piece.pair hpair hlist
  rwa [Json.holdsAny, List.isEmpty_map] at h

theorem Piece.names {flag key : String} (hpair : (flag, key) ∈ described) {names : List String}
    {stored : Bool} (hstored : stored = !names.isEmpty) :
    Piece [(flag, !names.isEmpty)] ps [(key, .ofStrings names), (flag, .bool stored)] := by
  subst hstored
  have hnames : Carries ps (key, .ofStrings names) := .inr (.inl (Json.flat_ofStrings names))
  have hany : (Json.ofStrings names).holdsAny = !names.isEmpty := by
    rw [Json.ofStrings, Json.holdsAny, List.isEmpty_map]
  have h := Piece.pair hpair hnames
  rwa [hany] at h

theorem Piece.uses {uses : DirectiveUses} {stored : Bool} (hstored : stored = !uses.isEmpty) :
    Piece (usesFlags uses) ps (uses.members stored) := by
  subst hstored
  have hpair : ("usesDirectives", "directives") ∈ described := by decide
  have hdata : Carries ps ("directives", uses.toJson) := .inl List.mem_cons_self
  have hany : uses.toJson.holdsAny = !uses.isEmpty := by
    rw [DirectiveUses.toJson, Json.holdsAny, List.isEmpty_map, Table.isEmpty]
  have h := Piece.pair hpair hdata
  rwa [hany] at h

theorem Piece.alone {flag : String}
    (hflag : flag ∉ described.map Prod.fst ∧ flag ∉ described.map Prod.snd) (value : Bool) :
    Piece [(flag, value)] ps [(flag, .bool value)] := by
  constructor
  · simp
  · simp [Entries.keys]
  · intro p hp shown hshown
    rw [List.mem_singleton, Prod.mk.injEq] at hshown
    exact absurd (hshown.1 ▸ List.mem_map_of_mem hp) hflag.2
  · intro p hp hkey
    obtain rfl := List.mem_singleton.mp hkey
    exact absurd (List.mem_map_of_mem hp) hflag.1
  · simp [Carries]

theorem Piece.default {default : Option Json} {stored : Bool}
    (hstored : stored = default.isSome) :
    Piece (defaultFlags default) ps (defaultMembers default stored) := by
  subst hstored
  have hvalue : Piece [] ps [("defaultValue", default.getD .null)] :=
    .unflagged ["defaultValue"] rfl (by decide) (by simp [Carries, Json.dataKeys])
  exact hvalue.append (.alone (by decide) default.isSome)

theorem Piece.deprecation {uses : DirectiveUses} {stored : Bool} {reason : Option String}
    (h : DeprecationKept uses stored reason) :
    Piece (deprecationFlags uses) ps (deprecationMembers stored reason) := by
  obtain rfl := h.flag_eq
  have hreason : Piece [] ps [("deprecationReason", .ofOption .string reason)] :=
    .flat ["deprecationReason"] rfl (by decide) (by simp)
  exact (Piece.alone (by decide) (uses.contains "deprecated")).append hreason

theorem Piece.congr (h : Piece fs ps ms) (hsame : ∀ m, m ∈ ns ↔ m ∈ ms) : Piece fs ps ns := by
  have hkeys {key : String} : key ∈ Entries.keys ns ↔ key ∈ Entries.keys ms := by
    simp only [Entries.keys, List.mem_map, hsame]
  constructor
  · intro f hf
    exact (hsame _).mpr (h.told f hf)
  · intro key hkey
    exact h.complete key (hkeys.mp hkey)
  · intro p hp value hvalue
    exact (hsame _).mpr (h.shown p hp value ((hsame _).mp hvalue))
  · intro p hp hkey
    exact hkeys.mpr (h.paired p hp (hkeys.mp hkey))
  · intro m hm
    exact h.carried m ((hsame m).mp hm)

theorem Piece.lists {α β : Type} {flag flag' key key' : String}
    (hpair : (flag, key) ∈ described) (hpair' : (flag', key') ∈ described) (mk : α → Record)
    (mk' : β → Record) {xs : List α} {ys : List β} (hparts : ∀ x ∈ xs, mk x ∈ ps)
    (hparts' : ∀ y ∈ ys, mk' y ∈ ps) {stored stored' : Bool} (hstored : stored = !xs.isEmpty)
    (hstored' : stored' = !ys.isEmpty) :
    Piece [(flag, !xs.isEmpty), (flag', !ys.isEmpty)] ps
      [(key, .array (xs.map fun x => (mk x).toJson)),
        (key', .array (ys.map fun y => (mk' y).toJson)), (flag, .bool stored),
        (flag', .bool stored')] := by
  have hfirst := Piece.list hpair mk hparts hstored
  refine (hfirst.append (Piece.list hpair' mk' hparts' hstored')).congr ?_
  intro m
  simp only [List.cons_append, List.nil_append, List.mem_cons, List.not_mem_nil, or_false]
  exact or_congr_right or_left_comm

end Pieces

section Levels

variable {ps : List Record} {items : List SelectionItem}

theorem isEmpty_ofKind (kind : ItemKind) (items : List SelectionItem) :
    (!(ItemRecord.ofKind kind (itemRecords items)).isEmpty) =
      items.any fun i => i.kind = kind := by
  rw [ItemRecord.ofKind, itemRecords_eq, List.isEmpty_map, List.filter_map, List.isEmpty_map]
  induction items with
  | nil => rfl
  | cons i items ih =>
    by_cases hkind : i.kind = kind
    · simp [hkind]
    · simpa [hkind] using ih

theorem carries_ofKind (key : String) (kind : ItemKind) (hparts : ∀ i ∈ items, .item i ∈ ps) :
    Carries ps (key, .array (ItemRecord.ofKind kind (itemRecords items))) := by
  refine .inr (.inr ⟨_, rfl, ?_⟩)
  intro j hj
  rw [ItemRecord.ofKind, itemRecords_eq] at hj
  obtain ⟨r, hr, rfl⟩ := List.mem_map.mp hj
  obtain ⟨i, hi, rfl⟩ := List.mem_map.mp (List.mem_of_mem_filter hr)
  exact ⟨.item i, hparts i hi, .plain _⟩

theorem carries_tagged (key : String) (hparts : ∀ i ∈ items, .item i ∈ ps) :
    Carries ps (key, .array ((itemRecords items).map ItemRecord.tagged)) := by
  refine .inr (.inr ⟨_, rfl, ?_⟩)
  intro j hj
  rw [itemRecords_eq, List.map_map] at hj
  obtain ⟨i, hi, rfl⟩ := List.mem_map.mp hj
  exact ⟨.item i, hparts i hi, .tagged i⟩

theorem Piece.ofKind {flag key : String} (hpair : (flag, key) ∈ described) (kind : ItemKind)
    (hparts : ∀ i ∈ items, .item i ∈ ps) :
    Piece [(flag, items.any fun i => i.kind = kind)] ps
      [(key, .array (ItemRecord.ofKind kind (itemRecords items))),
        (flag, .bool !(ItemRecord.ofKind kind (itemRecords items)).isEmpty)] := by
  have h := Piece.pair hpair (carries_ofKind key kind hparts)
  rw [Json.holdsAny] at h
  rwa [← isEmpty_ofKind]

theorem Piece.level (hasTypename : Bool) (hparts : ∀ i ∈ items, .item i ∈ ps) :
    Piece (levelFlags hasTypename items) ps
      (ItemRecord.levelMembers hasTypename (itemRecords items)) := by
  have hall : Piece [] ps
      [("selectionSet", .array ((itemRecords items).map ItemRecord.tagged))] := by
    refine .unflagged ["selectionSet"] rfl (by decide) ?_
    simpa using carries_tagged "selectionSet" hparts
  have hfields := Piece.ofKind (by decide : ("hasFields", "fields") ∈ described) .field hparts
  have hspreads := Piece.ofKind
    (by decide : ("hasFragmentsSpread", "fragmentsSpread") ∈ described) .spread hparts
  have hinline := Piece.ofKind
    (by decide : ("hasInlineFragments", "inlineFragments") ∈ described) .inlineFragment hparts
  have htypename : Piece [("hasTypename", hasTypename)] ps [("hasTypename", .bool hasTypename)] :=
    .alone (by decide) hasTypename
  refine ((((hall.append hfields).append hspreads).append hinline).append htypename).congr ?_
  intro m
  simp only [ItemRecord.levelMembers, List.cons_append, List.nil_append, List.mem_cons,
    List.not_mem_nil, or_false]
  grind

end Levels

section Written

variable {ps : List Record}

theorem Piece.named (name description : String) : Piece [] ps (namedMembers name description) :=
  .flat namedKeys rfl (by decide) (by simp [namedMembers])

theorem Piece.type (type : TypeReference) : Piece [] ps type.members :=
  .flat typeKeys rfl (by decide) (by simp [TypeReference.members])

theorem Piece.kind (kind : TypeKind) : Piece [] ps kind.members :=
  .flat kindKeys rfl (by decide) (by simp [TypeKind.members])

theorem Piece.origin (file : Option String) (printed : String) :
    Piece [] ps (originMembers file printed) :=
  .flat originKeys rfl (by decide) (by simp [originMembers])

theorem Piece.arguments {arguments : List Argument} (hparts : ∀ a ∈ arguments, .argument a ∈ ps)
    {stored : Bool} (hstored : stored = !arguments.isEmpty) :
    Piece (argumentsFlags arguments) ps (Argument.listMembers arguments stored) :=
  .list (by decide : ("hasArguments", "arguments") ∈ described) .argument hparts hstored

theorem Piece.fields {fields : List Field} (hparts : ∀ f ∈ fields, .field f ∈ ps)
    {stored : Bool} (hstored : stored = !fields.isEmpty) :
    Piece (fieldsFlags fields) ps (Field.listMembers fields stored) :=
  .list (by decide : ("hasFields", "fields") ∈ described) .field hparts hstored

theorem Piece.models {models : List Model} (hparts : ∀ m ∈ models, .model m ∈ ps)
    (isFlatten : Bool) : Piece [] ps (modelMembers models isFlatten) := by
  refine .unflagged modelsKeys rfl (by decide) ?_
  have hmodels : Carries ps ("innerModels", .array (models.map Model.toJson)) :=
    carries_list .model hparts
  have hflat : Carries ps ("isFlatten", .bool isFlatten) := .inr (.inl (Json.flat_bool isFlatten))
  simpa [modelMembers] using And.intro hmodels hflat

theorem Piece.operation {o : Operation} (h : o.Kept) (hitems : ∀ i ∈ o.set.items, .item i ∈ ps)
    (hvariables : ∀ v ∈ o.declaredVariables, .declaredVariable v ∈ ps) :
    Piece (operationFlags o) ps o.members := by
  have hnames : Piece [] ps
      [("name", .string o.name), ("operationType", .string o.kind.text)] :=
    .flat ["name", "operationType"] rfl (by decide) (by simp)
  have hdeclared := Piece.list (by decide : ("hasVariables", "variables") ∈ described)
    .declaredVariable hvariables h.variables_eq
  have hall := hnames
    |>.append (.level o.set.hasTypename hitems)
    |>.append hdeclared
    |>.append (.uses h.uses_eq)
    |>.append (.origin o.file o.printed)
  rwa [List.append_nil] at hall

theorem Piece.fragment {f : Fragment} (h : f.usesDirectives = !f.directives.isEmpty)
    (hitems : ∀ i ∈ f.set.items, .item i ∈ ps) : Piece (fragmentFlags f) ps f.members := by
  have hnames : Piece [] ps [("name", .string f.name), ("onType", .string f.onType)] :=
    .flat ["name", "onType"] rfl (by decide) (by simp)
  have hall := hnames
    |>.append (.level f.set.hasTypename hitems)
    |>.append (.uses h)
    |>.append (.origin f.file f.printed)
  rwa [List.append_nil] at hall

end Written

section Sorts

def Pieced (r : Record) : Prop := Piece r.flags r.parts r.toJson.members

theorem catalog_pieced {c : Catalog} (h : c.Kept) : (catalog c).Pieced :=
  Piece.list (by decide : ("hasTypes", "types") ∈ described) .object (by simp [parts]) h.types_eq
    |>.append (.list (by decide : ("hasInputTypes", "inputTypes") ∈ described) .input
      (by simp [parts]) h.inputTypes_eq)
    |>.append (.list (by decide : ("hasEnums", "enums") ∈ described) .enum
      (by simp [parts]) h.enums_eq)
    |>.append (.list (by decide : ("hasUnions", "unions") ∈ described) .union
      (by simp [parts]) h.unions_eq)
    |>.append (.list (by decide : ("hasInterfaces", "interfaces") ∈ described) .interface
      (by simp [parts]) h.interfaces_eq)
    |>.append (.list (by decide : ("hasScalars", "scalars") ∈ described) .scalar
      (by simp [parts]) h.scalars_eq)
    |>.append (.list (by decide : ("hasDefinedDirectives", "definedDirectives") ∈ described)
      .directive (by simp [parts]) h.definedDirectives_eq)
    |>.append (.uses h.uses_eq)

theorem object_pieced {r : ObjectRecord} (h : r.Kept) : (object r).Pieced :=
  Piece.named r.name r.description
    |>.append (.fields (by simp [parts]) h.fields_eq)
    |>.append (.names (by decide : ("hasInterfaces", "interfaces") ∈ described) h.interfaces_eq)
    |>.append (.uses h.uses_eq)

theorem input_pieced {r : InputRecord} (h : r.Kept) : (input r).Pieced :=
  Piece.named r.name r.description
    |>.append (.fields (by simp [parts]) h.fields_eq)
    |>.append (.uses h.uses_eq)

theorem enum_pieced {r : EnumRecord} (h : r.usesDirectives = !r.directives.isEmpty) :
    (enum r).Pieced := by
  have hlist : Carries (parts (.enum r))
      ("values", .array (r.values.map EnumValueRecord.toJson)) :=
    carries_list .enumValue (by simp [parts])
  have hvalues : Piece [] (parts (.enum r))
      [("values", .array (r.values.map EnumValueRecord.toJson))] :=
    .unflagged ["values"] rfl (by decide) (by simpa using hlist)
  exact ((Piece.named r.name r.description).append hvalues).append (.uses h)

theorem enumValue_pieced {r : EnumValueRecord} (h : r.Kept) : (enumValue r).Pieced :=
  Piece.named r.name r.description
    |>.append (.flat ["value"] rfl (by decide) (by simp))
    |>.append (.uses h.uses_eq)
    |>.append (.deprecation h.deprecation)

theorem union_pieced {r : UnionRecord} (h : r.Kept) : (union r).Pieced :=
  Piece.named r.name r.description
    |>.append (.names (by decide : ("hasPossibleTypes", "possibleTypes") ∈ described)
      h.possibleTypes_eq)
    |>.append (.uses h.uses_eq)

theorem interface_pieced {r : InterfaceRecord} (h : r.Kept) : (interface r).Pieced :=
  Piece.named r.name r.description
    |>.append (.fields (by simp [parts]) h.fields_eq)
    |>.append (.names (by decide : ("hasImplementingTypes", "implementingTypes") ∈ described)
      h.implementingTypes_eq)
    |>.append (.uses h.uses_eq)

theorem scalar_pieced {r : ScalarRecord} (h : r.usesDirectives = !r.directives.isEmpty) :
    (scalar r).Pieced :=
  (Piece.named r.name r.description).append (.uses h)

theorem directive_pieced {r : DirectiveRecord} (h : r.hasArguments = !r.arguments.isEmpty) :
    (directive r).Pieced := by
  have hlocations : Piece [] (parts (.directive r))
      (DirectiveLocation.all.map fun l => (l.member, .bool (r.locations.contains l))) := by
    refine .flat (DirectiveLocation.all.map (·.member)) rfl (by decide) ?_
    intro m hm
    obtain ⟨l, -, rfl⟩ := List.mem_map.mp hm
    exact Json.flat_bool _
  have htexts : Piece [] (parts (.directive r))
      [("locations", .ofStrings (r.locations.map DirectiveLocation.text))] :=
    .flat ["locations"] rfl (by decide) (by simp)
  exact Piece.named r.name r.description
    |>.append (.arguments (by simp [parts]) h)
    |>.append htexts
    |>.append hlocations

theorem field_pieced {f : Field} (h : f.Kept) : (field f).Pieced :=
  Piece.named f.name f.description
    |>.append (.type f.type)
    |>.append (.kind f.kind)
    |>.append (.arguments (by simp [parts]) h.arguments_eq)
    |>.append (.uses h.uses_eq)
    |>.append (.default h.default_eq)
    |>.append (.deprecation h.deprecation)

theorem argument_pieced {a : Argument} (h : a.Kept) : (argument a).Pieced :=
  Piece.named a.name a.description
    |>.append (.type a.type)
    |>.append (.kind a.kind)
    |>.append (.uses h.uses_eq)
    |>.append (.default h.default_eq)

theorem declaredVariable_pieced {v : Variable} (h : v.hasDefault = v.default.isSome) :
    (declaredVariable v).Pieced :=
  Piece.named v.name ""
    |>.append (.type v.type)
    |>.append (.kind v.kind)
    |>.append (.default h)

theorem item_pieced {i : SelectionItem} (h : (item i).Kept) : (item i).Pieced := by
  cases i with
  | field selected hasTypename items =>
    exact Piece.flat ["name", "fieldName", "alias"] rfl (by decide) (by simp)
      |>.append (.type selected.type)
      |>.append (.kind selected.kind)
      |>.append (.arguments (by simp [parts]) h.arguments_eq)
      |>.append (.uses h.uses_eq)
      |>.append (.level hasTypename (by simp [parts]))
  | inlineFragment onType directives uses hasTypename items =>
    have hon : Piece [] (parts (.item (.inlineFragment onType directives uses hasTypename items)))
        [("onType", .string onType)] := .flat ["onType"] rfl (by decide) (by simp)
    exact (hon.append (.uses h)).append (.level hasTypename (by simp [parts]))
  | spread name directives uses =>
    have hname : Piece [] (parts (.item (.spread name directives uses)))
        [("fragmentName", .string name)] := .flat ["fragmentName"] rfl (by decide) (by simp)
    exact hname.append (.uses h)

theorem document_pieced {d : Document} (h : d.Kept) : (document d).Pieced :=
  .lists (by decide : ("hasOperations", "operations") ∈ described)
    (by decide : ("hasFragments", "fragments") ∈ described) .operation .fragment
    (by simp [parts]) (by simp [parts]) h.operations_eq h.fragments_eq

theorem flatDocument_pieced {d : FlatDocument} (h : d.Kept) : (flatDocument d).Pieced :=
  .lists (by decide : ("hasOperations", "operations") ∈ described)
    (by decide : ("hasFragments", "fragments") ∈ described) .flatOperation .flatFragment
    (by simp [parts]) (by simp [parts]) h.operations_eq h.fragments_eq

theorem flatOperation_pieced {o : FlatOperation} (h : o.operation.Kept) :
    (flatOperation o).Pieced := by
  have hmodels : ∀ m ∈ o.models, .model m ∈ parts (.flatOperation o) := by simp [parts]
  have hall := (Piece.operation h (by simp [parts]) (by simp [parts])).append
    (.models hmodels o.isFlatten)
  rwa [List.append_nil] at hall

theorem flatFragment_pieced {f : FlatFragment}
    (h : f.fragment.usesDirectives = !f.fragment.directives.isEmpty) :
    (flatFragment f).Pieced := by
  have hmodels : ∀ m ∈ f.models, .model m ∈ parts (.flatFragment f) := by simp [parts]
  have hall := (Piece.fragment h (by simp [parts])).append (.models hmodels f.isFlatten)
  rwa [List.append_nil] at hall

theorem model_pieced (m : Model) : (model m).Pieced :=
  (Piece.flat ["schemaBaseType", "modelType"] rfl (by decide) (by simp)).append
    (.level m.set.hasTypename (by simp [parts]))

theorem Kept.pieced {r : Record} (h : r.Kept) : r.Pieced := by
  cases r with
  | catalog c => exact catalog_pieced h
  | object r => exact object_pieced h
  | input r => exact input_pieced h
  | enum r => exact enum_pieced h
  | enumValue r => exact enumValue_pieced h
  | union r => exact union_pieced h
  | interface r => exact interface_pieced h
  | scalar r => exact scalar_pieced h
  | directive r => exact directive_pieced h
  | field f => exact field_pieced h
  | argument a => exact argument_pieced h
  | document d => exact document_pieced h
  | operation o => exact .operation h (by simp [parts]) (by simp [parts])
  | fragment f => exact .fragment h (by simp [parts])
  | declaredVariable v => exact declaredVariable_pieced h
  | item i => exact item_pieced h
  | flatDocument d => exact flatDocument_pieced h
  | flatOperation o => exact flatOperation_pieced h
  | flatFragment f => exact flatFragment_pieced h
  | model m => exact model_pieced m

theorem WrittenAs.piece {r : Record} {j : Json} (h : r.WrittenAs j) (hkept : r.Kept) :
    Piece r.flags r.parts j.members := by
  cases h with
  | plain => exact hkept.pieced
  | tagged i =>
    have hkind : Piece [] (parts (.item i)) [("kind", .string i.kind.label)] :=
      .flat ["kind"] rfl (by decide) (by simp)
    exact hkind.append hkept.pieced

end Sorts

section Deprecation

theorem find?_uses_isSome (uses : DirectiveUses) (name : String) :
    (uses.toJson.find? name).isSome = uses.contains name := by
  have hkeys : Entries.keys uses.toJson.members = uses.keys := by
    simp [DirectiveUses.toJson, Json.members, Entries.keys, Table.keys]
  rw [Bool.eq_iff_iff, Table.contains_iff, ← hkeys]
  exact Entries.lookup_isSome_iff name _

/-- Deprecations are written for fields and enum values only, beside their directives. -/
theorem WrittenAs.deprecation {r : Record} {j : Json} (h : r.WrittenAs j) (hkept : r.Kept) :
    (∃ (uses : DirectiveUses) (stored : Bool) (reason : Option String),
      ("directives", uses.toJson) ∈ j.members ∧ deprecationMembers stored reason ⊆ j.members ∧
        DeprecationKept uses stored reason) ∨
    ∀ key ∈ deprecationKeys, key ∉ Entries.keys j.members := by
  have hnone : (∀ key ∈ deprecationKeys, key ∉ "kind" :: r.keys) →
      ∀ key ∈ deprecationKeys, key ∉ Entries.keys j.members := by
    intro hapart key hkey hmem
    rw [← keys_toJson] at hapart
    cases h with
    | plain => exact hapart key hkey (List.mem_cons_of_mem _ hmem)
    | tagged i => exact hapart key hkey hmem
  cases r
  case field f =>
    cases h
    refine .inl ⟨f.directives, f.isDeprecated, f.deprecationReason, ?_,
      List.subset_append_right _ _, hkept.deprecation⟩
    simp [toJson, Field.toJson, Json.members, DirectiveUses.members]
  case enumValue r =>
    cases h
    refine .inl ⟨r.directives, r.isDeprecated, r.deprecationReason, ?_,
      List.subset_append_right _ _, hkept.deprecation⟩
    simp [toJson, EnumValueRecord.toJson, Json.members, DirectiveUses.members]
  case item i =>
    refine .inr (hnone ?_)
    cases i <;> simp only [keys] <;> decide
  all_goals
    refine .inr (hnone ?_)
    simp only [keys]
    decide

end Deprecation

theorem WrittenAs.truthful {r : Record} {j : Json} (h : r.WrittenAs j) (hkept : r.Kept) :
    r.Truthful j := by
  have hpiece := h.piece hkept
  have hfind {key : String} {value : Json} (hmem : (key, value) ∈ j.members) :
      j.find? key = some value := Json.find?_of_mem h.keys_nodup hmem
  have habsent {key : String} {value : Json} (hkey : key ∉ Entries.keys j.members) :
      j.find? key ≠ some value := by
    rw [Json.find?, Entries.lookup_eq_none hkey]
    intro h
    cases h
  refine ⟨h.keys_nodup, fun f hf => hfind (hpiece.told f hf), hpiece.complete, ?_, ?_, ?_⟩
  · intro p hp
    by_cases hkey : p.2 ∈ Entries.keys j.members
    · obtain ⟨m, hm, hname⟩ := List.mem_map.mp hkey
      have hmem : (p.2, m.2) ∈ j.members := hname ▸ hm
      rw [hfind hmem, hfind (hpiece.shown p hp m.2 hmem), Option.map_some]
    · have hflag : p.1 ∉ Entries.keys j.members := mt (hpiece.paired p hp) hkey
      rw [Json.find?, Json.find?, Entries.lookup_eq_none hkey, Entries.lookup_eq_none hflag,
        Option.map_none]
  · intro value hvalue
    rcases h.deprecation hkept with ⟨uses, stored, reason, huses, hdeprecation, hstored⟩ | hnone
    · have hflag := hfind (hdeprecation List.mem_cons_self)
      refine ⟨uses.toJson, hfind huses, ?_⟩
      rw [find?_uses_isSome, ← hstored.flag_eq]
      exact Option.some.inj (hvalue.symm.trans hflag)
    · exact absurd hvalue (habsent (hnone _ (by decide)))
  · intro text htext hnull
    rcases h.deprecation hkept with ⟨uses, stored, reason, -, hdeprecation, hstored⟩ | hnone
    · have hflag := hfind (hdeprecation List.mem_cons_self)
      have hreason := hfind (hdeprecation (List.mem_cons_of_mem _ List.mem_cons_self))
      obtain rfl := Option.some.inj (htext.symm.trans hreason)
      cases reason with
      | none => exact absurd rfl hnull
      | some reason => rw [hflag, hstored.of_reason rfl]
    · exact absurd htext (habsent (hnone _ (by decide)))

/-- Everything in the record has flags that say what it holds, in the record itself and in each
form in which it is written, and nothing is written there as an object but what is in the record. -/
structure Flagged (root : Record) : Prop where
  kept : ∀ r : Record, r.Within root → r.Kept
  truthful : ∀ r : Record, r.Within root → ∀ j, r.WrittenAs j → r.Truthful j
  reached : ∀ j, root.toJson.Holds j → ∃ r : Record, r.Within root ∧ r.WrittenAs j

theorem WrittenAs.exists_object {r : Record} {j : Json} (h : r.WrittenAs j) :
    ∃ ms, j = .object ms := by
  cases h with
  | plain => cases r <;> exact ⟨_, rfl⟩
  | tagged i => exact ⟨_, rfl⟩

/-- Going down in a written record, or in a list of them, leads to written records. -/
theorem exists_within_of_holds {j k : Json} (h : j.Holds k) :
    (∀ r : Record, r.Sound → r.WrittenAs j → ∃ s : Record, s.Within r ∧ s.WrittenAs k) ∧
    ∀ (ps : List Record) (js : List Json), (∀ p ∈ ps, p.Sound) → j = .array js →
      (∀ e ∈ js, ∃ p ∈ ps, p.WrittenAs e) → ∃ p ∈ ps, ∃ s : Record, s.Within p ∧ s.WrittenAs k := by
  induction h with
  | self ms =>
    constructor
    · intro r _ hr
      exact ⟨r, .self r, hr⟩
    · intro ps js _ heq
      cases heq
  | member hm hkey _ ih =>
    constructor
    · intro r hsound hr
      obtain ⟨hkept, hparts⟩ := sound_iff.mp hsound
      rcases (hr.piece hkept).carried _ hm with hdata | hflat | ⟨js, harray, hwritten⟩
      · exact absurd hdata hkey
      · exact absurd ‹_› (hflat _)
      · obtain ⟨p, hp, s, hs, hk⟩ := ih.2 r.parts js hparts harray hwritten
        exact ⟨s, .part hp hs, hk⟩
    · intro ps js _ heq
      cases heq
  | entry he _ ih =>
    constructor
    · intro r _ hr
      obtain ⟨ms, heq⟩ := hr.exists_object
      cases heq
    · intro ps js hsound heq hwritten
      cases heq
      obtain ⟨p, hp, hp'⟩ := hwritten _ he
      exact ⟨p, hp, ih.1 p (hsound p hp) hp'⟩

theorem Sound.flagged {root : Record} (h : root.Sound) : root.Flagged where
  kept := h
  truthful r hr _ hj := hj.truthful (h r hr)
  reached _ hj := (exists_within_of_holds hj).1 root h (.plain root)

end Record

/-- A catalog that is built, the document of any sources and what it is flattened to have flags
that tell the truth at every depth. So has what any document is flattened to whose operations and
fragments have such flags, also if the flags of the document itself are wrong. -/
theorem Run.outcomes_flagged (settings : RunSettings) (all : List Source) (start : Progress) :
    (∀ c, Catalog.build settings.schema = .ok c → (Record.catalog c).Flagged) ∧
    (∀ d, (runFrom (sources settings all) start).1 = .ok d →
      (Record.document d).Flagged ∧ (Record.flatDocument d.flatten).Flagged) ∧
    ∀ d : Document, (∀ o ∈ d.operations, (Record.operation o).Flagged) →
      (∀ f ∈ d.fragments, (Record.fragment f).Flagged) →
      (Record.flatDocument d.flatten).Flagged := by
  refine ⟨fun c hc => (Catalog.sound_of_build hc).flagged, fun d hd => ?_, fun d ho hf => ?_⟩
  · have hsound : (Record.document d).Sound :=
      sourcesAfter_sound settings all Document.empty_sound start d hd
    exact ⟨hsound.flagged, (Document.sound_iff.mp hsound).2.flatten_sound.flagged⟩
  · have hpushed : d.Pushed := ⟨fun o h => (ho o h).kept, fun f h => (hf f h).kept⟩
    exact hpushed.flatten_sound.flagged

/-- A deprecated field with an argument that has `null` for its default, and a selection with a
level inside. With a wrong flag of its own the document is not flagged, but what it is flattened to
still is. -/
theorem Run.outcomes_flagged_deprecated :
    let limit : InputDeclaration := ⟨"limit", none, .named "Int", some .null, []⟩
    let declared : List TypeSystemDefinition :=
      [.type ⟨"Query", none, [], .object []
        [⟨"a", none, .named "Int", [limit], [⟨"deprecated", []⟩]⟩,
          ⟨"q", none, .named "Query", [], []⟩]⟩]
    let all : List Source := [⟨none, "query Q \x7b q \x7b a \x7d \x7d"⟩]
    ∃ s, Schema.ofDefinitions declared = .ok s ∧
      (∃ c, Catalog.build s = .ok c ∧ (Record.catalog c).Flagged ∧
        (c.types.flatMap (·.fields)).map (fun f =>
          ["isDeprecated", "hasArguments", "hasDefaultValue"].map f.toJson.find?) =
          [[some (.bool true), some (.bool true), some (.bool false)],
            [some (.bool false), some (.bool false), some (.bool false)]]) ∧
      ∃ d, (runFrom (sources ⟨s, false⟩ all) ⟨0, []⟩).1 = .ok d ∧
        (Record.document d).Flagged ∧ (Record.flatDocument d.flatten).Flagged ∧
        ¬ (Record.document { d with hasOperations := false }).Flagged ∧
        (Record.flatDocument { d with hasOperations := false }.flatten).Flagged ∧
        d.operations.map (fun o =>
          ["hasFields", "hasFragmentsSpread", "hasVariables"].map o.toJson.find?) =
          [[some (.bool true), some (.bool false), some (.bool false)]] := by
  intro limit declared all
  obtain ⟨s, hs, hcatalog, hdocument⟩ :
      ∃ s, Schema.ofDefinitions declared = .ok s ∧
        (Catalog.build s).toOption.map (fun c => (c.types.flatMap (·.fields)).map fun f =>
          ["isDeprecated", "hasArguments", "hasDefaultValue"].map f.toJson.find?) =
          some [[some (.bool true), some (.bool true), some (.bool false)],
            [some (.bool false), some (.bool false), some (.bool false)]] ∧
        (runFrom (sources ⟨s, false⟩ all) ⟨0, []⟩).1.toOption.map (fun d =>
          d.operations.map fun o =>
            ["hasFields", "hasFragmentsSpread", "hasVariables"].map o.toJson.find?) =
          some [[some (.bool true), some (.bool false), some (.bool false)]] :=
    ⟨_, rfl, by decide +kernel, by decide +kernel⟩
  obtain ⟨c, hc, hfields⟩ := Option.map_eq_some_iff.mp hcatalog
  obtain ⟨d, hd, hoperations⟩ := Option.map_eq_some_iff.mp hdocument
  rw [toOption_eq_some] at hc hd
  obtain ⟨hbuilt, hread, hstale⟩ := Run.outcomes_flagged ⟨s, false⟩ all ⟨0, []⟩
  obtain ⟨hresolved, hflattened⟩ := hread d hd
  have hparts : ∀ p ∈ (Record.document d).parts, p.Sound := fun p hp r hr =>
    hresolved.kept r (.part hp hr)
  simp only [Record.parts, List.forall_mem_append, List.forall_mem_map] at hparts
  have hsame := hstale { d with hasOperations := false } (fun o ho => (hparts.1 o ho).flagged)
    fun f hf => (hparts.2 f hf).flagged
  refine ⟨s, hs, ⟨c, hc, hbuilt c hc, hfields⟩, d, hd, hresolved, hflattened, fun hwrong => ?_,
    hsame, hoperations⟩
  have hnone : false = !d.operations.isEmpty := (hwrong.kept _ (.self _)).operations_eq
  have hnil : d.operations = [] := by simpa using hnone
  rw [hnil] at hoperations
  cases hoperations

end QueryModel
