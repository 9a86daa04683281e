import QueryModel.Proofs.Flatten.Counting
import QueryModel.Proofs.Schema.Ingestion
import QueryModel.Proofs.Syntax.Names

/-!
# Model names that are names

A model is named after a response key or after the type of an inline fragment, and both are names.
Pascal case drops the underscores of a name, so a key may lose all of its characters or start with a
digit. Then the model has no name that can be used, unless an earlier model has the candidate: an
underscore in front makes a name of whatever is left.
-/

set_option autoImplicit false

namespace QueryModel

open Text

/-- What a model is named after: the response key of a field, or the type of an inline fragment. -/
inductive Origin where
  | key (name : String)
  | condition (type : String)
  deriving DecidableEq

namespace Origin

def name : Origin → String
  | .key name => name
  | .condition type => type

def candidate : Origin → String
  | .key name => pascalCase name
  | .condition type => fragmentCandidate type

/-- After the underscores a letter comes first. For an inline fragment nothing may come either. -/
def usable : Origin → Bool
  | .key name => (leading? name.toList).any isAsciiLetter
  | .condition type => (leading? type.toList).all isAsciiLetter

variable {o : Origin}

theorem nameChar_candidate (h : isName o.name.toList = true) :
    ∀ c ∈ o.candidate.toList, isNameChar c = true := by
  have hpascal := nameChar_pascalChars (isName_chars h)
  cases o with
  | key name =>
    rw [candidate, pascalCase, String.toList_ofList]
    exact hpascal
  | condition type =>
    rw [candidate, fragmentCandidate, pascalCase, String.toList_append, String.toList_ofList,
      List.forall_mem_append]
    exact ⟨hpascal, of_listed (by decide)⟩

theorem isName_candidate (h : isName o.name.toList = true) :
    isName o.candidate.toList = o.usable := by
  cases o with
  | key name =>
    have hchars : ∀ c ∈ name.toList, isNameChar c = true := isName_chars h
    rw [candidate, pascalCase, String.toList_ofList, ← List.append_nil (pascalChars _),
      isName_pascalChars_append hchars (List.forall_mem_nil _), usable]
    cases leading? name.toList <;> rfl
  | condition type =>
    have hchars : ∀ c ∈ type.toList, isNameChar c = true := isName_chars h
    rw [candidate, fragmentCandidate, pascalCase, String.toList_append, String.toList_ofList,
      isName_pascalChars_append hchars (of_listed (by decide)), usable]
    cases leading? type.toList with
    | none => decide
    | some c => rfl

end Origin

mutual

def SelectionItem.origins : SelectionItem → List Origin
  | .field selected _ items =>
    if items.isEmpty then [] else .key selected.name :: originsOf items
  | .inlineFragment onType _ _ _ items => .condition onType :: originsOf items
  | .spread _ _ _ => []

def originsOf : List SelectionItem → List Origin
  | [] => []
  | item :: rest => item.origins ++ originsOf rest

end

def SelectionSet.origins (set : SelectionSet) : List Origin := originsOf set.items

theorem candidatesOf_eq_map : ∀ items, candidatesOf items = (originsOf items).map Origin.candidate
  | [] => by rw [candidatesOf, originsOf, List.map_nil]
  | .field selected hasTypename items :: rest => by
    rw [candidatesOf, originsOf, List.map_append, candidatesOf_eq_map rest,
      SelectionItem.candidates, SelectionItem.origins]
    split
    · rfl
    · rw [candidatesOf_eq_map items]
      rfl
  | .inlineFragment onType directives uses hasTypename items :: rest => by
    rw [candidatesOf, originsOf, List.map_append, candidatesOf_eq_map rest,
      SelectionItem.candidates, SelectionItem.origins, candidatesOf_eq_map items]
    rfl
  | .spread name directives uses :: rest => by
    rw [candidatesOf, originsOf, List.map_append, candidatesOf_eq_map rest]
    rfl

theorem Schema.isName_of_read {source sdl : String} {s : Schema}
    (h : Schema.read source sdl = .ok s) {name : String} {t : TypeDeclaration}
    (ht : s.type? name = some t) : isName t.name.toList = true := by
  rw [Schema.read] at h
  split at h
  · next definitions hread =>
    have hs := Schema.describes_of_ok h
    have hkey : name ∈ s.types.keys := Schema.has_iff.mpr ⟨t, ht⟩
    rw [hs.key_eq name t ht]
    rw [hs.keys_eq, List.mem_append, List.mem_eraseDups] at hkey
    rcases hkey with hdefined | hbuiltin
    · obtain ⟨declared, hdeclared, rfl⟩ := List.mem_map.mp hdefined
      obtain ⟨d, hd, hsome⟩ := List.mem_filterMap.mp hdeclared
      split at hsome
      · obtain rfl := Option.some.inj hsome
        exact Syntax.isName_of_readTypeSystem hread hd
      · contradiction
    · have hnames : ∀ name ∈ builtinScalars, isName name.toList = true := by decide
      exact hnames name (List.mem_of_mem_filter hbuiltin)
  · contradiction

theorem isName_of_originsOf {s : Schema}
    (htypes : ∀ name t, s.type? name = some t → isName t.name.toList = true)
    {parent : TypeDeclaration} (hparent : isName parent.name.toList = true)
    {written : List Syntax.Selection} {set : SelectionSet}
    (hkeys : ∀ key ∈ Syntax.keysOf written, isName key.toList = true)
    (h : buildItems s parent written = .ok set) :
    ∀ o ∈ originsOf set.items, isName o.name.toList = true := by
  induction written using selections_induction generalizing parent set with
  | nil =>
    obtain rfl := Except.ok.inj h
    simp [SelectionSet.empty, originsOf]
  | field label name arguments directives items rest ihItems ihRest =>
    rw [Syntax.keysOf, Syntax.Selection.keys, List.forall_mem_append, List.forall_mem_cons] at hkeys
    obtain ⟨⟨hkey, hinside⟩, hafter⟩ := hkeys
    obtain ⟨built, tail, hbuilt, htail, rfl⟩ := buildItems_cons_eq_ok.mp h
    by_cases hname : name = typenameField
    · subst hname
      rw [buildItem_typename] at hbuilt
      obtain rfl := Except.ok.inj hbuilt
      have hrest := ihRest hparent hafter htail
      exact hrest
    · obtain ⟨declared, type, inner, resolved, -, htype, hinner, -, rfl⟩ :=
        (buildItem_field_eq_ok hname).mp hbuilt
      rw [SelectionSet.add, originsOf, SelectionItem.origins, List.forall_mem_append]
      refine ⟨?_, ihRest hparent hafter htail⟩
      split
      · simp
      · rw [List.forall_mem_cons]
        exact ⟨hkey, ihItems (htypes _ type htype) hinside hinner⟩
  | inlineFragment condition directives items rest ihItems ihRest =>
    rw [Syntax.keysOf, Syntax.Selection.keys, List.forall_mem_append] at hkeys
    obtain ⟨built, tail, hbuilt, htail, rfl⟩ := buildItems_cons_eq_ok.mp h
    obtain ⟨type, inner, htype, hinner, rfl⟩ := buildItem_inlineFragment_eq_ok.mp hbuilt
    have hcondition : isName type.name.toList = true := by
      cases condition with
      | some name => exact htypes name type htype
      | none =>
        obtain rfl : type = parent := htype
        exact hparent
    rw [SelectionSet.add, originsOf, SelectionItem.origins, List.forall_mem_append,
      List.forall_mem_cons]
    exact ⟨⟨hcondition, ihItems hcondition hkeys.1 hinner⟩, ihRest hparent hkeys.2 htail⟩
  | spread name directives rest ihRest =>
    rw [Syntax.keysOf, Syntax.Selection.keys, List.nil_append] at hkeys
    obtain ⟨built, tail, hbuilt, htail, rfl⟩ := buildItems_cons_eq_ok.mp h
    obtain rfl := Except.ok.inj hbuilt
    rw [SelectionSet.add, originsOf, SelectionItem.origins, List.nil_append]
    exact ihRest hparent hkeys htail

section Underscores

variable {candidate : String}

theorem nameChar_underscored (h : ∀ c ∈ candidate.toList, isNameChar c = true) (k : Nat) :
    ∀ c ∈ (underscored k candidate).toList, isNameChar c = true := by
  rw [toList_underscored, List.forall_mem_append]
  refine ⟨fun c hc => ?_, h⟩
  rw [List.eq_of_mem_replicate hc]
  decide

theorem isName_underscored (h : ∀ c ∈ candidate.toList, isNameChar c = true) (k : Nat) :
    isName (underscored k candidate).toList = true ↔ 0 < k ∨ isName candidate.toList = true := by
  cases k with
  | zero => simp [underscored]
  | succ k =>
    have hchars := nameChar_underscored h (k + 1)
    rw [toList_underscored, List.replicate_succ, List.cons_append, List.forall_mem_cons] at hchars
    rw [toList_underscored, List.replicate_succ, List.cons_append, isName,
      List.all_eq_true.mpr hchars.2]
    simp [isNameStart]

end Underscores

namespace SelectionSet

variable {set : SelectionSet} {k : Nat} {o : Origin} {m : Model}

theorem modelTypes_eq (set : SelectionSet) : set.flatten.2.map Model.modelType =
    (set.origins.map Origin.candidate).mapIdx fun k candidate =>
      underscored ((reservedNames ++ (set.origins.map Origin.candidate).take k).count candidate)
        candidate := by
  rw [origins, ← candidatesOf_eq_map, ← countedNames_eq_mapIdx]
  exact flatten_modelTypes set

theorem length_origins (set : SelectionSet) : set.origins.length = set.flatten.2.length := by
  have hlength := congrArg List.length (modelTypes_eq set)
  simpa using hlength.symm

theorem modelType_of_origin (ho : set.origins[k]? = some o) (hm : set.flatten.2[k]? = some m) :
    m.modelType = underscored
      ((reservedNames ++ (set.origins.take k).map Origin.candidate).count o.candidate)
      o.candidate := by
  have hname := congrArg (·[k]?) (modelTypes_eq set)
  simpa [ho, hm] using hname

theorem exists_origin (hm : m ∈ set.flatten.2) :
    ∃ (k : Nat) (o : Origin), set.origins[k]? = some o ∧ set.flatten.2[k]? = some m := by
  obtain ⟨k, hk⟩ := List.mem_iff_getElem?.mp hm
  have hlt : k < set.flatten.2.length := (List.getElem?_eq_some_iff.mp hk).1
  rw [← length_origins] at hlt
  exact ⟨k, _, List.getElem?_eq_getElem hlt, hk⟩

/-- The name of a model is a name if that of its origin can be used, and from the second model of
its candidate on. -/
theorem isName_modelType (hnames : ∀ o ∈ set.origins, isName o.name.toList = true)
    (ho : set.origins[k]? = some o) (hm : set.flatten.2[k]? = some m) :
    isName m.modelType.toList = true ↔
      o.usable = true ∨ o.candidate ∈ (set.origins.take k).map Origin.candidate := by
  have hname := hnames o (List.mem_of_getElem? ho)
  have hreserved : ∀ name ∈ reservedNames, isName name.toList = true := by decide
  rw [modelType_of_origin ho hm, isName_underscored (Origin.nameChar_candidate hname),
    List.count_pos_iff, List.mem_append, Origin.isName_candidate hname]
  constructor
  · rintro ((hroot | hearlier) | husable)
    · rw [← Origin.isName_candidate hname]
      exact .inl (hreserved _ hroot)
    · exact .inr hearlier
    · exact .inl husable
  · rintro (husable | hearlier)
    · exact .inr husable
    · exact .inl (.inr hearlier)

/-- What is selected in a document that is read, on a type of a schema that is read, is named after
names, and the names of its models have characters of names only. A model has a name that is one if
its origin can be used or an earlier model has its candidate, and in no other case. So all models
have names if all origins can be used. -/
theorem flatten_modelTypes_usable {source sdl text name : String} {s : Schema}
    {written : List Syntax.Definition} {d : Syntax.Definition} {parent : TypeDeclaration}
    (hschema : Schema.read source sdl = .ok s) (hread : Syntax.readExecutable text = .ok written)
    (hd : d ∈ written) (hparent : s.type? name = some parent)
    (hbuild : build s parent d.items = .ok set) :
    set.origins.length = set.flatten.2.length ∧
    (∀ o ∈ set.origins, NameText o.name.toList) ∧
    (∀ m ∈ set.flatten.2, ∀ c ∈ m.modelType.toList, isNameChar c = true) ∧
    (∀ k o m, set.origins[k]? = some o → set.flatten.2[k]? = some m →
      (NameText m.modelType.toList ↔
        o.usable = true ∨ o.candidate ∈ (set.origins.take k).map Origin.candidate)) ∧
    ((∀ o ∈ set.origins, o.usable = true) → ∀ m ∈ set.flatten.2, NameText m.modelType.toList) := by
  have hnames : ∀ o ∈ set.origins, isName o.name.toList = true :=
    isName_of_originsOf (fun _ _ ht => Schema.isName_of_read hschema ht)
      (Schema.isName_of_read hschema hparent) (Syntax.isName_of_readExecutable hread hd) hbuild
  refine ⟨length_origins set, fun o ho => isName_iff_nameText.mp (hnames o ho), ?_, ?_, ?_⟩
  · intro m hm
    obtain ⟨k, o, ho, hm⟩ := exists_origin hm
    rw [modelType_of_origin ho hm]
    exact nameChar_underscored
      (Origin.nameChar_candidate (hnames o (List.mem_of_getElem? ho))) _
  · intro k o m ho hm
    rw [← isName_iff_nameText]
    exact isName_modelType hnames ho hm
  · intro husable m hm
    obtain ⟨k, o, ho, hm⟩ := exists_origin hm
    rw [← isName_iff_nameText, isName_modelType hnames ho hm]
    exact .inl (husable o (List.mem_of_getElem? ho))

def ofTexts? (sdl text type : String) : Option SelectionSet := do
  let s ← (Schema.read "" sdl).toOption
  let parent ← s.type? type
  let written ← (Syntax.readExecutable text).toOption
  let d ← written.head?
  (build s parent d.items).toOption

theorem exists_of_ofTexts? {sdl text type : String} (h : ofTexts? sdl text type = some set) :
    ∃ s written d parent, Schema.read "" sdl = .ok s ∧ Syntax.readExecutable text = .ok written ∧
      d ∈ written ∧ s.type? type = some parent ∧ build s parent d.items = .ok set := by
  have hok {ε α : Type} {x : Except ε α} {a : α} (hx : x.toOption = some a) : x = .ok a := by
    cases x with
    | error e => contradiction
    | ok b => exact congrArg Except.ok (Option.some.inj hx)
  simp only [ofTexts?, Option.bind_eq_bind, Option.bind_eq_some_iff] at h
  obtain ⟨s, hs, parent, hparent, written, hwritten, d, hd, hset⟩ := h
  exact ⟨s, written, d, parent, hok hs, hok hwritten, List.mem_of_head? hd, hparent, hok hset⟩

/-- Of three users, one has a name by its key, one has none, and one gets a name since the one
before it has its candidate. -/
theorem flatten_modelTypes_usable_mixed :
    let sdl := "type Query \x7b user: User \x7d type User \x7b id: ID \x7d"
    let text := "\x7b user \x7b id \x7d _: user \x7b id \x7d ___: user \x7b id \x7d \x7d"
    ∃ s written d parent set, Schema.read "" sdl = .ok s ∧
      Syntax.readExecutable text = .ok written ∧ d ∈ written ∧ s.type? "Query" = some parent ∧
      build s parent d.items = .ok set ∧ set.origins = [.key "user", .key "_", .key "___"] ∧
      ∀ (k : Nat) m, set.flatten.2[k]? = some m → (NameText m.modelType.toList ↔ k ≠ 1) := by
  intro sdl text
  have hrun : (ofTexts? sdl text "Query").map origins =
      some [.key "user", .key "_", .key "___"] := by decide +kernel
  obtain ⟨set, hset, horigins⟩ := Option.map_eq_some_iff.mp hrun
  obtain ⟨s, written, d, parent, hs, hwritten, hd, hparent, hbuild⟩ := exists_of_ofTexts? hset
  obtain ⟨hlength, -, -, hname, -⟩ := flatten_modelTypes_usable hs hwritten hd hparent hbuild
  refine ⟨s, written, d, parent, set, hs, hwritten, hd, hparent, hbuild, horigins, ?_⟩
  rw [horigins] at hlength hname
  intro k m hm
  have hk : k < 3 := by
    have hlt := (List.getElem?_eq_some_iff.mp hm).1
    rwa [← hlength] at hlt
  obtain rfl | rfl | rfl : k = 0 ∨ k = 1 ∨ k = 2 := by omega
  · rw [hname 0 _ m rfl hm]
    decide +kernel
  · rw [hname 1 _ m rfl hm]
    decide +kernel
  · rw [hname 2 _ m rfl hm]
    decide +kernel

/-- The response key `_` leaves its model without a name, and the key `_1` gives one that starts
with a digit. -/
theorem flatten_modelTypes_not_names :
    let sdl := "type Query \x7b user: User \x7d type User \x7b id: ID \x7d"
    let text := "\x7b _: user \x7b id \x7d _1: user \x7b id \x7d \x7d"
    ∃ s written d parent set, Schema.read "" sdl = .ok s ∧
      Syntax.readExecutable text = .ok written ∧ d ∈ written ∧ s.type? "Query" = some parent ∧
      build s parent d.items = .ok set ∧ set.flatten.2.map Model.modelType = ["", "1"] ∧
      ∀ m ∈ set.flatten.2, ¬ NameText m.modelType.toList := by
  intro sdl text
  have hrun : (ofTexts? sdl text "Query").map (·.flatten.2.map Model.modelType) =
      some ["", "1"] := by decide +kernel
  obtain ⟨set, hset, hmodels⟩ := Option.map_eq_some_iff.mp hrun
  obtain ⟨s, written, d, parent, hs, hwritten, hd, hparent, hbuild⟩ := exists_of_ofTexts? hset
  refine ⟨s, written, d, parent, set, hs, hwritten, hd, hparent, hbuild, hmodels, fun m hm => ?_⟩
  have hunnamed : ∀ name ∈ ["", "1"], ¬ isName name.toList = true := by decide
  rw [← isName_iff_nameText]
  exact hunnamed m.modelType (hmodels ▸ List.mem_map_of_mem hm)

end SelectionSet

end QueryModel
