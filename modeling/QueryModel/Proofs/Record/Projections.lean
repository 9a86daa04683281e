import Mathlib.Logic.ExistsUnique
import QueryModel.Proofs.Record.Basic

/-!
# Lists by kind

A level is written with all its items and again with the items of each kind. At every depth the
lists by kind are what the list of all items tells: the entries of the kind in order, without the
tag, and each entry is of one kind.
-/

set_option autoImplicit false

namespace QueryModel

namespace ItemKind

def listKey : ItemKind → String
  | .field => "fields"
  | .inlineFragment => "inlineFragments"
  | .spread => "fragmentsSpread"

def flagKey : ItemKind → String
  | .field => "hasFields"
  | .inlineFragment => "hasInlineFragments"
  | .spread => "hasFragmentsSpread"

theorem label_injective {a b : ItemKind} (h : a.label = b.label) : a = b := by
  cases a <;> cases b <;> first | rfl | exact absurd h (by decide)

end ItemKind

namespace Json

def without (key : String) (j : Json) : Json := .object (j.members.filter fun m => m.1 ≠ key)

def IsTagged (kind : ItemKind) (entry : Json) : Prop :=
  entry.find? "kind" = some (.string kind.label)

instance (kind : ItemKind) : DecidablePred (IsTagged kind) :=
  fun entry => inferInstanceAs (Decidable (entry.find? "kind" = some (.string kind.label)))

def picked (kind : ItemKind) (entries : List Json) : List Json :=
  (entries.filter fun e => e.IsTagged kind).map (without "kind")

/-- The object is a level with the entries, and its other lists are the entries of each kind. -/
structure Projects (j : Json) (entries : List Json) : Prop where
  distinct : (Entries.keys j.members).Nodup
  all : j.find? "selectionSet" = some (.array entries)
  list : ∀ kind : ItemKind, j.find? kind.listKey = some (.array (picked kind entries))
  flag : ∀ kind : ItemKind, j.find? kind.flagKey = some (.bool !(picked kind entries).isEmpty)
  one : ∀ e ∈ entries, ∃! kind : ItemKind, e.IsTagged kind

/-- The second object is the first, or that of a field or inline fragment inside it, found in
either list. -/
inductive Level : Json → Json → Prop where
  | self (j : Json) : Level j j
  | tagged {j e k : Json} {kind : ItemKind} {entries : List Json}
      (hentries : j.find? "selectionSet" = some (.array entries)) (he : e ∈ entries)
      (htag : e.IsTagged kind) (hkind : kind ≠ .spread) (h : Level e k) : Level j k
  | listed {j e k : Json} {kind : ItemKind} {entries : List Json}
      (hentries : j.find? kind.listKey = some (.array entries)) (he : e ∈ entries)
      (hkind : kind ≠ .spread) (h : Level e k) : Level j k

end Json

namespace SelectionItem

def tagged (i : SelectionItem) : Json := ItemRecord.tagged (i.kind, i.members)

def plain (i : SelectionItem) : Json := ItemRecord.plain (i.kind, i.members)

theorem isTagged_tagged {i : SelectionItem} {kind : ItemKind} :
    i.tagged.IsTagged kind ↔ i.kind = kind := by
  have hfind : i.tagged.find? "kind" = some (.string i.kind.label) := by
    simp [tagged, ItemRecord.tagged, Json.find?, Json.members]
  rw [Json.IsTagged, hfind, Option.some_inj, Json.string.injEq]
  exact ⟨ItemKind.label_injective, congrArg ItemKind.label⟩

theorem without_kind_tagged (i : SelectionItem) : i.tagged.without "kind" = i.plain := by
  have hkeys := Record.kind_keys_nodup (.item i)
  rw [← Record.keys_toJson] at hkeys
  have hother : ∀ m ∈ i.members, m.1 ≠ "kind" := by
    intro m hm heq
    exact (List.nodup_cons.mp hkeys).1 (heq ▸ List.mem_map_of_mem hm)
  have hrest : i.members.filter (fun m => m.1 ≠ "kind") = i.members :=
    List.filter_eq_self.mpr fun m hm => decide_eq_true (hother m hm)
  rw [Json.without, tagged, ItemRecord.tagged, Json.members, List.filter_cons_of_neg (by simp),
    hrest, plain, ItemRecord.plain]

end SelectionItem

section Levels

variable {items : List SelectionItem}

theorem picked_tagged (kind : ItemKind) (items : List SelectionItem) :
    Json.picked kind (items.map SelectionItem.tagged) =
      ItemRecord.ofKind kind (itemRecords items) := by
  rw [Json.picked, ItemRecord.ofKind, itemRecords_eq, List.filter_map, List.filter_map,
    List.map_map, List.map_map]
  have hsame : ((fun e : Json => decide (e.IsTagged kind)) ∘ SelectionItem.tagged) =
      (fun r : ItemRecord => decide (r.1 = kind)) ∘ fun i => (i.kind, i.members) := by
    funext i
    exact decide_eq_decide.mpr SelectionItem.isTagged_tagged
  rw [hsame]
  exact List.map_congr_left fun i _ => i.without_kind_tagged

theorem mem_picked_tagged {kind : ItemKind} {j : Json} :
    j ∈ Json.picked kind (items.map SelectionItem.tagged) ↔
      ∃ i ∈ items, i.kind = kind ∧ j = i.plain := by
  simp only [Json.picked, List.mem_map, List.mem_filter, decide_eq_true_eq]
  constructor
  · rintro ⟨_, ⟨⟨i, hi, rfl⟩, htag⟩, rfl⟩
    exact ⟨i, hi, SelectionItem.isTagged_tagged.mp htag, i.without_kind_tagged⟩
  · rintro ⟨i, hi, hkind, rfl⟩
    exact ⟨i.tagged, ⟨⟨i, hi, rfl⟩, SelectionItem.isTagged_tagged.mpr hkind⟩,
      i.without_kind_tagged⟩

structure IsLevelOf (items : List SelectionItem) (j : Json) : Prop where
  distinct : (Entries.keys j.members).Nodup
  level : ∃ hasTypename, ItemRecord.levelMembers hasTypename (itemRecords items) ⊆ j.members

theorem IsLevelOf.projects {j : Json} (h : IsLevelOf items j) :
    j.Projects (items.map SelectionItem.tagged) := by
  obtain ⟨hasTypename, hlevel⟩ := h.level
  have hfind {key : String} {value : Json}
      (hmem : (key, value) ∈ ItemRecord.levelMembers hasTypename (itemRecords items)) :
      j.find? key = some value := Json.find?_of_mem h.distinct (hlevel hmem)
  refine ⟨h.distinct, ?_, fun kind => ?_, fun kind => ?_, ?_⟩
  · apply hfind
    rw [ItemRecord.levelMembers, itemRecords_eq, List.map_map]
    exact List.mem_cons_self
  · rw [picked_tagged]
    apply hfind
    cases kind <;> simp [ItemRecord.levelMembers, ItemKind.listKey]
  · rw [picked_tagged]
    apply hfind
    cases kind <;> simp [ItemRecord.levelMembers, ItemKind.flagKey]
  · intro e he
    obtain ⟨i, -, rfl⟩ := List.mem_map.mp he
    exact ⟨i.kind, SelectionItem.isTagged_tagged.mpr rfl,
      fun kind hkind => (SelectionItem.isTagged_tagged.mp hkind).symm⟩

theorem Record.WrittenAs.isLevelOf {r : Record} {j : Json} (h : r.WrittenAs j)
    (hasTypename : Bool)
    (hlevel : ItemRecord.levelMembers hasTypename (itemRecords items) ⊆ r.toJson.members) :
    IsLevelOf items j := by
  refine ⟨h.keys_nodup, hasTypename, ?_⟩
  cases h with
  | plain => exact hlevel
  | tagged i => exact List.subset_cons_of_subset _ hlevel

theorem SelectionItem.exists_isLevelOf {i : SelectionItem} (hkind : i.kind ≠ .spread) {j : Json}
    (h : (Record.item i).WrittenAs j) : ∃ below, IsLevelOf below j := by
  cases i with
  | field selected hasTypename below =>
    refine ⟨below, h.isLevelOf hasTypename ?_⟩
    change _ ⊆ SelectionItem.members _
    rw [SelectionItem.members]
    exact List.subset_append_right _ _
  | inlineFragment onType directives uses hasTypename below =>
    refine ⟨below, h.isLevelOf hasTypename ?_⟩
    change _ ⊆ SelectionItem.members _
    rw [SelectionItem.members]
    exact List.subset_append_right _ _
  | spread name directives uses => exact absurd rfl hkind

theorem IsLevelOf.of_level {j k : Json} (h : j.Level k) :
    ∀ {items : List SelectionItem}, IsLevelOf items j → ∃ below, IsLevelOf below k := by
  induction h with
  | self j => exact fun hj => ⟨_, hj⟩
  | tagged hentries he htag hkind _ ih =>
    intro items hj
    obtain rfl : _ = items.map SelectionItem.tagged := by
      simpa [hj.projects.all] using hentries.symm
    obtain ⟨i, -, rfl⟩ := List.mem_map.mp he
    obtain rfl := SelectionItem.isTagged_tagged.mp htag
    obtain ⟨below, hbelow⟩ := i.exists_isLevelOf hkind (.tagged i)
    exact ih hbelow
  | @listed _ _ _ kind _ hentries he hkind _ ih =>
    intro items hj
    obtain rfl : _ = Json.picked kind (items.map SelectionItem.tagged) := by
      simpa [hj.projects.list kind] using hentries.symm
    obtain ⟨i, -, rfl, rfl⟩ := mem_picked_tagged.mp he
    obtain ⟨below, hbelow⟩ := i.exists_isLevelOf hkind (.plain (.item i))
    exact ih hbelow

end Levels

/-- The object shows the items, and every level in it agrees with its own items. -/
structure Json.ShowsLevels (items : List SelectionItem) (j : Json) : Prop where
  here : j.Projects (items.map SelectionItem.tagged)
  below : ∀ k, j.Level k → ∃ inner : List SelectionItem, k.Projects (inner.map SelectionItem.tagged)

theorem IsLevelOf.showsLevels {items : List SelectionItem} {j : Json} (h : IsLevelOf items j) :
    j.ShowsLevels items where
  here := h.projects
  below k hk := by
    obtain ⟨inner, hinner⟩ := IsLevelOf.of_level hk h
    exact ⟨inner, hinner.projects⟩

theorem SelectionSet.isLevelOf_toJson (set : SelectionSet) : IsLevelOf set.items set.toJson where
  distinct := by
    change levelKeys.Nodup
    decide
  level := ⟨set.hasTypename, List.Subset.refl _⟩

theorem Operation.level_subset (o : Operation) : o.set.members ⊆ o.members := by
  intro m hm
  simp [Operation.members, hm]

theorem Fragment.level_subset (f : Fragment) : f.set.members ⊆ f.members := by
  intro m hm
  simp [Fragment.members, hm]

/-- In every selection, operation, fragment and model, as they are resolved and as they are
flattened, the lists by kind are at every depth the entries of all items by their tags. -/
theorem projections_follow_entries (set : SelectionSet) (o : Operation) (f : Fragment) (m : Model)
    (fo : FlatOperation) (ff : FlatFragment) :
    set.toJson.ShowsLevels set.items ∧ o.toJson.ShowsLevels o.set.items ∧
      f.toJson.ShowsLevels f.set.items ∧ m.toJson.ShowsLevels m.set.items ∧
      fo.toJson.ShowsLevels fo.operation.set.items ∧
      ff.toJson.ShowsLevels ff.fragment.set.items := by
  refine ⟨set.isLevelOf_toJson.showsLevels, ?_, ?_, ?_, ?_, ?_⟩
  · exact ((Record.WrittenAs.plain (.operation o)).isLevelOf _ o.level_subset).showsLevels
  · exact ((Record.WrittenAs.plain (.fragment f)).isLevelOf _ f.level_subset).showsLevels
  · exact ((Record.WrittenAs.plain (.model m)).isLevelOf _
      (List.subset_append_right _ _)).showsLevels
  · exact ((Record.WrittenAs.plain (.flatOperation fo)).isLevelOf _
      (List.subset_append_of_subset_left _ fo.operation.level_subset)).showsLevels
  · exact ((Record.WrittenAs.plain (.flatFragment ff)).isLevelOf _
      (List.subset_append_of_subset_left _ ff.fragment.level_subset)).showsLevels

end QueryModel
