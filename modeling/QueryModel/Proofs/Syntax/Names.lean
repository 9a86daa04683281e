import QueryModel.Proofs.Syntax.ExecutableShapes
import QueryModel.Proofs.Syntax.Layout
import QueryModel.Proofs.Syntax.TypeSystemShapes
import QueryModel.Proofs.Text.Characters

/-!
# Names that are read

The name tokens of a text are spelled as names, and readers take tokens from the front without
changing those that are left. So what a reader takes from a name token into its value is a name. The
response keys of a document and the names of the types of a schema come from such tokens.
-/

set_option autoImplicit false

namespace QueryModel.Syntax

open QueryModel.Text

def Tokens.Spelled (ts : Tokens) : Prop :=
  ∀ t ∈ ts.tokens, t.kind = .name → isName t.text.toList = true

theorem spelled_nil (p : Position) (fault : Option LexicalFault) :
    (⟨[], p, fault⟩ : Tokens).Spelled := by
  intro t ht
  simp [Tokens.tokens] at ht

theorem Tokens.Spelled.rest {ts us : Tokens} {used : List Token} (h : ts.Spelled)
    (htokens : ts.tokens = used ++ us.tokens) : us.Spelled := by
  intro t ht
  apply h t
  rw [htokens]
  exact List.mem_append_right used ht

theorem scan_spelled (levels : Nat) (p : Position) (cs : List Char) :
    (scan levels p cs).Spelled := by
  induction hn : cs.length using Nat.strongRecOn generalizing cs levels p with
  | ind n ih =>
    subst hn
    have hshorter := length_skipIgnored false p cs
    rcases hskip : skipIgnored false p cs with ⟨q, _ | ⟨c, rest⟩⟩
    · rw [scan_end hskip]
      exact spelled_nil q none
    · rw [hskip, List.length_cons] at hshorter
      rw [scan_token hskip]
      cases hlex : lexeme levels c rest with
      | error fault => exact spelled_nil q (some fault)
      | ok r =>
        obtain ⟨kind, n⟩ := r
        obtain ⟨w, rest, rfl, rfl, hw, -, -⟩ := lexeme_sound hlex
        rw [List.length_append] at hshorter
        simp only [List.take_left, List.drop_left]
        intro t ht hkind
        rcases List.mem_cons.mp ht with rfl | ht
        · rw [String.toList_ofList]
          change kind = .name at hkind
          subst hkind
          cases hw with
          | name hname => exact hname
          | number hc hcs hnumber => simpa using number_kind hnumber
        · exact ih rest.length (by omega) _ _ rest rfl t ht hkind

namespace Reader

variable {α β : Type}

/-- From tokens that spell their names the reader gives values of the property, and leaves such
tokens. -/
def Gives (P : α → Prop) (r : Reader α) : Prop :=
  ∀ ts a us, ts.Spelled → r ts = .ok (a, us) → P a ∧ us.Spelled

section Rules

variable {P : α → Prop} {Q : β → Prop} {x : Reader α} {f : α → Reader β}

theorem gives_pure {a : α} (h : P a) : Gives P (pure a) := by
  rintro ts _ _ hts ⟨⟩
  exact ⟨h, hts⟩

theorem gives_error (h : ∀ ts a us, x ts ≠ .ok (a, us)) : Gives P x :=
  fun ts a us _ hx => absurd hx (h ts a us)

theorem gives_unexpected : Gives P unexpected :=
  gives_error fun _ _ _ h => by simp [unexpected] at h

theorem gives_missing : Gives P missing :=
  gives_error fun _ _ _ h => by simp [missing] at h

theorem gives_fail (failure : Failure) : Gives P (fail failure) :=
  gives_error fun _ _ _ h => by simp [fail] at h

theorem Gives.bind (hx : Gives P x) (hf : ∀ a, P a → Gives Q (f a)) : Gives Q (x >>= f) := by
  intro ts b us hts hrun
  obtain ⟨a, middle, ha, hb⟩ := bind_ok.mp hrun
  obtain ⟨hP, hmiddle⟩ := hx ts a middle hts ha
  exact hf a hP middle b us hmiddle hb

theorem Gives.any (hx : Gives P x) (hf : ∀ a, Gives Q (f a)) : Gives Q (x >>= f) :=
  hx.bind fun a _ => hf a

theorem gives_ite {c : Prop} [Decidable c] {y : Reader α} (hx : Gives P x) (hy : Gives P y) :
    Gives P (if c then x else y) := by
  split
  · exact hx
  · exact hy

theorem gives_of_reads {free : Bool} {R : α → List Token → Prop} {x' : Reader α}
    (h : Reads free (fun _ => True) R x x') : Gives (fun _ => True) x := by
  intro ts a us hts hx
  obtain ⟨used, htokens, -⟩ := h ts a us trivial hx
  exact ⟨trivial, hts.rest htokens⟩

theorem gives_name : Gives (fun n => isName n.toList = true) name := by
  intro ts n us hts hn
  obtain ⟨used, htokens, -, rfl, -⟩ := takes_name ts n us trivial hn
  exact ⟨hts (word n) (by simp [htokens]) rfl, hts.rest htokens⟩

theorem gives_advance : Gives (fun _ => True) advance := by
  rintro ts ⟨⟩ us hts hadvance
  rw [advance_run] at hadvance
  obtain ⟨-, rfl⟩ := Prod.mk.inj (Except.ok.inj hadvance)
  refine ⟨trivial, fun t ht => hts t ?_⟩
  rw [Tokens.tokens, List.map_drop] at ht
  exact List.mem_of_mem_drop ht

theorem gives_next? : Gives (fun _ => True) next? := by
  intro ts o us hts hnext
  rw [next?_run] at hnext
  obtain ⟨-, rfl⟩ := Prod.mk.inj (Except.ok.inj hnext)
  exact ⟨trivial, hts⟩

theorem gives_position : Gives (fun _ => True) position := by
  intro ts p us hts hposition
  obtain ⟨q, hq⟩ := position_run ts
  obtain ⟨-, rfl⟩ := Prod.mk.inj (Except.ok.inj (hq.symm.trans hposition))
  exact ⟨trivial, hts⟩

theorem gives_isNext (t : Token) : Gives (fun _ => True) (isNext t) :=
  gives_of_reads (takes_isNext t)

theorem gives_accept (t : Token) : Gives (fun _ => True) (accept t) :=
  gives_of_reads (takes_accept t)

theorem gives_expect (t : Token) : Gives (fun _ => True) (expect t) :=
  gives_of_reads (takes_expect t)

end Rules

section Loops

variable {P : α → Prop} {item : Reader α}

theorem gives_itemsUntil (close : Token) (h : Gives P item) (n : Nat) :
    Gives (fun as => ∀ a ∈ as, P a) (itemsUntil close item n) := by
  induction n with
  | zero => exact gives_unexpected
  | succ n ih =>
    refine (gives_accept close).any fun closed => ?_
    refine gives_ite (gives_pure (by simp)) (gives_next?.any fun o => ?_)
    refine gives_ite (Gives.bind (P := fun _ => False) gives_unexpected fun _ h => h.elim) ?_
    refine h.bind fun a ha => ih.bind fun as has => gives_pure ?_
    exact List.forall_mem_cons.mpr ⟨ha, has⟩

theorem gives_someBetween (opening close : Token) (h : Gives P item) :
    Gives (fun as => ∀ a ∈ as, P a) (someBetween opening close item) := by
  refine (gives_expect opening).any fun _ => h.bind fun a ha => ?_
  have hrest : Gives (fun as => ∀ a ∈ as, P a) (manyUntil close item) := by
    intro ts as us hts hrun
    rw [manyUntil_run] at hrun
    exact gives_itemsUntil close h _ ts as us hts hrun
  exact hrest.bind fun as has => gives_pure (List.forall_mem_cons.mpr ⟨ha, has⟩)

theorem gives_untilEnd (h : Gives P item) (n : Nat) :
    Gives (fun as => ∀ a ∈ as, P a) (untilEnd item n) := by
  induction n with
  | zero => exact gives_unexpected
  | succ n ih =>
    intro ts as us hts hrun
    by_cases htokens : ts.tokens = []
    · obtain ⟨rfl, hfault⟩ := fault_of_untilEnd hrun htokens
      rw [untilEnd_end htokens hfault] at hrun
      obtain ⟨-, rfl⟩ := Prod.mk.inj (Except.ok.inj hrun)
      exact ⟨by simp, hts⟩
    · obtain ⟨a, middle, more, ha, hmore, rfl⟩ := (untilEnd_item htokens).mp hrun
      obtain ⟨hP, hmiddle⟩ := h ts a middle hts ha
      obtain ⟨hrest, hus⟩ := ih middle more us hmiddle hmore
      exact ⟨List.forall_mem_cons.mpr ⟨hP, hrest⟩, hus⟩

theorem forall_mem_of_read {text : String} {as : List α} (h : Gives P item)
    (hread : (document item).read text = .ok as) : ∀ a ∈ as, P a := by
  rw [read] at hread
  cases hrun : document item (Tokens.ofText text) with
  | error failure => simp [hrun, Except.map] at hread
  | ok r =>
    obtain ⟨items, us⟩ := r
    rw [hrun] at hread
    obtain rfl : items = as := Except.ok.inj hread
    obtain ⟨a, middle, more, ha, hmore, rfl⟩ := document_ok.mp hrun
    obtain ⟨hP, hmiddle⟩ := h _ a middle (scan_spelled _ _ _) ha
    exact List.forall_mem_cons.mpr ⟨hP, (gives_untilEnd h _ middle more us hmiddle hmore).1⟩

end Loops

end Reader

mutual

def Selection.keys : Selection → List String
  | .field label name _ _ items => label.getD name :: keysOf items
  | .inlineFragment _ _ items => keysOf items
  | .spread _ _ => []

def keysOf : List Selection → List String
  | [] => []
  | selection :: rest => selection.keys ++ keysOf rest

end

def Selection.Keyed (selection : Selection) : Prop :=
  ∀ key ∈ selection.keys, isName key.toList = true

theorem keysOf_eq_flatMap (selections : List Selection) :
    keysOf selections = selections.flatMap Selection.keys := by
  induction selections with
  | nil => rfl
  | cons selection rest ih => rw [keysOf, ih, List.flatMap_cons]

theorem isName_of_keysOf {selections : List Selection} (h : ∀ w ∈ selections, w.Keyed) :
    ∀ key ∈ keysOf selections, isName key.toList = true := by
  intro key hkey
  rw [keysOf_eq_flatMap] at hkey
  obtain ⟨w, hw, hkey⟩ := List.mem_flatMap.mp hkey
  exact h w hw key hkey

namespace Reader

section Executable

variable {nested : Reader (List Selection)}

abbrev GivesKeyed (r : Reader (List Selection)) : Prop := Gives (fun ws => ∀ w ∈ ws, w.Keyed) r

theorem gives_body {r : Reader Selection} (h : Gives Selection.Keyed r) : GivesKeyed (body r) :=
  (gives_isNext _).any fun _ => gives_ite (gives_someBetween _ _ h) gives_missing

theorem keyed_field {label : Option String} {name : String} {args : List (String × Value)}
    {dirs : List Directive} {items : List Selection}
    (hkey : isName (label.getD name).toList = true) (hitems : ∀ w ∈ items, w.Keyed) :
    (Selection.field label name args dirs items).Keyed := by
  rw [Selection.Keyed, Selection.keys, List.forall_mem_cons]
  exact ⟨hkey, isName_of_keysOf hitems⟩

theorem gives_fieldOf (h : GivesKeyed nested) : Gives Selection.Keyed (fieldOf nested) := by
  have hrest (label : Option String) (name : String)
      (hkey : isName (label.getD name).toList = true) :
      Gives Selection.Keyed (arguments >>= fun args => directives >>= fun dirs =>
        isNext (sign "\x7b") >>= fun b =>
          if b then nested >>= fun items => pure (.field label name args dirs items)
          else pure (.field label name args dirs [])) :=
    (gives_of_reads arguments_encloses).any fun args =>
      (gives_of_reads directives_encloses).any fun dirs => (gives_isNext _).any fun b =>
        gives_ite (h.bind fun items hitems => gives_pure (keyed_field hkey hitems))
          (gives_pure (keyed_field hkey (by simp)))
  refine gives_name.bind fun first hfirst => (gives_accept _).any fun b => ?_
  cases b with
  | false => exact hrest none first hfirst
  | true => exact gives_name.any fun n => hrest (some first) n hfirst

theorem gives_spreadOf (h : GivesKeyed nested) : Gives Selection.Keyed (spreadOf nested) := by
  have hinline (condition : Option String) : Gives Selection.Keyed (directives >>= fun dirs =>
      nested >>= fun items => pure (Selection.inlineFragment condition dirs items)) :=
    (gives_of_reads directives_encloses).any fun dirs => h.bind fun items hitems =>
      gives_pure (isName_of_keysOf hitems)
  have hconditionless : Gives (fun _ => True) conditionless :=
    (gives_isNext _).any fun _ => (gives_isNext _).any fun _ => gives_pure trivial
  refine (gives_accept _).any fun b => gives_ite (gives_name.any fun n => hinline (some n)) ?_
  refine hconditionless.any fun b => gives_ite (hinline none) ?_
  refine (gives_of_reads takes_isNameNext).any fun b => gives_ite ?_ gives_missing
  refine gives_name.any fun n => (gives_of_reads directives_encloses).any fun dirs => ?_
  exact gives_pure (by simp [Selection.Keyed, Selection.keys])

theorem gives_selectionOf (h : GivesKeyed nested) : Gives Selection.Keyed (selectionOf nested) :=
  (gives_accept _).any fun _ => gives_ite (gives_spreadOf h) <|
    (gives_of_reads takes_isNameNext).any fun _ => gives_ite (gives_fieldOf h) gives_missing

theorem gives_selectionAt (n : Nat) : Gives Selection.Keyed (selectionAt n) := by
  induction n with
  | zero => exact gives_selectionOf gives_missing
  | succ n ih => exact gives_selectionOf (gives_body ih)

theorem gives_selectionSet {f : List Selection → Definition}
    (hf : ∀ items, (f items).items = items) :
    Gives (fun d => ∀ key ∈ keysOf d.items, isName key.toList = true)
      (selectionSet >>= fun items => pure (f items)) := by
  refine (gives_body (gives_selectionAt nestingLimit)).bind fun items hitems => gives_pure ?_
  rw [hf]
  exact isName_of_keysOf hitems

theorem gives_executableDefinition :
    Gives (fun d => ∀ key ∈ keysOf d.items, isName key.toList = true) executableDefinition := by
  have hoperation (kind : OperationKind) :
      Gives (fun d => ∀ key ∈ keysOf d.items, isName key.toList = true) (operation kind) := by
    have hdeclared : Gives (fun _ => True)
        (optionalBetween (sign "(") (sign ")") variableDefinition) :=
      gives_of_reads (takes_optionalBetween joins_enclosed variableDefinition_encloses)
    have hrest (n : Option String) := hdeclared.any fun declared =>
      (gives_of_reads directives_encloses).any fun dirs =>
        gives_selectionSet (f := Definition.operation kind n declared dirs) fun _ => rfl
    refine gives_advance.any fun _ => gives_next?.any fun o => ?_
    split
    · exact gives_advance.any fun _ => hrest _
    · exact hrest none
  refine gives_next?.any fun o => ?_
  split
  · exact gives_selectionSet fun _ => rfl
  · exact hoperation .query
  · exact hoperation .mutation
  · exact hoperation .subscription
  · exact gives_advance.any fun _ => gives_name.any fun n => (gives_expect _).any fun _ =>
      gives_name.any fun onType => (gives_of_reads directives_encloses).any fun dirs =>
        gives_selectionSet fun _ => rfl
  · exact gives_unexpected

end Executable

section TypeSystem

def NamesType : TypeSystemDefinition → Prop
  | .type t => isName t.name.toList = true
  | _ => True

theorem gives_typeBody (kind : String) (about : Option String) :
    Gives (fun t => isName t.name.toList = true) (typeBody kind about) := by
  have hbody {γ : Type} {item : Reader γ} (h : EnclosesSome item) :
      Gives (fun _ => True) (optionalBody item) :=
    gives_of_reads (takes_optionalBetween joins_enclosed h)
  refine gives_name.bind fun n hn => ?_
  split
  · exact (gives_of_reads applied_header).any fun _ => gives_pure hn
  · exact (gives_of_reads implemented_header).any fun _ => (gives_of_reads applied_header).any
      fun _ => (hbody fieldDeclaration_encloses).any fun _ => gives_pure hn
  · exact (gives_of_reads implemented_header).any fun _ => (gives_of_reads applied_header).any
      fun _ => (hbody fieldDeclaration_encloses).any fun _ => gives_pure hn
  · exact (gives_of_reads applied_header).any fun _ =>
      (gives_of_reads unionMembers_header).any fun _ => gives_pure hn
  · exact (gives_of_reads applied_header).any fun _ =>
      (hbody enumValueDeclaration_encloses).any fun _ => gives_pure hn
  · exact (gives_of_reads applied_header).any fun _ =>
      (hbody inputDeclaration_encloses).any fun _ => gives_pure hn

theorem gives_typeSystemDefinition : Gives NamesType typeSystemDefinition := by
  have hkind := gives_of_reads typeKind_takes
  refine (gives_isNext _).any fun _ => gives_ite ?_ <|
    (gives_isNext _).any fun _ => gives_ite ?_ ?_
  · refine gives_position.any fun p => gives_advance.any fun _ =>
      (gives_of_reads applied_header).any fun dirs => (gives_expect _).any fun _ =>
        (gives_of_reads (takes_manyUntil joins_enclosed rootEntry_encloses)).any fun entries => ?_
    split
    · exact gives_pure trivial
    · exact gives_fail _
  · exact gives_advance.any fun _ => gives_position.any fun p => hkind.any fun kind =>
      (gives_typeBody kind none).any fun t => gives_ite (gives_pure trivial) (gives_fail _)
  · refine (gives_of_reads description_takes).any fun about => (gives_accept _).any fun _ =>
      gives_ite ?_ ?_
    · exact (gives_of_reads (directiveBody_takes about)).any fun _ => gives_pure trivial
    · exact hkind.any fun kind => (gives_typeBody kind about).bind fun t ht => gives_pure ht

end TypeSystem

end Reader

theorem isName_of_readExecutable {text : String} {written : List Definition}
    (h : readExecutable text = .ok written) {d : Definition} (hd : d ∈ written) :
    ∀ key ∈ keysOf d.items, isName key.toList = true :=
  Reader.forall_mem_of_read Reader.gives_executableDefinition h d hd

theorem isName_of_readTypeSystem {text : String} {definitions : List TypeSystemDefinition}
    (h : readTypeSystem text = .ok definitions) {t : TypeDeclaration}
    (ht : .type t ∈ definitions) : isName t.name.toList = true :=
  Reader.forall_mem_of_read Reader.gives_typeSystemDefinition h _ ht

end QueryModel.Syntax
