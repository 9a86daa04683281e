import QueryModel.Proofs.Document.Recovery
import QueryModel.Proofs.Document.Stability

/-!
# Sources that mix definitions

A source of executable and type system definitions gives the document of its executable
definitions alone, with the same names for operations without one. All that the others leave is one
warning each, in their order.
-/

set_option autoImplicit false

namespace QueryModel

open Syntax

def Message.isWarning : Message → Bool
  | .warn _ => true
  | .debug _ _ => false

namespace Run

variable {α β : Type}

/-- The runs end in the same way. The first adds to the journal what the second does and the
warnings, up to the point at which it fails. -/
def Agrees (warnings : List Message) (x y : Run α) : Prop :=
  ∀ count, ∃ result after added,
    (∀ journal, runFrom x ⟨count, journal⟩ = (result, ⟨after, journal ++ added⟩)) ∧
    (∀ journal, runFrom y ⟨count, journal⟩ =
      (result, ⟨after, journal ++ added.filter fun m => !m.isWarning⟩)) ∧
    added.filter Message.isWarning <+: warnings ∧
    (result.isOk → added.filter Message.isWarning = warnings)

abbrev Quiet (x : Run α) : Prop := Agrees [] x x

theorem quiet_of_silent {x : Run α} (h : ∀ count, ∃ result after, ∀ journal,
    runFrom x ⟨count, journal⟩ = (result, ⟨after, journal⟩)) : Quiet x := by
  intro count
  obtain ⟨result, after, hx⟩ := h count
  exact ⟨result, after, [], by simpa using hx, by simpa using hx, List.prefix_rfl, fun _ => rfl⟩

theorem quiet_pure (a : α) : Quiet (pure a) :=
  quiet_of_silent fun count => ⟨.ok a, count, fun _ => rfl⟩

theorem quiet_liftResult (r : Except Error α) : Quiet (liftResult r) :=
  quiet_of_silent fun count => ⟨r, count, fun _ => rfl⟩

theorem quiet_note {m : Message} (hm : m.isWarning = false) : Quiet (note m) := by
  have hfilter : [m].filter (fun m => !m.isWarning) = [m] := by simp [hm]
  intro count
  refine ⟨.ok (), count, [m], fun _ => rfl, fun journal => ?_, by simp [hm], fun _ => by simp [hm]⟩
  rw [hfilter]
  rfl

theorem agrees_warn {m : Message} (hm : m.isWarning = true) : Agrees [m] (note m) (pure ()) := by
  have hfilter : [m].filter (fun m => !m.isWarning) = [] := by simp [hm]
  intro count
  refine ⟨.ok (), count, [m], fun _ => rfl, fun journal => ?_, by simp [hm], fun _ => by simp [hm]⟩
  rw [hfilter, List.append_nil]
  rfl

theorem Agrees.bind {warnings more : List Message} {x y : Run α} {f g : α → Run β}
    (h : Agrees warnings x y) (hnext : ∀ a, Agrees more (f a) (g a)) :
    Agrees (warnings ++ more) (x >>= f) (y >>= g) := by
  intro count
  obtain ⟨result, after, added, hx, hy, hprefix, hok⟩ := h count
  cases result with
  | error e =>
    refine ⟨.error e, after, added, fun journal => ?_, fun journal => ?_,
      hprefix.trans (List.prefix_append ..), nofun⟩
    · rw [runFrom_bind, hx]
    · rw [runFrom_bind, hy]
  | ok a =>
    obtain ⟨result, last, added', hf, hg, hprefix', hok'⟩ := hnext a after
    refine ⟨result, last, added ++ added', fun journal => ?_, fun journal => ?_, ?_,
      fun hresult => ?_⟩
    · rw [runFrom_bind, hx]
      simp only [hf, List.append_assoc]
    · rw [runFrom_bind, hy]
      simp only [hg, List.append_assoc, List.filter_append]
    · rw [List.filter_append, hok rfl]
      exact (List.prefix_append_right_inj warnings).mpr hprefix'
    · rw [List.filter_append, hok rfl, hok' hresult]

section Definitions

variable (s : Schema) (file : Option String)

theorem operationName_quiet (kind : OperationKind) (name : Option String) :
    Quiet (operationName kind name) := by
  cases name with
  | some name => exact quiet_pure name
  | none =>
    let given (count : Nat) := "Anonymous_" ++ kind.text ++ "_" ++ toString (count + 1)
    exact quiet_of_silent fun count => ⟨.ok (given count), count + 1, fun _ => rfl⟩

theorem operation_quiet (printed : String) (kind : OperationKind) (name : Option String)
    (declared : List VariableDefinition) (directives : List Directive) (items : List Selection) :
    Quiet (operation s file printed kind name declared directives items) :=
  (quiet_liftResult _).bind fun _ => (operationName_quiet kind name).bind fun _ =>
    (quiet_note rfl).bind fun _ => (quiet_liftResult _).bind fun _ =>
      (quiet_liftResult _).bind fun _ => quiet_pure _

theorem fragment_quiet (printed name onType : String) (directives : List Directive)
    (items : List Selection) : Quiet (fragment s file printed name onType directives items) :=
  (quiet_liftResult _).bind fun _ => (quiet_note rfl).bind fun _ =>
    (quiet_liftResult _).bind fun _ => quiet_pure _

theorem definition_quiet (d : Definition) : Quiet (definition s file d) := by
  cases d with
  | shorthand items => exact (operation_quiet s file _ _ _ _ _ items).bind fun _ => quiet_pure _
  | operation kind name declared directives items =>
    exact (operation_quiet s file _ kind name declared directives items).bind fun _ => quiet_pure _
  | fragment name onType directives items =>
    exact (fragment_quiet s file _ name onType directives items).bind fun _ => quiet_pure _

theorem finish_quiet (details : Bool) (result : Document) : Quiet (finish details result) := by
  cases details with
  | true => exact (quiet_note rfl).bind fun _ => quiet_pure _
  | false => exact quiet_pure _

end Definitions

section Pieces

variable (s : Schema) (source : Source) (failure : Failure)

theorem pieces_executable {piece : String} {d : Definition} (h : readExecutable piece = .ok [d])
    (rest : List String) (result : Document) : pieces s source failure result (piece :: rest) =
      definition s source.file d >>= fun one => pieces s source failure (result.push one) rest := by
  simp only [pieces, h, definitions, bind_assoc, pure_bind]

theorem pieces_typeSystem {piece : String} {d : TypeSystemDefinition}
    (h : readTypeSystem piece = .ok [d]) (rest : List String) (result : Document) :
    pieces s source failure result (piece :: rest) =
      note (skipWarning source.label piece) >>= fun _ => pieces s source failure result rest := by
  obtain ⟨f, hf⟩ := AnyDefinition.not_executable_of_typeSystem h
  simp only [pieces, hf, h]

/-- Pieces that are read as definitions give the document of the executable ones, and a warning
for each of the others. -/
theorem pieces_agree {xs : List (AnyDefinition × String)} {ps : List String}
    (h : List.Forall₂ (fun x piece => x.1.ReadFrom piece) xs ps) :
    ∃ skipped, skipped.Sublist ps ∧
      List.Forall₂ (fun d piece => readTypeSystem piece = .ok [d])
        (xs.filterMap fun x => x.1.typeSystem?) skipped ∧
      ∀ result, Agrees (skipped.map (skipWarning source.label)) (pieces s source failure result ps)
        (definitions s source.file result (xs.filterMap fun x => x.1.executable?)) := by
  induction h with
  | nil => exact ⟨[], .slnil, .nil, fun result => quiet_pure result⟩
  | @cons x piece xs ps hx h ih =>
    obtain ⟨skipped, hsublist, hread, hagrees⟩ := ih
    obtain ⟨d | d, text⟩ := x
    · refine ⟨skipped, hsublist.cons piece, hread, fun result => ?_⟩
      rw [pieces_executable s source failure hx]
      exact (definition_quiet s source.file d).bind fun one => hagrees (result.push one)
    · refine ⟨piece :: skipped, hsublist.cons_cons piece, .cons hx hread, fun result => ?_⟩
      have hwarn : Agrees [skipWarning source.label piece]
          (note (skipWarning source.label piece)) (pure ()) := agrees_warn rfl
      rw [pieces_typeSystem s source failure hx]
      exact hwarn.bind fun _ => hagrees result

end Pieces

/-- A source of separated texts, one definition each and not all of them executable, gives what its
executable definitions give alone, an error included, and leaves the same count. If it succeeds,
the warnings it adds to the journal are one for each type system definition, in their order. -/
theorem source_eq_document (settings : RunSettings) (file : Option String)
    {xs : List (AnyDefinition × String)} (hxs : ∀ x ∈ xs, x.1.WrittenAs x.2)
    (hchain : xs.IsChain Separated) (hmixed : ∃ x ∈ xs, x.1.typeSystem?.isSome)
    (start : Progress) :
    let mixed : Source := ⟨file, "\n".intercalate (xs.map Prod.snd)⟩
    ∃ result count added skipped,
      runFrom (source settings mixed) start = (result, ⟨count, start.journal ++ added⟩) ∧
      runFrom (document settings file (xs.filterMap fun x => x.1.executable?)) start =
        (result, ⟨count, start.journal ++ added.filter fun m => !m.isWarning⟩) ∧
      (result.isOk →
        added.filter Message.isWarning = skipped.map (skipWarning mixed.label)) ∧
      skipped.Sublist (splitDefinitions mixed.content) ∧
      List.Forall₂ (fun d piece => readTypeSystem piece = .ok [d])
        (xs.filterMap fun x => x.1.typeSystem?) skipped := by
  intro mixed
  obtain ⟨failure, hfailure⟩ := joined_not_executable hxs hmixed
  obtain ⟨skipped, hsublist, hread, hagrees⟩ :=
    pieces_agree settings.schema mixed failure (readFrom_pieces hxs hchain)
  have hsource : source settings mixed = mixedSource settings mixed failure := by
    rw [source, hfailure]
  have hall : Agrees (skipped.map (skipWarning mixed.label)) (mixedSource settings mixed failure)
      (document settings file (xs.filterMap fun x => x.1.executable?)) := by
    have hstart : Quiet Run.start := quiet_note rfl
    have hparts := hstart.bind fun _ =>
      (hagrees ∅).bind fun result => finish_quiet settings.details result
    rwa [List.nil_append, List.append_nil] at hparts
  obtain ⟨result, count, added, hx, hy, -, hok⟩ := hall start.unnamed
  refine ⟨result, count, added, skipped, ?_, hy start.journal, hok, hsublist, hread⟩
  rw [hsource]
  exact hx start.journal

/-- A byte order mark and a brace in a description, keywords as names, a shorthand query after a
definition without a body, and braces in comments. -/
theorem source_of_keywords :
    let declared : List TypeSystemDefinition :=
      [.type ⟨"Query", none, [], .object [] [⟨"a", none, .named "Int", [], []⟩]⟩]
    let xs : List (AnyDefinition × String) :=
      [(.typeSystem (.type ⟨"type", some "all \x7d", [⟨"input", []⟩], .scalar⟩),
          "\ufeff\"all \x7d\" scalar type @input"),
        (.executable (.shorthand [.field none "a" [] [] []]), "\x7b a \x7d # \x7d"),
        (.typeSystem (.extension ⟨"query", none, [⟨"d", []⟩], .object [] []⟩),
          "# \x7b\nextend type query @d"),
        (.executable (.operation .query (some "type") [] [] [.field (some "b") "a" [] [] []]),
          "query type \x7b b: a \x7d")]
    ∃ s, Schema.ofDefinitions declared = .ok s ∧ (∀ x ∈ xs, x.1.WrittenAs x.2) ∧
      xs.IsChain Separated ∧ (∃ x ∈ xs, x.1.typeSystem?.isSome) ∧
      ∃ result added, ∃ skipped : List String,
        runFrom (source ⟨s, false⟩ ⟨some "f", "\n".intercalate (xs.map Prod.snd)⟩) ⟨2, []⟩ =
          (.ok result, ⟨3, added⟩) ∧
        added.filter Message.isWarning = skipped.map (skipWarning "f") ∧ skipped.length = 2 := by
  intro declared xs
  have hxs : ∀ x ∈ xs, x.1.WrittenAs x.2 := by
    refine List.forall_mem_cons.mpr ⟨?_, List.forall_mem_cons.mpr ⟨?_, List.forall_mem_cons.mpr
      ⟨?_, List.forall_mem_singleton.mpr ?_⟩⟩⟩
    all_goals refine ⟨?_, by decide +kernel, by decide +kernel⟩
    all_goals with_unfolding_all rfl
  have hchain : xs.IsChain Separated := by
    simp only [xs, List.isChain_cons_cons, List.isChain_singleton, and_true]
    exact ⟨⟨by decide, by decide +kernel, by decide +kernel⟩,
      ⟨by decide, by decide +kernel, by decide +kernel⟩,
      ⟨by decide, by decide +kernel, by decide +kernel⟩⟩
  have hmixed : ∃ x ∈ xs, x.1.typeSystem?.isSome := ⟨_, List.mem_cons_self, rfl⟩
  obtain ⟨s, hs, hok, hcount⟩ : ∃ s, Schema.ofDefinitions declared = .ok s ∧
      (runFrom (document ⟨s, false⟩ (some "f") (xs.filterMap fun x => x.1.executable?))
        ⟨2, []⟩).1.isOk = true ∧
      (runFrom (document ⟨s, false⟩ (some "f") (xs.filterMap fun x => x.1.executable?))
        ⟨2, []⟩).2.unnamed = 3 := ⟨_, rfl, by decide +kernel, by decide +kernel⟩
  obtain ⟨result, count, added, skipped, hmix, hdocument, hwarnings, -, hskipped⟩ :=
    source_eq_document ⟨s, false⟩ (some "f") hxs hchain hmixed ⟨2, []⟩
  rw [hdocument] at hok hcount
  obtain rfl : count = 3 := hcount
  cases result with
  | error e => contradiction
  | ok result =>
    exact ⟨s, hs, hxs, hchain, hmixed, result, added, skipped, hmix, hwarnings rfl,
      hskipped.length_eq.symm⟩

/-- A keyword among the members of a union, a comment that ends before its line does, and a byte
order mark between two definitions: each makes a source fail whose query resolves alone. -/
theorem source_not_document :
    let declared : List TypeSystemDefinition :=
      [.type ⟨"Query", none, [], .object [] [⟨"a", none, .named "Int", [], []⟩]⟩]
    let query : AnyDefinition :=
      .executable (.operation .query (some "Q") [] [] [.field none "a" [] [] []])
    let sources : List (List (AnyDefinition × String)) :=
      [[(.typeSystem (.type ⟨"U", none, [], .union ["A", "type"]⟩), "union U = A | type"),
          (query, "query Q \x7b a \x7d")],
        [(query, "query Q # c\r\x7b a \x7d"),
          (.typeSystem (.type ⟨"T", none, [], .object [] [⟨"b", none, .named "Int", [], []⟩]⟩),
            "type T \x7b b: Int \x7d")],
        [(.typeSystem (.schema [] ⟨some "Q", none, none⟩), "schema \x7b query: Q \x7d"),
          (query, "\ufeffquery Q \x7b a \x7d")]]
    ∃ s, Schema.ofDefinitions declared = .ok s ∧ ∀ xs ∈ sources,
      (∀ x ∈ xs, x.1.ReadFrom x.2) ∧ (∃ x ∈ xs, x.1.typeSystem?.isSome) ∧
      (∀ x ∈ xs, x.1.isShorthand = false) ∧
      (runFrom (document ⟨s, false⟩ none (xs.filterMap fun x => x.1.executable?)) .start).1.isOk ∧
      ¬ (runFrom (source ⟨s, false⟩ ⟨none, "\n".intercalate (xs.map Prod.snd)⟩) .start).1.isOk := by
  intro declared query sources
  have hread : ∀ xs ∈ sources, ∀ x ∈ xs, x.1.ReadFrom x.2 := by
    subst sources query
    refine List.forall_mem_cons.mpr ⟨?_, List.forall_mem_cons.mpr ⟨?_,
      List.forall_mem_singleton.mpr ?_⟩⟩
    all_goals refine List.forall_mem_cons.mpr ⟨?_, List.forall_mem_singleton.mpr ?_⟩
    all_goals with_unfolding_all rfl
  have hmixed : ∀ xs ∈ sources, (∃ x ∈ xs, x.1.typeSystem?.isSome) ∧
      ∀ x ∈ xs, x.1.isShorthand = false := by decide
  have hruns : ∃ s, Schema.ofDefinitions declared = .ok s ∧ ∀ xs ∈ sources,
      (runFrom (document ⟨s, false⟩ none (xs.filterMap fun x => x.1.executable?)) .start).1.isOk ∧
      ¬ (runFrom (source ⟨s, false⟩ ⟨none, "\n".intercalate (xs.map Prod.snd)⟩) .start).1.isOk :=
    ⟨_, rfl, by decide +kernel⟩
  obtain ⟨s, hs, hruns⟩ := hruns
  exact ⟨s, hs, fun xs hxs =>
    ⟨hread xs hxs, (hmixed xs hxs).1, (hmixed xs hxs).2, hruns xs hxs⟩⟩

end Run

end QueryModel
