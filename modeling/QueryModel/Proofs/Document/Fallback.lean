import QueryModel.Proofs.Document.Mixing
import QueryModel.Proofs.Document.Stretches

/-!
# Executable sources resolved piece by piece

A source that is executable as a whole may as well be cut into pieces and resolved one piece after
the other. Every piece is executable, so nothing is skipped, and the run is the same to the last
message. Comments have to end their lines: a carriage return ends a comment for the reader of
tokens, but not for the cut.
-/

set_option autoImplicit false

namespace QueryModel

open Syntax

namespace Run

variable (s : Schema) (file : Option String)

theorem definitions_append (result : Document) (ds es : List Definition) :
    definitions s file result (ds ++ es) =
      definitions s file result ds >>= fun more => definitions s file more es := by
  induction ds generalizing result with
  | nil => simp only [List.nil_append, definitions, pure_bind]
  | cons d ds ih => simp only [List.cons_append, definitions, bind_assoc, ih]

theorem definitions_quiet (result : Document) (ds : List Definition) :
    Quiet (definitions s file result ds) := by
  induction ds generalizing result with
  | nil => exact quiet_pure result
  | cons d ds ih => exact (definition_quiet s file d).bind fun one => ih (result.push one)

theorem pieces_eq_definitions (source : Source) (failure : Failure) {ps : List String}
    {groups : List (List Definition)}
    (h : List.Forall₂ (fun piece ds => readExecutable piece = .ok ds) ps groups)
    (result : Document) : pieces s source failure result ps =
      definitions s source.file result groups.flatten := by
  induction h generalizing result with
  | nil => rfl
  | @cons piece ds ps groups hpiece h ih =>
    rw [List.flatten_cons, definitions_append]
    simp only [pieces, hpiece, ih]

theorem document_quiet (settings : RunSettings) (written : List Definition) :
    Quiet (document settings file written) := by
  have hstart : Quiet start := quiet_note rfl
  exact hstart.bind fun _ => (definitions_quiet settings.schema file ∅ written).bind fun result =>
    finish_quiet settings.details result

theorem Quiet.added {α : Type} {x : Run α} (h : Quiet x) (start : Progress) :
    ∃ added, (runFrom x start).2.journal = start.journal ++ added ∧
      ∀ m ∈ added, m.isWarning = false := by
  obtain ⟨result, after, added, hx, -, hnone, -⟩ := h start.unnamed
  refine ⟨added, congrArg (fun r => r.2.journal) (hx start.journal), fun m hm => ?_⟩
  simpa using List.filter_eq_nil_iff.mp (List.prefix_nil.mp hnone) m hm

/-- A source that is executable as a whole, with comments that end their lines, is cut into
executable pieces. Resolved piece by piece it gives the same document or error, count and messages
as it does as a whole, and none of the messages is a warning. -/
theorem mixedSource_eq_source (settings : RunSettings) (source : Source) {written : List Definition}
    (hread : readExecutable source.content = .ok written) (htidy : Tidy source.content.toList)
    (failure : Failure) (start : Progress) :
    (∃ groups, List.Forall₂ (fun piece ds => readExecutable piece = .ok ds)
      (splitDefinitions source.content) groups ∧ groups.flatten = written) ∧
    runFrom (mixedSource settings source failure) start =
      runFrom (Run.source settings source) start ∧
    ∃ added, (runFrom (mixedSource settings source failure) start).2.journal =
      start.journal ++ added ∧ ∀ m ∈ added, m.isWarning = false := by
  obtain ⟨groups, rfl, hgroups⟩ := readExecutable_pieces htidy hread
  have hsource : Run.source settings source = document settings source.file groups.flatten := by
    rw [Run.source, hread]
  have hmixed : mixedSource settings source failure =
      document settings source.file groups.flatten := by
    rw [mixedSource, pieces_eq_definitions settings.schema source failure hgroups, document]
  rw [hsource, hmixed]
  exact ⟨⟨groups, hgroups, rfl⟩, rfl, (document_quiet source.file settings _).added start⟩

/-- Two definitions with a byte order mark between them, which are one piece, and a third right
after them, with braces in a comment and in a string. -/
theorem mixedSource_of_marks :
    let declared : List TypeSystemDefinition :=
      [.type ⟨"Query", none, [], .object [] [⟨"a", none, .named "Int", [], []⟩]⟩]
    let text :=
      "\ufeff\x7b a \x7d # \x7d\n\ufeff\x7b b: a @c(d: \"\x7d\") \x7dquery type \x7b a \x7d"
    ∃ s written, Schema.ofDefinitions declared = .ok s ∧ readExecutable text = .ok written ∧
      Tidy text.toList ∧ written.length = 3 ∧ (splitDefinitions text).length = 2 ∧
      ∀ failure, ∃ result added,
        runFrom (mixedSource ⟨s, false⟩ ⟨none, text⟩ failure) ⟨2, []⟩ = (.ok result, ⟨4, added⟩) ∧
        ∀ m ∈ added, m.isWarning = false := by
  intro declared text
  obtain ⟨written, hread, hlength⟩ : ∃ written, readExecutable text = .ok written ∧
      written.length = 3 := by
    subst text
    exact ⟨_, by with_unfolding_all rfl, rfl⟩
  have htidy : Tidy text.toList := by decide +kernel
  obtain ⟨s, hs, hok, hcount⟩ : ∃ s, Schema.ofDefinitions declared = .ok s ∧
      (runFrom (source ⟨s, false⟩ ⟨none, text⟩) ⟨2, []⟩).1.isOk = true ∧
      (runFrom (source ⟨s, false⟩ ⟨none, text⟩) ⟨2, []⟩).2.unnamed = 4 :=
    ⟨_, rfl, by decide +kernel, by decide +kernel⟩
  refine ⟨s, written, hs, hread, htidy, hlength, by decide +kernel, fun failure => ?_⟩
  obtain ⟨-, hrun, added, hadded, hquiet⟩ :=
    mixedSource_eq_source ⟨s, false⟩ ⟨none, text⟩ hread htidy failure ⟨2, []⟩
  rw [← hrun] at hok hcount
  rcases hmixed : runFrom (mixedSource ⟨s, false⟩ ⟨none, text⟩ failure) ⟨2, []⟩ with
    ⟨e | result, count, journal⟩
  · rw [hmixed] at hok
    contradiction
  · rw [hmixed] at hcount hadded
    obtain rfl : count = 4 := hcount
    obtain rfl : journal = added := hadded
    exact ⟨result, journal, rfl, hquiet⟩

/-- A comment that a carriage return ends hides a brace from the cut alone. The source is one
query, but resolved piece by piece it fails. -/
theorem mixedSource_ne_source :
    let declared : List TypeSystemDefinition :=
      [.type ⟨"Query", none, [], .object [] [⟨"a", none, .named "A", [], []⟩,
          ⟨"query", none, .named "Int", [], []⟩]⟩,
        .type ⟨"A", none, [], .object [] [⟨"b", none, .named "Int", [], []⟩]⟩]
    let text := "\x7b a # \r \x7b b \n \x7d query \x7d"
    ∃ s, Schema.ofDefinitions declared = .ok s ∧ (readExecutable text).isOk ∧
      (runFrom (source ⟨s, false⟩ ⟨none, text⟩) .start).1.isOk ∧
      ∀ failure, ¬ (runFrom (mixedSource ⟨s, false⟩ ⟨none, text⟩ failure) .start).1.isOk := by
  intro declared text
  have hsplit : splitDefinitions text = ["\x7b a # \r \x7b b \n \x7d", "query \x7d"] := by
    decide +kernel
  obtain ⟨⟨f, hf⟩, g, hg⟩ : (∃ f, readExecutable "\x7b a # \r \x7b b \n \x7d" = .error f) ∧
      ∃ g, readTypeSystem "\x7b a # \r \x7b b \n \x7d" = .error g :=
    ⟨⟨_, by with_unfolding_all rfl⟩, _, by with_unfolding_all rfl⟩
  obtain ⟨s, hs, hok⟩ : ∃ s, Schema.ofDefinitions declared = .ok s ∧
      (runFrom (source ⟨s, false⟩ ⟨none, text⟩) .start).1.isOk := ⟨_, rfl, by decide +kernel⟩
  refine ⟨s, hs, by decide +kernel, hok, fun failure => ?_⟩
  rw [mixedSource, hsplit]
  simp only [pieces, hf, hg]
  exact Bool.false_ne_true

end Run

end QueryModel
