import QueryModel.Proofs.Document.Counting
import QueryModel.Proofs.Document.Stability

/-!
# Names of unnamed operations

An operation without a name is named before its selection and its variables are resolved, so that
one that fails there has used up its number. What one definition does to the count, and what it
tells the journal, is carried over documents, pieces and sources to a whole run of calls: the count
goes on from call to call, also after a failure, and no name is given twice.
-/

set_option autoImplicit false

namespace QueryModel

open Syntax

namespace Run

/-- What comes of resolving the definitions of a reading after those of a document. -/
structure Counts (s : Schema) (r : Reading) (done : Document) (start : Progress)
    (result : Except Error Document) (after : Progress) : Prop where
  isOk_iff : result.isOk = true ↔ r.Resolves s
  unnamed : after.unnamed = start.unnamed + (unnamedKinds (begun s r.written)).length
  journal : ∃ added, after.journal = start.journal ++ added ∧
    announced added = namesFrom start.unnamed (begun s r.written)
  operations : ∀ doc, result = .ok doc →
    doc.operations.map (·.name) =
      done.operations.map (·.name) ++ namesFrom start.unnamed (operationsOf r.written) ∧
    doc.operations.map (·.kind) =
      done.operations.map (·.kind) ++ (operationsOf r.written).map (·.kind)

def Numbers (s : Schema) (r : Reading) (done : Document) (x : Run Document) : Prop :=
  ∀ start, Counts s r done start (runFrom x start).1 (runFrom x start).2

section Rules

variable {s : Schema} {r r' : Reading} {done : Document} {x : Run Document}

theorem Counts.failed {start after : Progress} {e : Error} (hr : ¬ r.Resolves s)
    (hunnamed : after.unnamed = start.unnamed + (unnamedKinds (begun s r.written)).length)
    (hjournal : ∃ added, after.journal = start.journal ++ added ∧
      announced added = namesFrom start.unnamed (begun s r.written)) :
    Counts s r done start (.error e) after where
  isOk_iff := ⟨fun hok => absurd hok Bool.false_ne_true, fun h => absurd h hr⟩
  unnamed := hunnamed
  journal := hjournal
  operations := fun _ hdoc => by cases hdoc

theorem Counts.not_resolves {start after : Progress} {e : Error}
    (h : Counts s r done start (.error e) after) : ¬ r.Resolves s :=
  fun hr => Bool.false_ne_true (h.isOk_iff.mpr hr)

namespace Numbers

theorem pure {doc : Document} (h : doc.operations = done.operations) :
    Numbers s ⟨[], true⟩ done (pure doc) := by
  intro start
  refine ⟨?_, rfl, ⟨[], (List.append_nil _).symm, rfl⟩, ?_⟩
  · exact ⟨fun _ => ⟨rfl, List.forall_mem_nil _⟩, fun _ => rfl⟩
  · intro doc hdoc
    obtain rfl := Except.ok.inj hdoc
    rw [h]
    exact ⟨(List.append_nil _).symm, (List.append_nil _).symm⟩

theorem throw (done : Document) (e : Error) : Numbers s ⟨[], false⟩ done (throw e) := by
  intro start
  exact .failed (fun hr => Bool.false_ne_true hr.1) rfl ⟨[], (List.append_nil _).symm, rfl⟩

theorem note {m : Message} (hm : m.announced? = none) (h : Numbers s r done x) :
    Numbers s r done (Run.note m >>= fun _ => x) := by
  intro start
  have hcounts := h ⟨start.unnamed, start.journal ++ [m]⟩
  obtain ⟨added, hjournal, hadded⟩ := hcounts.journal
  refine ⟨hcounts.isOk_iff, hcounts.unnamed, ⟨m :: added, ?_, ?_⟩, hcounts.operations⟩
  · rw [List.append_cons]
    exact hjournal
  · rw [announced, List.filterMap_cons_none hm]
    exact hadded

theorem bind {next : Document → Run Document} (h : Numbers s r done x)
    (hnext : ∀ doc, Numbers s r' doc (next doc)) :
    Numbers s (r.andThen r') done (x >>= next) := by
  intro start
  have hx := h start
  rw [runFrom_bind]
  rcases hrun : runFrom x start with ⟨result, middle⟩
  rw [hrun] at hx
  cases result with
  | error e =>
    have hr := hx.not_resolves
    refine .failed (fun hall => hr (Reading.resolves_andThen.mp hall).1) ?_ ?_
    · rw [Reading.begun_andThen_of_not hr]
      exact hx.unnamed
    · rw [Reading.begun_andThen_of_not hr]
      exact hx.journal
  | ok doc =>
    have hr : r.Resolves s := hx.isOk_iff.mp rfl
    have hbegun : begun s (r.andThen r').written =
        operationsOf r.written ++ begun s r'.written := by
      rw [Reading.written_andThen hr, begun_append_of_forall hr.2]
    have hmiddle : middle.unnamed =
        start.unnamed + (unnamedKinds (operationsOf r.written)).length := by
      rw [← begun_of_forall hr.2]
      exact hx.unnamed
    have hy := hnext doc middle
    obtain ⟨added, hjournal, hadded⟩ := hx.journal
    obtain ⟨more, hmoreJournal, hmore⟩ := hy.journal
    obtain ⟨hnames, hkinds⟩ := hx.operations doc rfl
    refine ⟨?_, ?_, ⟨added ++ more, ?_, ?_⟩, ?_⟩
    · rw [Reading.resolves_andThen]
      exact hy.isOk_iff.trans (and_iff_right hr).symm
    · rw [hbegun, unnamedKinds_append, List.length_append, ← Nat.add_assoc, ← hmiddle]
      exact hy.unnamed
    · rw [← List.append_assoc, ← hjournal]
      exact hmoreJournal
    · rw [announced, List.filterMap_append, hbegun, namesFrom_append, ← hmiddle,
        ← begun_of_forall hr.2, ← hadded, ← hmore]
      rfl
    · intro last hlast
      rw [Reading.written_andThen hr, operationsOf_append, namesFrom_append, ← hmiddle,
        List.map_append, ← List.append_assoc, ← List.append_assoc, ← hnames, ← hkinds]
      exact hy.operations last hlast

theorem after (h : Numbers s r ∅ x) (done : Document) :
    Numbers s r done (x >>= fun one => Pure.pure (done ++ one)) := by
  intro start
  have hx := h start
  rw [runFrom_bind]
  rcases hrun : runFrom x start with ⟨result, middle⟩
  rw [hrun] at hx
  cases result with
  | error e =>
    exact .failed hx.not_resolves hx.unnamed hx.journal
  | ok one =>
    refine ⟨hx.isOk_iff, hx.unnamed, hx.journal, ?_⟩
    intro doc hdoc
    obtain rfl := Except.ok.inj hdoc
    obtain ⟨hnames, hkinds⟩ := hx.operations one rfl
    exact ⟨List.map_append.trans (congrArg _ hnames), List.map_append.trans (congrArg _ hkinds)⟩

theorem append {next : Document → Run Document} (h : Numbers s r ∅ x)
    (hnext : ∀ doc, Numbers s r' doc (next doc)) :
    Numbers s (r.andThen r') done (x >>= fun one => next (done ++ one)) := by
  have hbind := (h.after done).bind hnext
  simpa only [bind_assoc, pure_bind] using hbind

end Numbers

end Rules

section Definitions

variable (s : Schema) (file : Option String) (done : Document)

/-- The outcome for one definition whose root type exists. One message is left, which announces the
definition if it is an operation. -/
theorem Counts.one {d : Definition} {root : TypeDeclaration} (hroot : d.root? s = some root)
    {start : Progress} {result : Except Error Document} {m : Message}
    (hok : result.isOk = ((SelectionSet.build s root d.items).isOk &&
      (Variable.resolveAll s d.declaredVariables).isOk))
    (hm : announced [m] = namesFrom start.unnamed (operationsOf [d]))
    (hdoc : ∀ doc, result = .ok doc →
      doc.operations.map (·.name) =
        done.operations.map (·.name) ++ namesFrom start.unnamed (operationsOf [d]) ∧
      doc.operations.map (·.kind) =
        done.operations.map (·.kind) ++ (operationsOf [d]).map (·.kind)) :
    Counts s ⟨[d], true⟩ done start result
      ⟨start.unnamed + (unnamedKinds (operationsOf [d])).length, start.journal ++ [m]⟩ := by
  have hbegun : begun s [d] = operationsOf [d] := by
    rw [begun_singleton, hroot]
    rfl
  have hresolves : d.resolves s = result.isOk := by
    rw [Definition.resolves, hroot, hok]
    rfl
  refine ⟨?_, ?_, ⟨[m], rfl, ?_⟩, hdoc⟩
  · simp [Reading.Resolves, hresolves]
  · rw [hbegun]
  · rw [hbegun]
    exact hm

theorem Counts.rootless {d : Definition} (hroot : d.root? s = none) (start : Progress) (e : Error) :
    Counts s ⟨[d], true⟩ done start (.error e) start := by
  have hbegun : begun s [d] = [] := by
    rw [begun_singleton, hroot]
    rfl
  refine .failed ?_ ?_ ⟨[], (List.append_nil _).symm, ?_⟩
  · simp [Reading.Resolves, Definition.resolves, hroot]
  · rw [hbegun]
    rfl
  · rw [hbegun]
    rfl

theorem runFrom_operationName (kind : OperationKind) (name : Option String) (start : Progress) :
    ∃ given, namesFrom start.unnamed [⟨name, kind⟩] = [given] ∧
      runFrom (operationName kind name) start =
        (.ok given, ⟨start.unnamed + (unnamedKinds [⟨name, kind⟩]).length, start.journal⟩) := by
  cases name with
  | none => exact ⟨_, rfl, rfl⟩
  | some name => exact ⟨_, rfl, rfl⟩

/-- An operation whose root type exists has its name, and is announced by it, before its selection
and its variables are resolved. -/
theorem runFrom_operation {kind : OperationKind} {root : TypeDeclaration}
    (hroot : s.rootType? kind = some root) (printed : String) (name : Option String)
    (declared : List VariableDefinition) (directives : List Directive) (items : List Selection)
    (start : Progress) :
    ∃ given, namesFrom start.unnamed [⟨name, kind⟩] = [given] ∧
      runFrom (operation s file printed kind name declared directives items) start =
        ((SelectionSet.build s root items).bind fun set =>
          (Variable.resolveAll s declared).map fun resolved =>
            ⟨given, kind, set, resolved, !resolved.isEmpty, .ofWritten s directives,
              !(DirectiveUses.ofWritten s directives).isEmpty, file, printed⟩,
        ⟨start.unnamed + (unnamedKinds [⟨name, kind⟩]).length,
          start.journal ++ [.debug ("[transform_operation] transforming " ++ given) none]⟩) := by
  obtain ⟨given, hgiven, hname⟩ := runFrom_operationName kind name start
  refine ⟨given, hgiven, ?_⟩
  have hrootType : runFrom (liftResult (rootType s kind)) start = (.ok root, start) := by
    rw [rootType, hroot]
    rfl
  rw [operation, runFrom_bind, hrootType]
  dsimp only
  rw [runFrom_bind, hname]
  dsimp only
  cases SelectionSet.build s root items with
  | error e => rfl
  | ok set => cases Variable.resolveAll s declared <;> rfl

theorem runFrom_fragment {onType : String} {root : TypeDeclaration}
    (hroot : s.type? onType = some root) (printed name : String) (directives : List Directive)
    (items : List Selection) (start : Progress) :
    runFrom (fragment s file printed name onType directives items) start =
      ((SelectionSet.build s root items).map fun set =>
          ⟨name, onType, set, .ofWritten s directives,
            !(DirectiveUses.ofWritten s directives).isEmpty, file, printed⟩,
        ⟨start.unnamed,
          start.journal ++ [.debug ("[transform_fragment] transforming " ++ name) none]⟩) := by
  have htype : runFrom (liftResult (s.typeNamed onType)) start = (.ok root, start) := by
    rw [Schema.typeNamed_eq_ok.mpr hroot]
    rfl
  rw [fragment, runFrom_bind, htype]
  dsimp only
  cases SelectionSet.build s root items <;> rfl

theorem operation_numbers {d : Definition} {kind : OperationKind} {name : Option String}
    (hd : d.operation? = some ⟨name, kind⟩) (hroot : d.root? s = s.rootType? kind)
    (printed : String) (directives : List Directive) :
    Numbers s ⟨[d], true⟩ done (do
      let o ← operation s file printed kind name d.declaredVariables directives d.items
      return done.push (.operation o)) := by
  intro start
  have hwritten : operationsOf [d] = [⟨name, kind⟩] := by simp [operationsOf, hd]
  rw [runFrom_bind]
  cases hkind : s.rootType? kind with
  | none =>
    rw [operation, rootType, hkind]
    exact .rootless s done (hroot.trans hkind) start _
  | some root =>
    obtain ⟨given, hgiven, hrun⟩ := runFrom_operation s file hkind printed name
      d.declaredVariables directives d.items start
    have hannounced : announced [.debug ("[transform_operation] transforming " ++ given) none] =
        namesFrom start.unnamed (operationsOf [d]) := by
      rw [hwritten, hgiven, announced, List.filterMap_cons_some (Message.announced?_operation _ _)]
      rfl
    rw [hrun, ← hwritten]
    cases hset : SelectionSet.build s root d.items with
    | error e =>
      refine .one s done (hroot.trans hkind) ?_ hannounced fun _ hdoc => by cases hdoc
      rw [hset]
      rfl
    | ok set =>
      cases hresolved : Variable.resolveAll s d.declaredVariables with
      | error e =>
        refine .one s done (hroot.trans hkind) ?_ hannounced fun _ hdoc => by cases hdoc
        rw [hset, hresolved]
        rfl
      | ok resolved =>
        refine .one s done (hroot.trans hkind) ?_ hannounced fun doc hdoc => ?_
        · rw [hset, hresolved]
          rfl
        · obtain rfl := Except.ok.inj hdoc
          rw [hwritten, hgiven]
          exact ⟨List.map_append, List.map_append⟩

theorem fragment_numbers (name onType : String) (directives : List Directive)
    (items : List Selection) (printed : String) :
    Numbers s ⟨[.fragment name onType directives items], true⟩ done (do
      let f ← fragment s file printed name onType directives items
      return done.push (.fragment f)) := by
  intro start
  have hroot : (Definition.fragment name onType directives items).root? s = s.type? onType := rfl
  rw [runFrom_bind]
  cases htype : s.type? onType with
  | none =>
    rw [fragment, Schema.typeNamed, htype]
    exact .rootless s done (hroot.trans htype) start _
  | some root =>
    have hannounced : announced [.debug ("[transform_fragment] transforming " ++ name) none] =
        [] := by
      rw [announced, List.filterMap_cons_none (Message.announced?_fragment _ _)]
      rfl
    rw [runFrom_fragment s file htype]
    cases hset : SelectionSet.build s root items with
    | error e =>
      refine .one s done (hroot.trans htype) ?_ hannounced fun _ hdoc => by cases hdoc
      rw [Definition.items, hset]
      rfl
    | ok set =>
      refine .one s done (hroot.trans htype) ?_ hannounced fun doc hdoc => ?_
      · rw [Definition.items, hset]
        rfl
      · obtain rfl := Except.ok.inj hdoc
        exact ⟨(List.append_nil _).symm, (List.append_nil _).symm⟩

theorem definition_numbers (d : Definition) :
    Numbers s ⟨[d], true⟩ done (definition s file d >>= fun one => pure (done.push one)) := by
  cases d with
  | shorthand items =>
    simp only [definition, bind_assoc, pure_bind]
    exact operation_numbers s file done rfl rfl _ _
  | operation kind name declared directives items =>
    simp only [definition, bind_assoc, pure_bind]
    exact operation_numbers s file done rfl rfl _ _
  | fragment name onType directives items =>
    simp only [definition, bind_assoc, pure_bind]
    exact fragment_numbers s file done name onType _ items _

theorem definitions_numbers (written : List Definition) :
    Numbers s ⟨written, true⟩ done (definitions s file done written) := by
  induction written generalizing done with
  | nil => exact .pure rfl
  | cons d rest ih =>
    have hbind := (definition_numbers s file done d).bind ih
    simp only [bind_assoc, pure_bind] at hbind
    exact hbind

theorem finish_numbers (details : Bool) : Numbers s ⟨[], true⟩ done (finish details done) := by
  cases details with
  | false => exact .pure rfl
  | true => exact .note rfl (.pure rfl)

end Definitions

inductive Call where
  | document (file : Option String) (written : List Definition)
  | source (one : Source)
  | sources (all : List Source)

namespace Call

def run (settings : RunSettings) : Call → Run Document
  | .document file written => Run.document settings file written
  | .source one => Run.source settings one
  | .sources all => Run.sources settings all

def reading : Call → Reading
  | .document _ written => ⟨written, true⟩
  | .source one => .ofSource one
  | .sources all => .ofSources all

end Call

section Calls

variable (settings : RunSettings)

theorem document_numbers (file : Option String) (written : List Definition) :
    Numbers settings.schema ⟨written, true⟩ ∅ (document settings file written) := by
  have hbody := (definitions_numbers settings.schema file ∅ written).bind
    fun doc => finish_numbers settings.schema doc settings.details
  rw [Reading.andThen_nil] at hbody
  exact hbody.note rfl

theorem pieces_numbers (s : Schema) (source : Source) (failure : Failure) (ps : List String)
    (done : Document) : Numbers s (.ofPieces ps) done (pieces s source failure done ps) := by
  induction ps generalizing done with
  | nil => exact .pure rfl
  | cons piece rest ih =>
    rw [Reading.ofPieces, Reading.ofPiece, pieces]
    cases readExecutable piece with
    | ok written => exact .bind (definitions_numbers s source.file done written) ih
    | error _ =>
      cases readTypeSystem piece with
      | ok _ => exact .note rfl (ih done)
      | error _ => exact .throw done _

theorem source_numbers (source : Source) :
    Numbers settings.schema (.ofSource source) ∅ (Run.source settings source) := by
  rw [Reading.ofSource, Run.source]
  cases readExecutable source.content with
  | ok written => exact document_numbers settings source.file written
  | error failure =>
    have hbody := (pieces_numbers settings.schema source failure
      (splitDefinitions source.content) ∅).bind
      fun doc => finish_numbers settings.schema doc settings.details
    rw [Reading.andThen_nil] at hbody
    exact hbody.note rfl

theorem sourcesAfter_numbers (all : List Source) (done : Document) :
    Numbers settings.schema (.ofSources all) done (sourcesAfter settings done all) := by
  induction all generalizing done with
  | nil => exact .pure rfl
  | cons source rest ih => exact .append (source_numbers settings source) fun doc => ih doc

theorem call_numbers (call : Call) :
    Numbers settings.schema call.reading ∅ (call.run settings) := by
  cases call with
  | document file written => exact document_numbers settings file written
  | source one => exact source_numbers settings one
  | sources all => exact sourcesAfter_numbers settings all ∅

end Calls

/-- A call that was made: what it began with, what it gave and what it left. -/
structure CallRecord where
  call : Call
  before : Progress
  result : Except Error Document
  after : Progress

/-- The calls of a run. Each begins with what the one before left, also after a failure. -/
def history (settings : RunSettings) (before : Progress) : List Call → List CallRecord
  | [] => []
  | call :: rest =>
    let outcome := runFrom (call.run settings) before
    ⟨call, before, outcome.1, outcome.2⟩ :: history settings outcome.2 rest

namespace CallRecord

/-- The operations that the call reached and whose root type exists. -/
def begun (s : Schema) (record : CallRecord) : List WrittenOperation :=
  QueryModel.begun s record.call.reading.written

def messages (record : CallRecord) : List Message :=
  record.after.journal.drop record.before.journal.length

/-- The names that were given to unnamed operations, whether or not they were returned. -/
def given (s : Schema) (record : CallRecord) : List String :=
  givenNames (record.begun s) (announced record.messages)

structure Numbered (s : Schema) (record : CallRecord) : Prop where
  isOk_iff : record.result.isOk = true ↔ record.call.reading.Resolves s
  /-- The operations that are written are returned, in order, and the unnamed ones among them have
  the next numbers. -/
  returned : ∀ doc, record.result = .ok doc →
    doc.operations.map (·.kind) = (operationsOf record.call.reading.written).map (·.kind) ∧
    doc.operations.map (·.name) =
      namesFrom record.before.unnamed (operationsOf record.call.reading.written) ∧
    givenNames (operationsOf record.call.reading.written) (doc.operations.map (·.name)) =
      generatedNames record.before.unnamed
        (unnamedKinds (operationsOf record.call.reading.written)) ∧
    record.after.unnamed = record.before.unnamed +
      (unnamedKinds (operationsOf record.call.reading.written)).length
  /-- A failure leaves the numbers of the operations that were begun. -/
  failed : ∀ e, record.result = .error e →
    record.after.unnamed = record.before.unnamed + (unnamedKinds (record.begun s)).length
  announced_eq : announced record.messages = namesFrom record.before.unnamed (record.begun s)
  given_eq : record.given s =
    generatedNames record.before.unnamed (unnamedKinds (record.begun s))

end CallRecord

theorem numbered_of_counts {s : Schema} {record : CallRecord}
    (h : Counts s record.call.reading ∅ record.before record.result record.after) :
    record.Numbered s := by
  have hannounced : announced record.messages =
      namesFrom record.before.unnamed (record.begun s) := by
    obtain ⟨added, hjournal, hadded⟩ := h.journal
    rw [CallRecord.messages, hjournal, List.drop_left]
    exact hadded
  refine ⟨h.isOk_iff, ?_, fun _ _ => h.unnamed, hannounced, ?_⟩
  · intro doc hdoc
    have hr : record.call.reading.Resolves s := h.isOk_iff.mp (by rw [hdoc]; rfl)
    have hunnamed := h.unnamed
    rw [begun_of_forall hr.2] at hunnamed
    obtain ⟨hnames, hkinds⟩ : doc.operations.map (·.name) =
          namesFrom record.before.unnamed (operationsOf record.call.reading.written) ∧
        doc.operations.map (·.kind) =
          (operationsOf record.call.reading.written).map (·.kind) := h.operations doc hdoc
    refine ⟨hkinds, hnames, ?_, hunnamed⟩
    rw [hnames, givenNames_namesFrom]
  · rw [CallRecord.given, hannounced, givenNames_namesFrom]

theorem numbered_of_mem_history {settings : RunSettings} {start : Progress} {calls : List Call}
    {record : CallRecord} (h : record ∈ history settings start calls) :
    record.Numbered settings.schema := by
  induction calls generalizing start with
  | nil => cases h
  | cons call rest ih =>
    rcases List.mem_cons.mp h with rfl | hrest
    · exact numbered_of_counts (call_numbers settings call start)
    · exact ih hrest

/-- The names that are given over a run are those of one count. -/
theorem given_history (settings : RunSettings) (start : Progress) (calls : List Call) :
    (history settings start calls).flatMap (CallRecord.given settings.schema) =
      generatedNames start.unnamed ((history settings start calls).flatMap fun record =>
        unnamedKinds (record.begun settings.schema)) := by
  induction calls generalizing start with
  | nil => rfl
  | cons call rest ih =>
    have hcounts := call_numbers settings call start
    rw [history, List.flatMap_cons, List.flatMap_cons, generatedNames_append, ih,
      hcounts.unnamed, (numbered_of_counts hcounts).given_eq]
    rfl

/-- Over any calls, successful or not, the unnamed operations are numbered one after the other: a
call that succeeds names those it returns by the next numbers, in order, and leaves the last one;
a call that fails leaves the count after those it reached whose root type exists. So no name is
given twice. -/
theorem history_numbered (settings : RunSettings) (start : Progress) (calls : List Call) :
    (∀ record ∈ history settings start calls, record.Numbered settings.schema) ∧
      ((history settings start calls).flatMap (CallRecord.given settings.schema)).Nodup := by
  refine ⟨fun record hrecord => numbered_of_mem_history hrecord, ?_⟩
  rw [given_history]
  exact generatedNames_nodup _ _

end Run

end QueryModel
