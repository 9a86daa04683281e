import QueryModel.Proofs.Document.Fallback

/-!
# Lists of sources joined

A run over two lists of sources is the run over the first and then, unless that fails, the run over
the second from the count that the first leaves. The documents and the messages are joined in this
order, and what came from a source keeps its file. A run adds to the journal and never looks at it,
so that the messages of a list are the same whatever was told before.
-/

set_option autoImplicit false

namespace QueryModel

open Syntax

namespace Document

theorem append_eq (d e : Document) :
    d ++ e = refresh { d with
      operations := d.operations ++ e.operations
      fragments := d.fragments ++ e.fragments } := rfl

theorem refresh_append (d e : Document) : (d ++ e).refresh = d ++ e := rfl

theorem append_empty_append (d e : Document) : d ++ (∅ ++ e) = d ++ e := rfl

theorem append_empty (d : Document) : d ++ ∅ = d.refresh := by
  change refresh ⟨d.operations ++ [], d.fragments ++ [], _, _⟩ = _
  rw [List.append_nil, List.append_nil]

theorem append_assoc (c d e : Document) : c ++ d ++ e = c ++ (d ++ e) := by
  simp only [append_eq, refresh, List.append_assoc]

def StemsFrom (d : Document) (file : Option String) : Prop :=
  (∀ o ∈ d.operations, o.file = file) ∧ ∀ f ∈ d.fragments, f.file = file

end Document

def ResolvedDefinition.file : ResolvedDefinition → Option String
  | .operation o => o.file
  | .fragment f => f.file

theorem Document.StemsFrom.push {d : Document} {one : ResolvedDefinition} {file : Option String}
    (hd : d.StemsFrom file) (hone : one.file = file) : (d.push one).StemsFrom file := by
  cases one with
  | operation o =>
    exact ⟨List.forall_mem_append.mpr ⟨hd.1, List.forall_mem_singleton.mpr hone⟩, hd.2⟩
  | fragment f =>
    exact ⟨hd.1, List.forall_mem_append.mpr ⟨hd.2, List.forall_mem_singleton.mpr hone⟩⟩

namespace Run

variable {α β : Type}

/-- What is seen of a run: what it gives, the count that it leaves and its messages. -/
structure Seen (α : Type) where
  result : Except Error α
  count : Nat
  messages : Journal

def seenFrom (x : Run α) (count : Nat) : Seen α :=
  let outcome := runFrom x ⟨count, []⟩
  ⟨outcome.1, outcome.2.unnamed, outcome.2.journal⟩

/-- The run adds its messages to any journal, and the journal makes no other difference. -/
def Adds (x : Run α) : Prop :=
  ∀ count journal, runFrom x ⟨count, journal⟩ =
    ((seenFrom x count).result, ⟨(seenFrom x count).count, journal ++ (seenFrom x count).messages⟩)

theorem Agrees.adds {warnings : List Message} {x y : Run α} (h : Agrees warnings x y) :
    Adds x := by
  intro count journal
  obtain ⟨result, after, added, hx, -⟩ := h count
  rw [seenFrom, hx [], hx journal]
  rfl

theorem seenFrom_bind {x : Run α} {f : α → Run β} (hf : ∀ a, Adds (f a)) (count : Nat) :
    (∀ e, (seenFrom x count).result = .error e → seenFrom (x >>= f) count =
      ⟨.error e, (seenFrom x count).count, (seenFrom x count).messages⟩) ∧
    ∀ a, (seenFrom x count).result = .ok a → seenFrom (x >>= f) count =
      ⟨(seenFrom (f a) (seenFrom x count).count).result,
        (seenFrom (f a) (seenFrom x count).count).count,
        (seenFrom x count).messages ++ (seenFrom (f a) (seenFrom x count).count).messages⟩ := by
  have hbind := runFrom_bind x f ⟨count, []⟩
  constructor
  · intro e he
    rcases hx : runFrom x ⟨count, []⟩ with ⟨result, after⟩
    simp only [seenFrom, hx] at he ⊢
    rw [hbind, hx, he]
  · intro a ha
    rcases hx : runFrom x ⟨count, []⟩ with ⟨result, after⟩
    simp only [seenFrom, hx] at ha ⊢
    rw [hbind, hx, ha]
    have hnext := hf a after.unnamed after.journal
    simp only [seenFrom] at hnext
    dsimp only
    rw [hnext]

theorem Adds.bind {x : Run α} {f : α → Run β} (hx : Adds x) (hf : ∀ a, Adds (f a)) :
    Adds (x >>= f) := by
  intro count journal
  obtain ⟨hfailed, hwent⟩ := seenFrom_bind (x := x) hf count
  rw [runFrom_bind, hx count journal]
  cases hresult : (seenFrom x count).result with
  | error e => rw [hfailed e hresult]
  | ok a =>
    dsimp only
    rw [hf a, hwent a hresult, List.append_assoc]

theorem adds_note (m : Message) : Adds (note m) := fun _ _ => rfl

theorem adds_pure (a : α) : Adds (pure a) := (quiet_pure a).adds

def Gives (P : α → Prop) (x : Run α) : Prop :=
  ∀ start a, (runFrom x start).1 = .ok a → P a

namespace Gives

theorem pure {P : α → Prop} {a : α} (h : P a) : Gives P (Pure.pure a) := by
  intro start b hb
  obtain rfl := Except.ok.inj hb
  exact h

theorem bind {P : α → Prop} {Q : β → Prop} {x : Run α} {f : α → Run β} (hx : Gives P x)
    (hf : ∀ a, P a → Gives Q (f a)) : Gives Q (x >>= f) := by
  intro start b hb
  rw [runFrom_bind] at hb
  rcases hrun : runFrom x start with ⟨result, after⟩
  rw [hrun] at hb
  cases result with
  | error e => cases hb
  | ok a => exact hf a (hx start a (by rw [hrun])) after b hb

theorem after {Q : β → Prop} {x : Run α} {f : α → Run β} (hf : ∀ a, Gives Q (f a)) :
    Gives Q (x >>= f) :=
  bind (fun _ _ _ => trivial) fun a (_ : True) => hf a

theorem lookup {Q : β → Prop} {r : Except Error α} {f : α → Run β}
    (hf : ∀ a, r = .ok a → Gives Q (f a)) : Gives Q (liftResult r >>= f) :=
  bind (P := fun a => r = .ok a) (fun _ _ ha => ha) hf

end Gives

section Origin

variable (s : Schema) (file : Option String)

theorem operation_file (printed : String) (kind : OperationKind) (name : Option String)
    (declared : List VariableDefinition) (directives : List Directive) (items : List Selection) :
    Gives (fun o => o.file = file) (operation s file printed kind name declared directives items) :=
  .after fun _ => .after fun _ => .after fun _ => .after fun _ => .after fun _ => .pure rfl

theorem fragment_file (printed name onType : String) (directives : List Directive)
    (items : List Selection) :
    Gives (fun f => f.file = file) (fragment s file printed name onType directives items) :=
  .after fun _ => .after fun _ => .after fun _ => .pure rfl

theorem definition_file (d : Definition) :
    Gives (fun one => one.file = file) (definition s file d) := by
  cases d with
  | shorthand items => exact .bind (operation_file s file _ _ _ _ _ items) fun _ ho => .pure ho
  | operation kind name declared directives items =>
    exact .bind (operation_file s file _ kind name declared directives items) fun _ ho => .pure ho
  | fragment name onType directives items =>
    exact .bind (fragment_file s file _ name onType directives items) fun _ hf => .pure hf

theorem definitions_stem (written : List Definition) {result : Document}
    (hresult : result.StemsFrom file) :
    Gives (·.StemsFrom file) (definitions s file result written) := by
  induction written generalizing result with
  | nil => exact .pure hresult
  | cons d rest ih =>
    exact .bind (definition_file s file d) fun one hone => ih (hresult.push hone)

theorem finish_stems (details : Bool) {result : Document} (hresult : result.StemsFrom file) :
    Gives (·.StemsFrom file) (finish details result) := by
  cases details with
  | true => exact .after fun _ => .pure hresult
  | false => exact .pure hresult

end Origin

section Sources

variable (settings : RunSettings)

theorem pieces_stem (s : Schema) (source : Source) (failure : Failure) (ps : List String)
    {result : Document} (hresult : result.StemsFrom source.file) :
    Gives (·.StemsFrom source.file) (pieces s source failure result ps) := by
  induction ps generalizing result with
  | nil => exact .pure hresult
  | cons piece rest ih =>
    rw [pieces]
    cases readExecutable piece with
    | ok written =>
      exact .bind (definitions_stem s source.file written hresult) fun _ hmore => ih hmore
    | error _ =>
      cases readTypeSystem piece with
      | ok _ => exact .after fun _ => ih hresult
      | error _ =>
        intro start d hd
        cases hd

theorem source_stems (source : Source) :
    Gives (·.StemsFrom source.file) (Run.source settings source) := by
  have hempty : Document.StemsFrom ∅ source.file := ⟨List.forall_mem_nil _, List.forall_mem_nil _⟩
  rw [Run.source]
  cases readExecutable source.content with
  | ok written =>
    exact .after fun _ => .bind (definitions_stem settings.schema source.file written hempty)
      fun _ hresult => finish_stems source.file settings.details hresult
  | error failure =>
    exact .after fun _ => .bind (pieces_stem settings.schema source failure _ hempty)
      fun _ hresult => finish_stems source.file settings.details hresult

theorem pieces_add (s : Schema) (source : Source) (failure : Failure) (result : Document)
    (ps : List String) : Adds (pieces s source failure result ps) := by
  induction ps generalizing result with
  | nil => exact adds_pure result
  | cons piece rest ih =>
    rw [pieces]
    cases readExecutable piece with
    | ok written => exact (definitions_quiet s source.file result written).adds.bind ih
    | error _ =>
      cases readTypeSystem piece with
      | ok _ => exact (adds_note _).bind fun _ => ih result
      | error _ => exact (quiet_liftResult (.error _)).adds

theorem source_adds (source : Source) : Adds (Run.source settings source) := by
  rw [Run.source]
  cases readExecutable source.content with
  | ok written => exact (document_quiet source.file settings written).adds
  | error failure =>
    have hstart : Adds start := adds_note _
    exact hstart.bind fun _ => (pieces_add settings.schema source failure ∅ _).bind fun result =>
      (finish_quiet settings.details result).adds

theorem sourcesAfter_adds (all : List Source) (done : Document) :
    Adds (sourcesAfter settings done all) := by
  induction all generalizing done with
  | nil => exact adds_pure done
  | cons source rest ih => exact (source_adds settings source).bind fun one => ih (done ++ one)

theorem sourcesAfter_append (all more : List Source) (done : Document) :
    sourcesAfter settings done (all ++ more) =
      sourcesAfter settings done all >>= fun d => sourcesAfter settings d more := by
  induction all generalizing done with
  | nil => simp only [List.nil_append, sourcesAfter, pure_bind]
  | cons source rest ih => simp only [List.cons_append, sourcesAfter, bind_assoc, ih]

/-- What was done before, with its flags set, is only put in front. -/
theorem sourcesAfter_eq (all : List Source) {done : Document} (hdone : done.refresh = done) :
    sourcesAfter settings done all = sources settings all >>= fun d => pure (done ++ d) := by
  induction all generalizing done with
  | nil => simp only [sources, sourcesAfter, pure_bind, Document.append_empty, hdone]
  | cons source rest ih =>
    rw [sources, sourcesAfter, sourcesAfter, bind_assoc]
    congr 1
    funext one
    rw [ih (done.refresh_append one), ih (Document.refresh_append ∅ one), bind_assoc]
    simp only [pure_bind, Document.append_assoc, Document.append_empty_append]

theorem sourcesAfter_refreshed (all : List Source) {done : Document}
    (hdone : done.refresh = done) :
    Gives (fun d => d.refresh = d) (sourcesAfter settings done all) := by
  induction all generalizing done with
  | nil => exact .pure hdone
  | cons source rest ih => exact .after fun one => ih (done.refresh_append one)

/-- The document holds, source after source, what each gives alone from the count at which it is
reached, and all of it has the file of that source. -/
def Gathered (count : Nat) (d : Document) : List Source → Prop
  | [] => d = ∅
  | source :: rest => ∃ one more,
    (seenFrom (Run.source settings source) count).result = .ok one ∧ one.StemsFrom source.file ∧
      Gathered (seenFrom (Run.source settings source) count).count more rest ∧ d = one ++ more

theorem sources_gathered (all : List Source) {count : Nat} {d : Document}
    (h : (seenFrom (sources settings all) count).result = .ok d) :
    Gathered settings count d all := by
  induction all generalizing count d with
  | nil => exact (Except.ok.inj h).symm
  | cons source rest ih =>
    have hcons : sources settings (source :: rest) =
        Run.source settings source >>= fun one => sourcesAfter settings (∅ ++ one) rest := rfl
    obtain ⟨hfailed, hwent⟩ := seenFrom_bind (x := Run.source settings source)
      (fun one => sourcesAfter_adds settings rest (∅ ++ one)) count
    rw [hcons] at h
    cases hone : (seenFrom (Run.source settings source) count).result with
    | error e =>
      rw [hfailed e hone] at h
      cases h
    | ok one =>
      rw [hwent one hone, sourcesAfter_eq settings rest (Document.refresh_append ∅ one)] at h
      obtain ⟨hrestFailed, hrestWent⟩ := seenFrom_bind (x := sources settings rest)
        (fun more => adds_pure (∅ ++ one ++ more))
        (seenFrom (Run.source settings source) count).count
      cases hmore : (seenFrom (sources settings rest)
          (seenFrom (Run.source settings source) count).count).result with
      | error e =>
        rw [hrestFailed e hmore] at h
        cases h
      | ok more =>
        rw [hrestWent more hmore] at h
        exact ⟨one, more, hone, source_stems settings source _ one hone, ih hmore,
          (Except.ok.inj h).symm⟩

end Sources

/-- A run over joined lists of sources fails as the run over the first list does, if that fails.
Else it goes on over the second list from the count that the first leaves: its messages are those of
the first and then those of the second, and it fails as the second does or gives the operations and
fragments of both in this order, each with the file of its source. Nothing depends on the journal
before. -/
theorem sources_joined (settings : RunSettings) (count : Nat) (front back : List Source) :
    let first := seenFrom (sources settings front) count
    let second := seenFrom (sources settings back) first.count
    let whole := seenFrom (sources settings (front ++ back)) count
    (∀ e, first.result = .error e → whole = first) ∧
    (∀ d, first.result = .ok d →
      whole.count = second.count ∧ whole.messages = first.messages ++ second.messages ∧
      (∀ e, second.result = .error e → whole.result = .error e) ∧
      ∀ d', second.result = .ok d' → ∃ joined, whole.result = .ok joined ∧
        joined.operations = d.operations ++ d'.operations ∧
        joined.fragments = d.fragments ++ d'.fragments ∧
        (joined.hasOperations ↔ d.operations ++ d'.operations ≠ []) ∧
        (joined.hasFragments ↔ d.fragments ++ d'.fragments ≠ []) ∧
        Gathered settings count d front ∧ Gathered settings first.count d' back) ∧
    ∀ journal, runFrom (sources settings (front ++ back)) ⟨count, journal⟩ =
      (whole.result, ⟨whole.count, journal ++ whole.messages⟩) := by
  intro first second whole
  have hwhole : sources settings (front ++ back) =
      sources settings front >>= fun d => sourcesAfter settings d back :=
    sourcesAfter_append settings front back ∅
  obtain ⟨hfailed, hwent⟩ := seenFrom_bind (x := sources settings front)
    (sourcesAfter_adds settings back) count
  rw [← hwhole] at hfailed hwent
  refine ⟨fun e he => ?_, fun d hd => ?_, sourcesAfter_adds settings (front ++ back) ∅ count⟩
  · change seenFrom (sources settings (front ++ back)) count = first
    rw [hfailed e he, ← he]
  · -- The second list is run with the first document in front, which changes the result alone.
    have hrefreshed : d.refresh = d := sourcesAfter_refreshed settings front rfl _ d hd
    have hback : whole = ⟨second.result.map (d ++ ·), second.count,
        first.messages ++ second.messages⟩ := by
      obtain ⟨hbackFailed, hbackWent⟩ := seenFrom_bind (x := sources settings back)
        (fun d' => adds_pure (d ++ d')) first.count
      change seenFrom (sources settings (front ++ back)) count = _
      rw [hwent d hd, sourcesAfter_eq settings back hrefreshed]
      cases hd' : second.result with
      | error e =>
        rw [hbackFailed e hd']
        rfl
      | ok d' =>
        rw [hbackWent d' hd']
        change Seen.mk _ _ (first.messages ++ (second.messages ++ [])) = _
        rw [List.append_nil]
        rfl
    refine ⟨by rw [hback], by rw [hback], fun e he => by rw [hback, he]; rfl, fun d' hd' => ?_⟩
    have hjoined : whole.result = .ok (d ++ d') := by
      rw [hback, hd']
      rfl
    have hoperations : (d ++ d').operations = d.operations ++ d'.operations := rfl
    have hfragments : (d ++ d').fragments = d.fragments ++ d'.fragments := rfl
    refine ⟨d ++ d', hjoined, hoperations, hfragments, ?_, ?_, sources_gathered settings front hd,
      sources_gathered settings back hd'⟩
    · simp [Document.append_eq, Document.refresh]
    · simp [Document.append_eq, Document.refresh]

/-- Sources with and without a file, one of them with a scalar among its definitions, and a list
that fails at the second of two operations without a name. -/
theorem sources_joined_mixed :
    let declared : List TypeSystemDefinition :=
      [.type ⟨"Query", none, [], .object [] [⟨"a", none, .named "Int", [], []⟩]⟩]
    let front : List Source :=
      [⟨some "f", "\x7b a \x7d"⟩, ⟨none, "scalar S\nfragment F on Query \x7b a \x7d"⟩]
    let back : List Source := [⟨some "g", "query \x7b a \x7d"⟩]
    let broken : List Source := [⟨none, "\x7b a \x7d \x7b b \x7d"⟩]
    ∃ s, Schema.ofDefinitions declared = .ok s ∧
      (∃ joined, (seenFrom (sources ⟨s, false⟩ (front ++ back)) 2).result = .ok joined ∧
        joined.operations.map (fun o => (o.name, o.file)) =
          [("Anonymous_query_3", some "f"), ("Anonymous_query_4", some "g")] ∧
        joined.fragments.map (fun f => (f.name, f.file)) = [("F", none)] ∧
        joined.hasOperations ∧ joined.hasFragments) ∧
      (seenFrom (sources ⟨s, false⟩ (front ++ back)) 2).count = 4 ∧
      (seenFrom (sources ⟨s, false⟩ (front ++ back)) 2).messages.length = 7 ∧
      ∃ e, (seenFrom (sources ⟨s, false⟩ broken) 2).result = .error e ∧
        seenFrom (sources ⟨s, false⟩ (broken ++ back)) 2 =
          seenFrom (sources ⟨s, false⟩ broken) 2 ∧
        (seenFrom (sources ⟨s, false⟩ broken) 2).count = 4 := by
  intro declared front back broken
  obtain ⟨s, hs, hfront, hcounts, hmessages, hback, hbroken⟩ :
      ∃ s, Schema.ofDefinitions declared = .ok s ∧
        (seenFrom (sources ⟨s, false⟩ front) 2).result.toOption.map (fun d =>
          (d.operations.map fun o => (o.name, o.file), d.fragments.map fun f => (f.name, f.file))) =
          some ([("Anonymous_query_3", some "f")], [("F", none)]) ∧
        ((seenFrom (sources ⟨s, false⟩ front) 2).count = 3 ∧
          (seenFrom (sources ⟨s, false⟩ back) 3).count = 4 ∧
          (seenFrom (sources ⟨s, false⟩ broken) 2).count = 4) ∧
        ((seenFrom (sources ⟨s, false⟩ front) 2).messages.length = 5 ∧
          (seenFrom (sources ⟨s, false⟩ back) 3).messages.length = 2) ∧
        (seenFrom (sources ⟨s, false⟩ back) 3).result.toOption.map (fun d =>
          (d.operations.map fun o => (o.name, o.file), d.fragments.map fun f => (f.name, f.file))) =
          some ([("Anonymous_query_4", some "g")], []) ∧
        (seenFrom (sources ⟨s, false⟩ broken) 2).result.isOk = false :=
    ⟨_, rfl, by decide +kernel, by decide +kernel, by decide +kernel, by decide +kernel,
      by decide +kernel⟩
  obtain ⟨d, hd, hdParts⟩ := Option.map_eq_some_iff.mp hfront
  obtain ⟨d', hd', hdParts'⟩ := Option.map_eq_some_iff.mp hback
  rw [toOption_eq_some] at hd hd'
  obtain ⟨-, hwent, -⟩ := sources_joined ⟨s, false⟩ 2 front back
  obtain ⟨hcount, htold, -, hdocument⟩ := hwent d hd
  rw [hcounts.1] at hcount htold hdocument
  obtain ⟨joined, hjoined, hoperations, hfragments, hflag, hflag', -⟩ := hdocument d' hd'
  obtain ⟨hnames, hparts⟩ := Prod.mk.inj hdParts
  obtain ⟨hnames', hparts'⟩ := Prod.mk.inj hdParts'
  have hall : joined.operations.map (fun o => (o.name, o.file)) =
      [("Anonymous_query_3", some "f"), ("Anonymous_query_4", some "g")] := by
    rw [hoperations, List.map_append, hnames, hnames']
    rfl
  have hall' : joined.fragments.map (fun f => (f.name, f.file)) = [("F", none)] := by
    rw [hfragments, List.map_append, hparts, hparts']
    rfl
  refine ⟨s, hs, ⟨joined, hjoined, hall, hall', hflag.mpr ?_, hflag'.mpr ?_⟩,
    hcount.trans hcounts.2.1, ?_, ?_⟩
  · rw [← hoperations]
    intro hnil
    rw [hnil] at hall
    cases hall
  · rw [← hfragments]
    intro hnil
    rw [hnil] at hall'
    cases hall'
  · rw [htold, List.length_append, hmessages.1, hmessages.2]
  · cases hresult : (seenFrom (sources ⟨s, false⟩ broken) 2).result with
    | ok d =>
      rw [hresult] at hbroken
      cases hbroken
    | error e =>
      obtain ⟨hfailed, -⟩ := sources_joined ⟨s, false⟩ 2 broken back
      exact ⟨e, rfl, hfailed e hresult, hcounts.2.2⟩

end Run

end QueryModel
