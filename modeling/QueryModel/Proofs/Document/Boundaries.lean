import QueryModel.Proofs.Document.Scanning

/-!
# Where definitions start

Between two definitions the scan is ready: what the next definition begins with starts it.
A written definition starts where it stands and nowhere further on, and the scan is ready
again after it. Only a shorthand query needs more: a definition before it that may have a
body must have one.
-/

set_option autoImplicit false

namespace QueryModel

open Text

namespace SplitState

variable {s : SplitState} {kind : String} {body : Bool} {rest : List Char}

def fresh : SplitState := ⟨0, true, [], false⟩

def opened (word : String) : SplitState := ⟨0, true, [word], false⟩

/-- The next keyword or literal starts a definition, and with `brace` the next opening
brace does too. -/
structure Ready (brace : Bool) (s : SplitState) : Prop where
  depth_eq : s.depth = 0
  unclosed : s.closed = false → s.started = true → s.isTypeSystem = true ∧ s.pastName = true ∧
    (brace = true → s.isBodyless = true)
  unstarted : s.started = false → s = initial

namespace Ready

variable {brace : Bool}

theorem of_initial : Ready brace initial :=
  ⟨rfl, fun _ h => by simp [initial] at h, fun _ => rfl⟩

theorem of_closed (hs : s.depth = 0) (hstarted : s.started = true) :
    Ready brace { s with closed := true } :=
  ⟨hs, fun h => by simp at h, fun h => by simp [hstarted] at h⟩

theorem of_header {word : String} {more : List String} (h : InHeader kind (word :: more) s)
    (hkind : kind ∈ typeSystemKinds) (hbrace : brace = true → kind ∈ bodylessKinds) :
    Ready brace s := by
  refine ⟨h.depth_eq, fun _ _ => ⟨?_, ?_, fun hb => ?_⟩, fun hs => ?_⟩
  · simpa [isTypeSystem, h.words_eq] using hkind
  · simp [pastName, h.words_eq]
  · simpa [isBodyless, h.words_eq] using hbrace hb
  · rw [h.started_eq] at hs
    contradiction

theorem weaken {brace' : Bool} (h : Ready brace s) (hbrace : brace' = true → brace = true) :
    Ready brace' s := by
  refine ⟨h.depth_eq, fun hclosed hs => ?_, h.unstarted⟩
  obtain ⟨hsystem, hpast, hbodyless⟩ := h.unclosed hclosed hs
  exact ⟨hsystem, hpast, fun hb => hbodyless (hbrace hb)⟩

theorem begin_eq (h : Ready brace s) {boundary : Bool}
    (hbody : s.closed = true → boundary = true)
    (hname : s.isTypeSystem = true → s.pastName = true → (brace = true → s.isBodyless = true) →
      boundary = true) : s.begin boundary = (fresh, true) := by
  cases hs : s.started with
  | false =>
    rw [h.unstarted hs]
    rfl
  | true =>
    have hboundary : boundary = true := by
      cases hclosed : s.closed with
      | true => exact hbody hclosed
      | false =>
        obtain ⟨hsystem, hpast, hbodyless⟩ := h.unclosed hclosed hs
        exact hname hsystem hpast hbodyless
    have hdepth := h.depth_eq
    obtain ⟨depth, started, header, closed⟩ := s
    obtain rfl : depth = 0 := hdepth
    obtain rfl : started = true := hs
    rw [hboundary]
    rfl

theorem begin_word (h : Ready brace s) {word : String} (hword : word ∈ definitionKeywords) :
    s.begin (s.wordBoundary word) = (fresh, true) := by
  apply h.begin_eq
  · intro hclosed
    simp [wordBoundary, hword, hclosed]
  · intro hsystem hpast _
    simp [wordBoundary, hword, hsystem, hpast]

theorem begin_brace (h : Ready true s) : s.begin s.braceBoundary = (fresh, true) := by
  apply h.begin_eq
  · intro hclosed
    simp [braceBoundary, hclosed]
  · intro _ hpast hbodyless
    simp [braceBoundary, hbodyless rfl, hpast]

theorem begin_text (h : Ready brace s) : s.begin s.textBoundary = (fresh, true) := by
  apply h.begin_eq
  · intro hclosed
    simp [textBoundary, hclosed]
  · intro _ hpast _
    have hheader : s.header ≠ [] := by
      intro hnil
      simp [pastName, kindAndRest, hnil] at hpast
    simp [textBoundary, hheader]

end Ready

theorem keyword_isName : ∀ word ∈ definitionKeywords, isName word.toList = true := by decide

theorem Ready.begins_word {brace : Bool} (h : Ready brace s) {word : String}
    (hword : word ∈ definitionKeywords) (hrest : Stops rest) :
    s.Begins word.toList (opened word) rest := by
  have hname := keyword_isName word hword
  apply begins_of_lexes (lexes_name hname hrest)
  rw [step_word h.depth_eq hname, String.ofList_toList, h.begin_word hword]
  rfl

theorem fresh_passes_word {word : String} (hword : word ∈ definitionKeywords)
    (hrest : Stops rest) : fresh.Passes word.toList (opened word) rest := by
  have hname := keyword_isName word hword
  apply passes_of_lexes (lexes_name hname hrest)
  rw [step_word rfl hname, String.ofList_toList]
  simp [wordBoundary, fresh, isTypeSystem, kindAndRest, begin, SplitState.push, opened]

theorem opened_inHeader (hkind : kind ≠ "extend") : InHeader kind [] (opened kind) :=
  ⟨rfl, rfl, rfl, by simp [kindAndRest, opened, hkind]⟩

theorem extend_passes_kind (hkind : kind ∈ definitionKeywords) (hrest : Stops rest) :
    ∃ t, (opened "extend").Passes kind.toList t rest ∧ InHeader kind [] t := by
  have hname := keyword_isName kind hkind
  refine ⟨⟨0, true, ["extend", kind], false⟩, passes_of_lexes (lexes_name hname hrest) ?_,
    rfl, rfl, rfl, rfl⟩
  rw [step_word rfl hname, String.ofList_toList]
  simp [wordBoundary, isTypeSystem, kindAndRest, begin, SplitState.push, opened]

/-- From the header of the kind the text leads to a state that is ready for the next
definition. -/
def Finishes (kind : String) (brace : Bool) (tail : List Char) : Prop :=
  ∀ s rest, InHeader kind [] s → Stops rest → ∃ t, s.Passes tail t rest ∧ Ready brace t

theorem stops_braced (inner : List Char) : Stops (braced inner) := by
  intro c hc
  obtain rfl : '\x7b' = c := by simpa [braced] using hc
  decide

theorem slot_passes {slot : List Char} (h : NameSlot slot) (hs : InHeader kind [] s)
    (hrest : Stops rest) : ∃ t word, s.Passes slot t rest ∧ InHeader kind [word] t := by
  cases h with
  | name hn =>
    obtain ⟨t, ht, hin⟩ := word_passes hs hn hrest fun _ _ => rfl
    exact ⟨t, _, ht, hin⟩
  | directive hn =>
    obtain ⟨t, ht, hin⟩ := directive_passes hs hn hrest
    exact ⟨t, _, ht, hin⟩

theorem named_passes {cs : List Char} (h : NamedKind kind cs) :
    ∃ tail, cs = kind.toList ++ tail ∧ Stops tail ∧ ∀ s rest, InHeader kind [] s → Stops rest →
      ∃ t word more, s.Passes tail t rest ∧ InHeader kind (word :: more) t := by
  obtain @⟨sp, slot, header, hspace, hslot, hstops, hend, hheader⟩ := h
  refine ⟨_, rfl, by simpa using hstops.append hend, fun s rest hs hrest => ?_⟩
  obtain ⟨t, word, ht, hin⟩ := slot_passes hslot hs (hend.append hrest)
  obtain ⟨u, words, hu, hin⟩ := header_passes hheader hin hrest
    fun word hallowed hkeyword => absurd hkeyword hallowed
  exact ⟨u, word, words, (space_passes hspace s _).append (ht.append hu), hin⟩

theorem body_finishes {more : List String} (h : InHeader kind more s)
    (hkind : kind ∉ bodylessKinds) {inner : List Char} (hinner : Balanced inner)
    (rest : List Char) : ∃ t, s.Passes (braced inner) t rest ∧ Ready true t :=
  ⟨_, body_passes h hkind hinner rest, .of_closed h.depth_eq h.started_eq⟩

theorem bodyKinds_iff : kind ∈ bodyKinds ↔ kind ∈ typeSystemKinds ∧ kind ∉ bodylessKinds := by
  constructor
  · revert kind
    decide
  · rintro ⟨hkind, hbody⟩
    revert hbody
    revert kind
    decide

theorem declaration_finishes {cs : List Char} (h : Declaration kind body cs) :
    kind ∈ typeSystemKinds ∧ ∃ tail, cs = kind.toList ++ tail ∧ Stops tail ∧
      Finishes kind (body || bodylessKinds.contains kind) tail := by
  cases h with
  | bare hkind hnamed =>
    obtain ⟨tail, rfl, hstops, htail⟩ := named_passes hnamed
    refine ⟨hkind, tail, rfl, hstops, fun s rest hs hrest => ?_⟩
    obtain ⟨t, word, more, ht, hin⟩ := htail s rest hs hrest
    exact ⟨t, ht, .of_header hin hkind fun hbrace => by simpa using hbrace⟩
  | @body _ _ inner hkind hnamed hinner =>
    obtain ⟨hsystem, hbody⟩ := bodyKinds_iff.1 hkind
    obtain ⟨tail, rfl, hstops, htail⟩ := named_passes hnamed
    refine ⟨hsystem, tail ++ braced inner, List.append_assoc .., hstops.append (stops_braced inner),
      fun s rest hs hrest => ?_⟩
    obtain ⟨t, word, more, ht, hin⟩ := htail s _ hs ((stops_braced inner).append hrest)
    obtain ⟨u, hu, hready⟩ := body_finishes hin hbody hinner rest
    exact ⟨u, ht.append hu, hready⟩
  | @schema header inner hstops hheader hinner =>
    refine ⟨by decide, header ++ braced inner, List.append_assoc ..,
      hstops.append (stops_braced inner), fun s rest hs hrest => ?_⟩
    obtain ⟨t, words, ht, hin⟩ := header_passes hheader hs ((stops_braced inner).append hrest)
      fun word hallowed hkeyword => absurd hkeyword hallowed
    obtain ⟨u, hu, hready⟩ := body_finishes hin (by decide) hinner rest
    exact ⟨u, ht.append hu, hready⟩

theorem space_stops {sp : List Char} (h : Space sp) (hne : sp ≠ []) (cs : List Char) :
    Stops (sp ++ cs) := by
  cases h with
  | nil => contradiction
  | gap hc h =>
    have hgap : ∀ c ∈ gapChars, isNameChar c = false := of_listed (by decide)
    rintro _ ⟨rfl⟩
    exact hgap _ hc
  | comment hline h =>
    rintro _ ⟨rfl⟩
    decide

theorem kind_mem_keywords (hkind : kind ∈ typeSystemKinds) :
    kind ∈ definitionKeywords ∧ kind ≠ "extend" := by
  revert kind
  decide

theorem typeSystem_finishes {cs : List Char} (h : TypeSystemText kind body cs) :
    ∃ word ∈ definitionKeywords, ∃ tail, cs = word.toList ++ tail ∧ Stops tail ∧
      ∀ rest, Stops rest → ∃ t, (opened word).Passes tail t rest ∧
        Ready (body || bodylessKinds.contains kind) t := by
  cases h with
  | definition h =>
    obtain ⟨hkind, tail, rfl, hstops, htail⟩ := declaration_finishes h
    obtain ⟨hkeyword, hextend⟩ := kind_mem_keywords hkind
    exact ⟨kind, hkeyword, tail, rfl, hstops,
      fun rest hrest => htail _ rest (opened_inHeader hextend) hrest⟩
  | extension hspace hne h =>
    obtain ⟨hkind, tail, rfl, hstops, htail⟩ := declaration_finishes h
    refine ⟨"extend", by decide, _, rfl, space_stops hspace hne _, fun rest hrest => ?_⟩
    obtain ⟨t, ht, hin⟩ := extend_passes_kind (kind_mem_keywords hkind).1 (hstops.append hrest)
    obtain ⟨u, hu, hready⟩ := htail t rest hin hrest
    exact ⟨u, (space_passes hspace _ _).append (ht.append hu), hready⟩

theorem name_head {n : List Char} (hn : isName n = true) (cs : List Char) :
    (n ++ cs).head? ≠ some '"' := by
  obtain ⟨hne, hchars, -⟩ := (isName_iff n).1 hn
  obtain ⟨c, n, rfl⟩ := List.exists_cons_of_ne_nil hne
  intro hquote
  obtain rfl : c = '"' := by simpa using hquote
  exact absurd (hchars '"' List.mem_cons_self) (by decide)

theorem space_head {sp cs : List Char} (h : Space sp) (hcs : cs.head? ≠ some '"') :
    (sp ++ cs).head? ≠ some '"' := by
  cases h with
  | nil => exact hcs
  | gap hc h =>
    have hgap : '"' ∉ gapChars := by decide
    rintro ⟨rfl⟩
    exact hgap hc
  | comment hline h => simp

end SplitState

def DefinitionForm.isShorthand : DefinitionForm → Bool
  | .shorthand => true
  | _ => false

def DefinitionForm.admitsShorthand : DefinitionForm → Bool
  | .typeSystem kind body => body || bodylessKinds.contains kind
  | _ => true

open SplitState

/-- A written definition starts where the scan is ready for it, and the scan is ready again
after it. -/
theorem HasForm.begins {form : DefinitionForm} {d rest : List Char} {s : SplitState}
    (h : HasForm form d) (hs : Ready form.isShorthand s) (hrest : Stops rest) :
    ∃ t, s.Begins d t rest ∧ Ready form.admitsShorthand t := by
  cases h with
  | @shorthand inner hinner =>
    have hopen : s.Begins ['\x7b'] fresh.deeper ((inner ++ ['\x7d']) ++ rest) := by
      apply begins_of_lexes (lexes_brackets .curly _).1
      simp [step, outer, nest, hs.depth_eq, hs.begin_brace, deeper]
    exact ⟨_, hopen.append (inner_passes rfl hinner rest), .of_closed rfl rfl⟩
  | @executable word header inner hword hstops hheader hinner =>
    obtain ⟨hkeyword, hextend, hsystem, hbody⟩ : word ∈ definitionKeywords ∧ word ≠ "extend" ∧
        word ∉ typeSystemKinds ∧ word ∉ bodylessKinds := by
      clear hs
      revert word
      decide
    have hbraced := (stops_braced inner).append hrest
    obtain ⟨t, words, ht, hin⟩ := header_passes hheader (opened_inHeader hextend) hbraced
      fun _ _ _ => hsystem
    obtain ⟨u, hu, hready⟩ := body_finishes hin hbody hinner rest
    have hfirst := hs.begins_word hkeyword (hstops.append hbraced)
    exact ⟨u, (hfirst.append ht).append hu, hready⟩
  | typeSystem h =>
    obtain ⟨word, hword, tail, rfl, hstops, htail⟩ := typeSystem_finishes h
    obtain ⟨t, ht, hready⟩ := htail rest hrest
    exact ⟨t, (hs.begins_word hword (hstops.append hrest)).append ht, hready⟩
  | @described _ _ literal sp _ hliteral hspace h =>
    obtain ⟨word, hword, tail, rfl, hstops, htail⟩ := typeSystem_finishes h
    obtain ⟨t, ht, hready⟩ := htail rest hrest
    have hhead := space_head hspace (name_head (keyword_isName word hword) (tail ++ rest))
    have hfirst : s.Begins literal fresh ((sp ++ (word.toList ++ tail)) ++ rest) := by
      apply begins_of_lexes (lexes_literal hliteral fun _ => by simpa using hhead)
      simp [step, outer, nest, hs.depth_eq, hs.begin_text]
    have hword := fresh_passes_word hword (hstops.append hrest)
    exact ⟨t, hfirst.append ((space_passes hspace _ _).append (hword.append ht)), hready⟩

theorem HasForm.ne_nil {form : DefinitionForm} {d : List Char} (h : HasForm form d) : d ≠ [] := by
  cases h with
  | shorthand hinner => simp [braced]
  | executable hword hstops hheader hinner => simp [braced]
  | typeSystem h =>
    obtain ⟨word, hword, tail, rfl, -⟩ := typeSystem_finishes h
    have hname := keyword_isName word hword
    intro hnil
    rw [(List.append_eq_nil_iff.1 hnil).1] at hname
    contradiction
  | described hliteral hspace h => cases hliteral <;> simp

theorem HasForm.kind_mem {kind : String} {body : Bool} {d : List Char}
    (h : HasForm (.typeSystem kind body) d) : kind ∈ typeSystemKinds := by
  cases h with
  | typeSystem h | described _ _ h =>
    cases h with
    | definition h | extension _ _ h => exact (declaration_finishes h).1

theorem Separable.ready {d e : List Char} {form next : DefinitionForm} {s : SplitState}
    (h : Separable d e) (hd : HasForm form d) (he : HasForm next e)
    (hs : Ready form.admitsShorthand s) : Ready next.isShorthand s := by
  apply hs.weaken
  intro hnext
  obtain rfl : next = .shorthand := by
    cases next <;> simp_all [DefinitionForm.isShorthand]
  cases form with
  | shorthand | executable => rfl
  | typeSystem kind body =>
    cases body with
    | true => rfl
    | false =>
      by_cases hkind : kind ∈ bodylessKinds
      · simpa [DefinitionForm.admitsShorthand] using hkind
      · exact absurd he (h kind (bodyKinds_iff.2 ⟨hd.kind_mem, hkind⟩) hd)

end QueryModel
