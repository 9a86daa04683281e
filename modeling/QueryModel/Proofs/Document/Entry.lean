import QueryModel.Proofs.Document.Written

/-!
# Entering a definition

What a written definition does to the scan. It starts where the scan is ready for it, or goes on
with a definition that only a byte order mark has started, and the scan is ready again after it.
The one condition is that no word after the name of a type system definition is a keyword.
-/

set_option autoImplicit false

namespace QueryModel

open Text Syntax

namespace SplitState

variable {s t : SplitState} {kind : String} {more ws : List String} {cs rest : List Char}

section Space

/-- A definition goes on, outside brackets and before its body is closed. -/
structure Going (s : SplitState) : Prop where
  depth_eq : s.depth = 0
  started_eq : s.started = true
  closed_eq : s.closed = false

theorem InHeader.going (h : InHeader kind more s) : s.Going :=
  ⟨h.depth_eq, h.started_eq, h.closed_eq⟩

theorem all_mark (rest : List Char) : Lexeme.all (bytes ('\ufeff' :: rest)) =
    ⟨.other, [0xEF]⟩ :: ⟨.other, [0xBB]⟩ :: ⟨.other, [0xBF]⟩ :: Lexeme.all (bytes rest) := by
  have hbytes : bytes ('\ufeff' :: rest) = 0xEF :: 0xBB :: 0xBF :: bytes rest := bytes_cons _ _
  have hmark (b : UInt8) (hb : Lexeme.markOf b = .other) (bs : List UInt8) :
      Lexeme.all (b :: bs) = ⟨.other, [b]⟩ :: Lexeme.all bs := by
    rw [Lexeme.all, hb]
    rfl
  rw [hbytes, hmark _ (by decide), hmark _ (by decide), hmark _ (by decide)]

theorem step_other (hs : s.depth = 0) (hstarted : s.started = true) (bs : List UInt8) :
    s.step ⟨.other, bs⟩ = ({ s with closed := false }, false) := by
  obtain ⟨depth, started, header, closed⟩ := s
  obtain rfl : depth = 0 := hs
  obtain rfl : started = true := hstarted
  rfl

/-- After a body a byte order mark hides that the body was closed. -/
theorem passes_mark (hs : s.depth = 0) (hstarted : s.started = true) (rest : List Char) :
    s.Passes ['\ufeff'] { s with closed := false } rest := by
  intro offset
  have hopen (bs : List UInt8) : SplitState.step { s with closed := false } ⟨.other, bs⟩ =
      ({ s with closed := false }, false) :=
    step_other (s := { s with closed := false }) hs hstarted bs
  rw [scan, List.singleton_append, all_mark]
  simp only [startsFrom, step_other hs hstarted, hopen]
  rfl

theorem Going.passes_mark (h : s.Going) (rest : List Char) : s.Passes ['\ufeff'] s rest := by
  have hmark := SplitState.passes_mark h.depth_eq h.started_eq rest
  rwa [← h.closed_eq] at hmark

theorem initial_begins_mark (rest : List Char) : initial.Begins ['\ufeff'] fresh rest := by
  intro offset
  have hfirst (bs : List UInt8) : initial.step ⟨.other, bs⟩ = (fresh, true) := rfl
  have hmore (bs : List UInt8) : fresh.step ⟨.other, bs⟩ = (fresh, false) := rfl
  rw [scan, List.singleton_append, all_mark]
  simp only [startsFrom, hfirst, hmore]
  rfl

theorem gap_of_ignored {c : Char} (hc : c ∈ ignoredChars) : c ∈ gapChars ∨ c = '\ufeff' := by
  have hall : ∀ c ∈ ignoredChars, c ∈ gapChars ∨ c = '\ufeff' := of_listed (by decide)
  exact hall c hc

theorem Going.passes_spacing (h : s.Going) {sp : List Char} (hsp : Spacing sp) (rest : List Char) :
    s.Passes sp s rest := by
  induction hsp with
  | nil => exact passes_nil s rest
  | char hc hsp ih =>
    rcases gap_of_ignored hc with hgap | rfl
    · exact (passes_gap s hgap _).append ih
    · exact (h.passes_mark _).append ih
  | comment hline hsp ih =>
    exact (passes_comment s hline.1 _).append ((passes_gap s (by decide) _).append ih)

theorem spacing_starts_none {sp : List Char} (hsp : Spacing sp) (hs : s.depth = 0)
    (hstarted : s.started = true) (rest : List Char) :
    ∃ t : SplitState, t.depth = 0 ∧ t.started = true ∧ s.Passes sp t rest := by
  induction hsp generalizing s with
  | nil => exact ⟨s, hs, hstarted, passes_nil s rest⟩
  | char hc hsp ih =>
    rcases gap_of_ignored hc with hgap | rfl
    · obtain ⟨t, ht, htstarted, hpasses⟩ := ih hs hstarted
      exact ⟨t, ht, htstarted, (passes_gap s hgap _).append hpasses⟩
    · obtain ⟨t, ht, htstarted, hpasses⟩ := ih (s := { s with closed := false }) hs hstarted
      exact ⟨t, ht, htstarted, (passes_mark hs hstarted _).append hpasses⟩
  | comment hline hsp ih =>
    obtain ⟨t, ht, htstarted, hpasses⟩ := ih hs hstarted
    exact ⟨t, ht, htstarted,
      (passes_comment s hline.1 _).append ((passes_gap s (by decide) _).append hpasses)⟩

theorem scan_nil (s : SplitState) (offset : Nat) : s.scan offset [] = [] := by
  rw [scan, show bytes [] = [] from rfl, Lexeme.all, startsFrom]

theorem scan_trailing {trail : List Char} (h : Trailing trail) (hs : s.depth = 0)
    (hstarted : s.started = true) (offset : Nat) : s.scan offset trail = [] := by
  cases h with
  | space h =>
    obtain ⟨t, -, -, hpasses⟩ := spacing_starts_none h hs hstarted []
    have hscan := hpasses offset
    rwa [List.append_nil, scan_nil] at hscan
  | @comment sp line h hline =>
    obtain ⟨t, -, -, hpasses⟩ := spacing_starts_none h hs hstarted ('#' :: line)
    have hlast : t.Passes ('#' :: line) t [] := by
      apply passes_of_lexes (lexes_last_comment hline.1)
      simp [step, outer, nest]
    have hscan := hlast (offset + (bytes sp).length)
    rw [List.append_nil, scan_nil] at hscan
    rw [hpasses, hscan]

end Space

section Header

/-- No keyword stands among the words after the first, if they are those of a type system
definition after its kind. -/
def Unmistaken (kind : String) (words : List String) : Prop :=
  kind ∈ typeSystemKinds → ∀ w ∈ words.drop 1, w ∉ definitionKeywords

theorem lexes_sign {n : List Char} (hn : ∀ c ∈ n, isNameChar c = true) (hrest : Stops rest) :
    Lexes .directive ('@' :: n) rest := by
  apply lexes_of_extent (by decide) (by decide)
  rw [Lexeme.extent, takeWhile_name hn hrest]

theorem apart_passes (h : InHeader kind more s) (hrest : Stops rest) :
    ∃ t, s.Passes ['@'] t rest ∧ InHeader kind (more ++ ["@"]) t := by
  refine ⟨_, passes_of_lexes (lexes_sign (by simp) hrest) ?_, h.push "@"⟩
  simp [step, outer, nest, SplitState.push, h.depth_eq, h.begin_false]

theorem outer_passes (h : OuterText ws cs) (hs : InHeader kind more s) (hrest : Stops rest)
    (hwords : Unmistaken kind (more ++ ws)) :
    ∃ t, s.Passes cs t rest ∧ InHeader kind (more ++ ws) t := by
  induction h generalizing s more with
  | nil => exact ⟨s, passes_nil s rest, by simpa using hs⟩
  | space hsp h ih =>
    obtain ⟨t, ht, hin⟩ := ih hs hwords
    exact ⟨t, (hs.going.passes_spacing hsp _).append ht, hin⟩
  | @name ws n cs hn hstops h ih =>
    have hfirst : String.ofList n ∈ definitionKeywords → kind ∈ typeSystemKinds → more = [] := by
      intro hkeyword hkind
      by_contra hne
      obtain ⟨w, more, rfl⟩ := List.exists_cons_of_ne_nil hne
      exact hwords hkind _ (by simp) hkeyword
    obtain ⟨t, ht, hin⟩ := word_passes hs hn (hstops.append hrest) hfirst
    obtain ⟨u, hu, hin⟩ := ih hin (by simpa using hwords)
    exact ⟨u, ht.append hu, by simpa using hin⟩
  | directive hn hstops h ih =>
    obtain ⟨t, ht, hin⟩ := directive_passes hs hn (hstops.append hrest)
    obtain ⟨u, hu, hin⟩ := ih hin (by simpa using hwords)
    exact ⟨u, ht.append hu, by simpa using hin⟩
  | apart hstops h ih =>
    obtain ⟨t, ht, hin⟩ := apart_passes hs (hstops.append hrest)
    obtain ⟨u, hu, hin⟩ := ih hin (by simpa using hwords)
    exact ⟨u, ht.append hu, by simpa using hin⟩
  | sign hc h ih =>
    obtain ⟨t, ht, hin⟩ := ih hs hwords
    exact ⟨t, (punctuator_passes hs hc _).append ht, hin⟩
  | @group ws inner cs hinner h ih =>
    obtain ⟨t, ht, hin⟩ := ih hs hwords
    have hgroup := (group_passes hs .round (by decide) hinner (cs ++ rest)).append ht
    exact ⟨t, by simpa using hgroup, hin⟩

/-- A definition is over and the scan is ready for the next one. -/
structure Done (brace : Bool) (s : SplitState) : Prop extends Ready brace s where
  started_eq : s.started = true

theorem body_done (h : InHeader kind more s) (hkind : kind ∉ bodylessKinds) {inner : List Char}
    (hinner : Balanced inner) (rest : List Char) :
    ∃ t, s.Passes (braced inner) t rest ∧ Done true t :=
  ⟨_, body_passes h hkind hinner rest, .of_closed h.depth_eq h.started_eq, h.started_eq⟩

theorem kind_passes {body : Bool} (h : KindText kind body ws cs) (hwords : Unmistaken kind ws) :
    kind ∈ typeSystemKinds ∧ ∃ tail, cs = kind.toList ++ tail ∧ Stops tail ∧
      ∀ s rest, InHeader kind [] s → Stops rest →
        ∃ t, s.Passes tail t rest ∧ Done (body || bodylessKinds.contains kind) t := by
  cases h with
  | bare hkind htail hne hstops =>
    refine ⟨hkind, _, rfl, hstops, fun s rest hs hrest => ?_⟩
    obtain ⟨t, ht, hin⟩ := outer_passes htail hs hrest hwords
    obtain ⟨w, ws, rfl⟩ := List.exists_cons_of_ne_nil hne
    exact ⟨t, ht, .of_header hin hkind fun hbrace => by simpa using hbrace, hin.started_eq⟩
  | @body ws header inner hkind hheader hstops hinner =>
    obtain ⟨hsystem, hbody⟩ := bodyKinds_iff.mp hkind
    refine ⟨hsystem, _, rfl, hstops.append (stops_braced inner), fun s rest hs hrest => ?_⟩
    obtain ⟨t, ht, hin⟩ := outer_passes hheader hs ((stops_braced inner).append hrest) hwords
    obtain ⟨u, hu, hdone⟩ := body_done hin hbody hinner rest
    exact ⟨u, ht.append hu, hdone⟩

end Header

section Definition

/-- The text starts a definition where the scan is ready for it, and goes on with one that has
just started. -/
structure Enters (brace : Bool) (cs : List Char) (t : SplitState) (rest : List Char) : Prop where
  begins : ∀ s, Ready brace s → s.Begins cs t rest
  passes : fresh.Passes cs t rest

theorem Enters.append {brace : Bool} {ds : List Char} {u : SplitState}
    (h : Enters brace cs t (ds ++ rest)) (h' : t.Passes ds u rest) :
    Enters brace (cs ++ ds) u rest :=
  ⟨fun s hs => (h.begins s hs).append h', h.passes.append h'⟩

theorem enters_word {w : String} (hw : w ∈ definitionKeywords) (hrest : Stops rest) :
    Enters false w.toList (opened w) rest :=
  ⟨fun _ hs => hs.begins_word hw hrest, fresh_passes_word hw hrest⟩

theorem enters_brace (rest : List Char) : Enters true ['\x7b'] fresh.deeper rest := by
  refine ⟨fun s hs => ?_, ?_⟩
  · apply begins_of_lexes (lexes_brackets .curly _).1
    simp [step, outer, nest, hs.depth_eq, hs.begin_brace, deeper]
  · apply passes_of_lexes (lexes_brackets .curly _).1
    rfl

theorem enters_literal {literal : List Char} (h : IsLiteral literal)
    (hrest : rest.head? ≠ some '"') : Enters false literal fresh rest := by
  refine ⟨fun s hs => ?_, ?_⟩
  · apply begins_of_lexes (lexes_literal h fun _ => hrest)
    simp [step, outer, nest, hs.depth_eq, hs.begin_text]
  · apply passes_of_lexes (lexes_literal h fun _ => hrest)
    rfl

def afterName : List String → List String
  | [] => []
  | first :: words => if first = "extend" then words.drop 2 else words.drop 1

/-- No keyword stands after the name of a type system definition. -/
def ClearWords (form : DefinitionForm) (words : List String) : Prop :=
  match form with
  | .typeSystem _ _ => ∀ w ∈ afterName words, w ∉ definitionKeywords
  | _ => True

theorem kind_head {body : Bool} {sp : List Char} (h : KindText kind body ws cs) (hsp : Spacing sp)
    (rest : List Char) : ((sp ++ cs) ++ rest).head? ≠ some '"' := by
  cases sp with
  | cons c sp => exact fun hquote => spacing_quote hsp hquote
  | nil =>
    have hhead (hkind : kind ∈ typeSystemKinds) (tail : List Char) :
        (kind.toList ++ tail ++ rest).head? ≠ some '"' := by
      rw [List.append_assoc]
      exact name_head (keyword_isName kind (kind_mem_keywords hkind).1) _
    cases h with
    | bare hkind htail hne hstops => exact hhead hkind _
    | body hkind hheader hstops hinner => exact hhead (bodyKinds_iff.mp hkind).1 _

theorem unmistaken_of_definition {body : Bool}
    (h : ClearWords (.typeSystem kind body) (kind :: ws)) : Unmistaken kind ws := by
  intro hkind
  rwa [ClearWords, afterName, if_neg (kind_mem_keywords hkind).2] at h

theorem written_enters {form : DefinitionForm} (h : Written form ws cs)
    (hwords : ClearWords form ws) (hrest : Stops rest) :
    ∃ t, Enters form.isShorthand cs t rest ∧ Done form.admitsShorthand t := by
  cases h with
  | @shorthand inner hinner =>
    have hopen := enters_brace ((inner ++ ['\x7d']) ++ rest)
    exact ⟨_, hopen.append (inner_passes rfl hinner rest), .of_closed rfl rfl, rfl⟩
  | @executable w ws header inner hw hheader hstops hinner =>
    obtain ⟨hkeyword, hextend, hsystem, hbody⟩ : w ∈ definitionKeywords ∧ w ≠ "extend" ∧
        w ∉ typeSystemKinds ∧ w ∉ bodylessKinds := by
      clear hwords
      revert w
      decide
    have hbraced := (stops_braced inner).append hrest
    obtain ⟨t, ht, hin⟩ := outer_passes hheader (opened_inHeader hextend) hbraced
      fun hkind => absurd hkind hsystem
    obtain ⟨u, hu, hdone⟩ := body_done hin hbody hinner rest
    have hfirst : Enters false w.toList (opened w) ((header ++ braced inner) ++ rest) :=
      enters_word hkeyword ((hstops.append (stops_braced inner)).append hrest)
    exact ⟨u, hfirst.append (ht.append hu), hdone⟩
  | @definition kind body ws cs h =>
    have hclear : Unmistaken kind ws := unmistaken_of_definition hwords
    obtain ⟨hkind, tail, rfl, hstops, hfinish⟩ := kind_passes h hclear
    obtain ⟨hkeyword, hextend⟩ := kind_mem_keywords hkind
    obtain ⟨t, ht, hdone⟩ := hfinish _ rest (opened_inHeader hextend) hrest
    exact ⟨t, (enters_word hkeyword (hstops.append hrest)).append ht, hdone⟩
  | @extension kind body ws sp cs hsp hends h =>
    have hclear : Unmistaken kind ws := fun _ => hwords
    obtain ⟨hkind, tail, rfl, hstops, hfinish⟩ := kind_passes h hclear
    obtain ⟨t, ht, hin⟩ := extend_passes_kind (kind_mem_keywords hkind).1 (hstops.append hrest)
    obtain ⟨u, hu, hdone⟩ := hfinish t rest hin hrest
    have hspace : (opened "extend").Passes sp (opened "extend") ((kind.toList ++ tail) ++ rest) :=
      Going.passes_spacing ⟨rfl, rfl, rfl⟩ hsp _
    have hfirst : Enters false "extend".toList (opened "extend")
        ((sp ++ (kind.toList ++ tail)) ++ rest) := enters_word (by decide) (hends.append hrest)
    exact ⟨u, hfirst.append (hspace.append (ht.append hu)), hdone⟩
  | @described kind body ws literal sp cs hliteral hsp h =>
    have hhead := kind_head h hsp rest
    have hclear : Unmistaken kind ws := unmistaken_of_definition hwords
    obtain ⟨hkind, tail, rfl, hstops, hfinish⟩ := kind_passes h hclear
    obtain ⟨hkeyword, hextend⟩ := kind_mem_keywords hkind
    obtain ⟨t, ht, hdone⟩ := hfinish _ rest (opened_inHeader hextend) hrest
    have hword := fresh_passes_word hkeyword (hstops.append hrest)
    have hspace : fresh.Passes sp fresh ((kind.toList ++ tail) ++ rest) :=
      Going.passes_spacing ⟨rfl, rfl, rfl⟩ hsp _
    exact ⟨t, (enters_literal hliteral hhead).append (hspace.append (hword.append ht)), hdone⟩

end Definition

end SplitState

end QueryModel
