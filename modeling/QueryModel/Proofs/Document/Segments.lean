import QueryModel.Proofs.Document.Recovery
import QueryModel.Proofs.Document.Spelling

/-!
# Segments of a text

Whatever the text, the cut finds starts between characters and between lexemes. The text falls into
one segment from each start on and a preamble of gaps, comments and closing brackets before the
first, and its lexemes are those of its segments. A definition starts afresh, so a segment by itself
has one start too.
-/

set_option autoImplicit false

namespace QueryModel

open Text

def Lexeme.Mark.begins : Lexeme.Mark → Bool
  | .comment | .gap | .closing _ => false
  | _ => true

def Lexeme.Mark.depthAfter (depth : Nat) : Lexeme.Mark → Nat
  | .opening _ => depth + 1
  | .closing _ => depth - 1
  | _ => depth

namespace SplitState

section Steps

variable {s : SplitState} {l : Lexeme}

def Unstarted (s : SplitState) : Prop := s.depth = 0 ∧ s.started = false

def Wordless (s : SplitState) : Prop := s.started = false → s.header = []

theorem begin_depth (s : SplitState) (boundary : Bool) : (s.begin boundary).1.depth = s.depth := by
  rw [begin]
  split <;> rfl

theorem begin_started (s : SplitState) (boundary : Bool) :
    (s.begin boundary).1.started = true := by
  rw [begin]
  split
  · rename_i hboth
    exact (Bool.and_eq_true_iff.mp hboth).1
  · rfl

theorem begin_starts (hs : s.Wordless) (hdepth : s.depth = 0) {boundary : Bool}
    (hstarts : (s.begin boundary).2 = true) : s.begin boundary = (fresh, true) := by
  obtain ⟨depth, started, header, closed⟩ := s
  obtain rfl : depth = 0 := hdepth
  cases started with
  | false =>
    obtain rfl : header = [] := hs rfl
    rfl
  | true =>
    cases boundary with
    | false => contradiction
    | true => rfl

theorem outer_depth (s : SplitState) (l : Lexeme) : (s.outer l).1.depth = s.depth := by
  obtain ⟨mark, bs⟩ := l
  cases mark with
  | comment | gap | closing brace => rfl
  | opening brace => cases brace <;> exact begin_depth s _
  | _ => exact begin_depth s _

theorem step_outside (hdepth : s.depth = 0) (l : Lexeme) :
    s.step l = ((s.outer l).1.nest l, (s.outer l).2) := by
  rw [step, if_pos hdepth]

theorem step_within (hdepth : s.depth ≠ 0) (l : Lexeme) : s.step l = (s.nest l, false) := by
  rw [step, if_neg hdepth]

theorem step_depth (s : SplitState) (l : Lexeme) :
    (s.step l).1.depth = l.mark.depthAfter s.depth := by
  have hnest (t : SplitState) : (t.nest l).depth = l.mark.depthAfter t.depth := by
    obtain ⟨mark, bs⟩ := l
    cases mark <;> rfl
  by_cases hdepth : s.depth = 0
  · rw [step_outside hdepth, hnest, outer_depth]
  · rw [step_within hdepth, hnest]

theorem step_starts (hstarts : (s.step l).2 = true) : s.depth = 0 ∧ l.mark.begins = true := by
  by_cases hdepth : s.depth = 0
  · refine ⟨hdepth, ?_⟩
    rw [step_outside hdepth] at hstarts
    obtain ⟨mark, bs⟩ := l
    cases mark with
    | comment | gap | closing brace => contradiction
    | _ => rfl
  · rw [step_within hdepth] at hstarts
    contradiction

theorem step_unstarted (hs : s.Unstarted) : (s.step l).2 = l.mark.begins := by
  obtain ⟨depth, started, header, closed⟩ := s
  obtain ⟨rfl, rfl⟩ := hs
  obtain ⟨mark, bs⟩ := l
  cases mark with
  | opening brace => cases brace <;> rfl
  | _ => rfl

theorem step_passed (hs : s.Unstarted) (hmark : l.mark.begins = false) :
    (s.step l).1.Unstarted := by
  obtain ⟨depth, started, header, closed⟩ := s
  obtain ⟨rfl, rfl⟩ := hs
  obtain ⟨mark, bs⟩ := l
  cases mark with
  | comment | gap | closing brace => exact ⟨rfl, rfl⟩
  | _ => contradiction

theorem step_eq_initial (hs : s.Wordless) (hstarts : (s.step l).2 = true) :
    s.step l = initial.step l := by
  obtain ⟨hdepth, -⟩ := step_starts hstarts
  have houter : s.outer l = initial.outer l := by
    rw [step_outside hdepth] at hstarts
    obtain ⟨mark, bs⟩ := l
    cases mark with
    | comment | gap | closing brace => contradiction
    | opening brace => cases brace <;> exact begin_starts hs hdepth hstarts
    | directive | word => exact congrArg (SplitState.push _) (begin_starts hs hdepth hstarts)
    | _ => exact begin_starts hs hdepth hstarts
  rw [step_outside hdepth, houter, step_outside rfl]

theorem step_wordless (hs : s.Wordless) (l : Lexeme) : (s.step l).1.Wordless := by
  have hbegin (boundary : Bool) (h : (s.begin boundary).1.started = false) : False := by
    rw [begin_started] at h
    contradiction
  have houter : (s.outer l).1.Wordless := by
    obtain ⟨mark, bs⟩ := l
    cases mark with
    | comment | gap | closing brace => exact hs
    | opening brace => cases brace <;> exact fun h => (hbegin _ h).elim
    | _ => exact fun h => (hbegin _ h).elim
  have hnest {t : SplitState} (ht : t.Wordless) : (t.nest l).Wordless := by
    obtain ⟨mark, bs⟩ := l
    cases mark <;> exact ht
  by_cases hdepth : s.depth = 0
  · rw [step_outside hdepth]
    exact hnest houter
  · rw [step_within hdepth]
    exact hnest hs

end Steps

section Lexemes

variable {s t : SplitState} {mark : Lexeme.Mark} {w rest : List Char}

theorem startsFrom_cons (s : SplitState) (offset : Nat) (l : Lexeme) (ls : List Lexeme) :
    startsFrom s offset (l :: ls) = (if (s.step l).2 then [offset] else []) ++
      startsFrom (s.step l).1 (offset + l.bytes.length) ls := by
  rw [startsFrom]
  generalize s.step l = result
  obtain ⟨t, starts⟩ := result
  cases starts <;> rfl

theorem step_other_again (s : SplitState) (bs ds : List UInt8) :
    (s.step ⟨.other, bs⟩).1.step ⟨.other, ds⟩ = ((s.step ⟨.other, bs⟩).1, false) := by
  obtain ⟨depth, started, header, closed⟩ := s
  cases depth with
  | zero => simp [step, outer, nest, begin]
  | succ depth => simp [step, nest]

theorem startsFrom_others (ht : ∀ ds, t.step ⟨.other, ds⟩ = (t, false)) (bs : List UInt8)
    (ls : List Lexeme) (offset : Nat) :
    startsFrom t offset (bs.map (fun b => ⟨.other, [b]⟩) ++ ls) =
      startsFrom t (offset + bs.length) ls := by
  induction bs generalizing offset with
  | nil => rfl
  | cons b bs ih =>
    rw [List.map_cons, List.cons_append, startsFrom_cons, ht]
    simp only [Bool.false_eq_true, if_false, ih, List.length_cons, List.length_nil, List.nil_append]
    rw [Nat.zero_add, Nat.add_assoc, Nat.add_comm 1]

/-- The scan goes over a text lexeme by lexeme. -/
theorem scan_spelt (h : Spelt mark w rest) (s : SplitState) (offset : Nat) :
    s.scan offset (w ++ rest) = (if (s.step ⟨mark, bytes w⟩).2 then [offset] else []) ++
      (s.step ⟨mark, bytes w⟩).1.scan (offset + (bytes w).length) rest := by
  rcases h.lexes_or_beyond with hlex | ⟨c, rfl, rfl, hc⟩
  · rw [scan, hlex, startsFrom_cons]
    rfl
  · obtain ⟨b, bs, hb⟩ := List.exists_cons_of_ne_nil (String.utf8EncodeChar_ne_nil (c := c))
    have hbytes : bytes [c] = b :: bs := by simpa [bytes] using hb
    have hstep : s.step ⟨.other, bytes [c]⟩ = s.step ⟨.other, [b]⟩ := rfl
    have hlength : offset + [b].length + bs.length = offset + (b :: bs).length := by
      simp only [List.length_cons, List.length_nil]
      omega
    rw [hstep, scan, List.singleton_append, all_beyond hc, hbytes, List.map_cons, List.cons_append,
      startsFrom_cons, startsFrom_others (step_other_again s [b]), hlength]
    rfl

end Lexemes

section Preamble

def closingChars : List Char := [')', ']', '\x7d']

inductive Preamble (allowed rest : List Char) : List Char → Prop
  | nil : Preamble allowed rest []
  | char {c : Char} {cs : List Char} (hc : c ∈ allowed) (h : Preamble allowed rest cs) :
      Preamble allowed rest (c :: cs)
  | comment {line cs : List Char} (hline : '\n' ∉ line) (hends : ∀ c ∈ (cs ++ rest).head?, c = '\n')
      (h : Preamble allowed rest cs) : Preamble allowed rest ('#' :: line ++ cs)

theorem closing_pair {c : Char} (hc : c ∈ closingChars) : ∃ o, BracketPair o c := by
  simp only [closingChars, List.mem_cons, List.not_mem_nil, or_false] at hc
  rcases hc with rfl | rfl | rfl
  · exact ⟨_, .round⟩
  · exact ⟨_, .square⟩
  · exact ⟨_, .curly⟩

theorem closing_mem {o c : Char} (hpair : BracketPair o c) : c ∈ closingChars := by
  cases hpair <;> decide

theorem preamble_spelt {mark : Lexeme.Mark} {w a b : List Char} (h : Spelt mark w (a ++ b))
    (hmark : mark.begins = false) (ha : Preamble (gapChars ++ closingChars) b a) :
    Preamble (gapChars ++ closingChars) b (w ++ a) := by
  cases h with
  | comment hline hends => exact .comment hline hends ha
  | gap hc => exact .char (List.mem_append_left _ hc) ha
  | closing hpair => exact .char (List.mem_append_right _ (closing_mem hpair)) ha
  | _ => contradiction

end Preamble

section Segments

/-- The text is what stands before the first start and a segment from each start on. Lexemes end
where segments do. -/
structure Segmented (s : SplitState) (cs lead : List Char) (segs : List (List Char)) : Prop where
  text_eq : cs = lead ++ segs.flatten
  scan_eq : ∀ offset, s.scan offset cs = offsetsOf (offset + (bytes lead).length) segs
  lead_scan : ∀ offset, s.scan offset lead = []
  alone : ∀ seg ∈ segs, ∀ offset, initial.scan offset seg = [offset]
  cuts : Cuts lead segs.flatten
  lexemes_eq : Lexeme.all (bytes segs.flatten) = lexemesOf segs
  preamble : s.Unstarted → Preamble (gapChars ++ closingChars) segs.flatten lead

variable {s : SplitState} {mark : Lexeme.Mark} {w rest lead : List Char} {segs : List (List Char)}

theorem segmented_nil (s : SplitState) : s.Segmented [] [] [] where
  text_eq := rfl
  scan_eq := scan_nil s
  lead_scan := scan_nil s
  alone := List.forall_mem_nil _
  cuts := cuts_nil _
  lexemes_eq := all_bytes_nil
  preamble := fun _ => .nil

theorem Segmented.start (h : Spelt mark w rest) (hs : s.Wordless)
    (hstarts : (s.step ⟨mark, bytes w⟩).2 = true)
    (hrest : (s.step ⟨mark, bytes w⟩).1.Segmented rest lead segs) :
    s.Segmented (w ++ rest) [] ((w ++ lead) :: segs) where
  text_eq := by simp [hrest.text_eq]
  scan_eq offset := by
    rw [scan_spelt h, hstarts, hrest.scan_eq, offsetsOf, bytes_append, List.length_append,
      ← Nat.add_assoc]
    rfl
  lead_scan := scan_nil s
  alone := by
    have hcut := (hrest.text_eq ▸ h).cut
    refine List.forall_mem_cons.mpr ⟨fun offset => ?_, hrest.alone⟩
    rw [scan_spelt hcut, ← step_eq_initial hs hstarts, hstarts, hrest.lead_scan]
    rfl
  cuts := cuts_nil _
  lexemes_eq := by
    have hjoined := (hrest.text_eq ▸ h.cuts).append hrest.cuts
    rw [List.flatten_cons, hjoined, hrest.lexemes_eq]
    rfl
  preamble := fun _ => .nil

theorem Segmented.pass (h : Spelt mark w rest) (hstarts : (s.step ⟨mark, bytes w⟩).2 = false)
    (hrest : (s.step ⟨mark, bytes w⟩).1.Segmented rest lead segs) :
    s.Segmented (w ++ rest) (w ++ lead) segs where
  text_eq := by simp [hrest.text_eq]
  scan_eq offset := by
    rw [scan_spelt h, hstarts, hrest.scan_eq, bytes_append, List.length_append, ← Nat.add_assoc]
    rfl
  lead_scan offset := by
    rw [scan_spelt (hrest.text_eq ▸ h).cut, hstarts, hrest.lead_scan]
    rfl
  alone := hrest.alone
  cuts := (hrest.text_eq ▸ h.cuts).append hrest.cuts
  lexemes_eq := hrest.lexemes_eq
  preamble := fun hs => by
    have hmark : mark.begins = false := (step_unstarted hs).symm.trans hstarts
    exact preamble_spelt (hrest.text_eq ▸ h) hmark (hrest.preamble (step_passed hs hmark))

theorem exists_segmented (hs : s.Wordless) (cs : List Char) :
    ∃ lead segs, s.Segmented cs lead segs := by
  induction cs using spelt_induction generalizing s with
  | nil => exact ⟨[], [], segmented_nil s⟩
  | lexeme mark w rest h ih =>
    obtain ⟨lead, segs, hrest⟩ := ih (step_wordless hs ⟨mark, bytes w⟩)
    cases hstarts : (s.step ⟨mark, bytes w⟩).2 with
    | true => exact ⟨[], (w ++ lead) :: segs, hrest.start h hs hstarts⟩
    | false => exact ⟨w ++ lead, segs, hrest.pass h hstarts⟩

theorem initial_segmented (cs : List Char) : ∃ lead segs, initial.Segmented cs lead segs :=
  exists_segmented (fun _ => rfl) cs

end Segments

end SplitState

open SplitState

theorem definitionStarts_segmented {cs lead : List Char} {segs : List (List Char)}
    (h : initial.Segmented cs lead segs) :
    definitionStarts (bytes cs) = offsetsOf (bytes lead).length segs := by
  rw [← Nat.zero_add (bytes lead).length]
  exact h.scan_eq 0

theorem splitChars_segmented {cs lead : List Char} {segs : List (List Char)}
    (h : initial.Segmented cs lead segs) :
    splitChars cs = (segs.map trim).filter fun piece => !piece.isEmpty := by
  rw [splitChars, definitionStarts_segmented h, h.text_eq, piecesAt_offsetsOf]

theorem map_toList_splitDefinitions (text : String) :
    (splitDefinitions text).map String.toList = splitChars text.toList := by
  simp [splitDefinitions]

inductive Spaced : List Char → List (List Char) → Prop
  | nil : Spaced [] []
  | blank {c : Char} {cs : List Char} {pieces : List (List Char)} (hc : isBlank c = true)
      (h : Spaced cs pieces) : Spaced (c :: cs) pieces
  | piece {piece cs : List Char} {pieces : List (List Char)} (h : Spaced cs pieces) :
      Spaced (piece ++ cs) (piece :: pieces)

theorem spaced_blanks {sp cs : List Char} {pieces : List (List Char)}
    (hsp : ∀ c ∈ sp, isBlank c = true) (h : Spaced cs pieces) : Spaced (sp ++ cs) pieces := by
  induction sp with
  | nil => exact h
  | cons c sp ih =>
    obtain ⟨hc, hsp⟩ := List.forall_mem_cons.mp hsp
    exact .blank hc (ih hsp)

theorem spaced_segments (segs : List (List Char)) :
    Spaced segs.flatten ((segs.map trim).filter fun piece => !piece.isEmpty) := by
  induction segs with
  | nil => exact .nil
  | cons seg segs ih =>
    obtain ⟨before, after, hseg, hbefore, hafter⟩ := trim_split seg
    rw [List.flatten_cons, List.map_cons]
    generalize trim seg = piece at hseg ⊢
    subst hseg
    rw [List.append_assoc, List.append_assoc]
    apply spaced_blanks hbefore
    have hrest := spaced_blanks hafter ih
    cases piece with
    | nil => exact hrest
    | cons c piece => exact .piece hrest

/-- The pieces of a text are its trimmed segments but for those that are all blank. Before the
first segment there is nothing but gaps, comments and closing brackets. -/
theorem splitChars_segments (cs : List Char) : ∃ lead segs, cs = lead ++ segs.flatten ∧
    splitChars cs = (segs.map trim).filter (fun piece => !piece.isEmpty) ∧
    SplitState.Preamble (gapChars ++ SplitState.closingChars) segs.flatten lead ∧
    Cuts lead segs.flatten ∧ Lexeme.all (bytes segs.flatten) = lexemesOf segs := by
  obtain ⟨lead, segs, h⟩ := initial_segmented cs
  exact ⟨lead, segs, h.text_eq, splitChars_segmented h, h.preamble ⟨rfl, rfl⟩, h.cuts, h.lexemes_eq⟩

end QueryModel
