import QueryModel.Proofs.Document.Segments

/-!
# Where a text is cut

The offsets at which a text is cut ascend, lie between characters, and stand before lexemes outside
all brackets, literals and comments. The pieces are the trimmed slices from each offset to the next.
So from the first offset on the text is its pieces with blank characters around them.
-/

set_option autoImplicit false

namespace QueryModel

open Text SplitState

section Slices

theorem piecesAt_eq_zipWith (cs : List Char) (stop : Nat) (starts : List Nat) :
    piecesAt cs stop starts = List.zipWith (slice cs) starts (starts.tail ++ [stop]) := by
  fun_induction piecesAt cs stop starts with
  | case1 | case2 => rfl
  | case3 start next rest ih =>
    rw [ih]
    rfl

theorem offsetsOf_ascending {segs : List (List Char)} (hne : ∀ seg ∈ segs, seg ≠ [])
    (offset : Nat) :
    (offsetsOf offset segs ++ [offset + (bytes segs.flatten).length]).IsChain (· < ·) := by
  induction segs generalizing offset with
  | nil => exact List.isChain_singleton _
  | cons seg segs ih =>
    obtain ⟨hseg, hsegs⟩ := List.forall_mem_cons.mp hne
    have hrest := ih hsegs (offset + (bytes seg).length)
    have hpos := length_bytes_pos hseg
    rw [offsetsOf, List.cons_append, List.flatten_cons, bytes_append, List.length_append,
      ← Nat.add_assoc]
    cases segs with
    | nil => exact hrest.cons_cons (Nat.lt_add_right _ (Nat.lt_add_of_pos_right hpos))
    | cons next segs => exact hrest.cons_cons (Nat.lt_add_of_pos_right hpos)

theorem offsetsOf_headD (offset : Nat) (segs : List (List Char)) :
    (offsetsOf offset segs).headD (offset + (bytes segs.flatten).length) = offset := by
  cases segs with
  | nil => rfl
  | cons seg segs => rfl

theorem isBoundary_append (before after : List Char) :
    IsBoundary (before ++ after) (bytes before).length := ⟨before, after, rfl, rfl⟩

end Slices

section Depth

/-- Whole lexemes before the rest of a text lead from one bracket depth to another. -/
inductive Leads (rest : List Char) (after : Nat) : Nat → List Char → Prop
  | nil : Leads rest after after []
  | lexeme {mark : Lexeme.Mark} {depth : Nat} {w cs : List Char} (hw : Spelt mark w (cs ++ rest))
      (h : Leads rest after (mark.depthAfter depth) cs) : Leads rest after depth (w ++ cs)

/-- At the offset there is a lexeme outside all brackets that is no comment, gap or closing bracket.
Since whole lexemes lead there, it is not inside a literal or a comment. -/
def TokenAt (cs : List Char) (n : Nat) : Prop :=
  ∃ before mark w after, cs = before ++ (w ++ after) ∧ (bytes before).length = n ∧
    Leads (w ++ after) 0 0 before ∧ Spelt mark w after ∧ mark.begins = true

theorem TokenAt.isBoundary {cs : List Char} {n : Nat} (h : TokenAt cs n) : IsBoundary cs n := by
  obtain ⟨before, mark, w, after, rfl, rfl, -⟩ := h
  exact isBoundary_append before (w ++ after)

theorem mem_scan {s : SplitState} {offset n : Nat} {cs : List Char} (h : n ∈ s.scan offset cs) :
    ∃ before mark w after, cs = before ++ (w ++ after) ∧ offset + (bytes before).length = n ∧
      Leads (w ++ after) 0 s.depth before ∧ Spelt mark w after ∧ mark.begins = true := by
  induction cs using spelt_induction generalizing s offset with
  | nil =>
    rw [scan_nil] at h
    contradiction
  | lexeme mark w rest hw ih =>
    rw [scan_spelt hw] at h
    rcases List.mem_append.mp h with hfirst | hrest
    · split at hfirst
      · rename_i hstarts
        obtain ⟨hdepth, hmark⟩ := step_starts hstarts
        refine ⟨[], mark, w, rest, rfl, (List.mem_singleton.mp hfirst).symm, ?_, hw, hmark⟩
        rw [hdepth]
        exact .nil
      · contradiction
    · obtain ⟨before, next, v, after, rfl, hn, hleads, hv, hnext⟩ := ih hrest
      rw [step_depth] at hleads
      refine ⟨w ++ before, next, v, after, by simp, ?_, .lexeme hw hleads, hv, hnext⟩
      rw [← hn, bytes_append, List.length_append, Nat.add_assoc]

end Depth

section Words

variable {l : Lexeme}

theorem Spelt.eq_word {mark : Lexeme.Mark} {w rest : List Char} (h : Spelt mark w rest)
    (hl : l ∈ Lexeme.all (bytes w)) (hword : l.mark = .word) :
    Lexeme.all (bytes w) = [l] ∧ l.bytes = bytes w ∧ isName w = true := by
  have halone : Spelt mark w ([] ++ rest) := h
  rcases halone.cut.lexes_or_beyond with hlex | ⟨c, rfl, -, hc⟩
  · rw [Lexes, List.append_nil, all_bytes_nil] at hlex
    rw [hlex, List.mem_singleton] at hl
    subst hl
    cases h with
    | word hn hstops => exact ⟨hlex, rfl, hn⟩
    | _ => contradiction
  · rw [all_beyond hc, all_bytes_nil, List.append_nil] at hl
    obtain ⟨b, -, rfl⟩ := List.mem_map.mp hl
    contradiction

theorem exists_word {cs : List Char} {ls more : List Lexeme}
    (hall : Lexeme.all (bytes cs) = ls ++ l :: more) (hword : l.mark = .word) :
    ∃ before n after, cs = before ++ n ++ after ∧ ls.flatMap Lexeme.bytes = bytes before ∧
      l.bytes = bytes n ∧ isName n = true := by
  induction cs using spelt_induction generalizing ls with
  | nil =>
    rw [all_bytes_nil] at hall
    simp at hall
  | lexeme mark w rest hw ih =>
    have hlater (later : List Lexeme) (hls : ls = Lexeme.all (bytes w) ++ later)
        (hrest : Lexeme.all (bytes rest) = later ++ l :: more) :
        ∃ before n after, w ++ rest = before ++ n ++ after ∧
          ls.flatMap Lexeme.bytes = bytes before ∧ l.bytes = bytes n ∧ isName n = true := by
      obtain ⟨before, n, after, rfl, hbefore, hn⟩ := ih hrest
      refine ⟨w ++ before, n, after, by simp, ?_, hn⟩
      rw [hls, List.flatMap_append, Lexeme.flatMap_all, hbefore, bytes_append]
    rw [hw.cuts] at hall
    rcases List.append_eq_append_iff.mp hall with ⟨later, hls, hrest⟩ | ⟨first, hfirst, hrest⟩
    · exact hlater later hls hrest
    · cases first with
      | nil => exact hlater [] (by simp [hfirst]) hrest.symm
      | cons x first =>
        obtain ⟨rfl, -⟩ := List.cons.inj hrest
        obtain ⟨hone, hbytes, hn⟩ := hw.eq_word (by simp [hfirst]) hword
        rw [hfirst, List.append_eq_singleton_iff] at hone
        rcases hone with ⟨rfl, -⟩ | ⟨-, hnone⟩
        · exact ⟨[], w, rest, rfl, rfl, hbytes, hn⟩
        · contradiction

theorem word_slice {cs : List Char} {ls more : List Lexeme}
    (hall : Lexeme.all (bytes cs) = ls ++ l :: more) (hword : l.mark = .word) :
    let start := (ls.flatMap Lexeme.bytes).length
    IsBoundary cs start ∧ IsBoundary cs (start + l.bytes.length) ∧
      l.ascii = String.ofList (slice cs start (start + l.bytes.length)) := by
  intro start
  obtain ⟨before, n, after, rfl, hbefore, hbytes, hn⟩ := exists_word hall hword
  obtain ⟨mark, bs⟩ := l
  obtain rfl : bs = bytes n := hbytes
  have hstart : start = (bytes before).length := congrArg List.length hbefore
  have hstop : start + (bytes n).length = (bytes (before ++ n)).length := by
    rw [hstart, bytes_append, List.length_append]
  refine ⟨?_, ?_, ?_⟩
  · rw [hstart, List.append_assoc]
    exact isBoundary_append before (n ++ after)
  · rw [hstop]
    exact isBoundary_append (before ++ n) after
  · rw [ascii_bytes (isName_chars hn), hstart, slice_append]

end Words

structure CutAt (cs : List Char) (starts : List Nat) (pieces : List (List Char)) : Prop where
  /-- Each offset lies before the next, and the last before the end of the text. -/
  ascending : (starts ++ [(bytes cs).length]).IsChain (· < ·)
  boundaries : ∀ n ∈ starts ++ [(bytes cs).length], IsBoundary cs n
  pieces_eq : pieces = ((List.zipWith (slice cs) starts (starts.tail ++ [(bytes cs).length])).map
    trim).filter fun piece => !piece.isEmpty
  /-- Each offset is met outside all brackets, literals and comments. -/
  tokens : ∀ n ∈ starts, TokenAt cs n
  /-- Before the first offset nothing is lost but gaps, comments and closing brackets. -/
  preamble : Preamble (gapChars ++ closingChars) (dropBytes (starts.headD (bytes cs).length) cs)
    (takeBytes (starts.headD (bytes cs).length) cs)
  /-- From the first offset on nothing is lost but blank characters. -/
  spaced : Spaced (dropBytes (starts.headD (bytes cs).length) cs) pieces

theorem cutAt_segmented {cs lead : List Char} {segs : List (List Char)}
    (h : initial.Segmented cs lead segs) :
    CutAt cs (definitionStarts (bytes cs)) (splitChars cs) := by
  have hstarts := definitionStarts_segmented h
  have hsize : (bytes cs).length = (bytes lead).length + (bytes segs.flatten).length := by
    rw [h.text_eq, bytes_append, List.length_append]
  have hfirst : (definitionStarts (bytes cs)).headD (bytes cs).length = (bytes lead).length := by
    rw [hstarts, hsize, offsetsOf_headD]
  have hne : ∀ seg ∈ segs, seg ≠ [] := by
    rintro seg hseg rfl
    have hnone := h.alone [] hseg 0
    rw [scan_nil] at hnone
    contradiction
  have htokens : ∀ n ∈ definitionStarts (bytes cs), TokenAt cs n := by
    intro n hn
    obtain ⟨before, mark, w, after, hcs, hoffset, hleads, hw, hmark⟩ := mem_scan hn
    rw [Nat.zero_add] at hoffset
    exact ⟨before, mark, w, after, hcs, hoffset, hleads, hw, hmark⟩
  refine ⟨?_, ?_, ?_, htokens, ?_, ?_⟩
  · rw [hstarts, hsize]
    exact offsetsOf_ascending hne _
  · rw [List.forall_mem_append]
    refine ⟨fun n hn => (htokens n hn).isBoundary, List.forall_mem_singleton.mpr ?_⟩
    exact ⟨cs, [], (List.append_nil cs).symm, rfl⟩
  · rw [splitChars, piecesAt_eq_zipWith]
  · rw [hfirst, h.text_eq, dropBytes_append, takeBytes_append]
    exact h.preamble ⟨rfl, rfl⟩
  · rw [hfirst, splitChars_segmented h, h.text_eq, dropBytes_append]
    exact spaced_segments segs

/-- Every text is cut at the offsets where its definitions start, and the words that are looked up
on the way are slices between boundaries too. -/
theorem splitDefinitions_cutAt (text : String) :
    let cs := text.toList
    CutAt cs (definitionStarts (bytes cs)) ((splitDefinitions text).map String.toList) ∧
      ∀ ls l more, Lexeme.all (bytes cs) = ls ++ l :: more → l.mark = .word →
        let start := (ls.flatMap Lexeme.bytes).length
        IsBoundary cs start ∧ IsBoundary cs (start + l.bytes.length) ∧
          l.ascii = String.ofList (slice cs start (start + l.bytes.length)) := by
  intro cs
  obtain ⟨lead, segs, h⟩ := initial_segmented cs
  rw [map_toList_splitDefinitions]
  exact ⟨cutAt_segmented h, fun ls l more hall hword => word_slice hall hword⟩

end QueryModel
