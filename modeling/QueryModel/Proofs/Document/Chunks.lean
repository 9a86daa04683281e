import QueryModel.Proofs.Document.Segments

/-!
# Pieces that are cut again

A piece of a text has nothing more to be cut. The scan starts afresh with every segment, so a
segment by itself has its one start. Trimming takes blank characters from its end, and with them at
most the tail of a comment or of a literal that has no end. It takes nothing from the start as long
as the blank characters of the text are gaps.
-/

set_option autoImplicit false

namespace QueryModel

open Text SplitState

section Cut

variable {s : SplitState} {offset : Nat}

theorem le_of_mem_startsFrom {ls : List Lexeme} {n : Nat} (h : n ∈ startsFrom s offset ls) :
    offset ≤ n := by
  induction ls generalizing s offset with
  | nil => simp [startsFrom] at h
  | cons l ls ih =>
    rw [startsFrom_cons] at h
    rcases List.mem_append.mp h with hfirst | hrest
    · split at hfirst
      · exact (List.mem_singleton.mp hfirst).ge
      · contradiction
    · exact Nat.le_of_add_right_le (ih hrest)

theorem filter_startsFrom {bound : Nat} (hbound : bound ≤ offset) (ls : List Lexeme) :
    (startsFrom s offset ls).filter (· < bound) = [] := by
  rw [List.filter_eq_nil_iff]
  intro n hn
  have hle := le_of_mem_startsFrom hn
  simp only [decide_eq_true_eq]
  omega

theorem step_starts_congr {mark : Lexeme.Mark} (hmark : mark ≠ .word) (s : SplitState)
    (bs ds : List UInt8) : (s.step ⟨mark, bs⟩).2 = (s.step ⟨mark, ds⟩).2 := by
  by_cases hdepth : s.depth = 0
  · rw [step_outside hdepth, step_outside hdepth]
    cases mark with
    | word => contradiction
    | opening brace => cases brace <;> rfl
    | _ => rfl
  · rw [step_within hdepth, step_within hdepth]

theorem extent_word_le (p : List UInt8) {b : List UInt8} (hb : b.takeWhile Lexeme.isNameByte = []) :
    Lexeme.extent .word (p ++ b) ≤ p.length := by
  rw [Lexeme.extent, List.takeWhile_append, hb]
  split
  · simp
  · exact (List.takeWhile_sublist _).length_le

theorem filter_first {bound : Nat} (h : offset < bound) (starts : Bool) :
    (if starts then [offset] else []).filter (· < bound) = if starts then [offset] else [] := by
  cases starts <;> simp [h]

/-- If a text is cut off where no name goes on, the starts before the cut stay. -/
theorem startsFrom_cut (s : SplitState) (offset : Nat) (a : List UInt8) {b : List UInt8}
    (hb : b.takeWhile Lexeme.isNameByte = []) :
    startsFrom s offset (Lexeme.all a) =
      (startsFrom s offset (Lexeme.all (a ++ b))).filter (· < offset + a.length) := by
  induction hn : a.length using Nat.strongRecOn generalizing a s offset with
  | ind n ih =>
    subst hn
    cases a with
    | nil =>
      rw [List.length_nil, Nat.add_zero, filter_startsFrom (Nat.le_refl offset), Lexeme.all]
      rfl
    | cons x p =>
      have hcut := Lexeme.extent_cut (Lexeme.markOf x) p b
      rw [List.cons_append, Lexeme.all_cons, Lexeme.all_cons, startsFrom_cons, startsFrom_cons,
        List.filter_append, filter_first (by simp)]
      by_cases hwithin : Lexeme.extent (Lexeme.markOf x) (p ++ b) ≤ p.length
      · -- The first lexeme ends before the cut, so it is the same in both texts.
        rw [Nat.min_eq_left hwithin] at hcut
        rw [hcut, List.take_append_of_le_length hwithin, List.drop_append_of_le_length hwithin,
          ih _ (by simp only [List.length_drop, List.length_cons]; omega) _ _ _ rfl]
        have hlength : (x :: p.take (Lexeme.extent (Lexeme.markOf x) (p ++ b))).length +
            (p.drop (Lexeme.extent (Lexeme.markOf x) (p ++ b))).length = (x :: p).length := by
          simp only [List.length_cons, List.length_take, List.length_drop]
          omega
        rw [Nat.add_assoc, hlength]
      · -- It goes beyond the cut, so it is no word and all later starts are beyond too.
        have hmark : Lexeme.markOf x ≠ .word := fun hword =>
          hwithin (hword ▸ extent_word_le p hb)
        rw [Nat.min_eq_right (by omega)] at hcut
        rw [hcut, List.drop_length, step_starts_congr hmark, filter_startsFrom, Lexeme.all]
        · rfl
        · simp only [List.length_cons, List.length_take, List.length_append]
          have := Lexeme.extent_le_length (Lexeme.markOf x) (p ++ b)
          rw [List.length_append] at this
          omega

theorem scan_cut (s : SplitState) (offset : Nat) (cs : List Char) {after : List Char}
    (hafter : Stops after) :
    s.scan offset cs = (s.scan offset (cs ++ after)).filter (· < offset + (bytes cs).length) := by
  rw [scan, scan, bytes_append]
  exact startsFrom_cut s offset (bytes cs) (takeWhile_name (List.forall_mem_nil _) hafter)

end Cut

section Alone

variable {seg : List Char}

theorem not_mem_scan_gap (s : SplitState) (offset : Nat) {c : Char} (hc : c ∈ gapChars)
    (rest : List Char) : offset ∉ s.scan offset (c :: rest) := by
  intro hmem
  rw [← List.singleton_append, passes_gap s hc rest offset] at hmem
  have hle := le_of_mem_startsFrom hmem
  have hpos := c.utf8Size_pos
  rw [length_bytes_singleton] at hle
  omega

theorem stops_blank {cs : List Char} (h : ∀ c ∈ cs, isBlank c = true) : Stops cs := by
  intro c hc
  have hblank := h c (List.mem_of_mem_head? hc)
  rw [← Bool.not_eq_true]
  intro hname
  rw [nameChar_not_blank hname] at hblank
  contradiction

theorem scan_trim (hseg : ∀ offset, initial.scan offset seg = [offset])
    (hblank : ∀ c ∈ seg, isBlank c = true → c ∈ gapChars) (hne : trim seg ≠ []) :
    initial.scan 0 (trim seg) = [0] := by
  obtain ⟨before, after, hsplit, hbefore, hafter⟩ := trim_split seg
  have hnone : before = [] := by
    cases before with
    | nil => rfl
    | cons c before =>
      have hmem : c ∈ seg := hsplit ▸ List.mem_cons_self
      have hc : c ∈ gapChars := hblank c hmem (hbefore c List.mem_cons_self)
      have hstart : 0 ∈ initial.scan 0 seg := hseg 0 ▸ List.mem_singleton_self 0
      rw [hsplit] at hstart
      exact absurd hstart (not_mem_scan_gap initial 0 hc _)
  have hpos := length_bytes_pos hne
  rw [hnone, List.nil_append] at hsplit
  rw [scan_cut initial 0 (trim seg) (stops_blank hafter), ← hsplit, hseg]
  simpa using hpos

theorem splitChars_trim (hseg : ∀ offset, initial.scan offset seg = [offset])
    (hblank : ∀ c ∈ seg, isBlank c = true → c ∈ gapChars) (hne : trim seg ≠ []) :
    splitChars (trim seg) = [trim seg] := by
  have hstarts : definitionStarts (bytes (trim seg)) = [0] := scan_trim hseg hblank hne
  have hwhole : slice (trim seg) 0 (bytes (trim seg)).length = trim seg := by
    rw [slice, dropBytes, Nat.sub_zero]
    simpa using takeBytes_append (trim seg) []
  rw [splitChars, hstarts, piecesAt, hwhole, List.map_singleton, trim_trim]
  simp [hne]

end Alone

/-- A piece of a text is cut into itself, if the blank characters of the text are gaps. -/
theorem splitDefinitions_piece {text piece : String}
    (hblank : ∀ c ∈ text.toList, isBlank c = true → c ∈ [' ', '\t', '\n', '\x0c', '\r'])
    (hpiece : piece ∈ splitDefinitions text) : splitDefinitions piece = [piece] := by
  obtain ⟨lead, segs, h⟩ := initial_segmented text.toList
  obtain ⟨cs, hcs, rfl⟩ := List.mem_map.mp hpiece
  rw [splitChars_segmented h, List.mem_filter] at hcs
  obtain ⟨hmem, hne⟩ := hcs
  obtain ⟨seg, hseg, rfl⟩ := List.mem_map.mp hmem
  have hgap : ∀ c ∈ seg, isBlank c = true → c ∈ gapChars := by
    intro c hc hcblank
    have htext : c ∈ text.toList := by
      rw [h.text_eq]
      exact List.mem_append_right _ (List.mem_flatten_of_mem hseg hc)
    have hlisted := hblank c htext hcblank
    simp only [List.mem_cons, List.not_mem_nil, or_false] at hlisted
    rcases hlisted with rfl | rfl | rfl | rfl | rfl <;> decide
  rw [splitDefinitions, String.toList_ofList,
    splitChars_trim (h.alone seg hseg) hgap (by simpa using hne), List.map_singleton]

/-- The blank trimmed from the last piece stands in a literal that is never closed, behind the
start of an escape. -/
theorem splitDefinitions_piece_unclosed :
    let text := "\x7d # a\r\n\"b\" scalar S, type T \x7b c(d: Int): E \x7d # f \t\n" ++
      "\x7b g \x7d \"h \x7b \\ "
    splitDefinitions text = ["\"b\" scalar S,", "type T \x7b c(d: Int): E \x7d # f",
        "\x7b g \x7d", "\"h \x7b \\"] ∧
      splitDefinitions "\"h \x7b \\" = ["\"h \x7b \\"] := by
  intro text
  have hpieces : splitDefinitions text = ["\"b\" scalar S,", "type T \x7b c(d: Int): E \x7d # f",
      "\x7b g \x7d", "\"h \x7b \\"] := by
    decide +kernel
  have hblank : ∀ c ∈ text.toList, isBlank c = true → c ∈ [' ', '\t', '\n', '\x0c', '\r'] :=
    of_listed (by decide)
  refine ⟨hpieces, splitDefinitions_piece hblank ?_⟩
  rw [hpieces]
  decide

end QueryModel
