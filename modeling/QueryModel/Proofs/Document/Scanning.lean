import QueryModel.Proofs.Document.Lexing

/-!
# Scanning written text

What each piece of a written definition does to the state of the scan. Inside brackets
nothing starts a definition, and text with its brackets in pairs leaves the state as it
was. Outside brackets space changes nothing, and the parts of a header add their words to
the current definition.
-/

set_option autoImplicit false

namespace QueryModel

open Text

namespace SplitState

def scan (s : SplitState) (offset : Nat) (cs : List Char) : List Nat :=
  startsFrom s offset (Lexeme.all (bytes cs))

/-- The text before the rest leads from one state to another and starts no definition. -/
def Passes (s : SplitState) (cs : List Char) (t : SplitState) (rest : List Char) : Prop :=
  ∀ offset, s.scan offset (cs ++ rest) = t.scan (offset + (bytes cs).length) rest

/-- A definition starts with the text, and none further on in it. -/
def Begins (s : SplitState) (cs : List Char) (t : SplitState) (rest : List Char) : Prop :=
  ∀ offset, s.scan offset (cs ++ rest) = offset :: t.scan (offset + (bytes cs).length) rest

variable {s t u : SplitState} {cs ds rest : List Char}

theorem passes_nil (s : SplitState) (rest : List Char) : s.Passes [] s rest := fun _ => rfl

theorem Passes.append (h : s.Passes cs t (ds ++ rest)) (h' : t.Passes ds u rest) :
    s.Passes (cs ++ ds) u rest := by
  intro offset
  rw [List.append_assoc, h, h', bytes_append, List.length_append, Nat.add_assoc]

theorem Begins.append (h : s.Begins cs t (ds ++ rest)) (h' : t.Passes ds u rest) :
    s.Begins (cs ++ ds) u rest := by
  intro offset
  rw [List.append_assoc, h, h', bytes_append, List.length_append, Nat.add_assoc]

theorem passes_of_lexes {mark : Lexeme.Mark} (h : Lexes mark cs rest)
    (hstep : s.step ⟨mark, bytes cs⟩ = (t, false)) : s.Passes cs t rest := by
  intro offset
  rw [scan, h, startsFrom, hstep]
  rfl

theorem begins_of_lexes {mark : Lexeme.Mark} (h : Lexes mark cs rest)
    (hstep : s.step ⟨mark, bytes cs⟩ = (t, true)) : s.Begins cs t rest := by
  intro offset
  rw [scan, h, startsFrom, hstep]
  rfl

section Inside

/-- The marks that change nothing inside brackets and take at most a name with them. -/
def unmarked : List Lexeme.Mark := [.directive, .variable, .word, .gap, .other]

theorem step_inside {l : Lexeme} (hs : s.depth ≠ 0)
    (hl : l.mark ∈ Lexeme.Mark.comment :: .text :: unmarked) : s.step l = (s, false) := by
  simp only [unmarked, List.mem_cons, List.not_mem_nil, or_false] at hl
  rcases hl with h | h | h | h | h | h | h <;> simp [step, nest, hs, h]

theorem extent_le {mark : Lexeme.Mark} (hmark : mark ∈ unmarked) (bs : List UInt8) :
    Lexeme.extent mark bs ≤ (bs.takeWhile Lexeme.isNameByte).length := by
  simp only [unmarked, List.mem_cons, List.not_mem_nil, or_false] at hmark
  rcases hmark with rfl | rfl | rfl | rfl | rfl <;> simp [Lexeme.extent]

theorem startsFrom_unmarked (hs : s.depth ≠ 0) {b : UInt8} (hb : Lexeme.markOf b ∈ unmarked)
    (bs : List UInt8) (offset : Nat) :
    startsFrom s offset (Lexeme.all (b :: bs)) =
      startsFrom s (offset + 1 + Lexeme.extent (Lexeme.markOf b) bs)
        (Lexeme.all (bs.drop (Lexeme.extent (Lexeme.markOf b) bs))) := by
  have hlength := Nat.le_trans (extent_le hb bs) (List.takeWhile_sublist _).length_le
  rw [Lexeme.all, startsFrom,
    step_inside hs (List.mem_cons_of_mem _ (List.mem_cons_of_mem _ hb))]
  simp only [List.length_cons, List.length_take, Nat.min_eq_left hlength, Bool.false_eq_true,
    if_false]
  rw [Nat.add_assoc, Nat.add_comm 1]

theorem startsFrom_drop_name (hs : s.depth ≠ 0) {bs : List UInt8} {k : Nat} (offset : Nat)
    (hk : k ≤ (bs.takeWhile Lexeme.isNameByte).length) :
    startsFrom s offset (Lexeme.all bs) =
      startsFrom s (offset + k) (Lexeme.all (bs.drop k)) := by
  induction bs generalizing offset k with
  | nil => simp [Lexeme.all, startsFrom]
  | cons b bs ih =>
    cases k with
    | zero => rfl
    | succ k =>
      by_cases hb : Lexeme.isNameByte b = true
      · rw [List.takeWhile_cons, if_pos hb, List.length_cons] at hk
        have hmark : Lexeme.markOf b ∈ unmarked :=
          of_byte_codes (p := fun b => Lexeme.isNameByte b = true → Lexeme.markOf b ∈ unmarked)
            (by decide +kernel) b hb
        -- The whole lexeme and the first `k` of its bytes both lead past the first byte.
        rw [startsFrom_unmarked hs hmark, ← ih (offset + 1) (extent_le hmark bs),
          ih (offset + 1) (Nat.le_of_succ_le_succ hk), List.drop_succ_cons, Nat.add_assoc,
          Nat.add_comm 1]
      · rw [List.takeWhile_cons, if_neg hb] at hk
        simp at hk

theorem startsFrom_unmarked_bytes (hs : s.depth ≠ 0) {bs : List UInt8}
    (hbs : ∀ b ∈ bs, Lexeme.markOf b ∈ unmarked) (rest : List UInt8) (offset : Nat) :
    startsFrom s offset (Lexeme.all (bs ++ rest)) =
      startsFrom s (offset + bs.length) (Lexeme.all rest) := by
  induction bs generalizing offset with
  | nil => rfl
  | cons b bs ih =>
    have hb := hbs b List.mem_cons_self
    rw [List.cons_append, startsFrom_unmarked hs hb, ← startsFrom_drop_name hs _ (extent_le hb _),
      ih (fun d hd => hbs d (List.mem_cons_of_mem b hd)), List.length_cons, Nat.add_assoc,
      Nat.add_comm 1]

theorem markOf_unmarked {c : Char} (hc : c ∉ markedChars) {b : UInt8}
    (hb : b ∈ String.utf8EncodeChar c) : Lexeme.markOf b ∈ unmarked := by
  by_cases hascii : c.toNat < 128
  · rw [encode_ascii hascii, List.mem_singleton] at hb
    subst hb
    exact of_ascii_codes (p := fun c => c ∉ markedChars → Lexeme.markOf c.toUInt8 ∈ unmarked)
      (by decide +kernel) hascii hc
  · rw [markOf_beyond (encode_beyond (by omega) b hb)]
    decide

theorem passes_unmarked (hs : s.depth ≠ 0) {c : Char} (hc : c ∉ markedChars)
    (rest : List Char) : s.Passes [c] s rest := by
  intro offset
  rw [scan, List.singleton_append, bytes_cons,
    startsFrom_unmarked_bytes hs fun b hb => markOf_unmarked hc hb]
  simp [scan, bytes]

theorem passes_gap (s : SplitState) {c : Char} (hc : c ∈ gapChars) (rest : List Char) :
    s.Passes [c] s rest := by
  apply passes_of_lexes (lexes_gap hc rest)
  simp [step, outer, nest]

theorem passes_comment (s : SplitState) {line : List Char} (hline : '\n' ∉ line)
    (rest : List Char) : s.Passes ('#' :: line) s ('\n' :: rest) := by
  apply passes_of_lexes (lexes_comment hline rest)
  simp [step, outer, nest]

theorem space_passes {sp : List Char} (h : Space sp) (s : SplitState) (rest : List Char) :
    s.Passes sp s rest := by
  induction h with
  | nil => exact passes_nil s rest
  | gap hc h ih => exact (passes_gap s hc _).append ih
  | comment hline h ih =>
    exact (passes_comment s hline _).append ((passes_gap s (by decide) _).append ih)

def deeper (s : SplitState) : SplitState := { s with depth := s.depth + 1 }

theorem deeper_depth (s : SplitState) : s.deeper.depth ≠ 0 := Nat.succ_ne_zero _

theorem passes_opening_inside (hs : s.depth ≠ 0) {o c : Char} (h : BracketPair o c)
    (rest : List Char) : s.Passes [o] s.deeper rest := by
  apply passes_of_lexes (lexes_brackets h rest).1
  simp [step, nest, hs, deeper]

theorem passes_closing_inside (hs : s.depth ≠ 0) {o c : Char} (h : BracketPair o c)
    (rest : List Char) : s.deeper.Passes [c] s rest := by
  apply passes_of_lexes (lexes_brackets h rest).2
  simp [step, nest, hs, deeper]

theorem closing_ne_quote {o c : Char} (h : BracketPair o c) (rest : List Char) :
    (c :: rest).head? ≠ some '"' := by
  cases h <;> simp

theorem balanced_passes (h : Balanced cs) (hs : s.depth ≠ 0)
    (hrest : rest.head? ≠ some '"') : s.Passes cs s rest := by
  induction h generalizing s rest with
  | nil => exact passes_nil s rest
  | char hc h ih => exact (passes_unmarked hs hc _).append (ih hs hrest)
  | comment hline h ih =>
    exact (passes_comment s hline _).append ((passes_gap s (by decide) _).append (ih hs hrest))
  | literal hliteral hstops h ih =>
    refine Passes.append (passes_of_lexes (lexes_literal hliteral ?_) ?_) (ih hs hrest)
    · exact hstops.append hrest
    · exact step_inside hs (by simp)
  | nested hpair hinner h ihInner ih =>
    refine Passes.append (Passes.append (passes_opening_inside hs hpair _)
      (ihInner s.deeper_depth (closing_ne_quote hpair _))) ?_
    exact (passes_closing_inside hs hpair _).append (ih hs hrest)

end Inside

section Outside

/-- The scan is in the header of a definition of the kind, after some more words. -/
structure InHeader (kind : String) (more : List String) (s : SplitState) : Prop where
  depth_eq : s.depth = 0
  started_eq : s.started = true
  closed_eq : s.closed = false
  words_eq : s.kindAndRest = some (kind, more)

variable {kind : String} {more : List String}

namespace InHeader

theorem begin_false (h : InHeader kind more s) : s.begin false = (s, false) := by
  obtain ⟨depth, started, header, closed⟩ := s
  obtain ⟨-, rfl, rfl, -⟩ := h
  rfl

theorem push (h : InHeader kind more s) (word : String) :
    InHeader kind (more ++ [word]) { s with header := s.header ++ [word] } := by
  refine ⟨h.depth_eq, h.started_eq, h.closed_eq, ?_⟩
  have hwords := h.words_eq
  obtain ⟨depth, started, header, closed⟩ := s
  cases header with
  | nil => simp [kindAndRest] at hwords
  | cons first rest =>
    by_cases hfirst : first = "extend"
    · cases rest with
      | nil => simp [kindAndRest, hfirst] at hwords
      | cons second rest =>
        simp only [kindAndRest, hfirst, if_true, Option.some.injEq, Prod.mk.injEq] at hwords
        obtain ⟨rfl, rfl⟩ := hwords
        simp [kindAndRest, hfirst]
    · simp only [kindAndRest, hfirst, if_false, Option.some.injEq, Prod.mk.injEq] at hwords
      obtain ⟨rfl, rfl⟩ := hwords
      simp [kindAndRest, hfirst]

theorem wordBoundary_eq (h : InHeader kind more s) (word : String) :
    s.wordBoundary word =
      (definitionKeywords.contains word && (typeSystemKinds.contains kind && !more.isEmpty)) := by
  simp [wordBoundary, isTypeSystem, pastName, h.closed_eq, h.words_eq]

theorem braceBoundary_eq (h : InHeader kind more s) :
    s.braceBoundary = (bodylessKinds.contains kind && !more.isEmpty) := by
  simp [braceBoundary, isBodyless, pastName, h.closed_eq, h.words_eq]

end InHeader

theorem ascii_bytes {n : List Char} (hn : ∀ c ∈ n, isNameChar c = true) (mark : Lexeme.Mark) :
    (Lexeme.mk mark (bytes n)).ascii = String.ofList n := by
  have hmap : (bytes n).map (fun b => Char.ofNat b.toNat) = n := by
    induction n with
    | nil => rfl
    | cons c n ih =>
      have hascii := isNameChar_ascii (hn c List.mem_cons_self)
      have hc : Char.ofNat c.toUInt8.toNat = c :=
        of_ascii_codes (p := fun c => Char.ofNat c.toUInt8.toNat = c) (by decide +kernel) hascii
      rw [bytes_cons_ascii hascii, List.map_cons, hc,
        ih fun d hd => hn d (List.mem_cons_of_mem c hd)]
  rw [Lexeme.ascii, hmap]

theorem step_word (hs : s.depth = 0) {n : List Char} (hn : isName n = true) :
    s.step ⟨.word, bytes n⟩ =
      SplitState.push (String.ofList n) (s.begin (s.wordBoundary (String.ofList n))) := by
  simp [step, outer, nest, hs, ascii_bytes (isName_chars hn)]

/-- A word in a header goes on with it unless it is a keyword after the name of a type
system definition. -/
theorem word_passes (h : InHeader kind more s) {n : List Char} (hn : isName n = true)
    (hrest : Stops rest) (hword : String.ofList n ∈ definitionKeywords →
      kind ∈ typeSystemKinds → more = []) :
    ∃ t, s.Passes n t rest ∧ InHeader kind (more ++ [String.ofList n]) t := by
  refine ⟨_, passes_of_lexes (lexes_name hn hrest) ?_, h.push (String.ofList n)⟩
  have hboundary : s.wordBoundary (String.ofList n) = false := by
    rw [h.wordBoundary_eq, ← Bool.not_eq_true]
    intro hall
    simp only [Bool.and_eq_true, List.contains_iff_mem, Bool.not_eq_true',
      List.isEmpty_eq_false_iff] at hall
    exact hall.2.2 (hword hall.1 hall.2.1)
  rw [step_word h.depth_eq hn, hboundary, h.begin_false]
  rfl

theorem directive_passes (h : InHeader kind more s) {n : List Char} (hn : isName n = true)
    (hrest : Stops rest) :
    ∃ t, s.Passes ('@' :: n) t rest ∧ InHeader kind (more ++ ["@"]) t := by
  refine ⟨_, passes_of_lexes (lexes_directive hn hrest) ?_, h.push "@"⟩
  simp [step, outer, nest, SplitState.push, h.depth_eq, h.begin_false]

theorem punctuator_passes (h : InHeader kind more s) {c : Char} (hc : c ∈ punctuators)
    (rest : List Char) : s.Passes [c] s rest := by
  apply passes_of_lexes (lexes_punctuator hc rest)
  simp [step, outer, nest, h.depth_eq, h.begin_false]

theorem group_passes (h : InHeader kind more s) {o c : Char} (hpair : BracketPair o c)
    (ho : o ≠ '\x7b') {inner : List Char} (hinner : Balanced inner) (rest : List Char) :
    s.Passes (o :: inner ++ [c]) s rest := by
  have hopen : s.Passes [o] s.deeper ((inner ++ [c]) ++ rest) := by
    apply passes_of_lexes (lexes_brackets hpair _).1
    simp [step, outer, nest, ho, h.depth_eq, h.begin_false, deeper]
  have hclose : s.deeper.Passes [c] s rest := by
    apply passes_of_lexes (lexes_brackets hpair _).2
    simp [step, nest, ho, deeper]
  have hinside : s.deeper.Passes inner s.deeper ([c] ++ rest) :=
    balanced_passes hinner s.deeper_depth (closing_ne_quote hpair rest)
  exact hopen.append (hinside.append hclose)

theorem header_passes {allowed : String → Prop} {header : List Char}
    (h : HeaderText allowed header) (hs : InHeader kind more s) (hrest : Stops rest)
    (hallowed : ∀ word, allowed word → word ∈ definitionKeywords → kind ∉ typeSystemKinds) :
    ∃ t words, s.Passes header t rest ∧ InHeader kind (more ++ words) t := by
  induction h generalizing s more with
  | nil => exact ⟨s, [], passes_nil s rest, by simpa using hs⟩
  | space hspace h ih =>
    obtain ⟨t, words, ht, hin⟩ := ih hs
    exact ⟨t, words, (space_passes hspace s _).append ht, hin⟩
  | name hn hname hstops h ih =>
    obtain ⟨t, ht, hin⟩ := word_passes hs hn (hstops.append hrest)
      fun hkeyword hkind => absurd hkind (hallowed _ hname hkeyword)
    obtain ⟨u, words, hu, hin⟩ := ih hin
    exact ⟨u, _ :: words, ht.append hu, by simpa using hin⟩
  | directive hn hstops h ih =>
    obtain ⟨t, ht, hin⟩ := directive_passes hs hn (hstops.append hrest)
    obtain ⟨u, words, hu, hin⟩ := ih hin
    exact ⟨u, _ :: words, ht.append hu, by simpa using hin⟩
  | punctuator hc h ih =>
    obtain ⟨t, words, ht, hin⟩ := ih hs
    exact ⟨t, words, (punctuator_passes hs hc _).append ht, hin⟩
  | @group o c inner cs hpair ho hinner h ih =>
    obtain ⟨t, words, ht, hin⟩ := ih hs
    have hgroup := (group_passes hs hpair ho hinner (cs ++ rest)).append ht
    exact ⟨t, words, by simpa using hgroup, hin⟩

theorem inner_passes (hs : s.depth = 0) {inner : List Char} (hinner : Balanced inner)
    (rest : List Char) :
    s.deeper.Passes (inner ++ ['\x7d']) { s with closed := true } rest := by
  have hclose : s.deeper.Passes ['\x7d'] { s with closed := true } rest := by
    apply passes_of_lexes (lexes_brackets .curly _).2
    simp [step, nest, deeper, hs]
  have hinside : s.deeper.Passes inner s.deeper (['\x7d'] ++ rest) :=
    balanced_passes hinner s.deeper_depth (closing_ne_quote .curly rest)
  exact hinside.append hclose

theorem body_passes (h : InHeader kind more s) (hkind : kind ∉ bodylessKinds)
    {inner : List Char} (hinner : Balanced inner) (rest : List Char) :
    s.Passes (braced inner) { s with closed := true } rest := by
  have hboundary : s.braceBoundary = false := by simp [h.braceBoundary_eq, hkind]
  have hopen : s.Passes ['\x7b'] s.deeper ((inner ++ ['\x7d']) ++ rest) := by
    apply passes_of_lexes (lexes_brackets .curly _).1
    simp [step, outer, nest, h.depth_eq, hboundary, h.begin_false, deeper]
  exact hopen.append (inner_passes h.depth_eq hinner rest)

end Outside

end SplitState

end QueryModel
