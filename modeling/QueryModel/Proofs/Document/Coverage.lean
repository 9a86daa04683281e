import QueryModel.Proofs.Document.Brackets
import QueryModel.Proofs.Document.Safety
import QueryModel.Proofs.Document.Segments

/-!
# Sources are read as a whole

Where a source resolves, everything in it but blank characters, commas and comments stands in a
text that one of the grammars reads. Two conditions are needed. Comments have to end their lines,
since what follows a carriage return is a comment for the cut only. And a closing bracket must not
come first, since closing brackets before the first definition are passed over.
-/

set_option autoImplicit false

namespace QueryModel

open Text Syntax SplitState

/-- The text is the chunks in their order, with blank characters, commas and comments around
them. -/
inductive Covered : List Char → List (List Char) → Prop
  | nil : Covered [] []
  | blank {c : Char} {cs : List Char} {chunks : List (List Char)} (hc : isBlank c = true ∨ c = ',')
      (h : Covered cs chunks) : Covered (c :: cs) chunks
  | comment {line cs : List Char} {chunks : List (List Char)} (hline : LineText line)
      (hends : ∀ c ∈ cs.head?, c = '\n') (h : Covered cs chunks) :
      Covered ('#' :: line ++ cs) chunks
  | chunk {chunk cs : List Char} {chunks : List (List Char)} (h : Covered cs chunks) :
      Covered (chunk ++ cs) (chunk :: chunks)

theorem Covered.starts {text : List Char} {chunks : List (List Char)} (h : Covered text chunks)
    {c : Char} (hc : text.head? = some c) :
    isBlank c = true ∨ c = ',' ∨ (∃ chunk ∈ chunks.head?, chunk <+: text) ∨
      c = '#' ∧ ∃ n < text.length, LineText (text.tail.take n) ∧
        (text.tail.drop n).head?.getD '\n' = '\n' := by
  cases h with
  | nil => contradiction
  | blank hblank h =>
    obtain rfl := Option.some.inj hc
    exact hblank.elim .inl fun hcomma => .inr (.inl hcomma)
  | chunk h => exact .inr (.inr (.inl ⟨_, rfl, List.prefix_append ..⟩))
  | @comment line cs _ hline hends h =>
    obtain rfl := Option.some.inj hc
    have hlength : line.length < ('#' :: line ++ cs).length := by
      simp only [List.cons_append, List.length_cons, List.length_append]
      omega
    have hend : cs.head?.getD '\n' = '\n' := by
      cases cs with
      | nil => rfl
      | cons c cs => exact hends c rfl
    exact .inr (.inr (.inr ⟨rfl, line.length, hlength, by simpa using hline, by simpa using hend⟩))

theorem Spaced.covered {text : List Char} {chunks : List (List Char)} (h : Spaced text chunks) :
    Covered text chunks := by
  induction h with
  | nil => exact .nil
  | blank hc h ih => exact .blank (.inl hc) ih
  | piece h ih => exact .chunk ih

section Preamble

variable {rest lead : List Char}

theorem outerMarks_passed {mark : Lexeme.Mark} {cs : List Char}
    (hmark : mark ∈ [Lexeme.Mark.gap, .comment]) (h : Lexes mark cs rest) :
    outerMarks (cs ++ rest) = outerMarks rest := by
  rw [outerMarks, outerLexemes, h]
  simp only [List.mem_cons, List.not_mem_nil, or_false] at hmark
  rcases hmark with rfl | rfl <;> rfl

theorem preamble_gaps (h : Preamble (gapChars ++ closingChars) rest lead)
    (hfirst : ∀ brace, (outerMarks (lead ++ rest)).head? ≠ some (.closing brace)) :
    Preamble gapChars rest lead := by
  induction h with
  | nil => exact .nil
  | @char c cs hc h ih =>
    rcases List.mem_append.mp hc with hgap | hclosing
    · have hmarks := outerMarks_passed (by simp) (lexes_gap hgap (cs ++ rest))
      exact .char hgap (ih (hmarks ▸ hfirst))
    · obtain ⟨o, hpair⟩ := closing_pair hclosing
      have hhead : (outerMarks ([c] ++ (cs ++ rest))).head? =
          some (.closing (o = '\x7b')) := by
        rw [outerMarks, outerLexemes, (lexes_brackets hpair _).2]
        rfl
      exact absurd hhead (hfirst _)
  | @comment line cs hline hends h ih =>
    have hmarks := outerMarks_passed (by simp) (lexes_ended hline hends)
    rw [List.append_assoc] at hfirst
    exact .comment hline hends (ih (hmarks ▸ hfirst))

theorem lineText_of_tidy {line : List Char} (hline : '\n' ∉ line)
    (h : Lexes .comment ('#' :: line) rest) (htidy : Tidy ('#' :: line ++ rest)) :
    LineText line := by
  refine ⟨hline, fun hreturn => ?_⟩
  rw [Tidy, h] at htidy
  apply htidy _ List.mem_cons_self rfl
  obtain ⟨init, last, rfl⟩ := (List.eq_nil_or_concat' line).resolve_left fun hnil => by
    simp [hnil] at hreturn
  rw [List.dropLast_concat] at hreturn
  obtain ⟨a, b, rfl⟩ := List.append_of_mem hreturn
  have hmem := return_mem_dropLast ('#' :: a) (b := b ++ [last]) (by simp)
  simpa using hmem

theorem covered_gaps {chunks : List (List Char)} (h : Preamble gapChars rest lead)
    (htidy : Tidy (lead ++ rest)) (hrest : Covered rest chunks) :
    Covered (lead ++ rest) chunks := by
  have hgaps : ∀ c ∈ gapChars, isBlank c = true ∨ c = ',' := of_listed (by decide)
  induction h with
  | nil => exact hrest
  | @char c cs hc h ih =>
    rw [List.cons_append, ← List.singleton_append] at htidy
    exact .blank (hgaps c hc) (ih (htidy.of_lexes (lexes_gap hc (cs ++ rest))))
  | @comment line cs hline hends h ih =>
    have hlex := lexes_ended hline hends
    rw [List.append_assoc] at htidy ⊢
    exact .comment (lineText_of_tidy hline hlex htidy) hends (ih (htidy.of_lexes hlex))

theorem awaited_gaps (h : Preamble gapChars rest lead) (stack : List (List UInt8)) :
    Lexeme.awaited stack (Lexeme.all (bytes (lead ++ rest))) =
      Lexeme.awaited stack (Lexeme.all (bytes rest)) := by
  induction h with
  | nil => rfl
  | @char c cs hc h ih =>
    have hlex := lexes_gap hc (cs ++ rest)
    rw [List.cons_append, ← List.singleton_append, hlex,
      Lexeme.awaited_plain (by simp [unmarked])]
    exact ih
  | @comment line cs hline hends h ih =>
    rw [List.append_assoc, lexes_ended hline hends, Lexeme.awaited_plain (by simp)]
    exact ih

end Preamble

section Tidiness

theorem tidy_segment {lead : List Char} {segs : List (List Char)}
    (hcuts : Cuts lead segs.flatten) (hsegs : Lexeme.all (bytes segs.flatten) = lexemesOf segs)
    (htidy : Tidy (lead ++ segs.flatten)) {seg : List Char} (hseg : seg ∈ segs) : Tidy seg := by
  rw [Tidy, hcuts, hsegs] at htidy
  intro l hl
  apply htidy l
  exact List.mem_append_right _ (List.mem_flatten_of_mem (List.mem_map_of_mem hseg) hl)

theorem awaited_segment {seg : List Char} (htidy : Tidy seg)
    (h : trim seg ≠ [] → Accepted (String.ofList (trim seg))) (stack : List (List UInt8)) :
    Lexeme.awaited stack (Lexeme.all (bytes seg)) = some stack := by
  obtain ⟨before, after, hseg, hbefore, hafter⟩ := trim_split seg
  generalize trim seg = piece at h hseg
  subst hseg
  have hunmarked : ∀ c ∈ before, c ∉ markedChars := fun c hc => blank_unmarked (hbefore c hc)
  have hpass := observe_chars (F := Lexeme.awaited stack)
    (fun l ls hl => Lexeme.awaited_plain (by simp [hl]) stack ls) hunmarked (piece ++ after)
  rw [hpass]
  by_cases hpiece : piece = []
  · subst hpiece
    exact awaited_chars (fun c hc => blank_unmarked (hafter c hc)) stack
  · have hrest : Tidy (piece ++ after) := htidy.of_chars hunmarked
    rw [Tidy, bytes_append] at hrest
    have hread := (h hpiece).awaited (by rw [String.toList_ofList]; exact hrest.cut) hafter stack
    rwa [String.toList_ofList] at hread

theorem awaited_segments {segs : List (List Char)} (h : ∀ seg ∈ segs, ∀ stack,
    Lexeme.awaited stack (Lexeme.all (bytes seg)) = some stack) (stack : List (List UInt8)) :
    Lexeme.awaited stack (lexemesOf segs) = some stack := by
  induction segs with
  | nil => rfl
  | cons seg segs ih =>
    obtain ⟨hseg, hsegs⟩ := List.forall_mem_cons.mp h
    rw [lexemesOf, List.map_cons, List.flatten_cons, Lexeme.awaited_append, hseg]
    exact ih hsegs

end Tidiness

/-- A tidy text that begins with no closing bracket is covered by its pieces. If all of them can be
read, its closing brackets have partners. -/
theorem splitDefinitions_covers {text : String} (htidy : Tidy text.toList)
    (hfirst : ∀ brace, (outerMarks text.toList).head? ≠ some (.closing brace)) :
    Covered text.toList ((splitDefinitions text).map String.toList) ∧
      ((∀ piece ∈ splitDefinitions text, Accepted piece) → ¬ Unmatched text.toList) := by
  obtain ⟨lead, segs, htext, hsplit, hpreamble, hcuts, hsegs⟩ := splitChars_segments text.toList
  rw [htext] at htidy hfirst
  have hgaps := preamble_gaps hpreamble hfirst
  refine ⟨?_, fun haccepted hunmatched => ?_⟩
  · rw [map_toList_splitDefinitions, hsplit, htext]
    exact covered_gaps hgaps htidy (spaced_segments segs).covered
  · have hread : ∀ seg ∈ segs, ∀ stack,
        Lexeme.awaited stack (Lexeme.all (bytes seg)) = some stack := by
      intro seg hseg
      refine awaited_segment (tidy_segment hcuts hsegs htidy hseg) fun hne => ?_
      apply haccepted
      rw [splitDefinitions, hsplit]
      exact List.mem_map_of_mem
        (List.mem_filter.mpr ⟨List.mem_map_of_mem hseg, by simpa using hne⟩)
    rw [Unmatched, htext, awaited_gaps hgaps, hsegs, awaited_segments hread] at hunmatched
    contradiction

namespace Run

variable {s : Schema} {source : Source} {failure : Failure}

theorem pieces_accepted {ps : List String} {result : Document} {progress : Progress}
    (h : (runFrom (pieces s source failure result ps) progress).1.isOk) :
    ∀ piece ∈ ps, Accepted piece := by
  induction ps generalizing result progress with
  | nil => simp
  | cons piece ps ih =>
    cases hexecutable : readExecutable piece with
    | ok written =>
      simp only [pieces, hexecutable, runFrom_bind] at h
      rcases hrun : runFrom (definitions s source.file result written) progress with
        ⟨e | more, after⟩ <;> rw [hrun] at h
      · contradiction
      · exact List.forall_mem_cons.mpr ⟨.inl ⟨written, hexecutable⟩, ih h⟩
    | error f =>
      cases hsystem : readTypeSystem piece with
      | ok declared =>
        simp only [pieces, hexecutable, hsystem] at h
        exact List.forall_mem_cons.mpr ⟨.inr ⟨declared, hsystem⟩, ih h⟩
      | error g =>
        simp only [pieces, hexecutable, hsystem] at h
        contradiction

theorem pieces_failsOnly {P : Error → Prop} (hparse : P (.parse source.label .query failure))
    {ps : List String} (h : ∀ piece ∈ ps, ∀ written, readExecutable piece = .ok written →
      ∀ d ∈ written, FailsOnly P (definition s source.file d)) (result : Document) :
    FailsOnly P (pieces s source failure result ps) := by
  induction ps generalizing result with
  | nil => exact .pure result
  | cons piece ps ih =>
    obtain ⟨hpiece, hps⟩ := List.forall_mem_cons.mp h
    cases hexecutable : readExecutable piece with
    | ok written =>
      simp only [pieces, hexecutable]
      exact (definitions_failsOnly (hpiece written hexecutable) result).bind fun more => ih hps more
    | error f =>
      cases hsystem : readTypeSystem piece with
      | ok declared =>
        simp only [pieces, hexecutable, hsystem]
        exact (FailsOnly.note _).bind fun _ => ih hps result
      | error g =>
        simp only [pieces, hexecutable, hsystem]
        rintro start _ ⟨⟩
        exact hparse

def Unresolved (s : Schema) (source : Source) (e : Error) : Prop :=
  ∃ piece ∈ splitDefinitions source.content, ∃ written, readExecutable piece = .ok written ∧
    ∃ d ∈ written, ∃ progress, (runFrom (definition s source.file d) progress).1 = .error e

theorem mixedSource_failsOnly (settings : RunSettings) (source : Source) (failure : Failure) :
    FailsOnly (fun e => e = .parse source.label .query failure ∨
      Unresolved settings.schema source e) (mixedSource settings source failure) := by
  refine (FailsOnly.note _).bind fun _ => (pieces_failsOnly (.inl rfl) ?_ ∅).bind
    (finish_failsOnly settings.details)
  intro piece hpiece written hwritten d hd progress e he
  exact .inr ⟨piece, hpiece, written, hwritten, d, hd, progress, he⟩

theorem mixedSource_accepted {settings : RunSettings} {progress : Progress}
    (h : (runFrom (mixedSource settings source failure) progress).1.isOk) :
    ∀ piece ∈ splitDefinitions source.content, Accepted piece := by
  rw [mixedSource, runFrom_bind] at h
  rcases hstart : runFrom start progress with ⟨e | _, middle⟩ <;> rw [hstart] at h
  · contradiction
  · simp only [runFrom_bind] at h
    rcases hpieces : runFrom (pieces settings.schema source failure ∅
      (splitDefinitions source.content)) middle with ⟨e | result, after⟩ <;> rw [hpieces] at h
    · contradiction
    · exact pieces_accepted (by rw [hpieces]; rfl)

/-- A source in which comments end their lines and no closing bracket comes first. If it resolves,
all of it but blank characters, commas and comments stands in texts that can be read: in the whole
source or in its pieces. If one of its closing brackets has no partner, it fails as it does when
it is read as a whole, or as one of its definitions does. -/
theorem source_covered_or_refused (settings : RunSettings) (source : Source) (start : Progress)
    (htidy : Tidy source.content.toList)
    (hfirst : ∀ brace, (outerMarks source.content.toList).head? ≠ some (.closing brace)) :
    ((runFrom (Run.source settings source) start).1.isOk → ∃ chunks,
      (chunks = [source.content] ∨ chunks = splitDefinitions source.content) ∧
      (∀ chunk ∈ chunks, Accepted chunk) ∧
      Covered source.content.toList (chunks.map String.toList)) ∧
    (Unmatched source.content.toList → ∃ failure e,
      readExecutable source.content = .error failure ∧
      (runFrom (Run.source settings source) start).1 = .error e ∧
      (e = .parse source.label .query failure ∨ Unresolved settings.schema source e)) := by
  obtain ⟨hcovered, hmatched⟩ := splitDefinitions_covers htidy hfirst
  cases hread : readExecutable source.content with
  | ok written =>
    have haccepted : Accepted source.content := .inl ⟨written, hread⟩
    refine ⟨fun _ => ⟨[source.content], .inl rfl, by simpa using haccepted, ?_⟩,
      fun hunmatched => ?_⟩
    · have hwhole : Covered (source.content.toList ++ []) [source.content.toList] := .chunk .nil
      rwa [List.append_nil] at hwhole
    · have hblank : ∀ c ∈ ([] : List Char), isBlank c = true := by simp
      have hall := haccepted.awaited htidy hblank []
      rw [List.append_nil] at hall
      rw [Unmatched, hall] at hunmatched
      contradiction
  | error failure =>
    have hsource : Run.source settings source = mixedSource settings source failure := by
      rw [Run.source, hread]
    rw [hsource]
    refine ⟨fun hok => ⟨_, .inr rfl, mixedSource_accepted hok, hcovered⟩, fun hunmatched => ?_⟩
    cases hrun : (runFrom (mixedSource settings source failure) start).1 with
    | ok result => exact absurd hunmatched (hmatched (mixedSource_accepted (by rw [hrun]; rfl)))
    | error e =>
      have hfails := mixedSource_failsOnly settings source failure start e hrun
      exact ⟨failure, e, rfl, rfl, hfails⟩

/-- A comma and a comment with a brace in it stand before a type, and another comma before the query
after it. The other source closes a parenthesis with a bracket of another kind. -/
theorem source_covered_or_refused_mixed :
    let declared : List TypeSystemDefinition :=
      [.type ⟨"Query", none, [], .object [] [⟨"a", none, .named "Int", [], []⟩]⟩]
    let text := ", # \x7d\r\ntype T \x7b b: Int \x7d, \x7b a \x7d"
    let bad := "\x7b a \x7d query Q(] \x7b a \x7d"
    ∃ s, Schema.ofDefinitions declared = .ok s ∧
      (runFrom (Run.source ⟨s, false⟩ ⟨none, text⟩) .start).1.isOk ∧
      (∃ chunks, (chunks = [text] ∨ chunks = splitDefinitions text) ∧
        (∀ chunk ∈ chunks, Accepted chunk) ∧ Covered text.toList (chunks.map String.toList)) ∧
      Unmatched bad.toList ∧ ∃ failure e, readExecutable bad = .error failure ∧
        (runFrom (Run.source ⟨s, false⟩ ⟨none, bad⟩) .start).1 = .error e ∧
        (e = .parse "document" .query failure ∨ Unresolved s ⟨none, bad⟩ e) := by
  intro declared text bad
  have htidy : Tidy text.toList ∧ Tidy bad.toList := by decide +kernel
  have hfirst : (∀ brace, (outerMarks text.toList).head? ≠ some (.closing brace)) ∧
      ∀ brace, (outerMarks bad.toList).head? ≠ some (.closing brace) := by decide +kernel
  have hunmatched : Unmatched bad.toList := by decide +kernel
  obtain ⟨s, hs, hok⟩ : ∃ s, Schema.ofDefinitions declared = .ok s ∧
      (runFrom (Run.source ⟨s, false⟩ ⟨none, text⟩) .start).1.isOk := ⟨_, rfl, by decide +kernel⟩
  have hcovered := source_covered_or_refused ⟨s, false⟩ ⟨none, text⟩ .start htidy.1 hfirst.1
  have hrefused := source_covered_or_refused ⟨s, false⟩ ⟨none, bad⟩ .start htidy.2 hfirst.2
  exact ⟨s, hs, hok, hcovered.1 hok, hunmatched, hrefused.2 hunmatched⟩

/-- A closing brace before a query, though it has no partner, and what stands between a carriage
return and a line feed: both are dropped without an error. -/
theorem source_drops_text :
    let declared : List TypeSystemDefinition :=
      [.type ⟨"Query", none, [], .object [] [⟨"a", none, .named "Int", [], []⟩]⟩]
    let texts := ["\x7d \x7b a \x7d", "# \r b ! \n\x7b a \x7d"]
    (∃ text ∈ texts, Unmatched text.toList) ∧
    ∃ s, Schema.ofDefinitions declared = .ok s ∧ ∀ text ∈ texts,
      (runFrom (Run.source ⟨s, false⟩ ⟨none, text⟩) .start).1.isOk ∧ ¬ (readExecutable text).isOk ∧
      ¬ Covered text.toList ((splitDefinitions text).map String.toList) := by
  intro declared texts
  obtain ⟨s, hs, hok⟩ : ∃ s, Schema.ofDefinitions declared = .ok s ∧ ∀ text ∈ texts,
      (runFrom (Run.source ⟨s, false⟩ ⟨none, text⟩) .start).1.isOk ∧
      ¬ (readExecutable text).isOk ∧ splitDefinitions text = ["\x7b a \x7d"] :=
    ⟨_, rfl, by decide +kernel⟩
  refine ⟨by decide +kernel, s, hs, fun text htext => ?_⟩
  obtain ⟨hok, hread, hsplit⟩ := hok text htext
  refine ⟨hok, hread, fun hcovered => ?_⟩
  rw [hsplit] at hcovered
  simp only [texts, List.mem_cons, List.not_mem_nil, or_false] at htext
  rcases htext with rfl | rfl
  · exact absurd (hcovered.starts (c := '\x7d') rfl) (by decide)
  · exact absurd (hcovered.starts (c := '#') rfl) (by decide)

end Run

end QueryModel
