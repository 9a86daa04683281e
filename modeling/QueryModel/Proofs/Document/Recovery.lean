import QueryModel.Proofs.Document.Parts
import QueryModel.Proofs.Text.Trimming

/-!
# Definitions recovered from a joined source

Texts of one definition each, written one after another on lines of their own, are cut into pieces
that are read as the same definitions. The comments between two definitions go with the first of
them, and a byte order mark before the first definition stays with it.
-/

set_option autoImplicit false

namespace QueryModel

open Text Syntax SplitState

section Offsets

def offsetsOf (offset : Nat) : List (List Char) → List Nat
  | [] => []
  | seg :: segs => offset :: offsetsOf (offset + (bytes seg).length) segs

theorem piecesAt_offsetsOf (before : List Char) (segs : List (List Char)) :
    piecesAt (before ++ segs.flatten) (bytes (before ++ segs.flatten)).length
      (offsetsOf (bytes before).length segs) = segs := by
  induction segs generalizing before with
  | nil => rfl
  | cons seg segs ih =>
    have hslice := slice_append before seg segs.flatten
    have hnext := ih (before ++ seg)
    have htext : before ++ seg ++ segs.flatten = before ++ (seg :: segs).flatten := by simp
    rw [htext] at hslice hnext
    rw [bytes_append before seg, List.length_append] at hnext
    cases segs with
    | nil =>
      have hlength : (bytes (before ++ [seg].flatten)).length =
          (bytes before).length + (bytes seg).length := by simp [bytes_append]
      rw [offsetsOf, offsetsOf, piecesAt, hlength, hslice]
    | cons next segs => rw [offsetsOf, offsetsOf, piecesAt, hslice, ← offsetsOf, hnext]

end Offsets

namespace Part

def gap (p q : Part) : List Char := p.trail ++ '\n' :: q.lead

structure Precedes (p q : Part) : Prop where
  brace : q.form.isShorthand = true → p.form.admitsShorthand = true
  space : Space (p.gap q)

theorem gap_spacing (p q : Part) : Spacing (p.gap q) := by
  have hall := p.trailing.closed.append q.spacing
  simpa [gap] using hall

def segments : List Char → Part → List Part → List (List Char)
  | front, p, [] => [front ++ (p.core ++ p.trail)]
  | front, p, q :: ps => (front ++ (p.core ++ p.gap q)) :: segments [] q ps

theorem joined_eq (p : Part) (ps : List Part) :
    ['\n'].intercalate ((p :: ps).map text) = p.lead ++ (segments [] p ps).flatten := by
  induction ps generalizing p with
  | nil => simp [segments, text]
  | cons q ps ih =>
    have hjoin : ['\n'].intercalate ((p :: q :: ps).map text) =
        p.text ++ '\n' :: ['\n'].intercalate ((q :: ps).map text) := by simp
    rw [hjoin, ih]
    simp [segments, text, gap]

theorem flatten_front (front : List Char) (p : Part) (ps : List Part) :
    (segments front p ps).flatten = front ++ (segments [] p ps).flatten := by
  cases ps <;> simp [segments]

theorem offsets_front (front : List Char) (p : Part) (ps : List Part) (offset : Nat) :
    offsetsOf offset (segments front p ps) =
      offset :: (offsetsOf (offset + (bytes front).length) (segments [] p ps)).tail := by
  cases ps <;> simp [segments, offsetsOf, bytes_append, Nat.add_assoc]

section Starts

/-- Each part starts a definition where the scan is ready for the first one. If the first one has
just started, all others do. -/
theorem scan_segments {p : Part} {ps : List Part} (hchain : (p :: ps).IsChain Precedes) :
    (∀ s offset, Ready p.form.isShorthand s →
      s.scan offset (segments [] p ps).flatten = offsetsOf offset (segments [] p ps)) ∧
    ∀ offset, fresh.scan offset (segments [] p ps).flatten =
      (offsetsOf offset (segments [] p ps)).tail := by
  induction ps generalizing p with
  | nil =>
    obtain ⟨t, henters, hdone⟩ := written_enters p.written p.clear (trailing_stops p.trailing)
    have htrail := scan_trailing p.trailing hdone.depth_eq hdone.started_eq
    have htext : (segments [] p []).flatten = p.core ++ p.trail := by simp [segments]
    rw [htext]
    refine ⟨fun s offset hs => ?_, fun offset => ?_⟩
    · rw [henters.begins s hs, htrail]
      rfl
    · rw [henters.passes, htrail]
      rfl
  | cons q ps ih =>
    obtain ⟨hprecedes, hchain⟩ := List.isChain_cons_cons.mp hchain
    obtain ⟨hready, -⟩ := ih hchain
    have hgap : Stops (p.gap q ++ (segments [] q ps).flatten) :=
      space_stops hprecedes.space (by simp [gap]) _
    obtain ⟨t, henters, hdone⟩ := written_enters p.written p.clear hgap
    have hnext (offset : Nat) : t.scan offset (p.gap q ++ (segments [] q ps).flatten) =
        offsetsOf (offset + (bytes (p.gap q)).length) (segments [] q ps) := by
      rw [space_passes hprecedes.space]
      exact hready t _ (hdone.toReady.weaken hprecedes.brace)
    have htext : (segments [] p (q :: ps)).flatten =
        p.core ++ (p.gap q ++ (segments [] q ps).flatten) := by simp [segments]
    have hoffsets (offset : Nat) : offsetsOf offset (segments [] p (q :: ps)) =
        offset :: offsetsOf (offset + (bytes p.core).length + (bytes (p.gap q)).length)
          (segments [] q ps) := by simp [segments, offsetsOf, bytes_append, Nat.add_assoc]
    refine ⟨fun s offset hs => ?_, fun offset => ?_⟩
    · rw [htext, henters.begins s hs, hnext, hoffsets]
    · rw [htext, henters.passes, hnext, hoffsets]
      rfl

def Marked (sp : List Char) : Prop := Spacing sp ∧ (sp = [] ∨ sp.head? = some '\ufeff')

theorem spacing_split {sp : List Char} (h : Spacing sp) :
    ∃ a b, sp = a ++ b ∧ Space a ∧ Marked b := by
  induction h with
  | nil => exact ⟨[], [], rfl, .nil, .nil, .inl rfl⟩
  | @char c sp hc h ih =>
    rcases gap_of_ignored hc with hgap | rfl
    · obtain ⟨a, b, rfl, ha, hb⟩ := ih
      exact ⟨c :: a, b, rfl, .gap hgap ha, hb⟩
    · exact ⟨[], _, rfl, .nil, .char hc h, .inr rfl⟩
  | @comment line sp hline h ih =>
    obtain ⟨a, b, rfl, ha, hb⟩ := ih
    exact ⟨'#' :: line ++ '\n' :: a, b, by simp, .comment hline.1 ha, hb⟩

theorem scan_marked {p : Part} {ps : List Part} (hchain : (p :: ps).IsChain Precedes)
    {front : List Char} (hfront : Marked front) (offset : Nat) :
    initial.scan offset (segments front p ps).flatten = offsetsOf offset (segments front p ps) := by
  obtain ⟨hready, hfresh⟩ := scan_segments hchain
  obtain ⟨hspacing, rfl | hmark⟩ := hfront
  · exact hready initial offset .of_initial
  · obtain ⟨more, rfl⟩ := List.head?_eq_some_iff.mp hmark
    have hmore : Spacing more := by
      cases hspacing with
      | char hc h => exact h
    have hbegins := (initial_begins_mark (more ++ (segments [] p ps).flatten)).append
      (Going.passes_spacing ⟨rfl, rfl, rfl⟩ hmore _)
    rw [flatten_front, offsets_front, ← hfresh]
    exact hbegins offset

end Starts

section Pieces

def IsIn (p : Part) (text : List Char) : Prop :=
  ∃ front after, Marked front ∧ Trailing after ∧ text = front ++ (p.core ++ after)

theorem segments_in {front : List Char} (hfront : Marked front) (p : Part) (ps : List Part) :
    List.Forall₂ IsIn (p :: ps) (segments front p ps) := by
  induction ps generalizing p front with
  | nil => exact .cons ⟨front, p.trail, hfront, p.trailing, rfl⟩ .nil
  | cons q ps ih =>
    exact .cons ⟨front, p.gap q, hfront, .space (p.gap_spacing q), rfl⟩
      (ih ⟨.nil, .inl rfl⟩ q)

theorem IsIn.readFrom {p : Part} {text : List Char} (h : p.IsIn text) :
    p.definition.ReadFrom (String.ofList text) := by
  obtain ⟨front, after, ⟨hfront, -⟩, hafter, rfl⟩ := h
  obtain ⟨htokens, hfault⟩ := scan_complete (p.lexed hfront) (definition_endsApart p.shape) hafter
    p.fits .start
  have htext : Tokens.ofText (String.ofList (front ++ (p.core ++ after))) =
      Syntax.scan nestingLimit .start (front ++ p.core ++ after) := by
    rw [Tokens.ofText, String.toList_ofList, List.append_assoc]
  rw [← htext] at htokens hfault
  refine AnyDefinition.Retakes.readFrom ?_ hfault
  rw [htokens]
  exact p.retakes

end Pieces

section Trimming

theorem sign_not_blank : ∀ c ∈ '.' :: '"' :: '-' :: signChars, isBlank c = false :=
  of_listed (by decide)

theorem tokenText_first {kind : TokenKind} {c : Char} {w : List Char}
    (h : TokenText kind (c :: w)) : isBlank c = false := by
  cases h with
  | sign hc => exact sign_not_blank c (by simp [hc])
  | dots => exact sign_not_blank '.' (by simp)
  | name hn => exact nameChar_not_blank (isName_chars hn c List.mem_cons_self)
  | number hc hcs hkind =>
    rcases hc with rfl | hc
    · exact sign_not_blank '-' (by simp)
    · exact nameChar_not_blank (by simp [isNameChar, hc])
  | plain h | block h => exact sign_not_blank '"' (by simp)

theorem tokenText_last {t : Token} (ht : t.kind = .name ∨ t.kind = .punctuator) {w : List Char}
    (h : TokenText t.kind w) : ∃ init c, w = init ++ [c] ∧ isBlank c = false := by
  generalize t.kind = kind at ht h
  cases h with
  | sign hc => exact ⟨[], _, rfl, sign_not_blank _ (by simp [hc])⟩
  | dots => exact ⟨['.', '.'], '.', rfl, sign_not_blank '.' (by simp)⟩
  | name hn =>
    obtain ⟨init, c, rfl⟩ := (List.eq_nil_or_concat' w).resolve_left ((isName_iff w).mp hn).1
    exact ⟨init, c, rfl, nameChar_not_blank (isName_chars hn c (by simp))⟩
  | number hc hcs hnumber => rcases number_kind hnumber with rfl | rfl <;> simp at ht
  | plain h | block h => simp at ht

theorem lexed_last {cs : List Char} {u : List Token} (h : Lexed cs u) (hne : u ≠ [])
    (hlast : EndsApart u) : ∃ init c, cs = init ++ [c] ∧ isBlank c = false := by
  induction h with
  | nil => contradiction
  | @token sp w rest kind ts hsp hw hends h ih =>
    cases ts with
    | nil =>
      obtain rfl := lexed_empty h
      obtain ⟨init, c, rfl, hc⟩ := tokenText_last (hlast _ rfl) hw
      exact ⟨sp ++ init, c, by simp, hc⟩
    | cons t ts =>
      obtain ⟨init, c, rfl, hc⟩ := ih (List.cons_ne_nil t ts) hlast.tail
      exact ⟨sp ++ (w ++ init), c, by simp, hc⟩

theorem lexed_first {cs : List Char} {u : List Token} (h : Lexed cs u) (hne : u ≠ [])
    (hcs : Unspaced cs) : ∃ c more, cs = c :: more ∧ isBlank c = false := by
  cases h with
  | nil => contradiction
  | @token sp w rest kind ts hsp hw hends h =>
    obtain rfl := hcs.spacing_eq_nil hsp
    obtain ⟨c, w, rfl⟩ := tokenText_cons hw
    exact ⟨c, _, rfl, tokenText_first hw⟩

theorem trailing_trimEnd {after : List Char} (h : Trailing after) : Trailing (trimEnd after) :=
  trailing_cut h.closed ((prefix_trimEnd after).trans (List.prefix_append after _))

theorem trim_laid {front core : List Char} {u : List Token} (hfront : Marked front)
    (hcore : Unspaced core) (hlexed : ∀ {sp : List Char}, Spacing sp → Lexed (sp ++ core) u)
    (hne : u ≠ []) (hlast : EndsApart u) (after : List Char) :
    Text.trim (front ++ (core ++ after)) = front ++ (core ++ trimEnd after) ∧
      front ++ (core ++ trimEnd after) ≠ [] := by
  obtain ⟨init, d, hinit, hd⟩ := lexed_last (hlexed hfront.1) hne hlast
  obtain ⟨c, more, hmore, hc⟩ : ∃ c more, front ++ core = c :: more ∧ isBlank c = false := by
    obtain ⟨-, rfl | hmark⟩ := hfront
    · exact lexed_first (hlexed .nil) hne hcore
    · obtain ⟨front, rfl⟩ := List.head?_eq_some_iff.mp hmark
      exact ⟨_, _, rfl, by decide⟩
  have htrim := trim_append hc hd (hmore.symm.trans hinit) after
  rw [← hmore, List.append_assoc, List.append_assoc] at htrim
  refine ⟨htrim, ?_⟩
  rw [← List.append_assoc, hmore]
  exact List.cons_ne_nil _ _

theorem IsIn.trim {p : Part} {text : List Char} (h : p.IsIn text) :
    p.IsIn (Text.trim text) ∧ Text.trim text ≠ [] := by
  obtain ⟨front, after, hfront, hafter, rfl⟩ := h
  obtain ⟨htrim, hlong⟩ := trim_laid hfront p.unspaced p.lexed p.shape.ne_nil
    (definition_endsApart p.shape) after
  rw [htrim]
  exact ⟨⟨front, trimEnd after, hfront, trailing_trimEnd hafter, rfl⟩, hlong⟩

end Trimming

/-- Joined parts are cut into pieces that are read as their definitions. -/
theorem splitChars_isIn {p : Part} {ps : List Part} (hchain : (p :: ps).IsChain Precedes) :
    List.Forall₂ IsIn (p :: ps) (splitChars (['\n'].intercalate ((p :: ps).map text))) := by
  obtain ⟨a, b, hlead, ha, hb⟩ := spacing_split p.spacing
  have htext : ['\n'].intercalate ((p :: ps).map text) = a ++ (segments b p ps).flatten := by
    rw [joined_eq, hlead, flatten_front b, List.append_assoc]
  have hstarts : definitionStarts (bytes (a ++ (segments b p ps).flatten)) =
      offsetsOf (bytes a).length (segments b p ps) := by
    have hscan := space_passes ha initial (segments b p ps).flatten 0
    rwa [Nat.zero_add, scan_marked hchain hb] at hscan
  have hpieces : List.Forall₂ (fun piece q => piece ≠ [] ∧ q.IsIn piece)
      ((segments b p ps).map Text.trim) (p :: ps) :=
    List.forall₂_map_left_iff.mpr ((segments_in hb p ps).flip.imp fun _ _ h => (IsIn.trim h).symm)
  obtain ⟨hne, hin⟩ := (List.forall₂_and_left _ _).mp hpieces
  have hfilter : ((segments b p ps).map Text.trim).filter (fun piece => !piece.isEmpty) =
      (segments b p ps).map Text.trim := by
    rw [List.filter_eq_self]
    intro piece hpiece
    simpa using hne piece hpiece
  rw [htext, splitChars, hstarts, piecesAt_offsetsOf, hfilter]
  exact hin.flip

section Tokens

theorem joined_lexed (p : Part) (ps : List Part) {front : List Char} (hfront : Spacing front) :
    ∃ cs trail, front ++ (segments [] p ps).flatten = cs ++ trail ∧
      Lexed cs ((p :: ps).map tokens).flatten ∧ Trailing trail := by
  induction ps generalizing p front with
  | nil =>
    refine ⟨front ++ p.core, p.trail, by simp [segments], ?_, p.trailing⟩
    simpa using p.lexed hfront
  | cons q ps ih =>
    obtain ⟨cs, trail, hcs, hlexed, htrail⟩ := ih q (p.gap_spacing q)
    have hstops : Stops cs := by
      have hgap := spacing_stops (p.gap_spacing q) (by simp [gap]) (segments [] q ps).flatten
      rw [hcs] at hgap
      exact hgap.of_append
    refine ⟨front ++ p.core ++ cs, trail, ?_, ?_, htrail⟩
    · simp [segments, hcs]
    · exact lexed_append (p.lexed hfront) (definition_endsApart p.shape) hstops hlexed

theorem tokens_fit (ps : List Part) : Fits nestingLimit (ps.map tokens).flatten := by
  induction ps with
  | nil => trivial
  | cons p ps ih => exact (fits_append p.shape.enclosed nestingLimit).mpr ⟨p.fits, ih⟩

theorem tokens_endApart (p : Part) (ps : List Part) :
    EndsApart ((p :: ps).map tokens).flatten := by
  induction ps generalizing p with
  | nil => simpa using definition_endsApart p.shape
  | cons q ps ih => exact (ih q).append (by simp [q.shape.ne_nil])

theorem joined_tokens (p : Part) (ps : List Part) :
    (Tokens.ofText (String.ofList (['\n'].intercalate ((p :: ps).map text)))).tokens =
      ((p :: ps).map tokens).flatten := by
  obtain ⟨cs, trail, hcs, hlexed, htrail⟩ := joined_lexed p ps p.spacing
  rw [Tokens.ofText, String.toList_ofList, joined_eq, hcs]
  exact (scan_complete hlexed (tokens_endApart p ps) htrail (tokens_fit (p :: ps)) .start).1

theorem leading_units {ps : List Part} (hmixed : ∃ p ∈ ps, p.definition.typeSystem?.isSome) :
    ∃ ds units t rest, Reader.Units (fun _ _ => True) Reader.executableDefinition ds units ∧
      t ∉ DefinitionTokens.executableStarts ∧
      (ps.map tokens).flatten = units.flatten ++ t :: rest := by
  induction ps with
  | nil => simp at hmixed
  | cons p ps ih =>
    have hshape := p.hasShape
    have hretakes := p.retakes
    rcases hdefinition : p.definition with d | d
    · rw [hdefinition] at hretakes
      have hmore : ∃ q ∈ ps, q.definition.typeSystem?.isSome := by
        simpa [hdefinition, AnyDefinition.typeSystem?] using hmixed
      obtain ⟨ds, units, t, rest, hunits, ht, htokens⟩ := ih hmore
      refine ⟨d :: ds, p.tokens :: units, t, rest, .cons ⟨trivial, hretakes⟩ hunits, ht, ?_⟩
      simp [htokens]
    · rw [hdefinition] at hshape
      obtain ⟨kind, body, hform, -⟩ := hshape
      obtain ⟨t, rest, htokens, ht⟩ := (hform ▸ p.shape).head_typeSystem
      exact ⟨[], [], t, rest ++ (ps.map tokens).flatten, .nil, ht, by simp [htokens]⟩

theorem not_executable {p : Part} {ps : List Part}
    (hmixed : ∃ q ∈ p :: ps, q.definition.typeSystem?.isSome) :
    ∃ f, readExecutable (String.ofList (['\n'].intercalate ((p :: ps).map text))) = .error f := by
  obtain ⟨ds, units, t, rest, hunits, ht, htokens⟩ := leading_units hmixed
  rw [← joined_tokens] at htokens
  exact AnyDefinition.not_executable hunits ht htokens

end Tokens

section Sources

def source (p : Part) : AnyDefinition × String := (p.definition, String.ofList p.text)

theorem exists_parts {xs : List (AnyDefinition × String)}
    (h : ∀ x ∈ xs, x.1.WrittenAs x.2) : ∃ ps : List Part, xs = ps.map source := by
  induction xs with
  | nil => exact ⟨[], rfl⟩
  | cons x xs ih =>
    obtain ⟨hx, hxs⟩ := List.forall_mem_cons.mp h
    obtain ⟨p, hdefinition, htext⟩ := exists_of_writtenAs hx
    obtain ⟨ps, rfl⟩ := ih hxs
    refine ⟨p :: ps, ?_⟩
    rw [List.map_cons, source, hdefinition, htext, String.ofList_toList]

theorem admits_of_takesBody {p : Part} (h : p.definition.takesBody = false) :
    p.form.admitsShorthand = true := by
  have hshape := p.hasShape
  have htokens := p.shape
  rcases hdefinition : p.definition with d | d <;> rw [hdefinition] at hshape h
  · have hform : p.form = Reader.formOf d := hshape
    rw [hform]
    cases d <;> rfl
  · obtain ⟨kind, body, hform, hbody⟩ := hshape
    rw [hform] at htokens ⊢
    cases body with
    | true => rfl
    | false =>
      by_contra hadmits
      have hbodyless : kind ∉ bodylessKinds := by
        simpa [DefinitionForm.admitsShorthand] using hadmits
      have htakes := hbody (bodyKinds_iff.mpr ⟨htokens.kind_mem, hbodyless⟩) rfl
      simp [AnyDefinition.takesBody, htakes] at h

theorem shorthand_of_form {p : Part} (h : p.form.isShorthand = true) :
    p.definition.isShorthand = true := by
  have hshape := p.hasShape
  rcases hdefinition : p.definition with d | d <;> rw [hdefinition] at hshape
  · have hform : p.form = Reader.formOf d := hshape
    rw [hform] at h
    cases d with
    | shorthand items => rfl
    | _ => simp [Reader.formOf, DefinitionForm.isShorthand] at h
  · obtain ⟨kind, body, hform, -⟩ := hshape
    rw [hform] at h
    simp [DefinitionForm.isShorthand] at h

end Sources

end Part

/-- One text may stand before the other: the first definition does not take a shorthand query for
its body, and there is no byte order mark between the two. -/
structure Separated (x y : AnyDefinition × String) : Prop where
  body : x.1.takesBody = true → y.1.isShorthand = false
  ends : (outerMarks x.2.toList).getLast? ≠ some .other
  starts : (outerMarks y.2.toList).head? ≠ some .other

theorem Separated.precedes {p q : Part} (h : Separated p.source q.source) : p.Precedes q := by
  obtain ⟨hbody, hends, hstarts⟩ := h
  rw [Part.source, String.toList_ofList] at hends hstarts
  refine ⟨fun hshorthand => Part.admits_of_takesBody ?_, ?_⟩
  · by_contra htakes
    have hother : q.definition.isShorthand = false := hbody (eq_true_of_ne_false htakes)
    simp [Part.shorthand_of_form hshorthand] at hother
  · have hall := (space_trail p.spacing p.written p.trailing hends).append
      (space_lead q.spacing q.written q.trailing hstarts)
    simpa [Part.gap] using hall

section Sources

variable {xs : List (AnyDefinition × String)} (hxs : ∀ x ∈ xs, x.1.WrittenAs x.2)

include hxs

theorem exists_joined_parts : ∃ ps : List Part, xs = ps.map Part.source ∧
    "\n".intercalate (xs.map Prod.snd) = String.ofList (['\n'].intercalate (ps.map Part.text)) := by
  obtain ⟨ps, rfl⟩ := Part.exists_parts hxs
  refine ⟨ps, rfl, ?_⟩
  have htexts : (ps.map Part.source).map (String.toList ∘ Prod.snd) = ps.map Part.text := by
    simp [Part.source]
  rw [← String.toList_inj, String.toList_intercalate, List.map_map, htexts, String.toList_ofList,
    String.toList_ofList]

/-- Separated texts of one definition each, joined line by line, are cut into pieces that are
read as the same definitions. -/
theorem readFrom_pieces (hchain : xs.IsChain Separated) :
    List.Forall₂ (fun x piece => x.1.ReadFrom piece) xs
      (splitDefinitions ("\n".intercalate (xs.map Prod.snd))) := by
  obtain ⟨ps, rfl, htext⟩ := exists_joined_parts hxs
  rw [htext, splitDefinitions, String.toList_ofList]
  cases ps with
  | nil => simp [splitChars, definitionStarts, bytes, Lexeme.all, startsFrom, piecesAt]
  | cons p ps =>
    have hparts : (p :: ps).IsChain Part.Precedes :=
      ((List.isChain_map _).mp hchain).imp fun _ _ h => h.precedes
    rw [List.forall₂_map_left_iff, List.forall₂_map_right_iff]
    exact (Part.splitChars_isIn hparts).imp fun _ _ h => Part.IsIn.readFrom h

theorem joined_not_executable (hmixed : ∃ x ∈ xs, x.1.typeSystem?.isSome) :
    ∃ f, readExecutable ("\n".intercalate (xs.map Prod.snd)) = .error f := by
  obtain ⟨ps, rfl, htext⟩ := exists_joined_parts hxs
  rw [htext]
  obtain ⟨_, hx, hsystem⟩ := hmixed
  obtain ⟨q, hq, rfl⟩ := List.mem_map.mp hx
  cases ps with
  | nil => simp at hq
  | cons p ps => exact Part.not_executable ⟨q, hq, hsystem⟩

end Sources

end QueryModel
