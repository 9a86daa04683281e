import QueryModel.Proofs.Document.Recovery

/-!
# Executable definitions in one source

Executable definitions may follow one another without any space. Each of them starts a piece of
its own, but for one that a byte order mark stands before: that one goes on with the piece of the
definition before it. Either way every piece is a stretch of whole definitions and is read as such.
-/

set_option autoImplicit false

namespace QueryModel

open Text Syntax SplitState

namespace SplitState

variable {s : SplitState} {kind : String} {more ws : List String} {cs rest : List Char}

/-- An executable definition goes on, or nothing but byte order marks has started one. -/
inductive Pending (s : SplitState) : Prop
  | fresh (h : s = fresh)
  | header {kind : String} {more : List String} (hkind : kind ∈ executableWords)
      (h : InHeader kind more s)

/-- An executable definition is over. A byte order mark would make it go on. -/
structure Over (s : SplitState) : Prop where
  depth_eq : s.depth = 0
  started_eq : s.started = true
  closed_eq : s.closed = true
  reopened : Pending { s with closed := false }

theorem executableWord_class {w : String} (hw : w ∈ executableWords) :
    w ∈ definitionKeywords ∧ w ≠ "extend" ∧ w ∉ typeSystemKinds ∧ w ∉ bodylessKinds := by
  revert w
  decide

theorem Pending.going (h : s.Pending) : s.Going := by
  cases h with
  | fresh h =>
    subst h
    exact ⟨rfl, rfl, rfl⟩
  | header hkind h => exact h.going

theorem Over.ready (h : s.Over) : Ready true s :=
  ⟨h.depth_eq, fun hopen => by simp [h.closed_eq] at hopen, fun hs => by simp [h.started_eq] at hs⟩

theorem Pending.over (h : s.Pending) : Over { s with closed := true } := by
  refine ⟨h.going.depth_eq, h.going.started_eq, rfl, ?_⟩
  change Pending { s with closed := false }
  rwa [← h.going.closed_eq]

theorem Pending.passes_body (h : s.Pending) {inner : List Char} (hinner : Balanced inner)
    (rest : List Char) : s.Passes (braced inner) { s with closed := true } rest := by
  cases h with
  | fresh h =>
    subst h
    exact (enters_brace ((inner ++ ['\x7d']) ++ rest)).passes.append (inner_passes rfl hinner rest)
  | header hkind h => exact body_passes h (executableWord_class hkind).2.2.2 hinner rest

theorem Pending.passes_word (h : s.Pending) {w : String} (hw : w ∈ executableWords)
    (hrest : Stops rest) : ∃ t kind more, s.Passes w.toList t rest ∧ kind ∈ executableWords ∧
      InHeader kind more t := by
  obtain ⟨hkeyword, hextend, -⟩ := executableWord_class hw
  cases h with
  | fresh h =>
    subst h
    exact ⟨_, w, [], fresh_passes_word hkeyword hrest, hw, opened_inHeader hextend⟩
  | header hkind h =>
    have hsystem := (executableWord_class hkind).2.2.1
    obtain ⟨t, ht, hin⟩ := word_passes h (keyword_isName w hkeyword) hrest
      fun _ hmem => absurd hmem hsystem
    exact ⟨t, _, _, ht, hkind, hin⟩

theorem headed_over (h : InHeader kind more s) (hkind : kind ∈ executableWords)
    {header inner : List Char} (hheader : OuterText ws header) (hinner : Balanced inner)
    (rest : List Char) : ∃ t, s.Passes (header ++ braced inner) t rest ∧ t.Over := by
  have hbraced : Stops (braced inner ++ rest) := fun c hc => stops_braced inner c hc
  obtain ⟨t, ht, hin⟩ := outer_passes hheader h hbraced
    fun hmem => absurd hmem (executableWord_class hkind).2.2.1
  have hpending : t.Pending := .header hkind hin
  exact ⟨_, ht.append (hpending.passes_body hinner rest), hpending.over⟩

theorem stops_headed {header : List Char} (hstops : Stops header) (inner rest : List Char) :
    Stops ((header ++ braced inner) ++ rest) := by
  have hbraced : Stops (braced inner ++ rest) := fun c hc => stops_braced inner c hc
  rw [List.append_assoc]
  exact hstops.append hbraced

theorem executable_begins {d : Definition} (h : Written (Reader.formOf d) ws cs)
    (hs : Ready true s) (rest : List Char) : ∃ t, s.Begins cs t rest ∧ t.Over := by
  generalize hform : Reader.formOf d = form at h
  cases h with
  | @shorthand inner hinner =>
    have hopen := (enters_brace ((inner ++ ['\x7d']) ++ rest)).begins s hs
    exact ⟨_, hopen.append (inner_passes rfl hinner rest), Pending.over (.fresh rfl)⟩
  | @executable w ws header inner hw hheader hstops hinner =>
    obtain ⟨hkeyword, hextend, -⟩ := executableWord_class hw
    obtain ⟨t, ht, hover⟩ := headed_over (opened_inHeader hextend) hw hheader hinner rest
    exact ⟨t, (hs.begins_word hkeyword (stops_headed hstops inner rest)).append ht, hover⟩
  | _ => cases d <;> cases hform

/-- Where a definition goes on, another one written right there goes on with it. -/
theorem executable_passes {d : Definition} (h : Written (Reader.formOf d) ws cs)
    (hs : s.Pending) (rest : List Char) : ∃ t, s.Passes cs t rest ∧ t.Over := by
  generalize hform : Reader.formOf d = form at h
  cases h with
  | shorthand hinner => exact ⟨_, hs.passes_body hinner rest, hs.over⟩
  | @executable w ws header inner hw hheader hstops hinner =>
    obtain ⟨t, kind, more, ht, hkind, hin⟩ := hs.passes_word hw (stops_headed hstops inner rest)
    obtain ⟨u, hu, hover⟩ := headed_over hin hkind hheader hinner rest
    exact ⟨u, ht.append hu, hover⟩
  | _ => cases d <;> cases hform

end SplitState

namespace Part

def IsExecutable (p : Part) : Prop := ∃ d, p.definition = .executable d

def executables (ps : List Part) : List Definition := ps.filterMap fun p => p.definition.executable?

variable {p : Part} {ps : List Part} {s : SplitState}

theorem IsExecutable.form_eq (h : p.IsExecutable) : ∃ d, p.form = Reader.formOf d := by
  obtain ⟨d, hd⟩ := h
  have hform := p.hasShape
  rw [hd] at hform
  exact ⟨d, hform⟩

theorem IsExecutable.written (h : p.IsExecutable) :
    ∃ d, Written (Reader.formOf d) p.words p.core := by
  obtain ⟨d, hform⟩ := h.form_eq
  exact ⟨d, hform ▸ p.written⟩

theorem IsExecutable.closed (h : p.IsExecutable) :
    ∀ t ∈ p.tokens.getLast?, t.kind = .punctuator := by
  obtain ⟨d, hform⟩ := h.form_eq
  have hshape := p.shape
  rw [hform] at hshape
  have hbraces (front inner : List Token) :
      ∀ t ∈ (front ++ braces inner).getLast?, t.kind = .punctuator := by
    have hlast : front ++ braces inner = front ++ Reader.sign "\x7b" :: inner ++
        [Reader.sign "\x7d"] := by simp [braces]
    rw [hlast, List.getLast?_concat]
    simp [Reader.sign]
  generalize hkind : Reader.formOf d = form at hshape
  generalize p.tokens = tokens at hshape
  cases hshape with
  | @shorthand inner hinner => exact hbraces [] inner
  | executable hw hheader hinner => exact hbraces (_ :: _) _
  | _ => cases d <;> cases hkind

theorem Marked.cases {sp : List Char} (h : Marked sp) :
    sp = [] ∨ ∃ more, sp = '\ufeff' :: more ∧ Spacing more := by
  obtain ⟨hspacing, hnil | hmark⟩ := h
  · exact .inl hnil
  · obtain ⟨more, rfl⟩ := List.head?_eq_some_iff.mp hmark
    cases hspacing with
    | char hc h => exact .inr ⟨more, rfl, h⟩

theorem initial_begins (hp : p.IsExecutable) {front : List Char} (hfront : Marked front)
    (rest : List Char) : ∃ t, initial.Begins (front ++ p.core) t rest ∧ t.Over := by
  obtain ⟨d, hwritten⟩ := hp.written
  rcases hfront.cases with rfl | ⟨more, rfl, hmore⟩
  · exact executable_begins hwritten .of_initial rest
  · obtain ⟨t, ht, hover⟩ := executable_passes hwritten (.fresh rfl) rest
    have hspace : fresh.Passes more fresh (p.core ++ rest) :=
      Going.passes_spacing ⟨rfl, rfl, rfl⟩ hmore _
    exact ⟨t, (initial_begins_mark _).append (hspace.append ht), hover⟩

theorem over_follows (hp : p.IsExecutable) (hs : s.Over) (rest : List Char) :
    ∃ t : SplitState, t.Over ∧ (s.Passes p.lead s (p.core ++ rest) ∧ s.Begins p.core t rest ∨
      s.Passes (p.lead ++ p.core) t rest) := by
  obtain ⟨d, hwritten⟩ := hp.written
  obtain ⟨a, b, hlead, ha, hb⟩ := spacing_split p.spacing
  rcases hb.cases with rfl | ⟨more, rfl, hmore⟩
  · obtain ⟨t, ht, hover⟩ := executable_begins hwritten hs.ready rest
    rw [hlead, List.append_nil]
    exact ⟨t, hover, .inl ⟨space_passes ha s _, ht⟩⟩
  · obtain ⟨t, ht, hover⟩ := executable_passes hwritten hs.reopened rest
    have hmarked : s.Passes ('\ufeff' :: more) { s with closed := false } (p.core ++ rest) :=
      (passes_mark hs.depth_eq hs.started_eq _).append (hs.reopened.going.passes_spacing hmore _)
    have hall := (space_passes ha s _).append (hmarked.append ht)
    exact ⟨t, hover, .inr (by simpa [hlead] using hall)⟩

def laid (ps : List Part) (trail : List Char) : List Char :=
  (ps.map fun p => p.lead ++ p.core).flatten ++ trail

theorem laid_cons (p : Part) (ps : List Part) (trail : List Char) :
    laid (p :: ps) trail = p.lead ++ (p.core ++ laid ps trail) := by
  simp [laid]

def Continues (ps : List Part) (text : List Char) : Prop :=
  ∃ cs after, text = cs ++ after ∧ Lexed cs (ps.map tokens).flatten ∧ Trailing after

def IsStretch (ps : List Part) (text : List Char) : Prop :=
  ps ≠ [] ∧ ∃ front core after, text = front ++ (core ++ after) ∧ Marked front ∧ Unspaced core ∧
    Trailing after ∧ ∀ {sp : List Char}, Spacing sp → Lexed (sp ++ core) (ps.map tokens).flatten

theorem Continues.cons {cont : List Char} (h : Continues ps cont) (hp : p.IsExecutable) :
    Continues (p :: ps) (p.lead ++ (p.core ++ cont)) := by
  obtain ⟨cs, after, rfl, hcs, hafter⟩ := h
  refine ⟨p.lead ++ p.core ++ cs, after, by simp, ?_, hafter⟩
  exact lexed_join (p.lexed p.spacing) hp.closed hcs

theorem Continues.isStretch {cont : List Char} (h : Continues ps cont) (hp : p.IsExecutable)
    {front : List Char} (hfront : Marked front) :
    IsStretch (p :: ps) (front ++ (p.core ++ cont)) := by
  obtain ⟨cs, after, rfl, hcs, hafter⟩ := h
  refine ⟨List.cons_ne_nil p ps, front, p.core ++ cs, after, by simp, hfront, ?_, hafter,
    fun {sp} hsp => ?_⟩
  · obtain ⟨c, more, hcore, -⟩ := lexed_first (p.lexed .nil) p.shape.ne_nil p.unspaced
    have hhead := p.unspaced
    rw [List.nil_append] at hcore
    rw [hcore] at hhead ⊢
    exact hhead
  · rw [← List.append_assoc]
    exact lexed_join (p.lexed hsp) hp.closed hcs

/-- Past a definition the text goes on with some parts, and every start from there on begins a
stretch of others. -/
theorem scan_over (hps : ∀ p ∈ ps, p.IsExecutable) {trail : List Char} (htrail : Trailing trail)
    (hs : s.Over) : ∃ cont joined segs groups, laid ps trail = cont ++ segs.flatten ∧
      ps = joined ++ groups.flatten ∧ Continues joined cont ∧ List.Forall₂ IsStretch groups segs ∧
      ∀ offset, s.scan offset (laid ps trail) = offsetsOf (offset + (bytes cont).length) segs := by
  induction ps generalizing s with
  | nil =>
    exact ⟨trail, [], [], [], by simp [laid], rfl, ⟨[], trail, rfl, .nil, htrail⟩, .nil,
      scan_trailing htrail hs.depth_eq hs.started_eq⟩
  | cons p ps ih =>
    obtain ⟨hp, hps⟩ := List.forall_mem_cons.mp hps
    obtain ⟨t, hover, hnext⟩ := over_follows hp hs (laid ps trail)
    obtain ⟨cont, joined, segs, groups, htext, rfl, hcont, hgroups, hscan⟩ := ih hps hover
    rcases hnext with ⟨hlead, hbegins⟩ | hpasses
    · refine ⟨p.lead, [], (p.core ++ cont) :: segs, (p :: joined) :: groups, ?_, rfl,
        ⟨[], p.lead, rfl, .nil, .space p.spacing⟩, .cons ?_ hgroups, fun offset => ?_⟩
      · rw [laid_cons, htext]
        simp
      · exact hcont.isStretch hp ⟨.nil, .inl rfl⟩
      · rw [laid_cons, hlead, hbegins, hscan, offsetsOf, bytes_append, List.length_append,
          Nat.add_assoc]
    · refine ⟨p.lead ++ (p.core ++ cont), p :: joined, segs, groups, ?_, rfl, hcont.cons hp,
        hgroups, fun offset => ?_⟩
      · rw [laid_cons, htext]
        simp
      · rw [laid_cons, ← List.append_assoc, hpasses, hscan, ← List.append_assoc,
          bytes_append (p.lead ++ p.core), List.length_append, Nat.add_assoc]

theorem IsStretch.trim {text : List Char} (h : IsStretch ps text) :
    IsStretch ps (Text.trim text) ∧ Text.trim text ≠ [] := by
  obtain ⟨hne, front, core, after, rfl, hfront, hcore, hafter, hlexed⟩ := h
  obtain ⟨p, more, rfl⟩ := List.exists_cons_of_ne_nil hne
  have hsome : ((p :: more).map tokens).flatten ≠ [] := by simp [p.shape.ne_nil]
  obtain ⟨htrim, hlong⟩ := trim_laid hfront hcore hlexed hsome (tokens_endApart p more) after
  rw [htrim]
  exact ⟨⟨hne, front, core, trimEnd after, rfl, hfront, hcore, trailing_trimEnd hafter, hlexed⟩,
    hlong⟩

theorem splitChars_stretches (hne : ps ≠ []) (hps : ∀ p ∈ ps, p.IsExecutable) {trail : List Char}
    (htrail : Trailing trail) :
    ∃ groups, ps = groups.flatten ∧ List.Forall₂ IsStretch groups (splitChars (laid ps trail)) := by
  obtain ⟨p, ps, rfl⟩ := List.exists_cons_of_ne_nil hne
  obtain ⟨hp, hps⟩ := List.forall_mem_cons.mp hps
  obtain ⟨a, b, hlead, ha, hb⟩ := spacing_split p.spacing
  obtain ⟨t, hbegins, hover⟩ := initial_begins hp hb (laid ps trail)
  obtain ⟨cont, joined, segs, groups, htext, rfl, hcont, hgroups, hscan⟩ :=
    scan_over hps htrail hover
  have hall : List.Forall₂ IsStretch ((p :: joined) :: groups) ((b ++ (p.core ++ cont)) :: segs) :=
    .cons (hcont.isStretch hp hb) hgroups
  have hlaid : laid (p :: (joined ++ groups.flatten)) trail =
      a ++ ((b ++ (p.core ++ cont)) :: segs).flatten := by
    rw [laid_cons, htext, hlead]
    simp
  have hstarts : definitionStarts (bytes (a ++ ((b ++ (p.core ++ cont)) :: segs).flatten)) =
      offsetsOf (bytes a).length ((b ++ (p.core ++ cont)) :: segs) := by
    have hrest : ((b ++ (p.core ++ cont)) :: segs).flatten =
        (b ++ p.core) ++ laid (joined ++ groups.flatten) trail := by
      rw [htext]
      simp
    have hspace :=
      space_passes ha initial ((b ++ p.core) ++ laid (joined ++ groups.flatten) trail) 0
    rw [hbegins, hscan, Nat.zero_add] at hspace
    rw [hrest, offsetsOf, ← List.append_assoc b, bytes_append (b ++ p.core), List.length_append,
      ← Nat.add_assoc]
    exact hspace
  have hpieces : List.Forall₂ (fun piece group => piece ≠ [] ∧ IsStretch group piece)
      (((b ++ (p.core ++ cont)) :: segs).map Text.trim) ((p :: joined) :: groups) :=
    List.forall₂_map_left_iff.mpr (hall.flip.imp fun _ _ h => (IsStretch.trim h).symm)
  obtain ⟨hpiece, hstretch⟩ := (List.forall₂_and_left _ _).mp hpieces
  refine ⟨(p :: joined) :: groups, by simp, ?_⟩
  rw [hlaid, splitChars, hstarts, piecesAt_offsetsOf, List.filter_eq_self.mpr]
  · exact hstretch.flip
  · intro piece hmem
    simpa using hpiece piece hmem

section Reading

theorem units_of_parts (hps : ∀ p ∈ ps, p.IsExecutable) : Reader.Units (fun _ _ => True)
    Reader.executableDefinition (executables ps) (ps.map tokens) := by
  induction ps with
  | nil => exact .nil
  | cons p ps ih =>
    obtain ⟨⟨d, hd⟩, hps⟩ := List.forall_mem_cons.mp hps
    have hretakes := p.retakes
    rw [hd] at hretakes
    have hexecutables : executables (p :: ps) = d :: executables ps := by
      simp [executables, hd, AnyDefinition.executable?]
    rw [hexecutables]
    exact .cons ⟨trivial, hretakes⟩ (ih hps)

theorem IsStretch.readExecutable {text : List Char} (h : IsStretch ps text)
    (hps : ∀ p ∈ ps, p.IsExecutable) :
    readExecutable (String.ofList text) = .ok (executables ps) := by
  obtain ⟨hne, front, core, after, rfl, hfront, -, hafter, hlexed⟩ := h
  have hunits := units_of_parts hps
  obtain ⟨p, more, rfl⟩ := List.exists_cons_of_ne_nil hne
  obtain ⟨htokens, hfault⟩ := scan_complete (hlexed hfront.1) (tokens_endApart p more) hafter
    (tokens_fit (p :: more)) .start
  have htext : Tokens.ofText (String.ofList (front ++ (core ++ after))) =
      Syntax.scan nestingLimit .start (front ++ core ++ after) := by
    rw [Tokens.ofText, String.toList_ofList, List.append_assoc]
  rw [← htext] at htokens hfault
  have hsome : executables (p :: more) ≠ [] := by
    intro hnil
    rw [hnil] at hunits
    cases hunits
  have hlong : ∀ u ∈ (p :: more).map tokens, u ≠ [] := by
    intro u hu
    obtain ⟨q, -, rfl⟩ := List.mem_map.mp hu
    exact q.shape.ne_nil
  exact AnyDefinition.read_ok.mpr (Reader.document_of_units hunits hsome hlong htokens hfault)

theorem exists_parts_of_units {ds : List Definition} {units : List (List Token)}
    (hunits : Reader.Units (fun d u => DefinitionTokens (Reader.formOf d) u)
      Reader.executableDefinition ds units)
    {cs : List Char} (h : Lexed cs units.flatten) (hfits : Fits nestingLimit units.flatten) :
    ∃ ps : List Part, (∀ p ∈ ps, p.IsExecutable) ∧ executables ps = ds ∧ cs = laid ps [] := by
  induction hunits generalizing cs with
  | nil => exact ⟨[], by simp, rfl, lexed_empty h⟩
  | @cons d u ds units hunit hunits ih =>
    obtain ⟨hshape, hrepeats⟩ := hunit
    rw [List.flatten_cons] at h hfits
    obtain ⟨hfit, hfits⟩ := (fits_append hshape.enclosed nestingLimit).mp hfits
    obtain ⟨a, b, rfl, ha, hb, -⟩ := lexed_cut h
    obtain ⟨lead, core, rfl, hlead, hcore, hlexed⟩ := lexed_lead ha hshape.ne_nil
    obtain ⟨words, hwritten⟩ := lexed_written hshape (hlexed .nil) hcore
    have hclear : ClearWords (Reader.formOf d) words := by cases d <;> trivial
    obtain ⟨ps, hps, rfl, rfl⟩ := ih hb hfits
    let p : Part := ⟨.executable d, Reader.formOf d, u, words, lead, core, [], hlead, .space .nil,
      hcore, hwritten, hclear, rfl, hshape, hlexed, hfit, hrepeats⟩
    refine ⟨p :: ps, List.forall_mem_cons.mpr ⟨⟨d, rfl⟩, hps⟩, rfl, ?_⟩
    rw [laid_cons, List.append_assoc]

end Reading

end Part

/-- A tidy source that is read as executable as a whole is cut into pieces that are read as its
definitions. -/
theorem readExecutable_pieces {text : String} {written : List Definition} (htidy : Tidy text.toList)
    (h : readExecutable text = .ok written) :
    ∃ groups : List (List Definition), groups.flatten = written ∧
      List.Forall₂ (fun piece ds => readExecutable piece = .ok ds) (splitDefinitions text)
        groups := by
  obtain ⟨us, hus⟩ := AnyDefinition.read_ok.mp h
  obtain ⟨hfault, units, htokens, hunits⟩ :=
    Reader.document_units Reader.executableDefinition_takes hus
  obtain ⟨front, trail, htext, hfront, htrail, hfits⟩ := scan_sound htidy hfault
  change Lexed front (Tokens.ofText text).tokens at hfront
  change Fits nestingLimit (Tokens.ofText text).tokens at hfits
  rw [htokens] at hfront hfits
  obtain ⟨ps, hps, rfl, rfl⟩ := Part.exists_parts_of_units hunits hfront hfits
  have hne : ps ≠ [] := by
    rintro rfl
    obtain ⟨a, _, more, -, -, hnil⟩ := Reader.document_ok.mp hus
    exact absurd hnil (by simp [Part.executables])
  obtain ⟨groups, rfl, hgroups⟩ := Part.splitChars_stretches hne hps htrail
  refine ⟨groups.map Part.executables, List.filterMap_flatten.symm, ?_⟩
  have hlaid : text.toList = Part.laid groups.flatten trail := by simpa [Part.laid] using htext
  rw [splitDefinitions, hlaid, List.forall₂_map_left_iff, List.forall₂_map_right_iff]
  have hexecutable : ∀ group ∈ groups, ∀ p ∈ group, p.IsExecutable := fun group hgroup p hp =>
    hps p (List.mem_flatten_of_mem hgroup hp)
  have hboth := (List.forall₂_and_left _ _).mpr ⟨hexecutable, hgroups⟩
  exact hboth.flip.imp fun _ _ h => h.2.readExecutable h.1

end QueryModel
