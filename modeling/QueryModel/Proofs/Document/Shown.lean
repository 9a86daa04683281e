import QueryModel.Proofs.Document.Entry

/-!
# What a written definition shows

The lexemes of a written definition outside brackets, before any text that may follow it. Its words
among them are those of its header, so whether a keyword stands after its name can be told from the
text.
-/

set_option autoImplicit false

namespace QueryModel

open Text Syntax SplitState

variable {cs ds rest : List Char} {ws : List String}

section Inside

theorem outside_balanced (h : Balanced cs) (hrest : rest.head? ≠ some '"') (depth : Nat) :
    Lexeme.outside (depth + 1) (Lexeme.all (bytes (cs ++ rest))) =
      Lexeme.outside (depth + 1) (Lexeme.all (bytes rest)) := by
  refine observe_balanced (F := fun depth => Lexeme.outside (depth + 1))
    (fun _ depth => depth + 1) ?_ (fun _ _ _ => rfl) (fun _ _ _ => rfl) h hrest depth
  intro depth l ls hl
  obtain ⟨mark, bs⟩ := l
  simp only [unmarked, List.mem_cons, List.not_mem_nil, or_false] at hl
  rcases hl with rfl | rfl | rfl | rfl | rfl | rfl | rfl <;> rfl

end Inside

section Outside

def Shows (cs : List Char) (out : List Lexeme) (rest : List Char) : Prop :=
  Lexeme.outside 0 (Lexeme.all (bytes (cs ++ rest))) =
    out ++ Lexeme.outside 0 (Lexeme.all (bytes rest))

theorem shows_nil (rest : List Char) : Shows [] [] rest := rfl

theorem Shows.append {out out' : List Lexeme} (h : Shows cs out (ds ++ rest))
    (h' : Shows ds out' rest) : Shows (cs ++ ds) (out ++ out') rest := by
  rw [Shows, List.append_assoc, h, h', List.append_assoc]

def wordlessMarks : List Lexeme.Mark := [.comment, .text, .variable, .gap, .other]

theorem shows_of_lexes {mark : Lexeme.Mark} (hmark : mark ∈ .word :: .directive :: wordlessMarks)
    (h : Lexes mark cs rest) : Shows cs [⟨mark, bytes cs⟩] rest := by
  rw [Shows, h]
  simp only [wordlessMarks, List.mem_cons, List.not_mem_nil, or_false] at hmark
  rcases hmark with rfl | rfl | rfl | rfl | rfl | rfl | rfl <;> rfl

theorem shows_brackets {o c : Char} (hpair : BracketPair o c) {inner : List Char}
    (hinner : Balanced inner) (rest : List Char) :
    Shows (o :: inner ++ [c])
      [⟨.opening (o = '\x7b'), bytes [o]⟩, ⟨.closing (o = '\x7b'), bytes [c]⟩] rest := by
  have hinside : Lexeme.outside 1 (Lexeme.all (bytes (inner ++ ([c] ++ rest)))) =
      Lexeme.outside 1 (Lexeme.all (bytes ([c] ++ rest))) :=
    outside_balanced hinner (closing_ne_quote hpair rest) 0
  have htext : o :: inner ++ [c] ++ rest = [o] ++ (inner ++ ([c] ++ rest)) := by simp
  rw [Shows, htext, (lexes_brackets hpair _).1]
  have hopen : ∀ l ls, Lexeme.outside 0 (⟨.opening (o = '\x7b'), l⟩ :: ls) =
      ⟨.opening (o = '\x7b'), l⟩ :: Lexeme.outside 1 ls := fun _ _ => rfl
  rw [hopen, hinside, (lexes_brackets hpair _).2]
  rfl

def ShowsWords (cs : List Char) (ws : List String) (rest : List Char) : Prop :=
  ∃ out, Shows cs out rest ∧ out.filterMap Lexeme.word? = ws

theorem ShowsWords.append {ws' : List String} (h : ShowsWords cs ws (ds ++ rest))
    (h' : ShowsWords ds ws' rest) : ShowsWords (cs ++ ds) (ws ++ ws') rest := by
  obtain ⟨out, hout, rfl⟩ := h
  obtain ⟨out', hout', rfl⟩ := h'
  exact ⟨out ++ out', hout.append hout', List.filterMap_append⟩

theorem showsWords_nil (rest : List Char) : ShowsWords [] [] rest := ⟨[], shows_nil rest, rfl⟩

theorem showsWords_of_lexes {mark : Lexeme.Mark} (hmark : mark ∈ wordlessMarks)
    (h : Lexes mark cs rest) : ShowsWords cs [] rest := by
  refine ⟨_, shows_of_lexes (by simp [hmark]) h, ?_⟩
  simp only [wordlessMarks, List.mem_cons, List.not_mem_nil, or_false] at hmark
  rcases hmark with rfl | rfl | rfl | rfl | rfl <;> rfl

theorem showsWords_name {n : List Char} (hn : isName n = true) (hrest : Stops rest) :
    ShowsWords n [String.ofList n] rest := by
  refine ⟨_, shows_of_lexes (by simp) (lexes_name hn hrest), ?_⟩
  simp [Lexeme.word?, ascii_bytes (isName_chars hn)]

theorem showsWords_keyword {w : String} (hw : w ∈ definitionKeywords) (hrest : Stops rest) :
    ShowsWords w.toList [w] rest := by
  have hname := showsWords_name (keyword_isName w hw) hrest
  rwa [String.ofList_toList] at hname

theorem showsWords_directive {n : List Char} (hn : ∀ c ∈ n, isNameChar c = true)
    (hrest : Stops rest) : ShowsWords ('@' :: n) ["@"] rest :=
  ⟨_, shows_of_lexes (by simp) (lexes_sign hn hrest), rfl⟩

theorem showsWords_brackets {o c : Char} (hpair : BracketPair o c) {inner : List Char}
    (hinner : Balanced inner) (rest : List Char) : ShowsWords (o :: inner ++ [c]) [] rest :=
  ⟨_, shows_brackets hpair hinner rest, rfl⟩

end Outside

section Spacing

/-- The marks of space. A byte order mark is made of other bytes. -/
def spaceMarks : List Lexeme.Mark := [.gap, .comment, .other]

theorem shows_mark (rest : List Char) : Shows ['\ufeff']
    [⟨.other, [0xEF]⟩, ⟨.other, [0xBB]⟩, ⟨.other, [0xBF]⟩] rest := by
  rw [Shows, List.singleton_append, all_mark]
  rfl

theorem shows_spacing {sp : List Char} (h : Spacing sp) (rest : List Char) :
    ∃ out, Shows sp out rest ∧ (∀ l ∈ out, l.mark ∈ spaceMarks) ∧
      ((∀ l ∈ out, l.mark ≠ .other) → Space sp) := by
  induction h with
  | nil => exact ⟨[], shows_nil rest, by simp, fun _ => .nil⟩
  | @char c sp hc h ih =>
    obtain ⟨out, hout, hmarks, hspace⟩ := ih
    rcases gap_of_ignored hc with hgap | rfl
    · refine ⟨_, (shows_of_lexes (by decide) (lexes_gap hgap _)).append hout, ?_, ?_⟩
      · simpa [spaceMarks] using hmarks
      · exact fun hother => .gap hgap (hspace fun l hl => hother l (by simp [hl]))
    · refine ⟨_, (shows_mark _).append hout, ?_, ?_⟩
      · simpa [spaceMarks] using hmarks
      · exact fun hother => absurd rfl (hother ⟨.other, [0xEF]⟩ (by simp))
  | @comment line sp hline h ih =>
    obtain ⟨out, hout, hmarks, hspace⟩ := ih
    have hall := (shows_of_lexes (by decide) (lexes_comment hline.1 (sp ++ rest))).append
      ((shows_of_lexes (by decide) (lexes_gap (c := '\n') (by decide) (sp ++ rest))).append hout)
    refine ⟨_, hall, ?_, ?_⟩
    · simpa [spaceMarks] using hmarks
    · exact fun hother => .comment hline.1 (hspace fun l hl => hother l (by simp [hl]))

theorem Space.append {a b : List Char} (ha : Space a) (hb : Space b) : Space (a ++ b) := by
  induction ha with
  | nil => exact hb
  | gap hc h ih => exact .gap hc ih
  | @comment line a hline h ih =>
    have hall := Space.comment hline ih
    simpa using hall

theorem shows_trailing {trail : List Char} (h : Trailing trail) :
    ∃ out, Shows trail out [] ∧ (∀ l ∈ out, l.mark ∈ spaceMarks) ∧
      ((∀ l ∈ out, l.mark ≠ .other) → Space (trail ++ ['\n'])) := by
  cases h with
  | space h =>
    obtain ⟨out, hout, hmarks, hspace⟩ := shows_spacing h []
    exact ⟨out, hout, hmarks, fun hother => (hspace hother).append (.gap (by decide) .nil)⟩
  | @comment sp line h hline =>
    obtain ⟨out, hout, hmarks, hspace⟩ := shows_spacing h ('#' :: line ++ [])
    have hlast := shows_of_lexes (by decide) (lexes_last_comment hline.1)
    refine ⟨_, hout.append hlast, ?_, fun hother => ?_⟩
    · simpa [spaceMarks, or_imp, forall_and] using hmarks
    · have hall := (hspace fun l hl => hother l (by simp [hl])).append (.comment hline.1 .nil)
      simpa using hall

theorem words_of_space {out : List Lexeme} (h : ∀ l ∈ out, l.mark ∈ spaceMarks) :
    out.filterMap Lexeme.word? = [] := by
  refine List.filterMap_eq_nil_iff.mpr fun l hl => ?_
  have hl := h l hl
  simp only [spaceMarks, List.mem_cons, List.not_mem_nil, or_false] at hl
  rcases hl with h | h | h <;> simp [Lexeme.word?, h]

theorem showsWords_spacing {sp : List Char} (h : Spacing sp) (rest : List Char) :
    ShowsWords sp [] rest := by
  obtain ⟨out, hout, hmarks, -⟩ := shows_spacing h rest
  exact ⟨out, hout, words_of_space hmarks⟩

end Spacing

section Definitions

theorem outer_shows (h : OuterText ws cs) (hrest : Stops rest) : ShowsWords cs ws rest := by
  induction h with
  | nil => exact showsWords_nil rest
  | space hsp h ih => exact (showsWords_spacing hsp _).append ih
  | name hn hstops h ih => exact (showsWords_name hn (hstops.append hrest)).append ih
  | directive hn hstops h ih =>
    exact (showsWords_directive (isName_chars hn) (hstops.append hrest)).append ih
  | @apart ws cs hstops h ih =>
    have hsign : ShowsWords ['@'] ["@"] (cs ++ rest) :=
      showsWords_directive (by simp) (hstops.append hrest)
    exact hsign.append ih
  | sign hc h ih => exact (showsWords_of_lexes (by decide) (lexes_punctuator hc _)).append ih
  | @group ws inner cs hinner h ih =>
    have hgroup := (showsWords_brackets .round hinner (cs ++ rest)).append ih
    simpa using hgroup

theorem headed_shows {w : String} {header inner : List Char} (hw : w ∈ definitionKeywords)
    (hheader : OuterText ws header) (hstops : Stops header) (hinner : Balanced inner)
    (rest : List Char) : ShowsWords (w.toList ++ (header ++ braced inner)) (w :: ws) rest := by
  have hbraced : Stops (braced inner ++ rest) := fun c hc => stops_braced inner c hc
  have hbody : ShowsWords (braced inner) [] rest := showsWords_brackets .curly hinner rest
  have hparts := (outer_shows hheader hbraced).append hbody
  rw [List.append_nil] at hparts
  have hword : ShowsWords w.toList [w] ((header ++ braced inner) ++ rest) :=
    showsWords_keyword hw (by rw [List.append_assoc]; exact hstops.append hbraced)
  exact hword.append hparts

theorem kind_shows {kind : String} {body : Bool} (h : KindText kind body ws cs)
    (hrest : Stops rest) : ShowsWords cs (kind :: ws) rest := by
  cases h with
  | bare hkind htail hne hstops =>
    exact (showsWords_keyword (kind_mem_keywords hkind).1 (hstops.append hrest)).append
      (outer_shows htail hrest)
  | body hkind hheader hstops hinner =>
    exact headed_shows (kind_mem_keywords (bodyKinds_iff.mp hkind).1).1 hheader hstops hinner rest

theorem written_shows {form : DefinitionForm} (h : Written form ws cs) (hrest : Stops rest) :
    ShowsWords cs ws rest := by
  cases h with
  | shorthand hinner => exact showsWords_brackets .curly hinner rest
  | @executable w ws header inner hw hheader hstops hinner =>
    have hkeywords : ∀ w ∈ executableWords, w ∈ definitionKeywords := by decide
    exact headed_shows (hkeywords w hw) hheader hstops hinner rest
  | definition h => exact kind_shows h hrest
  | @extension kind body ws sp cs hsp hends h =>
    have hword : ShowsWords "extend".toList ["extend"] ((sp ++ cs) ++ rest) :=
      showsWords_keyword (by decide) (hends.append hrest)
    exact hword.append ((showsWords_spacing hsp _).append (kind_shows h hrest))
  | @described kind body ws literal sp cs hliteral hsp h =>
    have hliteral : ShowsWords literal [] ((sp ++ cs) ++ rest) :=
      showsWords_of_lexes (by decide) (lexes_literal hliteral fun _ => kind_head h hsp rest)
    exact hliteral.append ((showsWords_spacing hsp _).append (kind_shows h hrest))

end Definitions

section Texts

def outerLexemes (cs : List Char) : List Lexeme := Lexeme.outside 0 (Lexeme.all (bytes cs))

/-- The words outside brackets, an applied directive as `@`. -/
def outerWords (cs : List Char) : List String := (outerLexemes cs).filterMap Lexeme.word?

def significant (ls : List Lexeme) : List Lexeme.Mark :=
  (ls.map Lexeme.mark).filter fun mark => mark ∉ [Lexeme.Mark.gap, .comment]

def outerMarks (cs : List Char) : List Lexeme.Mark := significant (outerLexemes cs)

variable {form : DefinitionForm} {lead core trail : List Char}

theorem outer_text (hlead : Spacing lead) (hcore : Written form ws core) (htrail : Trailing trail) :
    ∃ before middle after, outerLexemes (lead ++ (core ++ trail)) = before ++ (middle ++ after) ∧
      middle.filterMap Lexeme.word? = ws ∧
      (∀ l ∈ before, l.mark ∈ spaceMarks) ∧ ((∀ l ∈ before, l.mark ≠ .other) → Space lead) ∧
      (∀ l ∈ after, l.mark ∈ spaceMarks) ∧
      ((∀ l ∈ after, l.mark ≠ .other) → Space (trail ++ ['\n'])) := by
  obtain ⟨before, hbefore, hmarks, hspace⟩ := shows_spacing hlead (core ++ trail)
  obtain ⟨middle, hmiddle, hwords⟩ := written_shows hcore (trailing_stops htrail)
  obtain ⟨after, hafter, hmarks', hspace'⟩ := shows_trailing htrail
  refine ⟨before, middle, after, ?_, hwords, hmarks, hspace, hmarks', hspace'⟩
  have hend : Lexeme.outside 0 (Lexeme.all (bytes [])) = [] := by
    rw [show bytes [] = [] from rfl, Lexeme.all]
    rfl
  rw [Shows, List.append_nil, hend, List.append_nil] at hafter
  rw [outerLexemes, hbefore, hmiddle, hafter]

theorem outerWords_text (hlead : Spacing lead) (hcore : Written form ws core)
    (htrail : Trailing trail) : outerWords (lead ++ (core ++ trail)) = ws := by
  obtain ⟨before, middle, after, hall, hwords, hbefore, -, hafter, -⟩ :=
    outer_text hlead hcore htrail
  rw [outerWords, hall, List.filterMap_append, List.filterMap_append, words_of_space hbefore,
    words_of_space hafter, hwords, List.nil_append, List.append_nil]

theorem significant_append (ls ls' : List Lexeme) :
    significant (ls ++ ls') = significant ls ++ significant ls' := by
  simp [significant]

theorem significant_space {ls : List Lexeme} (h : ∀ l ∈ ls, l.mark ∈ spaceMarks) :
    (∀ m ∈ significant ls, m = .other) ∧ (significant ls = [] → ∀ l ∈ ls, l.mark ≠ .other) := by
  constructor
  · intro m hm
    obtain ⟨hmem, hsignificant⟩ := List.mem_filter.mp hm
    obtain ⟨l, hl, rfl⟩ := List.mem_map.mp hmem
    have hmark := h l hl
    simp only [spaceMarks, List.mem_cons, List.not_mem_nil, or_false] at hmark hsignificant
    rcases hmark with hmark | hmark | hmark <;> simp [hmark] at hsignificant ⊢
  · intro hnone l hl hother
    have hmem : Lexeme.Mark.other ∈ significant ls :=
      List.mem_filter.mpr ⟨hother ▸ List.mem_map_of_mem hl, by decide⟩
    simp [hnone] at hmem

theorem space_lead (hlead : Spacing lead) (hcore : Written form ws core)
    (htrail : Trailing trail)
    (hfirst : (outerMarks (lead ++ (core ++ trail))).head? ≠ some .other) : Space lead := by
  obtain ⟨before, middle, after, hall, -, hbefore, hspace, -⟩ := outer_text hlead hcore htrail
  obtain ⟨honly, hnone⟩ := significant_space hbefore
  refine hspace (hnone ?_)
  by_contra hne
  obtain ⟨m, ms, hms⟩ := List.exists_cons_of_ne_nil hne
  rw [hms] at honly
  obtain rfl := honly m List.mem_cons_self
  exact hfirst (by rw [outerMarks, hall, significant_append, hms]; rfl)

theorem space_trail (hlead : Spacing lead) (hcore : Written form ws core)
    (htrail : Trailing trail)
    (hlast : (outerMarks (lead ++ (core ++ trail))).getLast? ≠ some .other) :
    Space (trail ++ ['\n']) := by
  obtain ⟨before, middle, after, hall, -, -, -, hafter, hspace⟩ := outer_text hlead hcore htrail
  obtain ⟨honly, hnone⟩ := significant_space hafter
  refine hspace (hnone ?_)
  by_contra hne
  refine hlast ?_
  rw [outerMarks, hall, ← List.append_assoc, significant_append,
    List.getLast?_append_of_ne_nil _ hne, List.getLast?_eq_some_getLast hne]
  exact congrArg some (honly _ (List.getLast_mem hne))

end Texts

end QueryModel
