import Mathlib.Data.List.Basic
import QueryModel.Proofs.Text.Characters
import QueryModel.Proofs.Text.Trimming
import QueryModel.TypeRef

/-!
# How type references are written

The texts of a reference are given by its wrappers: a name, a text between brackets or a text before
a bang, each with blank characters around it. A bang never follows a text that ends with one.
Exactly these texts are read, each as its own reference, and the text of a reference is any of them
without its blank characters.
-/

set_option autoImplicit false

namespace QueryModel

open Text

namespace TypeRef

inductive SpelledBy : TypeRef → List Char → Prop
  | named {name : String} {before after : List Char} (hname : NameText name.toList)
      (hbefore : ∀ c ∈ before, isBlank c = true) (hafter : ∀ c ∈ after, isBlank c = true) :
      SpelledBy (.named name) (before ++ (name.toList ++ after))
  | list {of : TypeRef} {cs before after : List Char} (h : SpelledBy of cs)
      (hbefore : ∀ c ∈ before, isBlank c = true) (hafter : ∀ c ∈ after, isBlank c = true) :
      SpelledBy (.list of) (before ++ ('[' :: (cs ++ [']']) ++ after))
  | nonNull {of : TypeRef} {cs before after : List Char} (hof : of.isNonNull = false)
      (h : SpelledBy of cs) (hbefore : ∀ c ∈ before, isBlank c = true)
      (hafter : ∀ c ∈ after, isBlank c = true) :
      SpelledBy (.nonNull of) (before ++ (cs ++ ['!'] ++ after))

/-- The name is one, and nothing is marked as non-null twice. -/
def WellFormed : TypeRef → Prop
  | .named name => NameText name.toList
  | .list of => of.WellFormed
  | .nonNull of => of.isNonNull = false ∧ of.WellFormed

section Reading

variable {cs : List Char}

theorem ofChars?_bang {init : List Char} (h : trim cs = init ++ ['!']) :
    ofChars? cs = ((ofChars? init).filter fun t => !t.isNonNull).map .nonNull := by
  have hlast : (trim cs).getLast? = some '!' := by simp [h]
  rw [ofChars?, dif_pos hlast, h, List.dropLast_concat]
  cases ofChars? init with
  | none => rfl
  | some t => cases t <;> rfl

theorem ofChars?_brackets {inner : List Char} (h : trim cs = '[' :: (inner ++ [']'])) :
    ofChars? cs = (ofChars? inner).map .list := by
  have hlast : (trim cs).getLast? ≠ some '!' := by
    rw [h, ← List.cons_append, List.getLast?_concat]
    decide
  rw [ofChars?, dif_neg hlast]
  split
  · next rest hrest =>
    obtain ⟨-, rfl⟩ := List.cons.inj (h.symm.trans hrest)
    simp
  · next hother => exact absurd h (hother _)

theorem ofChars?_name (h : isName (trim cs) = true) :
    ofChars? cs = some (.named (String.ofList (trim cs))) := by
  have hchars := isName_chars h
  have hlast : (trim cs).getLast? ≠ some '!' := by
    intro hbang
    exact absurd (hchars '!' (List.mem_of_getLast? hbang)) (by decide)
  rw [ofChars?, dif_neg hlast]
  split
  · next rest hrest => exact absurd (hchars '[' (by simp [hrest])) (by decide)
  · exact if_pos h

theorem ofChars?_cases {t : TypeRef} (h : ofChars? cs = some t) :
    (∃ init of, trim cs = init ++ ['!'] ∧ ofChars? init = some of ∧ of.isNonNull = false ∧
      t = .nonNull of) ∨
    (∃ inner of, trim cs = '[' :: (inner ++ [']']) ∧ ofChars? inner = some of ∧ t = .list of) ∨
    (isName (trim cs) = true ∧ t = .named (String.ofList (trim cs))) := by
  by_cases hlast : (trim cs).getLast? = some '!'
  · obtain ⟨init, hinit⟩ := List.getLast?_eq_some_iff.mp hlast
    rw [ofChars?_bang hinit] at h
    obtain ⟨of, hof, rfl⟩ := Option.map_eq_some_iff.mp h
    obtain ⟨hread, hnull⟩ := Option.filter_eq_some_iff.mp hof
    exact .inl ⟨init, of, hinit, hread, by simpa using hnull, rfl⟩
  · rw [ofChars?, dif_neg hlast] at h
    split at h
    · next rest hrest =>
      split at h
      · next hclose =>
        obtain ⟨inner, rfl⟩ := List.getLast?_eq_some_iff.mp hclose
        rw [List.dropLast_concat] at h
        obtain ⟨of, hof, rfl⟩ := Option.map_eq_some_iff.mp h
        exact .inr (.inl ⟨inner, of, hrest, hof, rfl⟩)
      · contradiction
    · obtain ⟨hname, hnamed⟩ := Option.ite_none_right_eq_some.mp h
      exact .inr (.inr ⟨hname, (Option.some.inj hnamed).symm⟩)

theorem ofChars?_of_trim_eq {ds : List Char} {t : TypeRef} (htrim : trim ds = trim cs)
    (h : ofChars? cs = some t) : ofChars? ds = some t := by
  obtain ⟨init, of, hinit, hof, hnull, rfl⟩ | ⟨inner, of, hinner, hof, rfl⟩ | ⟨hname, rfl⟩ :=
    ofChars?_cases h
  · rw [ofChars?_bang (htrim.trans hinit), hof]
    simp [hnull]
  · rw [ofChars?_brackets (htrim.trans hinner), hof]
    rfl
  · rw [ofChars?_name (htrim ▸ hname), htrim]

end Reading

section Spelling

variable {t : TypeRef} {cs : List Char}

/-- By induction on the reference: each way of reading tells its outermost wrapper. -/
theorem spelledBy_of_ofChars? (h : ofChars? cs = some t) : t.SpelledBy cs := by
  obtain ⟨before, after, hcs, hbefore, hafter⟩ := trim_split cs
  induction t generalizing cs before after with
  | named name =>
    obtain ⟨_, _, -, -, -, ⟨⟩⟩ | ⟨_, _, -, -, ⟨⟩⟩ | ⟨hname, hnamed⟩ := ofChars?_cases h
    have htext : name.toList = trim cs := by simp [TypeRef.named.inj hnamed]
    rw [hcs, ← htext]
    exact .named (isName_iff_nameText.mp (htext ▸ hname)) hbefore hafter
  | list of ih =>
    obtain ⟨_, _, -, -, -, ⟨⟩⟩ | ⟨inner, _, htrim, hinner, ⟨⟩⟩ | ⟨-, ⟨⟩⟩ := ofChars?_cases h
    obtain ⟨b, a, hsplit, hb, ha⟩ := trim_split inner
    rw [hcs, htrim]
    exact .list (ih hinner b a hsplit hb ha) hbefore hafter
  | nonNull of ih =>
    obtain ⟨init, _, htrim, hinit, hnull, ⟨⟩⟩ | ⟨_, _, -, -, ⟨⟩⟩ | ⟨-, ⟨⟩⟩ := ofChars?_cases h
    obtain ⟨b, a, hsplit, hb, ha⟩ := trim_split init
    rw [hcs, htrim]
    exact .nonNull hnull (ih hinit b a hsplit hb ha) hbefore hafter

theorem ofChars?_of_spelledBy (h : t.SpelledBy cs) : ofChars? cs = some t := by
  induction h with
  | @named name before after hname hbefore hafter =>
    have hisName : isName name.toList = true := isName_iff_nameText.mpr hname
    have hchars := isName_chars hisName
    obtain ⟨c, more, hmore, -⟩ := hname
    obtain ⟨init, d, hinit⟩ := (List.eq_nil_or_concat' name.toList).resolve_left (by simp [hmore])
    have htrim : trim (before ++ (name.toList ++ after)) = name.toList := by
      rw [trim_around hbefore hafter, hmore]
      exact trim_eq_self (nameChar_not_blank (hchars c (by simp [hmore])))
        (nameChar_not_blank (hchars d (by simp [hinit]))) (hmore.symm.trans hinit)
    rw [ofChars?_name (htrim.symm ▸ hisName), htrim, String.ofList_toList]
  | @list of cs before after h hbefore hafter ih =>
    have htrim : trim (before ++ ('[' :: (cs ++ [']']) ++ after)) = '[' :: (cs ++ [']']) := by
      rw [trim_around hbefore hafter]
      exact trim_eq_self (by decide) (by decide) (List.cons_append ..).symm
    rw [ofChars?_brackets htrim, ih]
    rfl
  | @nonNull of cs before after hof h hbefore hafter ih =>
    -- What is blank before the text of the element is trimmed with what is blank before it.
    have hstart : trimStart (cs ++ ['!']) = trimStart cs ++ ['!'] := by
      rw [trimStart, List.dropWhile_append]
      cases hcs : cs.dropWhile isBlank with
      | nil => simp [trimStart, hcs, show isBlank '!' = false by decide]
      | cons c more => simp [trimStart, hcs]
    have htrim : trim (before ++ (cs ++ ['!'] ++ after)) = trimStart cs ++ ['!'] := by
      rw [trim_around hbefore hafter, trim, hstart]
      have hend := trimEnd_append (show isBlank '!' = false by decide) (trimStart cs) []
      simpa [trimEnd, trimStart] using hend
    have hagain : trim (trimStart cs) = trim cs := by rw [trim, trim, trimStart_trimStart]
    rw [ofChars?_bang htrim, ofChars?_of_trim_eq hagain ih]
    simp [hof]

theorem wellFormed_of_spelledBy (h : t.SpelledBy cs) : t.WellFormed := by
  induction h with
  | named hname _ _ => exact hname
  | list _ _ _ ih => exact ih
  | nonNull hof _ _ _ ih => exact ⟨hof, ih⟩

theorem spelledBy_text (h : t.WellFormed) : t.SpelledBy t.text.toList := by
  induction t with
  | named name =>
    have hspelled : SpelledBy (.named name) ([] ++ (name.toList ++ [])) :=
      .named h (by simp) (by simp)
    simpa [text] using hspelled
  | list of ih =>
    have hspelled : SpelledBy (.list of) ([] ++ ('[' :: (of.text.toList ++ [']']) ++ [])) :=
      .list (ih h) (by simp) (by simp)
    simpa [text] using hspelled
  | nonNull of ih =>
    have hspelled : SpelledBy (.nonNull of) ([] ++ (of.text.toList ++ ['!'] ++ [])) :=
      .nonNull h.1 (ih h.2) (by simp) (by simp)
    simpa [text] using hspelled

theorem text_of_spelledBy (h : t.SpelledBy cs) :
    t.text.toList = cs.filter fun c => !isBlank c := by
  have hblank {ds : List Char} (hds : ∀ c ∈ ds, isBlank c = true) :
      ds.filter (fun c => !isBlank c) = [] := by
    rw [List.filter_eq_nil_iff]
    simpa using hds
  induction h with
  | @named name before after hname hbefore hafter =>
    have hkept : name.toList.filter (fun c => !isBlank c) = name.toList := by
      rw [List.filter_eq_self]
      intro c hc
      simp [nameChar_not_blank (isName_chars (isName_iff_nameText.mpr hname) c hc)]
    rw [List.filter_append, List.filter_append, hblank hbefore, hblank hafter, hkept]
    simp [text]
  | @list of cs before after h hbefore hafter ih =>
    have hopen : isBlank '[' = false := by decide
    have hclose : isBlank ']' = false := by decide
    rw [List.filter_append, List.filter_append, hblank hbefore, hblank hafter]
    simp [text, ih, hopen, hclose]
  | @nonNull of cs before after hof h hbefore hafter ih =>
    have hbang : isBlank '!' = false := by decide
    rw [List.filter_append, List.filter_append, hblank hbefore, hblank hafter]
    simp [text, ih, hbang]

end Spelling

/-- A text is read as a reference exactly when it spells it, and as none when it spells none. The
text of a reference is read back just for the well-formed ones, and a text that is read is the text
of its reference but for blank characters. -/
theorem ofText?_eq_some_iff_spelledBy (written : String) (t : TypeRef) :
    (ofText? written = some t ↔ t.SpelledBy written.toList) ∧
    (ofText? t.text = some t ↔ t.WellFormed) ∧
    (ofText? written = some t →
      t.text = String.ofList (written.toList.filter fun c => !isBlank c)) ∧
    (ofText? written = none ↔ ∀ other : TypeRef, ¬ other.SpelledBy written.toList) := by
  have hread (s : String) (u : TypeRef) : ofText? s = some u ↔ u.SpelledBy s.toList :=
    ⟨spelledBy_of_ofChars?, ofChars?_of_spelledBy⟩
  refine ⟨hread written t, ⟨fun h => ?_, fun h => ?_⟩, fun h => ?_, ?_⟩
  · exact wellFormed_of_spelledBy ((hread _ _).mp h)
  · exact (hread _ _).mpr (spelledBy_text h)
  · rw [← text_of_spelledBy ((hread _ _).mp h), String.ofList_toList]
  · simp only [← hread, Option.eq_none_iff_forall_ne_some, ne_eq]

end TypeRef

end QueryModel
