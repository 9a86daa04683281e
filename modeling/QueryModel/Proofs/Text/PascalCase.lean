import QueryModel.Proofs.Text.Characters
import QueryModel.Text.Words

/-!
# Pascal case

The words of a text are its alphanumeric characters, in order and with none left out, so Pascal case
drops all other characters and changes the rest in their case alone. No change of case gives an
underscore. Of a name that is written in ASCII, letters and digits are left, and the first of them
tells how the result starts.
-/

set_option autoImplicit false

namespace QueryModel

open Text

section Words

theorem flatten_piecesFrom (piece cs : List Char) :
    (piecesFrom piece cs).flatten = piece.reverse ++ cs.filter isAlphanumeric := by
  induction cs generalizing piece with
  | nil => simp [piecesFrom]
  | cons c cs ih =>
    by_cases hc : isAlphanumeric c = true
    · simp [piecesFrom, hc, ih]
    · simp [piecesFrom, hc, ih]

theorem flatten_wordsFrom (word : List Char) (casing : Casing) (cs : List Char) :
    (wordsFrom word casing cs).flatten = word.reverse ++ cs := by
  fun_induction wordsFrom word casing cs with
  | case1 word casing hword => simpa using hword
  | case2 word casing hword => simp
  | case3 word casing c => simp
  | case4 word casing c n rest hends ih => simp [ih]
  | case5 word casing c n rest hends hstarts ih => simp [ih]
  | case6 word casing c n rest hends hstarts ih => simp [ih]

theorem wordsFrom_ne_nil (word : List Char) (casing : Casing) (cs : List Char)
    (hword : casing = .upper → word ≠ []) : ∀ w ∈ wordsFrom word casing cs, w ≠ [] := by
  fun_induction wordsFrom word casing cs with
  | case1 word casing h => simp
  | case2 word casing h => simpa using h
  | case3 word casing c => simp
  | case4 word casing c n rest hends ih => simpa using ih
  | case5 word casing c n rest hends hstarts ih =>
    rw [List.forall_mem_cons]
    exact ⟨by simpa using hword hstarts.1, ih (by simp)⟩
  | case6 word casing c n rest hends hstarts ih => exact ih (by simp)

theorem flatten_words (cs : List Char) : (words cs).flatten = cs.filter isAlphanumeric := by
  have hpieces (ps : List (List Char)) :
      (ps.flatMap (wordsFrom [] .none)).flatten = ps.flatten := by
    induction ps with
    | nil => rfl
    | cons p ps ih => simp [ih, flatten_wordsFrom]
  rw [words, hpieces, pieces, flatten_piecesFrom]
  rfl

theorem words_ne_nil (cs : List Char) : ∀ w ∈ words cs, w ≠ [] := by
  intro w hw
  obtain ⟨piece, -, hw⟩ := List.mem_flatMap.mp hw
  exact wordsFrom_ne_nil [] .none piece nofun w hw

end Words

section Characters

variable {p : Char → Prop}

theorem forall_mem_lowered {cs : List Char} (h : ∀ c ∈ cs, ∀ d ∈ toLowercase c, p d)
    (hsigma : 'Σ' ∈ cs → p 'ς') : ∀ d ∈ lowered cs, p d := by
  fun_induction lowered cs with
  | case1 => simp
  | case2 => simpa using hsigma
  | case3 c hc => simpa using h
  | case4 c n rest ih =>
    rw [List.forall_mem_append]
    refine ⟨h c (by simp), ih (fun d hd => h d (by simp [hd])) fun hs => hsigma (by simp [hs])⟩

theorem forall_mem_pascalChars {cs : List Char}
    (hupper : ∀ c ∈ cs, isAlphanumeric c = true → ∀ d ∈ toUppercase c, p d)
    (hlower : ∀ c ∈ cs, isAlphanumeric c = true → ∀ d ∈ toLowercase c, p d)
    (hsigma : 'Σ' ∈ cs → p 'ς') : ∀ d ∈ pascalChars cs, p d := by
  intro d hd
  obtain ⟨w, hw, hd⟩ := List.mem_flatMap.mp hd
  have hchars (c : Char) (hc : c ∈ w) : c ∈ cs ∧ isAlphanumeric c = true := by
    have hmem : c ∈ (words cs).flatten := List.mem_flatten_of_mem hw hc
    rw [flatten_words] at hmem
    exact List.mem_filter.mp hmem
  cases w with
  | nil => simp [capitalized] at hd
  | cons c w =>
    rcases List.mem_append.mp hd with hd | hd
    · obtain ⟨hc, halpha⟩ := hchars c (by simp)
      exact hupper c hc halpha d hd
    · refine forall_mem_lowered (fun e he => ?_) (fun hs => ?_) d hd
      · obtain ⟨hmem, halpha⟩ := hchars e (by simp [he])
        exact hlower e hmem halpha
      · exact hsigma (hchars 'Σ' (by simp [hs])).1

end Characters

section Underscore

theorem eq_underscore_of_ofNat {n : Nat} (h : Char.ofNat n = '_') : n = 95 := by
  by_cases hn : n.isValidChar
  · have hcode : (Char.ofNat n).toNat = n := by
      rw [Char.ofNat, dif_pos hn]
      rfl
    rw [← hcode, h]
    rfl
  · rw [Char.ofNat, dif_neg hn] at h
    exact absurd h (by decide)

theorem formOf_ne_underscore {expansions : List (Nat × List Nat)}
    {shifts : List (Nat × Nat × Nat × Int)}
    (hexpansions : ∀ row ∈ expansions, 95 ∉ row.2)
    (hshifts : ∀ row ∈ shifts, 95 < row.1 + row.2.2.2 ∨ row.2.1 + row.2.2.2 < 95) {c : Char}
    (hc : c ≠ '_') : ∀ d ∈ formOf expansions shifts c, d ≠ '_' := by
  rintro d hd rfl
  rw [formOf] at hd
  split at hd
  · next cs hcs =>
    obtain ⟨n, hn, hchar⟩ := List.mem_map.mp hd
    have hrow : (c.toNat, cs) ∈ expansions := by
      obtain ⟨before, after, rfl, -⟩ := List.lookup_eq_some_iff.mp hcs
      simp
    exact hexpansions _ hrow (eq_underscore_of_ofNat hchar ▸ hn)
  · split at hd
    · next distance hdistance =>
      obtain ⟨⟨first, last, step, shift⟩, hrow, hfound⟩ :=
        List.exists_of_findSome?_eq_some hdistance
      obtain ⟨hrun, hshift⟩ := Option.ite_none_right_eq_some.mp hfound
      obtain rfl := Option.some.inj hshift
      simp only [inRun, Bool.and_eq_true, decide_eq_true_eq] at hrun
      have hcode := eq_underscore_of_ofNat (List.mem_singleton.mp hd).symm
      have hends := hshifts _ hrow
      simp only at hends
      omega
    · exact hc (List.mem_singleton.mp hd).symm

theorem mapped_ne_underscore {form : Char → List Char} {expansions : List (Nat × List Nat)}
    {shifts : List (Nat × Nat × Nat × Int)}
    (hascii : ∀ n < 128, isAlphanumeric (Char.ofNat n) = true →
      (form (Char.ofNat n)).all (fun d => decide (d ≠ '_')) = true)
    (hbeyond : ∀ c, ¬ c.toNat < 128 → form c = formOf expansions shifts c)
    (hexpansions : ∀ row ∈ expansions, 95 ∉ row.2)
    (hshifts : ∀ row ∈ shifts, 95 < row.1 + row.2.2.2 ∨ row.2.1 + row.2.2.2 < 95) {c : Char}
    (hc : isAlphanumeric c = true) : ∀ d ∈ form c, d ≠ '_' := by
  by_cases hcode : c.toNat < 128
  · exact of_listed (of_ascii_codes (p := fun c => isAlphanumeric c = true →
      (form c).all (fun d => decide (d ≠ '_')) = true) hascii hcode hc)
  · rw [hbeyond c hcode]
    apply formOf_ne_underscore hexpansions hshifts
    rintro rfl
    exact hcode (by decide)

theorem toUppercase_ne_underscore {c : Char} (hc : isAlphanumeric c = true) :
    ∀ d ∈ toUppercase c, d ≠ '_' :=
  mapped_ne_underscore (by decide +kernel) (fun c h => by rw [toUppercase, if_neg h])
    (by decide +kernel) (by decide +kernel) hc

theorem toLowercase_ne_underscore {c : Char} (hc : isAlphanumeric c = true) :
    ∀ d ∈ toLowercase c, d ≠ '_' :=
  mapped_ne_underscore (by decide +kernel) (fun c h => by rw [toLowercase, if_neg h])
    (by decide +kernel) (by decide +kernel) hc

theorem underscore_not_mem_pascalCase (text : String) : '_' ∉ (pascalCase text).toList := by
  rw [pascalCase, String.toList_ofList]
  intro h
  exact forall_mem_pascalChars (p := (· ≠ '_')) (fun _ _ => toUppercase_ne_underscore)
    (fun _ _ => toLowercase_ne_underscore) (fun _ => by decide) '_' h rfl

end Underscore

def Text.leading? (cs : List Char) : Option Char := cs.find? (· != '_')

section Names

variable {cs : List Char}

theorem pascalChars_cases (cs : List Char) :
    (cs.filter isAlphanumeric = [] ∧ pascalChars cs = []) ∨
      ∃ c rest more, cs.filter isAlphanumeric = c :: rest ∧
        pascalChars cs = toUppercase c ++ more := by
  have hflatten := flatten_words cs
  cases hwords : words cs with
  | nil =>
    left
    rw [← hflatten, pascalChars, hwords]
    exact ⟨rfl, rfl⟩
  | cons w ws =>
    have hne : w ≠ [] := words_ne_nil cs w (by simp [hwords])
    obtain ⟨c, w, rfl⟩ := List.exists_cons_of_ne_nil hne
    right
    refine ⟨c, w ++ ws.flatten, lowered w ++ ws.flatMap capitalized, ?_, ?_⟩
    · rw [← hflatten, hwords]
      rfl
    · rw [pascalChars, hwords, List.flatMap_cons, capitalized, List.append_assoc]

theorem nameChar_alphanumeric {c : Char} (hc : isNameChar c = true) :
    isAlphanumeric c = (c != '_') :=
  of_ascii_codes (p := fun c => isNameChar c = true → isAlphanumeric c = (c != '_'))
    (by decide +kernel) (isNameChar_ascii hc) hc

theorem head?_filter_alphanumeric (hcs : ∀ c ∈ cs, isNameChar c = true) :
    (cs.filter isAlphanumeric).head? = leading? cs := by
  rw [List.head?_filter, leading?]
  induction cs with
  | nil => rfl
  | cons c cs ih =>
    rw [List.forall_mem_cons] at hcs
    rw [List.find?_cons, List.find?_cons, nameChar_alphanumeric hcs.1, ih hcs.2]

theorem nameChar_forms {c : Char} (hc : isNameChar c = true) :
    (∀ d ∈ toUppercase c, isNameChar d = true) ∧ ∀ d ∈ toLowercase c, isNameChar d = true := by
  rw [← List.all_eq_true, ← List.all_eq_true]
  exact of_ascii_codes (p := fun c => isNameChar c = true →
      (toUppercase c).all isNameChar = true ∧ (toLowercase c).all isNameChar = true)
    (by decide +kernel) (isNameChar_ascii hc) hc

theorem toUppercase_nameChar {c : Char} (hc : isNameChar c = true) (hsolid : c ≠ '_') :
    ∃ d, toUppercase c = [d] ∧ isNameStart d = isAsciiLetter c := by
  have hform : ((toUppercase c).map isNameStart) = [isAsciiLetter c] :=
    of_ascii_codes (p := fun c => isNameChar c = true → c ≠ '_' →
        (toUppercase c).map isNameStart = [isAsciiLetter c])
      (by decide +kernel) (isNameChar_ascii hc) hc hsolid
  exact List.map_eq_singleton_iff.mp hform

theorem nameChar_pascalChars (hcs : ∀ c ∈ cs, isNameChar c = true) :
    ∀ d ∈ pascalChars cs, isNameChar d = true :=
  forall_mem_pascalChars (fun c hc _ => (nameChar_forms (hcs c hc)).1)
    (fun c hc _ => (nameChar_forms (hcs c hc)).2) fun hsigma =>
      absurd (hcs 'Σ' hsigma) (by decide)

/-- Whether a name in Pascal case is a name again is told by its leading character, and by what is
put after it if it has none. -/
theorem isName_pascalChars_append (hcs : ∀ c ∈ cs, isNameChar c = true) {suffix : List Char}
    (hsuffix : ∀ c ∈ suffix, isNameChar c = true) :
    isName (pascalChars cs ++ suffix) =
      ((leading? cs).map isAsciiLetter).getD (isName suffix) := by
  have hleading := head?_filter_alphanumeric hcs
  rcases pascalChars_cases cs with ⟨hfilter, hnil⟩ | ⟨c, rest, more, hfilter, hcons⟩
  · rw [hfilter] at hleading
    rw [← hleading, hnil]
    rfl
  · rw [hfilter] at hleading
    have hfound : leading? cs = some c := hleading.symm
    have hmem : c ∈ cs := List.mem_of_find?_eq_some hfound
    have hsolid : c ≠ '_' := by simpa using List.find?_some hfound
    obtain ⟨d, hd, hstart⟩ := toUppercase_nameChar (hcs c hmem) hsolid
    have hall : (more ++ suffix).all isNameChar = true := by
      rw [List.all_eq_true]
      intro e he
      rcases List.mem_append.mp he with he | he
      · exact nameChar_pascalChars hcs e (by simp [hcons, he])
      · exact hsuffix e he
    rw [hfound, hcons, hd, List.append_assoc, List.singleton_append, isName, hall, hstart]
    simp

end Names

end QueryModel
