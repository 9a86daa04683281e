import Mathlib.Data.List.Chain
import QueryModel.Proofs.Document.Boundaries

/-!
# Cutting joined definitions

Definitions written one after another on lines of their own are cut apart again, each as
it was written.
-/

set_option autoImplicit false

namespace QueryModel

open Text SplitState

theorem trim_newline {d : List Char} (h : trim d = d) : trim (d ++ ['\n']) = d := by
  cases d with
  | nil => decide
  | cons c cs =>
    have hc : isBlank c = false := by
      by_contra hblank
      have hshort : trim (c :: cs) = trim cs := by simp_all [trim, trimStart]
      have hlength := length_trim cs
      rw [← hshort, h, List.length_cons] at hlength
      omega
    have hnewline : trimEnd (c :: cs ++ ['\n']) = trimEnd (c :: cs) := by
      have hblank : isBlank '\n' = true := by decide
      simp [trimEnd, trimStart, hblank]
    rw [trim, trimStart_of_head hc] at h
    rw [trim, List.cons_append, trimStart_of_head hc, ← List.cons_append, hnewline, h]

theorem pieces_joined (ds : List (List Char)) (before : List Char) {d : List Char}
    {form : DefinitionForm} {s : SplitState} (hform : HasForm form d)
    (hs : Ready form.isShorthand s) (hds : ∀ e ∈ d :: ds, trim e = e ∧ ∃ form, HasForm form e)
    (hchain : (d :: ds).IsChain Separable) :
    ∃ more, s.scan (bytes before).length (['\n'].intercalate (d :: ds)) =
        (bytes before).length :: more ∧
      (piecesAt (before ++ ['\n'].intercalate (d :: ds))
        (bytes (before ++ ['\n'].intercalate (d :: ds))).length
        ((bytes before).length :: more)).map trim = d :: ds := by
  have htrim := (hds d List.mem_cons_self).1
  induction ds generalizing d before form s with
  | nil =>
    have hstops : Stops [] := by simp [Stops]
    obtain ⟨t, ht, -⟩ := hform.begins hs hstops
    refine ⟨[], ?_, ?_⟩
    · simpa [scan, bytes, Lexeme.all, startsFrom] using ht (bytes before).length
    · have hslice := slice_append before d []
      rw [List.append_nil, ← List.length_append, ← bytes_append] at hslice
      simp [piecesAt, hslice, htrim]
  | cons e ds ih =>
    obtain ⟨hsep, hchain⟩ := List.isChain_cons_cons.1 hchain
    have hrest : ∀ x ∈ e :: ds, trim x = x ∧ ∃ form, HasForm form x :=
      fun x hx => hds x (List.mem_cons_of_mem d hx)
    obtain ⟨hetrim, next, hnext⟩ := hrest e List.mem_cons_self
    have hstops : Stops (['\n'] ++ ['\n'].intercalate (e :: ds)) := by
      rintro _ ⟨rfl⟩
      decide
    obtain ⟨t, ht, hready⟩ := hform.begins hs hstops
    have hline := ht.append (passes_gap t (by decide) (['\n'].intercalate (e :: ds)))
    -- The text before the next definition is what stood before this one, this one and the
    -- newline after it.
    obtain ⟨more, hscan, hpieces⟩ := ih (before ++ (d ++ ['\n'])) hnext
      (hsep.ready hform hnext hready) hrest hchain hetrim
    have hjoin : ['\n'].intercalate (d :: e :: ds) =
        d ++ ['\n'] ++ ['\n'].intercalate (e :: ds) := by
      simp
    have hslice := slice_append before (d ++ ['\n']) (['\n'].intercalate (e :: ds))
    rw [← List.length_append, ← bytes_append] at hslice
    refine ⟨(bytes (before ++ (d ++ ['\n']))).length :: more, ?_, ?_⟩
    · rw [hjoin, hline, ← hscan, bytes_append before, List.length_append]
    · rw [hjoin, ← List.append_assoc before, piecesAt, List.map_cons, hslice, hpieces,
        trim_newline htrim]

theorem splitChars_joined (ds : List (List Char))
    (hds : ∀ d ∈ ds, trim d = d ∧ ∃ form, HasForm form d) (hchain : ds.IsChain Separable) :
    splitChars (['\n'].intercalate ds) = ds := by
  have hfilter : ds.filter (fun d => !d.isEmpty) = ds := by
    rw [List.filter_eq_self]
    intro d hd
    obtain ⟨-, form, hform⟩ := hds d hd
    simpa using hform.ne_nil
  cases ds with
  | nil => simp [splitChars, definitionStarts, bytes, Lexeme.all, startsFrom, piecesAt]
  | cons d ds =>
    obtain ⟨-, form, hform⟩ := hds d List.mem_cons_self
    obtain ⟨more, hscan, hpieces⟩ := pieces_joined ds [] hform .of_initial hds hchain
    rw [List.nil_append, ← hscan] at hpieces
    exact (congrArg _ hpieces).trans hfilter

theorem Separable.of_first {d : List Char} (hquote : d.head? ≠ some '"')
    (hwords : ∀ word ∈ "extend" :: bodyKinds, ¬ word.toList <+: d) (e : List Char) :
    Separable d e := by
  intro kind hkind hd
  cases hd with
  | typeSystem h =>
    cases h with
    | definition h =>
      obtain ⟨-, tail, rfl, -⟩ := declaration_finishes h
      exact absurd (List.prefix_append ..) (hwords kind (List.mem_cons_of_mem _ hkind))
    | extension hspace hne h =>
      exact absurd (List.prefix_append ..) (hwords "extend" List.mem_cons_self)
  | described hliteral hspace h => cases hliteral <;> simp at hquote

theorem Separable.of_head {e : List Char} (hbrace : e.head? ≠ some '\x7b') (d : List Char) :
    Separable d e := by
  intro kind hkind hd he
  cases he
  simp [braced] at hbrace

theorem PlainLiteral.of_chars {cs : List Char}
    (h : ∀ c ∈ cs, c ≠ '"' ∧ c ≠ '\\' ∧ c ≠ '\n') : PlainLiteral (cs ++ ['"']) := by
  induction cs with
  | nil => exact .close
  | cons c cs ih =>
    exact .char (h c List.mem_cons_self) (ih fun d hd => h d (List.mem_cons_of_mem c hd))

theorem Balanced.of_chars {cs ds : List Char} (h : ∀ c ∈ cs, c ∉ markedChars)
    (hds : Balanced ds) : Balanced (cs ++ ds) := by
  induction cs with
  | nil => exact hds
  | cons c cs ih =>
    exact .char (h c List.mem_cons_self) (ih fun d hd => h d (List.mem_cons_of_mem c hd))

/-- Definitions written one after another on lines of their own are cut apart again. -/
theorem splitDefinitions_joined (ds : List String)
    (hds : ∀ d ∈ ds, trimmed d = d ∧ ∃ form, HasForm form d.toList)
    (hchain : ds.IsChain fun d e => Separable d.toList e.toList) :
    splitDefinitions ("\n".intercalate ds) = ds := by
  have hchars : ∀ d ∈ ds.map String.toList, trim d = d ∧ ∃ form, HasForm form d := by
    intro d hd
    obtain ⟨text, htext, rfl⟩ := List.mem_map.1 hd
    obtain ⟨htrim, hform⟩ := hds text htext
    have htrim := congrArg String.toList htrim
    rw [trimmed, String.toList_ofList] at htrim
    exact ⟨htrim, hform⟩
  have hsplit := splitChars_joined _ hchars ((List.isChain_map _).2 hchain)
  rw [splitDefinitions, String.toList_intercalate]
  change (splitChars (['\n'].intercalate (ds.map String.toList))).map String.ofList = ds
  rw [hsplit]
  simp

/-- A described definition without a body, one named like a keyword before a shorthand
query, and a brace in a literal. -/
theorem splitDefinitions_mixed :
    splitDefinitions ("\n".intercalate ["\"all \x7d\" enum query", "scalar type @a",
      "\x7b a(b: \"\x7d\") \x7d", "query type \x7b x \x7d"]) =
      ["\"all \x7d\" enum query", "scalar type @a", "\x7b a(b: \"\x7d\") \x7d",
        "query type \x7b x \x7d"] := by
  have hblank : Space [' '] := .gap (by decide) .nil
  have hstops : ∀ cs, Stops (' ' :: cs) := fun cs => space_stops hblank (by simp) cs
  have hend : Stops [] := by simp [Stops]
  have henum : HasForm (.typeSystem "enum" false) "\"all \x7d\" enum query".toList := by
    have hliteral : IsLiteral ('"' :: ("all \x7d".toList ++ ['"'])) :=
      .plain (.of_chars (of_listed (by decide)))
    have hslot : NameSlot "query".toList := .name (by decide)
    have hnamed : NamedKind "enum" ("enum".toList ++ ([' '] ++ ("query".toList ++ []))) :=
      .mk hblank hslot (hstops _) hend .nil
    exact .described hliteral hblank (.definition (.bare (by decide) hnamed))
  have hscalar : HasForm (.typeSystem "scalar" false) "scalar type @a".toList := by
    have hslot : NameSlot "type".toList := .name (by decide)
    have hheader : HeaderText NoKeyword ([' '] ++ ('@' :: "a".toList ++ [])) :=
      .space hblank (.directive (by decide) hend .nil)
    have hnamed : NamedKind "scalar" ("scalar".toList ++ ([' '] ++ ("type".toList ++
        ([' '] ++ ('@' :: "a".toList ++ []))))) := .mk hblank hslot (hstops _) (hstops _) hheader
    exact .typeSystem (.definition (.bare (by decide) hnamed))
  have hshorthand : HasForm .shorthand "\x7b a(b: \"\x7d\") \x7d".toList := by
    have hliteral : IsLiteral ('"' :: ("\x7d".toList ++ ['"'])) :=
      .plain (.of_chars (of_listed (by decide)))
    have hargument : Balanced ("b: ".toList ++ ('"' :: ("\x7d".toList ++ ['"']) ++ [])) :=
      .of_chars (of_listed (by decide)) (.literal hliteral (by simp [LiteralStops]) .nil)
    have hinner : Balanced (" a".toList ++ ('(' :: ("b: ".toList ++
        ('"' :: ("\x7d".toList ++ ['"']) ++ [])) ++ ')' :: " ".toList)) :=
      .of_chars (of_listed (by decide)) (.nested .round hargument (.char (by decide) .nil))
    exact .shorthand hinner
  have hquery : HasForm .executable "query type \x7b x \x7d".toList := by
    have hheader : HeaderText (fun _ => True) ([' '] ++ ("type".toList ++ ([' '] ++ []))) :=
      .space hblank (.name (by decide) trivial (hstops _) (.space hblank .nil))
    have hinner : Balanced (" x ".toList ++ []) := .of_chars (of_listed (by decide)) .nil
    have hword : "query" ∈ executableWords := by decide
    exact .executable hword (hstops _) hheader hinner
  apply splitDefinitions_joined
  · intro d hd
    simp only [List.mem_cons, List.not_mem_nil, or_false] at hd
    rcases hd with rfl | rfl | rfl | rfl
    · exact ⟨by decide, _, henum⟩
    · exact ⟨by decide, _, hscalar⟩
    · exact ⟨by decide, _, hshorthand⟩
    · exact ⟨by decide, _, hquery⟩
  · simp only [List.isChain_cons_cons, List.isChain_singleton, and_true]
    exact ⟨.of_head (by decide) _, .of_first (by decide) (by decide) _, .of_head (by decide) _⟩

end QueryModel
