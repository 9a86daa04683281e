import QueryModel.Proofs.Document.Ends

/-!
# How lexemes are spelled

What the lexemes of a text are in its characters: a comment up to a line feed, a string literal up
to its closing quotes or to where it breaks off, a bracket, a name, an at sign or a dollar sign with
the name after it, a gap, or any other character. The cut works on bytes, but every text is a row of
such lexemes, and what the cut does with it can be told lexeme by lexeme.
-/

set_option autoImplicit false

namespace QueryModel

open Text

inductive Spelt : Lexeme.Mark → List Char → List Char → Prop
  | comment {line rest : List Char} (hline : '\n' ∉ line) (hends : ∀ c ∈ rest.head?, c = '\n') :
      Spelt .comment ('#' :: line) rest
  | plain {cs rest : List Char} (hquotes : ¬ ['"', '"'] <+: cs ++ rest) (h : PlainTail rest cs) :
      Spelt .text ('"' :: cs) rest
  | block {cs rest : List Char} (h : BlockTail rest cs) :
      Spelt .text ('"' :: '"' :: '"' :: cs) rest
  | opening {o c : Char} {rest : List Char} (hpair : BracketPair o c) :
      Spelt (.opening (o = '\x7b')) [o] rest
  | closing {o c : Char} {rest : List Char} (hpair : BracketPair o c) :
      Spelt (.closing (o = '\x7b')) [c] rest
  | atName {n rest : List Char} (hn : ∀ c ∈ n, isNameChar c = true) (hstops : Stops rest) :
      Spelt .directive ('@' :: n) rest
  | dollarName {n rest : List Char} (hn : ∀ c ∈ n, isNameChar c = true) (hstops : Stops rest) :
      Spelt .variable ('$' :: n) rest
  | word {n rest : List Char} (hn : isName n = true) (hstops : Stops rest) : Spelt .word n rest
  | gap {c : Char} {rest : List Char} (hc : c ∈ gapChars) : Spelt .gap [c] rest
  | other {c : Char} {rest : List Char} (hstart : isNameStart c = false)
      (hc : c ∉ '@' :: '$' :: (gapChars ++ markedChars)) : Spelt .other [c] rest

section Existence

theorem exists_plainTail (cs : List Char) : ∃ w rest, cs = w ++ rest ∧ PlainTail rest w := by
  induction hn : cs.length using Nat.strongRecOn generalizing cs with
  | ind n ih =>
    subst hn
    cases cs with
    | nil => exact ⟨[], [], rfl, .broken (by simp)⟩
    | cons c cs =>
      by_cases hescape : c = '\\'
      · subst hescape
        cases cs with
        | nil => exact ⟨['\\'], [], rfl, .backslash rfl⟩
        | cons d cs =>
          have hshort : cs.length < ('\\' :: d :: cs).length := by
            simp only [List.length_cons]
            omega
          obtain ⟨w, rest, rfl, hw⟩ := ih cs.length hshort cs rfl
          exact ⟨'\\' :: d :: w, rest, rfl, .escape hw⟩
      by_cases hquote : c = '"'
      · subst hquote
        exact ⟨['"'], cs, rfl, .close⟩
      by_cases hfeed : c = '\n'
      · subst hfeed
        exact ⟨[], '\n' :: cs, rfl, .broken (by simp)⟩
      · obtain ⟨w, rest, rfl, hw⟩ := ih cs.length (by simp) cs rfl
        exact ⟨c :: w, rest, rfl, .char ⟨hquote, hescape, hfeed⟩ hw⟩

theorem exists_blockTail (cs : List Char) : ∃ w rest, cs = w ++ rest ∧ BlockTail rest w := by
  induction hn : cs.length using Nat.strongRecOn generalizing cs with
  | ind n ih =>
    subst hn
    by_cases hescape : ['\\', '"', '"', '"'] <+: cs
    · obtain ⟨cs, rfl⟩ := hescape
      have hshort : cs.length < (['\\', '"', '"', '"'] ++ cs).length := by
        simp only [List.length_append, List.length_cons]
        omega
      obtain ⟨w, rest, rfl, hw⟩ := ih cs.length hshort cs rfl
      exact ⟨'\\' :: '"' :: '"' :: '"' :: w, rest, rfl, .escape hw⟩
    by_cases hclose : ['"', '"', '"'] <+: cs
    · obtain ⟨cs, rfl⟩ := hclose
      exact ⟨['"', '"', '"'], cs, rfl, .close⟩
    · cases cs with
      | nil => exact ⟨[], [], rfl, .broken rfl⟩
      | cons c cs =>
        obtain ⟨w, rest, rfl, hw⟩ := ih cs.length (by simp) cs rfl
        exact ⟨c :: w, rest, rfl, .char hclose hescape hw⟩

theorem exists_literal (cs : List Char) :
    ∃ w rest, cs = w ++ rest ∧ Spelt .text ('"' :: w) rest := by
  by_cases hquotes : ['"', '"'] <+: cs
  · obtain ⟨cs, rfl⟩ := hquotes
    obtain ⟨w, rest, rfl, hw⟩ := exists_blockTail cs
    exact ⟨'"' :: '"' :: w, rest, rfl, .block hw⟩
  · obtain ⟨w, rest, rfl, hw⟩ := exists_plainTail cs
    exact ⟨w, rest, rfl, .plain hquotes hw⟩

theorem exists_name (cs : List Char) : ∃ n rest, cs = n ++ rest ∧
    (∀ c ∈ n, isNameChar c = true) ∧ Stops rest := by
  obtain ⟨hsplit, hall, hhead⟩ := Syntax.takeWhile_split isNameChar cs
  exact ⟨_, _, hsplit, hall, hhead⟩

theorem exists_marked {c : Char} (hc : c ∈ markedChars) (cs : List Char) :
    ∃ mark w rest, cs = w ++ rest ∧ Spelt mark (c :: w) rest := by
  simp only [markedChars, List.mem_cons, List.not_mem_nil, or_false] at hc
  rcases hc with rfl | rfl | rfl | rfl | rfl | rfl | rfl | rfl
  · obtain ⟨line, rest, rfl, hline, hends, -⟩ := exists_comment cs
    exact ⟨_, line, rest, rfl, .comment hline hends⟩
  · obtain ⟨w, rest, rfl, hw⟩ := exists_literal cs
    exact ⟨_, w, rest, rfl, hw⟩
  · exact ⟨_, [], cs, rfl, .opening .round⟩
  · exact ⟨_, [], cs, rfl, .closing .round⟩
  · exact ⟨_, [], cs, rfl, .opening .square⟩
  · exact ⟨_, [], cs, rfl, .closing .square⟩
  · exact ⟨_, [], cs, rfl, .opening .curly⟩
  · exact ⟨_, [], cs, rfl, .closing .curly⟩

theorem exists_spelt (c : Char) (cs : List Char) :
    ∃ mark w rest, cs = w ++ rest ∧ Spelt mark (c :: w) rest := by
  by_cases hmarked : c ∈ markedChars
  · exact exists_marked hmarked cs
  by_cases hgap : c ∈ gapChars
  · exact ⟨.gap, [], cs, rfl, .gap hgap⟩
  obtain ⟨n, rest, rfl, hn, hstops⟩ := exists_name cs
  by_cases hat : c = '@'
  · subst hat
    exact ⟨.directive, n, rest, rfl, .atName hn hstops⟩
  by_cases hdollar : c = '$'
  · subst hdollar
    exact ⟨.variable, n, rest, rfl, .dollarName hn hstops⟩
  cases hstart : isNameStart c with
  | true =>
    have hname : isName (c :: n) = true := by
      simp only [isName, hstart, Bool.true_and, List.all_eq_true]
      exact hn
    exact ⟨.word, n, rest, rfl, .word hname hstops⟩
  | false => exact ⟨.other, [], n ++ rest, rfl, .other hstart (by simp [*])⟩

theorem spelt_induction {motive : List Char → Prop} (nil : motive [])
    (lexeme : ∀ mark w rest, Spelt mark w rest → motive rest → motive (w ++ rest))
    (cs : List Char) : motive cs := by
  induction hn : cs.length using Nat.strongRecOn generalizing cs with
  | ind n ih =>
    subst hn
    cases cs with
    | nil => exact nil
    | cons c cs =>
      obtain ⟨mark, w, rest, rfl, hspelt⟩ := exists_spelt c cs
      have hshort : rest.length < (c :: (w ++ rest)).length := by
        simp only [List.length_cons, List.length_append]
        omega
      exact lexeme mark (c :: w) rest hspelt (ih rest.length hshort rest rfl)

end Existence

namespace Spelt

variable {mark : Lexeme.Mark} {cs rest : List Char}

theorem ne_nil (h : Spelt mark cs rest) : cs ≠ [] := by
  cases h with
  | word hn hstops =>
    rintro rfl
    contradiction
  | _ => exact List.cons_ne_nil _ _

theorem lexes_or_beyond (h : Spelt mark cs rest) :
    Lexes mark cs rest ∨ ∃ c, cs = [c] ∧ mark = .other ∧ 128 ≤ c.toNat := by
  cases h with
  | comment hline hends => exact .inl (lexes_ended hline hends)
  | plain hquotes h => exact .inl (lexes_plain hquotes h)
  | block h => exact .inl (lexes_block h)
  | opening hpair => exact .inl (lexes_brackets hpair rest).1
  | closing hpair => exact .inl (lexes_brackets hpair rest).2
  | atName hn hstops | dollarName hn hstops =>
    refine .inl (lexes_of_extent (by decide) (by decide) ?_)
    rw [Lexeme.extent, takeWhile_name hn hstops]
  | word hn hstops => exact .inl (lexes_name hn hstops)
  | gap hc => exact .inl (lexes_gap hc rest)
  | @other c _ hstart hc =>
    by_cases hascii : c.toNat < 128
    · have hmark := of_ascii_codes (p := fun c => isNameStart c = false →
        c ∉ '@' :: '$' :: (gapChars ++ markedChars) → Lexeme.markOf c.toUInt8 = .other)
        (by decide +kernel) hascii hstart hc
      exact .inl (lexes_char hascii hmark (fun _ => rfl) rest)
    · exact .inr ⟨c, rfl, rfl, Nat.le_of_not_lt hascii⟩

theorem cuts (h : Spelt mark cs rest) : Cuts cs rest := by
  rcases h.lexes_or_beyond with hlex | ⟨c, rfl, -, hc⟩
  · exact cuts_of_lexes hlex
  · exact cuts_of_all _ (all_beyond hc rest)

end Spelt

section Cut

variable {rest more cs : List Char}

theorem forall_head_cut {P : Char → Prop} (h : ∀ c ∈ (rest ++ more).head?, P c) :
    ∀ c ∈ rest.head?, P c := by
  cases rest with
  | nil => simp
  | cons d rest => exact h

theorem PlainTail.cut (h : PlainTail (rest ++ more) cs) : PlainTail rest cs := by
  induction h with
  | close => exact .close
  | broken hends => exact .broken (forall_head_cut hends)
  | backslash hrest => exact .backslash (List.append_eq_nil_iff.mp hrest).1
  | char hc h ih => exact .char hc ih
  | escape h ih => exact .escape ih

theorem BlockTail.cut (h : BlockTail (rest ++ more) cs) : BlockTail rest cs := by
  induction h with
  | close => exact .close
  | broken hrest => exact .broken (List.append_eq_nil_iff.mp hrest).1
  | escape h ih => exact .escape ih
  | @char c cs hclose hescape h ih =>
    have hshort : c :: (cs ++ rest) <+: c :: (cs ++ (rest ++ more)) := ⟨more, by simp⟩
    exact .char (fun h => hclose (h.trans hshort)) (fun h => hescape (h.trans hshort)) ih

/-- A lexeme stays one if the text is cut off somewhere behind it. -/
theorem Spelt.cut {mark : Lexeme.Mark} (h : Spelt mark cs (rest ++ more)) : Spelt mark cs rest := by
  cases h with
  | comment hline hends => exact .comment hline (forall_head_cut hends)
  | @plain cs _ hquotes h =>
    have hshort : cs ++ rest <+: cs ++ (rest ++ more) := ⟨more, by simp⟩
    exact .plain (fun h => hquotes (h.trans hshort)) h.cut
  | block h => exact .block h.cut
  | opening hpair => exact .opening hpair
  | closing hpair => exact .closing hpair
  | atName hn hstops => exact .atName hn (forall_head_cut hstops)
  | dollarName hn hstops => exact .dollarName hn (forall_head_cut hstops)
  | word hn hstops => exact .word hn (forall_head_cut hstops)
  | gap hc => exact .gap hc
  | other hstart hc => exact .other hstart hc

end Cut

end QueryModel
