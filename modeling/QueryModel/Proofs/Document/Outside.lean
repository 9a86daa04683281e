import Mathlib.Data.List.TakeWhile
import QueryModel.Proofs.Document.Cutting
import QueryModel.Proofs.Syntax.Spelling

/-!
# What stands outside brackets

The lexemes of a text outside all brackets, and the words among them, as the cut into definitions
sees them. Text with its brackets in pairs shows nothing of itself inside brackets.
-/

set_option autoImplicit false

namespace QueryModel

open Text

namespace Lexeme

/-- The lexemes outside all brackets, and those that open and close the outermost ones. -/
def outside : Nat → List Lexeme → List Lexeme
  | _, [] => []
  | depth, l :: rest =>
    match l.mark with
    | .opening _ => (if depth = 0 then [l] else []) ++ outside (depth + 1) rest
    | .closing _ => (if depth ≤ 1 then [l] else []) ++ outside (depth - 1) rest
    | _ => (if depth = 0 then [l] else []) ++ outside depth rest

def word? (l : Lexeme) : Option String :=
  match l.mark with
  | .word => some l.ascii
  | .directive => some "@"
  | _ => none

/-- Carriage returns in comments stand only at their ends. -/
def CommentsEnd (ls : List Lexeme) : Prop :=
  ∀ l ∈ ls, l.mark = .comment → '\r'.toUInt8 ∉ l.bytes.dropLast

instance (ls : List Lexeme) : Decidable (CommentsEnd ls) :=
  inferInstanceAs (Decidable (∀ l ∈ ls, l.mark = .comment → '\r'.toUInt8 ∉ l.bytes.dropLast))

end Lexeme

open SplitState (unmarked extent_le markOf_unmarked)

section Unmarked

variable {β : Type} {F : List Lexeme → β}
  (hF : ∀ l ls, l.mark ∈ unmarked → F (l :: ls) = F ls)

include hF

theorem observe_unmarked {b : UInt8} (hb : Lexeme.markOf b ∈ unmarked) (bs : List UInt8) :
    F (Lexeme.all (b :: bs)) =
      F (Lexeme.all (bs.drop (Lexeme.extent (Lexeme.markOf b) bs))) := by
  rw [Lexeme.all]
  exact hF _ _ hb

theorem observe_drop_name {bs : List UInt8} {k : Nat}
    (hk : k ≤ (bs.takeWhile Lexeme.isNameByte).length) :
    F (Lexeme.all bs) = F (Lexeme.all (bs.drop k)) := by
  induction bs generalizing k with
  | nil => simp
  | cons b bs ih =>
    cases k with
    | zero => rfl
    | succ k =>
      by_cases hb : Lexeme.isNameByte b = true
      · rw [List.takeWhile_cons, if_pos hb, List.length_cons] at hk
        have hmark : Lexeme.markOf b ∈ unmarked :=
          of_byte_codes (p := fun b => Lexeme.isNameByte b = true → Lexeme.markOf b ∈ unmarked)
            (by decide +kernel) b hb
        rw [observe_unmarked hF hmark, ← ih (extent_le hmark bs), ih (Nat.le_of_succ_le_succ hk),
          List.drop_succ_cons]
      · rw [List.takeWhile_cons, if_neg hb] at hk
        simp at hk

theorem observe_bytes {bs : List UInt8} (hbs : ∀ b ∈ bs, Lexeme.markOf b ∈ unmarked)
    (rest : List UInt8) : F (Lexeme.all (bs ++ rest)) = F (Lexeme.all rest) := by
  induction bs with
  | nil => rfl
  | cons b bs ih =>
    have hb := hbs b List.mem_cons_self
    rw [List.cons_append, observe_unmarked hF hb, ← observe_drop_name hF (extent_le hb _),
      ih fun d hd => hbs d (List.mem_cons_of_mem b hd)]

theorem observe_chars {cs : List Char} (hcs : ∀ c ∈ cs, c ∉ markedChars) (rest : List Char) :
    F (Lexeme.all (bytes (cs ++ rest))) = F (Lexeme.all (bytes rest)) := by
  rw [bytes_append]
  apply observe_bytes hF
  intro b hb
  obtain ⟨c, hc, hb⟩ := List.mem_flatMap.mp hb
  exact markOf_unmarked (hcs c hc) hb

end Unmarked

section Brackets

open SplitState (closing_ne_quote)

variable {σ β : Type} {F : σ → List Lexeme → β} (push : Char → σ → σ)

/-- An observer that passes over all but brackets, and is after a closing bracket what it was
before the opening one, passes over text with its brackets in pairs. -/
theorem observe_balanced
    (hplain : ∀ s l ls, l.mark ∈ Lexeme.Mark.comment :: .text :: unmarked → F s (l :: ls) = F s ls)
    (hopening : ∀ {o c : Char}, BracketPair o c → ∀ s ls,
      F s (⟨.opening (o = '\x7b'), bytes [o]⟩ :: ls) = F (push c s) ls)
    (hclosing : ∀ {o c : Char}, BracketPair o c → ∀ s ls,
      F (push c s) (⟨.closing (o = '\x7b'), bytes [c]⟩ :: ls) = F s ls)
    {cs rest : List Char} (h : Balanced cs) (hrest : rest.head? ≠ some '"') (s : σ) :
    F s (Lexeme.all (bytes (cs ++ rest))) = F s (Lexeme.all (bytes rest)) := by
  induction h generalizing s rest with
  | nil => rfl
  | @char c cs hc h ih =>
    have hchar : ∀ d ∈ [c], d ∉ markedChars := by simpa using hc
    have hone := observe_chars (F := F s) (fun l ls hl => hplain s l ls (by simp [hl])) hchar
      (cs ++ rest)
    exact hone.trans (ih hrest s)
  | @comment line cs hline h ih =>
    have htext : '#' :: line ++ '\n' :: cs ++ rest = '#' :: line ++ '\n' :: (cs ++ rest) := by simp
    rw [htext, lexes_comment hline, hplain _ _ _ (by simp), ← List.singleton_append,
      lexes_gap (by decide), hplain _ _ _ (by simp [unmarked])]
    exact ih hrest s
  | literal hliteral hstops h ih =>
    rw [List.append_assoc, lexes_literal hliteral (hstops.append hrest), hplain _ _ _ (by simp)]
    exact ih hrest s
  | @nested o c inner cs hpair hinner h ihInner ih =>
    have htext : o :: inner ++ c :: cs ++ rest = [o] ++ (inner ++ ([c] ++ (cs ++ rest))) := by simp
    have hinside := ihInner (closing_ne_quote hpair (cs ++ rest)) (push c s)
    rw [htext, (lexes_brackets hpair _).1, hopening hpair, List.singleton_append, hinside,
      ← List.singleton_append, (lexes_brackets hpair _).2, hclosing hpair]
    exact ih hrest s

end Brackets

section Comments

theorem lexes_last_comment {line : List Char} (hline : '\n' ∉ line) :
    Lexes .comment ('#' :: line) [] := by
  apply lexes_of_extent (by decide) (by decide)
  have hbytes : ∀ b ∈ bytes line, (!Lexeme.isByte b '\n') = true := by
    intro b hb
    obtain ⟨c, hc, hb⟩ := List.mem_flatMap.mp hb
    rw [Bool.not_eq_true', ← Bool.not_eq_true]
    exact fun h => hline (eq_of_isByte (by decide) hb h ▸ hc)
  have htake : (bytes line).takeWhile (fun b => !Lexeme.isByte b '\n') = bytes line :=
    List.takeWhile_eq_self_iff.mpr hbytes
  rw [Lexeme.extent, List.append_nil, htake]

def Tidy (cs : List Char) : Prop := Lexeme.CommentsEnd (Lexeme.all (bytes cs))

instance (cs : List Char) : Decidable (Tidy cs) :=
  inferInstanceAs (Decidable (Lexeme.CommentsEnd (Lexeme.all (bytes cs))))

theorem Tidy.of_lexes {mark : Lexeme.Mark} {cs rest : List Char} (h : Tidy (cs ++ rest))
    (hlex : Lexes mark cs rest) : Tidy rest := by
  rw [Tidy, hlex] at h
  exact fun l hl => h l (List.mem_cons_of_mem _ hl)

theorem Tidy.of_chars {cs rest : List Char} (h : Tidy (cs ++ rest))
    (hcs : ∀ c ∈ cs, c ∉ markedChars) : Tidy rest := by
  have hobserve := observe_chars (F := Lexeme.CommentsEnd) ?_ hcs rest
  · rw [Tidy, hobserve] at h
    exact h
  · intro l ls hl
    have hcomment : l.mark ≠ .comment := by
      intro hl'
      rw [hl'] at hl
      exact absurd hl (by decide)
    simp [Lexeme.CommentsEnd, hcomment]

end Comments

end QueryModel
