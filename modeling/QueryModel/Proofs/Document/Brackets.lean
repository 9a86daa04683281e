import QueryModel.Proofs.Document.Ends
import QueryModel.Proofs.Document.Parts

/-!
# Brackets and their partners

The closing brackets that a text leaves awaited, outside string literals and comments. A text that
one of the grammars reads leaves none, and every closing bracket in it is the one awaited there.
-/

set_option autoImplicit false

namespace QueryModel

open Text Syntax

namespace Lexeme

def partner (opening : List UInt8) : List UInt8 :=
  if opening = Text.bytes ['('] then Text.bytes [')']
  else if opening = Text.bytes ['['] then Text.bytes [']'] else Text.bytes ['\x7d']

/-- The closing brackets that are awaited after the lexemes, the next one first. There is no answer
if a closing bracket is not the awaited one. -/
def awaited : List (List UInt8) → List Lexeme → Option (List (List UInt8))
  | stack, [] => some stack
  | stack, l :: ls =>
    match l.mark with
    | .opening _ => awaited (partner l.bytes :: stack) ls
    | .closing _ =>
      match stack with
      | [] => none
      | next :: stack => if next = l.bytes then awaited stack ls else none
    | _ => awaited stack ls

theorem awaited_append (stack : List (List UInt8)) (ls ls' : List Lexeme) :
    awaited stack (ls ++ ls') = (awaited stack ls).bind fun after => awaited after ls' := by
  induction ls generalizing stack with
  | nil => rfl
  | cons l ls ih =>
    obtain ⟨mark, bs⟩ := l
    cases mark with
    | opening brace => exact ih (partner bs :: stack)
    | closing brace =>
      cases stack with
      | nil => rfl
      | cons next stack =>
        by_cases hnext : next = bs
        · simpa [awaited, hnext] using ih stack
        · simp [awaited, hnext]
    | _ => exact ih stack

theorem awaited_plain {l : Lexeme} (hl : l.mark ∈ Mark.comment :: .text :: SplitState.unmarked)
    (stack : List (List UInt8)) (ls : List Lexeme) :
    awaited stack (l :: ls) = awaited stack ls := by
  obtain ⟨mark, bs⟩ := l
  simp only [SplitState.unmarked, List.mem_cons, List.not_mem_nil, or_false] at hl
  rcases hl with rfl | rfl | rfl | rfl | rfl | rfl | rfl <;> rfl

end Lexeme

/-- A closing bracket of the text, outside string literals and comments, has no partner. -/
def Unmatched (cs : List Char) : Prop := Lexeme.awaited [] (Lexeme.all (bytes cs)) = none

instance (cs : List Char) : Decidable (Unmatched cs) :=
  inferInstanceAs (Decidable (Lexeme.awaited [] (Lexeme.all (bytes cs)) = none))

section Balanced

theorem awaited_balanced {cs rest : List Char} (h : Balanced cs) (hrest : rest.head? ≠ some '"')
    (stack : List (List UInt8)) : Lexeme.awaited stack (Lexeme.all (bytes (cs ++ rest))) =
      Lexeme.awaited stack (Lexeme.all (bytes rest)) := by
  refine observe_balanced (fun c stack => bytes [c] :: stack)
    (fun stack l ls hl => Lexeme.awaited_plain hl stack ls) ?_ ?_ h hrest stack
  · intro o c hpair stack ls
    have hpartner : Lexeme.partner (bytes [o]) = bytes [c] := by cases hpair <;> decide
    change Lexeme.awaited (Lexeme.partner (bytes [o]) :: stack) ls = _
    rw [hpartner]
  · intro o c hpair stack ls
    simp [Lexeme.awaited]

theorem awaited_chars {cs : List Char} (hcs : ∀ c ∈ cs, c ∉ markedChars)
    (stack : List (List UInt8)) : Lexeme.awaited stack (Lexeme.all (bytes cs)) = some stack := by
  have hall := observe_chars (F := Lexeme.awaited stack)
    (fun l ls hl => Lexeme.awaited_plain (by simp [hl]) stack ls) hcs []
  rw [List.append_nil] at hall
  rw [hall, bytes, List.flatMap_nil, Lexeme.all, Lexeme.awaited]

end Balanced

section Blanks

theorem blank_unmarked {c : Char} (hc : isBlank c = true) : c ∉ markedChars := by
  have hmarked : ∀ c ∈ markedChars, isBlank c = false := of_listed (by decide)
  intro hmem
  rw [hmarked c hmem] at hc
  contradiction

variable {after : List Char} (hafter : ∀ c ∈ after, isBlank c = true)

include hafter

theorem awaited_comment {line : List Char} (hline : '\n' ∉ line) (stack : List (List UInt8)) :
    Lexeme.awaited stack (Lexeme.all (bytes ('#' :: line ++ after))) = some stack := by
  obtain ⟨whole, rest, hsplit, hwhole, hends, hlex⟩ := exists_comment (line ++ after)
  have hrest : ∀ c ∈ rest, isBlank c = true := by
    rcases List.append_eq_append_iff.mp hsplit with ⟨more, -, rfl⟩ | ⟨more, rfl, rfl⟩
    · exact fun c hc => hafter c (List.mem_append_right _ hc)
    · cases more with
      | nil => exact hafter
      | cons c more =>
        obtain rfl : c = '\n' := hends c rfl
        simp at hline
  rw [List.cons_append, hsplit, ← List.cons_append, hlex, Lexeme.awaited_plain (by simp)]
  exact awaited_chars (fun c hc => blank_unmarked (hrest c hc)) stack

theorem blanks_quote : after.head? ≠ some '"' := by
  intro hquote
  have hblank := hafter '"' (List.mem_of_head? hquote)
  exact absurd hblank (by decide)

theorem awaited_laid {front trail : List Char} (hfront : Balanced front) (htrail : Trailing trail)
    (stack : List (List UInt8)) :
    Lexeme.awaited stack (Lexeme.all (bytes (front ++ trail ++ after))) = some stack := by
  have hspaced {sp : List Char} (hsp : Spacing sp) : Balanced (front ++ sp) := by
    have hspace := balanced_spacing hsp .nil
    rw [List.append_nil] at hspace
    exact hfront.append hspace (spacing_quote hsp)
  cases htrail with
  | space h =>
    rw [awaited_balanced (hspaced h) (blanks_quote hafter)]
    exact awaited_chars (fun c hc => blank_unmarked (hafter c hc)) stack
  | comment h hline =>
    rw [← List.append_assoc, List.append_assoc, awaited_balanced (hspaced h) (by simp)]
    exact awaited_comment hafter hline.1 stack

end Blanks

section Reading

def Accepted (text : String) : Prop :=
  (∃ written, readExecutable text = .ok written) ∨ ∃ declared, readTypeSystem text = .ok declared

theorem Accepted.enclosed {text : String} (h : Accepted text) :
    (Tokens.ofText text).fault = none ∧ Enclosed (Tokens.ofText text).tokens := by
  rcases h with ⟨written, h⟩ | ⟨declared, h⟩
  · obtain ⟨us, hus⟩ := AnyDefinition.read_ok.mp h
    exact Reader.document_joins joins_enclosed Reader.executableDefinition_takes
      (fun _ _ hshape => hshape.enclosed) hus
  · obtain ⟨us, hus⟩ := AnyDefinition.read_ok.mp h
    exact Reader.document_joins joins_enclosed Reader.typeSystemDefinition_takes
      (fun _ _ ⟨_, _, hshape, _⟩ => hshape.enclosed) hus

/-- In a text that one of the grammars reads, closing brackets are the awaited ones, whatever blank
characters follow. -/
theorem Accepted.awaited {text : String} (h : Accepted text) (htidy : Tidy text.toList)
    {after : List Char} (hafter : ∀ c ∈ after, isBlank c = true) (stack : List (List UInt8)) :
    Lexeme.awaited stack (Lexeme.all (bytes (text.toList ++ after))) = some stack := by
  obtain ⟨hfault, henclosed⟩ := h.enclosed
  obtain ⟨front, trail, htext, hfront, htrail, -⟩ := scan_sound htidy hfault
  rw [htext]
  exact awaited_laid hafter (lexed_balanced henclosed hfront) htrail stack

end Reading

end QueryModel
