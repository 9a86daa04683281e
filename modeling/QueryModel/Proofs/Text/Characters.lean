import QueryModel.Text.Alphanumeric
import QueryModel.Text.Lines

/-!
# Classes of characters

A fact about ASCII characters is checked one by one. The characters of a name are ASCII and are
told by their ranges, and none of them is blank.
-/

set_option autoImplicit false

namespace QueryModel

open Text

theorem of_ascii_codes {p : Char → Prop} (h : ∀ n < 128, p (Char.ofNat n)) {c : Char}
    (hc : c.toNat < 128) : p c := by
  have hn := h c.toNat hc
  rwa [Char.ofNat_toNat] at hn

/-- A fact about the characters of a list, checked along the list and not over all
characters there are. -/
theorem of_listed {p : Char → Prop} [DecidablePred p] {cs : List Char}
    (h : cs.all (fun c => decide (p c)) = true) : ∀ c ∈ cs, p c := by
  intro c hc
  exact of_decide_eq_true (List.all_eq_true.mp h c hc)

theorem isNameChar_ascii {c : Char} (h : isNameChar c = true) : c.toNat < 128 := by
  simp only [isNameChar, isNameStart, isAsciiLetter, isAsciiDigit, Bool.or_eq_true,
    Bool.and_eq_true, beq_iff_eq, decide_eq_true_eq] at h
  rcases h with (rfl | ⟨-, h⟩ | ⟨-, h⟩) | ⟨-, h⟩
  · decide
  all_goals exact Nat.lt_of_le_of_lt (UInt32.le_iff_toNat_le.mp h) (by decide)

theorem isName_chars {n : List Char} (hn : isName n = true) : ∀ c ∈ n, isNameChar c = true :=
  ((isName_iff n).mp hn).2.1

theorem nameChar_not_blank {c : Char} (hc : isNameChar c = true) : isBlank c = false :=
  of_ascii_codes (p := fun c => isNameChar c = true → isBlank c = false) (by decide +kernel)
    (isNameChar_ascii hc) hc

def NameStart (c : Char) : Prop := c = '_' ∨ ('A' ≤ c ∧ c ≤ 'Z') ∨ ('a' ≤ c ∧ c ≤ 'z')

/-- The texts of the pattern `[_A-Za-z][_0-9A-Za-z]*`. -/
def NameText (cs : List Char) : Prop :=
  ∃ first rest, cs = first :: rest ∧ NameStart first ∧
    ∀ c ∈ rest, NameStart c ∨ ('0' ≤ c ∧ c ≤ '9')

theorem isNameStart_iff {c : Char} : isNameStart c = true ↔ NameStart c := by
  simp [isNameStart, isAsciiLetter, NameStart]

theorem isName_iff_nameText {cs : List Char} : isName cs = true ↔ NameText cs := by
  have hrest (c : Char) : isNameChar c = true ↔ NameStart c ∨ ('0' ≤ c ∧ c ≤ '9') := by
    simp [isNameChar, isAsciiDigit, isNameStart_iff]
  cases cs with
  | nil => simp [isName, NameText]
  | cons c cs =>
    simp only [isName, Bool.and_eq_true, List.all_eq_true, isNameStart_iff, hrest]
    constructor
    · rintro ⟨hc, hcs⟩
      exact ⟨c, cs, rfl, hc, hcs⟩
    · rintro ⟨_, _, ⟨⟩, hc, hcs⟩
      exact ⟨hc, hcs⟩

end QueryModel
