import QueryModel.Text.Alphanumeric
import QueryModel.Text.LetterCase

/-!
# Words of an identifier

A text is cut at the characters that are not alphanumeric, and each piece is cut again
where the letter case changes: after a lowercase letter before an uppercase one, and
before the last uppercase letter of a row that a lowercase letter follows. Pascal case
writes every word with a capital and joins them.
-/

set_option autoImplicit false

namespace QueryModel.Text

inductive Casing where
  | none
  | lower
  | upper
  deriving DecidableEq, Repr

def Casing.after (casing : Casing) (c : Char) : Casing :=
  if isLowercase c then .lower else if isUppercase c then .upper else casing

def piecesFrom (piece : List Char) : List Char → List (List Char)
  | [] => [piece.reverse]
  | c :: cs =>
    if isAlphanumeric c then piecesFrom (c :: piece) cs
    else piece.reverse :: piecesFrom [] cs

def pieces (cs : List Char) : List (List Char) := piecesFrom [] cs

/-- `word` holds the characters of the current word so far, last one first. The letter
before a case boundary does not count for the casing of the word that starts there. -/
def wordsFrom (word : List Char) (casing : Casing) : List Char → List (List Char)
  | [] => if word.isEmpty then [] else [word.reverse]
  | [c] => [(c :: word).reverse]
  | c :: n :: rest =>
    if casing.after c = .lower ∧ isUppercase n then
      (c :: word).reverse :: wordsFrom [] .none (n :: rest)
    else if casing = .upper ∧ isUppercase c ∧ isLowercase n then
      word.reverse :: wordsFrom [c] .none (n :: rest)
    else wordsFrom (c :: word) (casing.after c) (n :: rest)

def words (cs : List Char) : List (List Char) :=
  (pieces cs).flatMap (wordsFrom [] .none)

/-- Lowercase form of what follows the first letter of a word. A capital sigma that
stands last takes its final form. -/
def lowered : List Char → List Char
  | [] => []
  | [c] => if c = 'Σ' then ['ς'] else toLowercase c
  | c :: n :: rest => toLowercase c ++ lowered (n :: rest)

def capitalized : List Char → List Char
  | [] => []
  | c :: cs => toUppercase c ++ lowered cs

def pascalChars (cs : List Char) : List Char := (words cs).flatMap capitalized

def pascalCase (text : String) : String := String.ofList (pascalChars text.toList)

end QueryModel.Text
