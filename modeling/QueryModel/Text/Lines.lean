/-!
# Blank characters and lines

A character is blank when it has the Unicode property `White_Space`. Trimming
removes blank characters from both ends of a text and from nowhere else. A line ends at
a line feed, and a carriage return just before that line feed belongs to the ending. A
text that ends with a line feed has no empty last line.
-/

set_option autoImplicit false

namespace QueryModel.Text

def isBlank (c : Char) : Bool :=
  (0x09 ≤ c.toNat && c.toNat ≤ 0x0D) || c.toNat == 0x20 || c.toNat == 0x85 ||
  c.toNat == 0xA0 || c.toNat == 0x1680 || (0x2000 ≤ c.toNat && c.toNat ≤ 0x200A) ||
  c.toNat == 0x2028 || c.toNat == 0x2029 || c.toNat == 0x202F || c.toNat == 0x205F ||
  c.toNat == 0x3000

def trimStart (cs : List Char) : List Char := cs.dropWhile isBlank

def trimEnd (cs : List Char) : List Char := (trimStart cs.reverse).reverse

def trim (cs : List Char) : List Char := trimEnd (trimStart cs)

def trimmed (text : String) : String := String.ofList (trim text.toList)

theorem trimStart_of_head {c : Char} {cs : List Char} (h : isBlank c = false) :
    trimStart (c :: cs) = c :: cs := by
  simp [trimStart, h]

theorem length_trim (cs : List Char) : (trim cs).length ≤ cs.length := by
  have h1 := (List.dropWhile_sublist (l := cs) isBlank).length_le
  have h2 := (List.dropWhile_sublist (l := (trimStart cs).reverse) isBlank).length_le
  simp only [trim, trimEnd, trimStart, List.length_reverse] at *
  omega

def dropReturn : List Char → List Char
  | '\r' :: line => line
  | line => line

/-- `line` holds the characters of the current line so far, last one first. -/
def linesFrom (line : List Char) : List Char → List (List Char)
  | [] => if line.isEmpty then [] else [line.reverse]
  | c :: rest =>
    if c = '\n' then (dropReturn line).reverse :: linesFrom [] rest
    else linesFrom (c :: line) rest

def lines (cs : List Char) : List (List Char) := linesFrom [] cs

def firstLine (cs : List Char) : List Char := (lines cs).headD []

end QueryModel.Text
