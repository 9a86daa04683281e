import QueryModel.Syntax.Token
import QueryModel.Text.Alphanumeric

/-!
# Reading tokens

Blank space, commas, byte order marks and comments separate tokens and are dropped.
Names, numbers and strings take as many characters as they can. Brackets may be nested
fifty deep.
-/

set_option autoImplicit false

namespace QueryModel.Syntax

open QueryModel.Text

/-- Skips what stands between tokens. A tab counts eight columns, a carriage return and a
byte order mark none, and the character that ends a comment starts a new line. -/
def skipIgnored : Bool → Position → List Char → Position × List Char
  | _, p, [] => (p, [])
  | true, p, c :: cs =>
    if c = '\r' ∨ c = '\n' then skipIgnored false p.nextLine cs else skipIgnored true p cs
  | false, p, c :: cs =>
    if c = '\r' ∨ c = '\ufeff' then skipIgnored false p cs
    else if c = '\t' then skipIgnored false (p.right 8) cs
    else if c = '\n' then skipIgnored false p.nextLine cs
    else if c = ' ' ∨ c = ',' then skipIgnored false (p.right 1) cs
    else if c = '#' then skipIgnored true p cs
    else (p, c :: cs)

theorem length_skipIgnored (comment : Bool) (p : Position) (cs : List Char) :
    (skipIgnored comment p cs).2.length ≤ cs.length := by
  induction cs generalizing comment p with
  | nil => cases comment <;> simp [skipIgnored]
  | cons c cs ih =>
    cases comment
    · simp only [skipIgnored]
      repeat' split
      all_goals first
        | exact Nat.le_refl _
        | exact Nat.le_succ_of_le (ih _ _)
    · simp only [skipIgnored]
      split <;> exact Nat.le_succ_of_le (ih _ _)

/-- Where a number ends. Everything else is swallowed and judged afterwards. -/
def endsNumber (c : Char) : Bool :=
  [' ', '\n', '\r', '\t', ',', '#', '!', '$', ':', '=', '@', '|', '&', '(', ')', '[', ']',
    '\x7b', '\x7d'].contains c

def splitLast (p : Char → Bool) : List Char → Option (List Char × List Char)
  | [] => none
  | c :: cs =>
    match splitLast p cs with
    | some (before, after) => some (c :: before, after)
    | none => if p c then some ([], cs) else none

def isInteger (cs : List Char) : Bool :=
  cs == ['0'] || cs == ['-', '0'] ||
    (cs != ['-'] && !List.isPrefixOf ['0'] cs && !List.isPrefixOf ['-', '0'] cs &&
      (cs.drop 1).all isAsciiDigit)

def isFraction (cs : List Char) : Bool := !cs.isEmpty && cs.all isAsciiDigit

/-- A first digit has to lie between one and eight. -/
def isExponent : List Char → Bool
  | [] => false
  | c :: cs => (c == '+' || c == '-' || ('1' ≤ c && c ≤ '8')) && cs.all isAsciiDigit

def isPoint (c : Char) : Bool := c == '.'

def isExponentMark (c : Char) : Bool := c == 'e' || c == 'E'

def isWholeFloat (cs : List Char) : Bool :=
  match splitLast isPoint cs with
  | some (whole, fraction) => isInteger whole && isFraction fraction
  | none => isInteger cs

def isFloat (cs : List Char) : Bool :=
  match splitLast isExponentMark cs with
  | some (number, exponent) => isWholeFloat number && isExponent exponent
  | none => isWholeFloat cs

def numberKind (cs : List Char) : Except LexicalFault TokenKind :=
  if cs.any fun c => isPoint c || isExponentMark c then
    if isFloat cs then .ok .floatValue else .error (.float (String.ofList cs))
  else if isInteger cs then .ok .intValue
  else .error (.integer (String.ofList cs))

/-- How many characters a string takes after its opening quote. A backslash takes the
next character with it; a line feed never belongs to a string. -/
def stringExtent : Bool → List Char → Option Nat
  | _, [] => none
  | escaped, c :: cs =>
    if c = '\n' then none
    else if escaped then (stringExtent false cs).map (· + 1)
    else if c = '"' then some 1
    else (stringExtent (c == '\\') cs).map (· + 1)

/-- How many characters a block string takes after its opening quotes. Three quotes after
a backslash belong to it. -/
def blockExtent : Bool → List Char → Option Nat
  | escaped, '"' :: '"' :: '"' :: cs =>
    if escaped then (blockExtent false cs).map (· + 3) else some 3
  | _, c :: cs => (blockExtent (c == '\\') cs).map (· + 1)
  | _, [] => none

def opens (c : Char) : Bool := c == '(' || c == '[' || c == '\x7b'

def closes (c : Char) : Bool := c == ')' || c == ']' || c == '\x7d'

def nestingLimit : Nat := 50

def levelsAfter (levels : Nat) (c : Char) : Nat :=
  if opens c then levels - 1 else if closes c then levels + 1 else levels

def lexeme (levels : Nat) (c : Char) (rest : List Char) : Except LexicalFault (TokenKind × Nat) :=
  if opens c then
    if levels = 0 then .error .nesting else .ok (.punctuator, 0)
  else if closes c || ['!', '$', ':', '=', '@', '|', '&'].contains c then .ok (.punctuator, 0)
  else if c = '.' then
    if ['.', '.'].isPrefixOf rest then .ok (.punctuator, 2) else .error .bareDot
  else if isNameStart c then .ok (.name, (rest.takeWhile isNameChar).length)
  else if c = '-' || isAsciiDigit c then do
    let more := rest.takeWhile fun d => !endsNumber d
    let kind ← numberKind (c :: more)
    return (kind, more.length)
  else if c = '"' then
    if ['"', '"'].isPrefixOf rest then
      match blockExtent false (rest.drop 2) with
      | some n => .ok (.blockString, n + 2)
      | none => .error .blockString
    else
      match stringExtent false rest with
      | some n => .ok (.stringValue, n)
      | none => .error .string
  else .error (.character c)

def scan (levels : Nat) (position : Position) (cs : List Char) : Tokens :=
  match _h : skipIgnored false position cs with
  | (p, []) => ⟨[], p, none⟩
  | (p, c :: rest) =>
    match lexeme levels c rest with
    | .error fault => ⟨[], p, some fault⟩
    | .ok (kind, more) =>
      let text := c :: rest.take more
      (scan (levelsAfter levels c) (p.past text) (rest.drop more)).cons
        ⟨p, kind, String.ofList text⟩
termination_by cs.length
decreasing_by
  have := length_skipIgnored false position cs
  simp only [_h, List.length_cons] at this
  simp only [List.length_drop]
  omega

def Tokens.ofText (text : String) : Tokens := scan nestingLimit .start text.toList

end QueryModel.Syntax
