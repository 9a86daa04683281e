import QueryModel.Text.Bytes
import QueryModel.Text.Tables

/-!
# Text from bytes

Bytes are read as UTF-8. A first byte announces how many follow and what the next one
may be; the longest part that could have begun a character is given up as a whole when
it does not become one. The body of a message is UTF-8 unless it starts with the mark of
a two-byte order. The mark itself is left out, and what is no character becomes the
replacement character. In an address a byte is written as a percent sign and two
hexadecimal digits. Encoding takes the characters that a place does not allow and all
that are not ASCII; decoding leaves a percent sign alone when two digits do not follow.
-/

set_option autoImplicit false

namespace QueryModel.Text

structure Lead where
  /-- The number of bytes that follow. -/
  following : Nat
  /-- What the first byte itself gives to the number of the character. -/
  value : Nat
  /-- The bounds of the next byte. -/
  low : Nat
  high : Nat

def Lead.ofByte? (byte : UInt8) : Option Lead :=
  let b := byte.toNat
  if b < 0x80 then some ⟨0, b, 0x80, 0xBF⟩
  else if b < 0xC2 then none
  else if b < 0xE0 then some ⟨1, b - 0xC0, 0x80, 0xBF⟩
  else if b < 0xF0 then
    some ⟨2, b - 0xE0, if b = 0xE0 then 0xA0 else 0x80, if b = 0xED then 0x9F else 0xBF⟩
  else if b < 0xF5 then
    some ⟨3, b - 0xF0, if b = 0xF0 then 0x90 else 0x80, if b = 0xF4 then 0x8F else 0xBF⟩
  else none

def completeChar : (n value low high : Nat) → List UInt8 → Option Char × List UInt8
  | 0, value, _, _, bs => (some (Char.ofNat value), bs)
  | _ + 1, _, _, _, [] => (none, [])
  | n + 1, value, low, high, b :: bs =>
    if low ≤ b.toNat && b.toNat ≤ high then
      completeChar n (value * 64 + (b.toNat - 0x80)) 0x80 0xBF bs
    else (none, b :: bs)

theorem length_completeChar (n value low high : Nat) (bs : List UInt8) :
    (completeChar n value low high bs).2.length ≤ bs.length := by
  induction n generalizing value low high bs with
  | zero => simp [completeChar]
  | succ n ih =>
    cases bs with
    | nil => simp [completeChar]
    | cons b bs =>
      simp only [completeChar]
      split
      · exact Nat.le_succ_of_le (ih _ _ _ bs)
      · simp

def firstChar (b : UInt8) (bs : List UInt8) : Option Char × List UInt8 :=
  match Lead.ofByte? b with
  | none => (none, bs)
  | some lead => completeChar lead.following lead.value lead.low lead.high bs

theorem length_firstChar (b : UInt8) (bs : List UInt8) :
    (firstChar b bs).2.length ≤ bs.length := by
  simp only [firstChar]
  split
  · simp
  · exact length_completeChar _ _ _ _ bs

/-- The characters of the bytes, with nothing for every part that is none. -/
def readChars : List UInt8 → List (Option Char)
  | [] => []
  | b :: bs => (firstChar b bs).1 :: readChars (firstChar b bs).2
termination_by bs => bs.length
decreasing_by
  have := length_firstChar b bs
  simp only [List.length_cons]
  omega

def ofBytes? (bs : List UInt8) : Option String :=
  ((readChars bs).mapM id).map String.ofList

def ofBytesLossy (bs : List UInt8) : String :=
  String.ofList ((readChars bs).map fun c => c.getD '�')

def units (bigEndian : Bool) : List UInt8 → List (Option Nat)
  | [] => []
  | [_] => [none]
  | a :: b :: rest =>
    some (if bigEndian then a.toNat * 256 + b.toNat else b.toNat * 256 + a.toNat) ::
      units bigEndian rest

def isHighSurrogate (n : Nat) : Bool := 0xD800 ≤ n && n < 0xDC00

def isLowSurrogate (n : Nat) : Bool := 0xDC00 ≤ n && n < 0xE000

def unitChars : List (Option Nat) → List Char
  | [] => []
  | none :: rest => '�' :: unitChars rest
  | some n :: rest =>
    if isHighSurrogate n then
      match rest with
      | some m :: more =>
        if isLowSurrogate m then
          Char.ofNat (0x10000 + (n - 0xD800) * 0x400 + (m - 0xDC00)) :: unitChars more
        else '�' :: unitChars (some m :: more)
      | others => '�' :: unitChars others
    else (if isLowSurrogate n then '�' else Char.ofNat n) :: unitChars rest

def bodyText (body : List UInt8) : String :=
  match body with
  | 0xEF :: 0xBB :: 0xBF :: rest => ofBytesLossy rest
  | 0xFF :: 0xFE :: rest => String.ofList (unitChars (units false rest))
  | 0xFE :: 0xFF :: rest => String.ofList (unitChars (units true rest))
  | body => ofBytesLossy body

def upperHexDigit (n : Nat) : Char :=
  if n < 10 then Char.ofNat (0x30 + n) else Char.ofNat (0x37 + n)

def percentByte (b : UInt8) : List Char :=
  ['%', upperHexDigit (b.toNat / 16), upperHexDigit (b.toNat % 16)]

def percentChar (reserved : Char → Bool) (c : Char) : List Char :=
  if reserved c || 0x80 ≤ c.toNat then (bytes [c]).flatMap percentByte else [c]

def percentEncode (reserved : Char → Bool) (cs : List Char) : String :=
  String.ofList (cs.flatMap (percentChar reserved))

def hexByte? (high low : UInt8) : Option UInt8 := do
  let h ← hexValue? (Char.ofNat high.toNat)
  let l ← hexValue? (Char.ofNat low.toNat)
  return UInt8.ofNat (16 * h + l)

def percentDecode : List UInt8 → List UInt8
  | [] => []
  | b :: rest =>
    match rest with
    | high :: low :: after =>
      match if b = 0x25 then hexByte? high low else none with
      | some byte => byte :: percentDecode after
      | none => b :: percentDecode (high :: low :: after)
    | short => b :: percentDecode short

end QueryModel.Text
