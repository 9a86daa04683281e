import QueryModel.Address.Direction
import QueryModel.Address.DomainTable
import QueryModel.Address.Joiner
import QueryModel.Address.Punycode
import QueryModel.Text.Encoding

/-!
# Domain names

A domain name is folded before use: capitals become lowercase, forms of other characters
become these, stops of other scripts become points, silent characters vanish, and the
normal form is taken. A label beyond ASCII is then written in Punycode behind a mark, and
a label that already bears the mark has to decode to a folded label. Labels do not start
with a mark, and once one of them has letters or digits from the right, all are written in
one direction. Names of ASCII characters without the mark depend on no table.
-/

set_option autoImplicit false

namespace QueryModel.Domain

/-- The ASCII characters that no domain has. -/
def isForbidden (c : Char) : Bool :=
  c.toNat ≤ 0x20 || c.toNat == 0x7F || "%#/:<>?@[\\]^|".toList.contains c

def foldChar? (c : Char) : Option (List Char) :=
  let n := c.toNat
  if n < 0x80 then some [Text.asciiLower c]
  else if !Text.inRanges allowedRanges n then none
  else if Text.inRanges silentRanges n then some []
  else some (Text.formOf expansions shifts c)

def fold? (cs : List Char) : Option (List Char) := do
  return Text.normal (← cs.mapM foldChar?).flatten

def mark : List Char := ['x', 'n', '-', '-']

def isAscii (cs : List Char) : Bool := cs.all Punycode.isBasic

def isLabel (label : List Char) : Bool :=
  label.length ≤ 1000 && label.head?.all (fun c => !Text.inRanges markRanges c.toNat) &&
    Joiner.fit label

def decoded? (code : List Char) : Option (List Char) := do
  if !isAscii code || code.isEmpty || code.getLast? = some '-' || 2000 < code.length then none
  else
    let label ← Punycode.decode? code
    if fold? label = some label && isLabel label then return label else none

def plainLabel? (label : List Char) : Option (List Char) :=
  if mark.isPrefixOf label then decoded? (label.drop mark.length)
  else if isAscii label || isLabel label then some label
  else none

def asciiLabel (label : List Char) : List Char :=
  if isAscii label then label else mark ++ Punycode.encode label

def ascii? (cs : List Char) : Option String := do
  let folded ← fold? cs
  if folded.any isForbidden then none
  else
    let labels := folded.splitOn '.'
    let plain ← labels.mapM plainLabel?
    if plain.any Direction.isFromRight && !plain.all Direction.fits then none
    else return String.ofList (List.intercalate ['.'] (labels.map asciiLabel))

def ofText? (cs : List Char) : Option String := do
  let text ← Text.ofBytes? (Text.percentDecode (Text.bytes cs))
  ascii? text.toList

end QueryModel.Domain
