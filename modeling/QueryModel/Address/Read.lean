import QueryModel.Address.Basic

/-!
# Reading addresses

Spaces and control characters around an address and line breaks and tabs inside it do
not count. The scheme decides how the rest is read: the well-known schemes have a host,
take a backslash for a slash and know domains; the file scheme has at most a host; any
other scheme has an authority only after two slashes. Dot segments are resolved.
-/

set_option autoImplicit false

namespace QueryModel

inductive SchemeKind where
  | file
  | wellKnown
  | other
  deriving DecidableEq, Repr

namespace SchemeKind

def ofScheme (scheme : String) : SchemeKind :=
  if scheme = "file" then .file
  else if ["http", "https", "ws", "wss", "ftp"].contains scheme then .wellKnown
  else .other

def divides (kind : SchemeKind) (c : Char) : Bool := c == '/' || (kind != .other && c == '\\')

end SchemeKind

namespace Address

def defaultPort? (scheme : String) : Option Nat :=
  if scheme = "http" || scheme = "ws" then some 80
  else if scheme = "https" || scheme = "wss" then some 443
  else if scheme = "ftp" then some 21
  else none

/-! ## Characters that are percent-encoded -/

def isReservedInFragment (c : Char) : Bool :=
  Host.isControl c || " \"<>\x60".toList.contains c

def isReservedInPath (c : Char) : Bool :=
  isReservedInFragment c || "#?\x7b\x7d".toList.contains c

def isReservedInCredentials (c : Char) : Bool :=
  isReservedInPath c || "/:;=@[\\]^|".toList.contains c

def isReservedInQuery (kind : SchemeKind) (c : Char) : Bool :=
  Host.isControl c || " \"#<>".toList.contains c || (kind != .other && c == '\'')

/-! ## Paths -/

def isDot (segment : String) : Bool := [".", "%2e", "%2E"].contains segment

def isDoubleDot (segment : String) : Bool :=
  ["..", ".%2e", ".%2E", "%2e.", "%2E.", "%2e%2e", "%2e%2E", "%2E%2e", "%2E%2E"].contains segment

/-- A letter and a colon, or a bar for it. -/
def isDriveLetter : List Char → Bool
  | [letter, mark] => Text.isAsciiLetter letter && (mark == ':' || mark == '|')
  | _ => false

/-- The segments without the last one, unless that looks like a drive. -/
def parent (segments : List String) : List String :=
  if segments.getLast?.any fun last => isDriveLetter last.toList then segments
  else segments.dropLast

def driveSegment (kind : SchemeKind) (before : List String) (segment : String) : String :=
  if kind = .file && before.isEmpty && isDriveLetter segment.toList then
    String.ofList (segment.toList.take 1 ++ [':'])
  else segment

/-- The segments after `before` with the dot segments resolved. A dot segment at the end
leaves an empty segment. -/
def resolveAfter (kind : SchemeKind) (before : List String) : List String → List String
  | [] => before
  | segment :: rest =>
    if isDoubleDot segment then
      resolveAfter kind (parent before ++ if rest.isEmpty then [""] else []) rest
    else if isDot segment then
      resolveAfter kind (before ++ if rest.isEmpty then [""] else []) rest
    else resolveAfter kind (before ++ [driveSegment kind before segment]) rest

def steps (kind : SchemeKind) (cs : List Char) : List String :=
  resolveAfter kind [] ((cs.splitOnP kind.divides).map (Text.percentEncode isReservedInPath))

/-! ## The end of an address -/

structure Tail where
  path : List Char
  query : Option (List Char)
  fragment : Option (List Char)

def Tail.ofChars (cs : List Char) : Tail :=
  let beforeFragment := cs.takeWhile (· != '#')
  let fragment := (cs.dropWhile (· != '#')).tail?
  let path := beforeFragment.takeWhile (· != '?')
  ⟨path, (beforeFragment.dropWhile (· != '?')).tail?, fragment⟩

def assemble (scheme : String) (authority : Option Authority) (path : AddressPath)
    (tail : Tail) : Address :=
  ⟨scheme, authority, path,
    tail.query.map (Text.percentEncode (isReservedInQuery (.ofScheme scheme))),
    tail.fragment.map (Text.percentEncode isReservedInFragment)⟩

def dropLeadingDivider (kind : SchemeKind) : List Char → List Char
  | c :: cs => if kind.divides c then cs else c :: cs
  | [] => []

/-- The path after an authority; only a well-known scheme makes up a missing one. -/
def pathAfterAuthority (kind : SchemeKind) (cs : List Char) : AddressPath :=
  if kind = .other && cs.isEmpty then .steps []
  else .steps (steps kind (dropLeadingDivider kind cs))

/-! ## Authorities -/

/-- The text before the last at sign, if there is one, and the text after it. -/
def splitCredentials (cs : List Char) : Option (List Char) × List Char :=
  let after := (cs.reverse.takeWhile (· != '@')).reverse
  if after.length = cs.length then (none, cs)
  else (some (cs.take (cs.length - after.length - 1)), after)

def credentialsOf (cs : List Char) : Credentials :=
  let encode := Text.percentEncode isReservedInCredentials
  ⟨encode (cs.takeWhile (· != ':')), encode ((cs.dropWhile (· != ':')).drop 1)⟩

/-- The host up to a colon outside brackets, and the rest from that colon on. -/
def splitHost (inBrackets : Bool) : List Char → List Char × List Char
  | [] => ([], [])
  | c :: cs =>
    if c == ':' && !inBrackets then ([], c :: cs)
    else
      let (host, rest) := splitHost (c == '[' || (inBrackets && c != ']')) cs
      (c :: host, rest)

def portOf (scheme : String) (digits : List Char) : Except AddressFault (Option Nat) :=
  if digits.isEmpty then .ok none
  else
    match Text.digitsValue? 10 digits with
    | some port =>
      if 65535 < port then .error .port
      else .ok (if defaultPort? scheme = some port then none else some port)
    | none => .error .port

def withAuthority (scheme : String) (cs : List Char) : Except AddressFault Address := do
  let kind := SchemeKind.ofScheme scheme
  let inside := fun c : Char => !(kind.divides c || c == '?' || c == '#')
  let after := cs.dropWhile inside
  let (userinfo, rest) := splitCredentials (cs.takeWhile inside)
  if userinfo = some [] && rest.isEmpty && !after.isEmpty then throw .emptyHost
  let credentials := credentialsOf (userinfo.getD [])
  let (hostText, portText) := splitHost false rest
  if hostText.isEmpty && (kind = .wellKnown || !portText.isEmpty) then throw .emptyHost
  let host ← if kind = .wellKnown then Host.ofDomain hostText else Host.ofPlain hostText
  let port ← portOf scheme ((portText.drop 1).takeWhile (· != '\\'))
  if host = .empty && !credentials.text.isEmpty then throw .emptyHost
  let tail := Tail.ofChars ((portText.drop 1).dropWhile (· != '\\') ++ after)
  return assemble scheme (some ⟨credentials, host, port⟩) (pathAfterAuthority kind tail.path) tail

/-! ## The file scheme -/

/-- The address of a host and a path; the empty segments at its head are left out. A path
that starts with a drive has no host. -/
def fileAddress (host : Host) (path : List Char) (tail : Tail) : Address :=
  let segments := steps .file path
  let host := if segments.head?.any fun first => isDriveLetter first.toList then .empty else host
  let path := match segments.dropWhile (·.isEmpty) with
    | [] => [""]
    | rest => rest
  assemble "file" (some ⟨⟨"", ""⟩, host, none⟩) (.steps path) tail

def fileHost (cs : List Char) : Except AddressFault Host :=
  if cs.isEmpty then .ok .empty
  else do
    let host ← Host.ofDomain cs
    return if host = .name "localhost" then .empty else host

/-- Reads what follows the scheme. After two slashes stands a host or a drive. Without a
host the slash that starts the path counts as an empty segment. -/
def readFile (cs : List Char) : Except AddressFault Address :=
  let divides := SchemeKind.file.divides
  let inside := fun c : Char => !(divides c || c == '?' || c == '#')
  let plain := fun host cs =>
    let tail := Tail.ofChars cs
    fileAddress host (dropLeadingDivider .file tail.path) tail
  match cs with
  | a :: b :: rest =>
    if divides a && divides b then do
      let hostText := rest.takeWhile inside
      if isDriveLetter hostText then return plain .empty rest
      let host ← fileHost hostText
      if host = .empty then
        let tail := Tail.ofChars (rest.dropWhile inside)
        return fileAddress .empty tail.path tail
      else return plain host (rest.dropWhile inside)
    else .ok (plain .empty cs)
  | cs => .ok (plain .empty cs)

/-! ## The whole address -/

def isSchemeChar (c : Char) : Bool :=
  Text.isAsciiLetter c || Text.isAsciiDigit c || c == '+' || c == '-' || c == '.'

def splitScheme? (cs : List Char) : Option (String × List Char) :=
  match cs, cs.dropWhile isSchemeChar with
  | first :: _, ':' :: rest =>
    if Text.isAsciiLetter first then
      some (String.ofList ((cs.takeWhile isSchemeChar).map Text.asciiLower), rest)
    else none
  | _, _ => none

def readOther (scheme : String) (cs : List Char) : Except AddressFault Address :=
  match cs with
  | '/' :: '/' :: rest => withAuthority scheme rest
  | '/' :: rest =>
    let tail := Tail.ofChars rest
    .ok (assemble scheme none (.steps (steps .other tail.path)) tail)
  | cs =>
    let tail := Tail.ofChars cs
    .ok (assemble scheme none (.flat (Text.percentEncode Host.isControl tail.path)) tail)

def isOuter (c : Char) : Bool := c.toNat ≤ 0x20

def relevant (cs : List Char) : List Char :=
  (((cs.dropWhile isOuter).reverse.dropWhile isOuter).reverse).filter fun c =>
    c != '\t' && c != '\n' && c != '\r'

def read (text : String) : Except AddressFault Address :=
  match splitScheme? (relevant text.toList) with
  | none => .error .relative
  | some (scheme, rest) =>
    match SchemeKind.ofScheme scheme with
    | .file => readFile rest
    | .wellKnown => withAuthority scheme (rest.dropWhile fun c => c == '/' || c == '\\')
    | .other => readOther scheme rest

end Address

end QueryModel
