import QueryModel.Address.Read
import QueryModel.Loading.Header
import QueryModel.Text.Quoted

/-!
# Where a schema is loaded from

A location with a scheme mark that reads as an address is one; any other location is a
path. Nothing is refused until the settings are checked.
-/

set_option autoImplicit false

namespace QueryModel

inductive Place where
  | file (path : String)
  | address (address : Address)
  deriving DecidableEq, Repr

structure SourceSettings where
  location : String
  place : Place
  /-- How long a request may take, in milliseconds. -/
  timeout : Nat
  userAgent : String
  verifiesCertificates : Bool
  headers : Headers
  deriving DecidableEq, Repr

namespace SourceSettings

def hasSchemeMark : List Char → Bool
  | [] => false
  | c :: cs => [':', '/', '/'].isPrefixOf (c :: cs) || hasSchemeMark cs

def placeOf (location : String) : Place :=
  if hasSchemeMark location.toList then
    match Address.read location with
    | .ok address => .address address
    | .error _ => .file location
  else .file location

def defaultUserAgent : String := "gql-codegen-core/0.1.0 (Rust)"

def ofLocation (location : String) : SourceSettings :=
  ⟨location, placeOf location, 30000, defaultUserAgent, true, []⟩

def isRemote (s : SourceSettings) : Bool :=
  match s.place with
  | .file _ => false
  | .address _ => true

def withTimeout (s : SourceSettings) (timeout : Nat) : SourceSettings :=
  { s with timeout := timeout }

def withUserAgent (s : SourceSettings) (userAgent : String) : SourceSettings :=
  { s with userAgent := userAgent }

def withVerification (s : SourceSettings) (verifies : Bool) : SourceSettings :=
  { s with verifiesCertificates := verifies }

def withHeader (s : SourceSettings) (h : Header) : SourceSettings :=
  { s with headers := Headers.set s.headers h }

def withHeaders (s : SourceSettings) (hs : Headers) : SourceSettings :=
  { s with headers := Headers.setAll s.headers hs }

def withHeaderText (s : SourceSettings) (text : String) : Except Error SourceSettings :=
  match Header.ofText text with
  | .ok h => .ok (s.withHeader h)
  | .error fault => .error (.config fault)

def withHeaderTexts (s : SourceSettings) (texts : List String) : Except Error SourceSettings :=
  texts.foldlM withHeaderText s

def addressFault? (s : SourceSettings) : Option AddressFault :=
  if hasSchemeMark s.location.toList then
    match Address.read s.location with
    | .ok _ => none
    | .error fault => some fault
  else none

/-- An address needs a scheme that requests can use. A path must not be empty or look
like an address. -/
def check (s : SourceSettings) : Except Error Unit :=
  match s.place with
  | .address address =>
    if address.scheme = "http" || address.scheme = "https" then .ok ()
    else .error (.config (.scheme address.scheme))
  | .file path =>
    match s.addressFault? with
    | some fault => .error (.address fault)
    | none => if path.isEmpty then .error (.config .emptyLocation) else .ok ()

/-! ## Description -/

def durationText (milliseconds : Nat) : String :=
  if milliseconds = 0 then "0ns"
  else if milliseconds < 1000 then toString milliseconds ++ "ms"
  else
    let rest := milliseconds % 1000
    let digits := (toString (1000 + rest)).toList.drop 1
    let shown := (digits.reverse.dropWhile (· == '0')).reverse
    toString (milliseconds / 1000) ++
      (if shown.isEmpty then "" else "." ++ String.ofList shown) ++ "s"

def description? (s : SourceSettings) : Option String :=
  match s.place with
  | .address _ => none
  | .file path =>
    some ("SourceConfig \x7b source: File(" ++ Text.quotedText path ++ "), timeout: " ++
      durationText s.timeout ++ ", user_agent: " ++ Text.quotedText s.userAgent ++
      ", verify_ssl: " ++ (if s.verifiesCertificates then "true" else "false") ++
      ", extra_headers: " ++ toString s.headers.length ++ " \x7d")

end SourceSettings

end QueryModel
