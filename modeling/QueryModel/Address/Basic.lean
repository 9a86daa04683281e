import QueryModel.Address.Host

/-!
# Addresses

The parts of an absolute address and its text. Parts are kept in the form in which they
are written.
-/

set_option autoImplicit false

namespace QueryModel

structure Credentials where
  user : String
  password : String
  deriving DecidableEq, Repr

def Credentials.text (c : Credentials) : String :=
  if c.user.isEmpty && c.password.isEmpty then ""
  else c.user ++ (if c.password.isEmpty then "" else ":" ++ c.password) ++ "@"

structure Authority where
  credentials : Credentials
  host : Host
  /-- The port unless it is the usual one of the scheme. -/
  port : Option Nat
  deriving DecidableEq, Repr

def Authority.text (a : Authority) : String :=
  "//" ++ a.credentials.text ++ a.host.text ++
    (a.port.map fun p => ":" ++ toString p).getD ""

inductive AddressPath where
  /-- A text without steps, which nothing can be relative to. -/
  | flat (text : String)
  | steps (segments : List String)
  deriving DecidableEq, Repr

def AddressPath.text : AddressPath → String
  | .flat text => text
  | .steps segments => String.join (segments.map ("/" ++ ·))

structure Address where
  scheme : String
  authority : Option Authority
  path : AddressPath
  query : Option String
  fragment : Option String
  deriving DecidableEq, Repr

namespace Address

/-- What stands before a path that would otherwise be taken for an authority. -/
def pathGuard (a : Address) : String :=
  match a.authority, a.path with
  | none, .steps ("" :: _ :: _) => "/."
  | _, _ => ""

def text (a : Address) : String :=
  a.scheme ++ ":" ++ (a.authority.map Authority.text).getD "" ++ a.pathGuard ++ a.path.text ++
    (a.query.map ("?" ++ ·)).getD "" ++ (a.fragment.map ("#" ++ ·)).getD ""

def host? (a : Address) : Option String :=
  match a.authority with
  | some ⟨_, .empty, _⟩ => none
  | some authority => some authority.host.text
  | none => none

def port? (a : Address) : Option Nat := a.authority.bind (·.port)

def target (a : Address) : String := a.path.text ++ (a.query.map ("?" ++ ·)).getD ""

end Address

end QueryModel
