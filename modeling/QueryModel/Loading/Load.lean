import QueryModel.Document.Transform
import QueryModel.Loading.Settings
import QueryModel.Schema.Ingest
import QueryModel.Text.Encoding

/-!
# Loading schemas and documents

The surroundings tell what a path holds and what a request is answered with. A schema at
an address is asked for once. The request accepts everything unless a header says
otherwise and always bears the user agent of the settings. A reply counts when its status
is one of success.
-/

set_option autoImplicit false

namespace QueryModel

structure Request where
  address : Address
  headers : Headers
  deriving DecidableEq, Repr

namespace Request

def ofSettings? (s : SourceSettings) (address : Address) : Option Request :=
  if Header.isValue s.userAgent.toList then
    let headers := s.headers.foldl Headers.set [⟨"accept", "*/*"⟩]
    some ⟨address, Headers.set headers ⟨"user-agent", s.userAgent⟩⟩
  else none

def line (r : Request) : String := "GET " ++ r.address.target ++ " HTTP/1.1"

end Request

structure Reply where
  status : Nat
  body : List UInt8
  deriving DecidableEq, Repr

namespace Reply

/-- Two statuses come without a body whatever follows them. -/
def text (r : Reply) : String :=
  if r.status = 204 || r.status = 304 then "" else Text.bodyText r.body

/-- A status below two hundred announces another reply, which never comes. -/
def result (r : Reply) : Except Error String :=
  if r.status < 200 then .error .transport
  else if r.status ≤ 299 then .ok r.text
  else .error (.status r.status r.text)

end Reply

structure Surroundings where
  read : String → Except ReadFault String
  /-- The reply to a request, if one comes. -/
  ask : Request → Option Reply

namespace Surroundings

def readFile (w : Surroundings) (path : String) : Except Error String :=
  match w.read path with
  | .ok text => .ok text
  | .error fault => .error (.read path fault)

def fetch (w : Surroundings) (s : SourceSettings) (address : Address) : Except Error String :=
  match (Request.ofSettings? s address).bind w.ask with
  | some reply => reply.result
  | none => .error .transport

def loadText (w : Surroundings) (s : SourceSettings) : Except Error String := do
  s.check
  match s.place with
  | .file path => w.readFile path
  | .address address => w.fetch s address

def loadSchema (w : Surroundings) (s : SourceSettings) : Except Error Schema := do
  Schema.read s.location (← w.loadText s)

def loadDocuments (w : Surroundings) (paths : List String) : Except Error (List Source) :=
  paths.mapM fun path => do return ⟨some path, ← w.readFile path⟩

end Surroundings

end QueryModel
