import QueryModel.Syntax.Executable
import QueryModel.Syntax.Reader

/-!
# Errors and messages

What can go wrong from the location of a schema to a finished model, with the wording
of each cause in one place. The messages that building a model leaves are its journal; a
message may carry the finished result, which is made only when details are asked for.
-/

set_option autoImplicit false

namespace QueryModel

inductive AddressFault where
  | relative
  | emptyHost
  | port
  | ipv4
  | ipv6
  | domain
  | hostCharacter
  deriving DecidableEq, Repr

def AddressFault.message : AddressFault → String
  | .relative => "relative URL without a base"
  | .emptyHost => "empty host"
  | .port => "invalid port number"
  | .ipv4 => "invalid IPv4 address"
  | .ipv6 => "invalid IPv6 address"
  | .domain => "invalid international domain name"
  | .hostCharacter => "invalid domain character"

inductive ReadFault where
  | missing
  | throughFile
  | directory
  | notText
  | denied
  | nameTooLong
  | nulInName
  | noData
  deriving DecidableEq, Repr

def ReadFault.message : ReadFault → String
  | .missing => "No such file or directory (os error 2)"
  | .throughFile => "Not a directory (os error 20)"
  | .directory => "Is a directory (os error 21)"
  | .notText => "stream did not contain valid UTF-8"
  | .denied => "Permission denied (os error 13)"
  | .nameTooLong => "File name too long (os error 36)"
  | .nulInName => "file name contained an unexpected NUL byte"
  | .noData => "Input/output error (os error 5)"

inductive ConfigFault where
  | scheme (found : String)
  | emptyLocation
  | headerShape (raw : String)
  | headerName (name : String)
  | headerValue (name : String)
  deriving DecidableEq, Repr

def ConfigFault.message : ConfigFault → String
  | .scheme found => "invalid url scheme: " ++ found ++ ". must be http or https"
  | .emptyLocation => "schema location cannot be empty"
  | .headerShape raw => "invalid header, expected name:value: " ++ raw
  | .headerName name => "invalid header name " ++ name ++ ": invalid HTTP header name"
  | .headerValue name =>
    "invalid header value for " ++ name ++ ": failed to parse header value"

inductive Grammar where
  | schema
  | query
  deriving DecidableEq, Repr

def Grammar.text : Grammar → String
  | .schema => "schema"
  | .query => "query"

def Grammar.message (g : Grammar) (failure : Syntax.Failure) : String :=
  g.text ++ " parse error: " ++ failure.message

inductive Error where
  | config (fault : ConfigFault)
  | address (fault : AddressFault)
  /-- No answer came over the network. -/
  | transport
  | read (path : String) (fault : ReadFault)
  | status (code : Nat) (body : String)
  | parse (source : String) (grammar : Grammar) (failure : Syntax.Failure)
  /-- A type of no kind, or an extension of another kind than its type. -/
  | classification (name : String)
  | unknownType (name : String)
  | unknownField (parent field : String)
  | missingRootType (kind : OperationKind)
  deriving DecidableEq, Repr

def Error.message : Error → String
  | .config fault => "config error: " ++ fault.message
  | .address fault => "url error: " ++ fault.message
  | .transport => "http error"
  | .read path fault => "failed to read " ++ path ++ ": " ++ fault.message
  | .status code body => "unexpected http status " ++ toString code ++ ": " ++ body
  | .parse source grammar failure =>
    "failed to parse " ++ source ++ ": " ++ grammar.message failure
  | .classification name => "unexpected graphql type definition: " ++ name
  | .unknownType name => "unknown type: " ++ name
  | .unknownField parent field => "unknown field " ++ field ++ " on type " ++ parent
  | .missingRootType kind => "schema has no root type for " ++ kind.text ++ " operations"

inductive Message where
  | debug (text : String) (payload : Option Json)
  | warn (text : String)
  deriving DecidableEq, Repr

abbrev Journal := List Message

end QueryModel
