import ComponentCompiler.Value.Display

namespace ComponentCompiler

/-!
# Addresses

An address names a place on the network: a scheme, a host with a port number, a path,
a query and a fragment.  Each part may be left out; an address with a scheme and
a host is absolute.
-/

/-- Why a text is no address. -/
inductive AddressFault where
  | tooLong
  | control (character : Char) (position : Nat)
  | portNumber (text : String)
  | fourByteHost (host : String)
  | sixteenByteHost (host : String)
  | namedHost (host : String)
  | pathWithoutSlash
  | pathWithSlashes
  | pathWithColon
deriving DecidableEq, Repr

/-- The message of a fault. -/
def AddressFault.message : AddressFault → String
  | .tooLong => "URL too long"
  | .control character position =>
    "Invalid non-printable ASCII character in URL, " ++ displayQuoted (String.ofList [character]) ++
      " at position " ++ toString position ++ "."
  | .portNumber text => "Invalid port: " ++ displayQuoted text
  | .fourByteHost host => "Invalid IPv4 address: " ++ displayQuoted host
  | .sixteenByteHost host => "Invalid IPv6 address: " ++ displayQuoted host
  | .namedHost host => "Invalid IDNA hostname: " ++ displayQuoted host
  | .pathWithoutSlash => "For absolute URLs, path must be empty or begin with '/'"
  | .pathWithSlashes => "Relative URLs cannot have a path starting with '//'"
  | .pathWithColon => "Relative URLs cannot have a path starting with ':'"

/-- An address. -/
structure Address where
  scheme : String
  user : String
  host : String
  portNumber : Option Int
  path : String
  query : Option String
  fragment : Option String
deriving DecidableEq, Repr

namespace Address

/-- Whether an address says where it leads without another one. -/
def isAbsolute (address : Address) : Bool :=
  !address.scheme.isEmpty && !address.host.isEmpty

/-- The text of the host with its user and port number. -/
def authority (address : Address) : String :=
  (if address.user.isEmpty then "" else address.user ++ "@") ++
    (if address.host.toList.contains ':' then "[" ++ address.host ++ "]" else address.host) ++
    ((address.portNumber.map fun portNumber => ":" ++ toString portNumber).getD "")

/-- The text of an address. -/
def text (address : Address) : String :=
  (if address.scheme.isEmpty then "" else address.scheme ++ ":") ++
    (if address.authority.isEmpty then "" else "//" ++ address.authority) ++ address.path ++
    ((address.query.map fun query => "?" ++ query).getD "") ++
    ((address.fragment.map fun fragment => "#" ++ fragment).getD "")

end Address
end ComponentCompiler
