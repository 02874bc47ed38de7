import ConnectionPool.Address.Endpoint

/-!
Contract: the addresses that a server can be given.

Owns:
- the type `ServerAddress` and the causes for which a text is no address;
- `ServerAddress.parse`, which splits at the first `://` and reads the scheme without regard to ASCII
  case;
- `ServerAddress.text`, the canonical form.

Does not own: listening.
-/

namespace ConnectionPool

open Text

/-- Why a text is not an address. -/
inductive AddressError where
  | missingScheme (uri : String)
  | unknownScheme (scheme : String)
  | invalidEndpoint (rest : String)
  | trailingSlash (rest : String)
  | emptyLocalName
deriving DecidableEq, Repr

def AddressError.message : AddressError → String
  | .missingScheme uri =>
      "address `" ++ uri ++ "` has no scheme (expected tcp://, ssl:// or local://)"
  | .unknownScheme scheme => "unknown address scheme `" ++ scheme ++ "`"
  | .invalidEndpoint rest =>
      "invalid TCP address `" ++ rest ++ "`: expected <ipv4>:<port> or [<ipv6>]:<port>"
  | .trailingSlash rest => "TCP address `" ++ rest ++ "` must not end with a slash"
  | .emptyLocalName => "local socket name is empty"

/-- Where a server listens: a plain endpoint, an encrypted endpoint, or a socket file. -/
inductive ServerAddress where
  | tcp (endpoint : Endpoint)
  | ssl (endpoint : Endpoint)
  | localSocket (name : String)
deriving DecidableEq, Repr

/-- Reads the endpoint of a TCP address. A slash at the end is reported before any other fault. -/
def Endpoint.parse (rest : String) : Except AddressError Endpoint :=
  if rest.toList.getLast? = some '/' then
    .error (.trailingSlash rest)
  else
    match Endpoint.read? rest.toList with
    | some endpoint => .ok endpoint
    | none => .error (.invalidEndpoint rest)

namespace ServerAddress

/-- Reads `scheme://rest`. The scheme is one of `tcp`, `ssl`, `tls` and `local` in any ASCII case, and
`tls` means the same as `ssl`. -/
def parse (uri : String) : Except AddressError ServerAddress :=
  match cut? "://".toList uri.toList with
  | none => .error (.missingScheme uri)
  | some (written, rest) =>
      let scheme := String.ofList (written.map Char.toLower)
      let rest := String.ofList rest
      if scheme = "tcp" then
        (Endpoint.parse rest).map .tcp
      else if scheme = "ssl" ∨ scheme = "tls" then
        (Endpoint.parse rest).map .ssl
      else if scheme = "local" then
        if rest.isEmpty then .error .emptyLocalName else .ok (.localSocket rest)
      else
        .error (.unknownScheme scheme)

def scheme : ServerAddress → String
  | .tcp _ => "tcp"
  | .ssl _ => "ssl"
  | .localSocket _ => "local"

/-- The part behind `://` in canonical form. -/
def rest : ServerAddress → String
  | .tcp endpoint => endpoint.text
  | .ssl endpoint => endpoint.text
  | .localSocket name => name

def text (address : ServerAddress) : String :=
  address.scheme ++ "://" ++ address.rest

def isEncrypted : ServerAddress → Bool
  | .ssl _ => true
  | .tcp _ => false
  | .localSocket _ => false

end ServerAddress

end ConnectionPool
