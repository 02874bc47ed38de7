import ConnectionPool.Directory
import ConnectionPool.Transport

/-!
Contract: why a server cannot be launched from an address.

Owns:
- the causes, their messages, and the chain of causes behind each;
- `Transport.forAddress`, the transport of an address or the cause for which it has none.

Does not own: the launch; see `Deployment`.
-/

namespace ConnectionPool

/-- Why a server cannot be launched. -/
inductive LaunchError where
  | malformed (cause : AddressError)
  /-- The address is encrypted and there are no settings for that. -/
  | missingTls (address : String)
  | server (cause : ServerError)
  | name (cause : DirectoryError)
deriving DecidableEq, Repr

namespace LaunchError

def message : LaunchError → String
  | .malformed cause => "invalid address: " ++ cause.message
  | .missingTls address => address ++ " requires TLS settings"
  | .server cause => cause.message
  | .name cause => cause.message

/-- The messages of the deeper causes, the nearest first. A server's or a directory's error stands for
itself. -/
def causes : LaunchError → List String
  | .malformed cause => [cause.message]
  | .missingTls _ => []
  | .server cause => cause.causes
  | .name _ => []

end LaunchError

/-- The transport of an address, if it has the settings it needs. -/
def Transport.forAddress (address : ServerAddress) (tls : Option TlsSettings) :
    Except LaunchError Transport :=
  match Transport.forAddress? address tls with
  | some transport => .ok transport
  | none => .error (.missingTls address.text)

end ConnectionPool
