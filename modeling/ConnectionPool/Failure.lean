import ConnectionPool.Address.ServerAddress
import ConnectionPool.Options

/-!
Contract: why a transport cannot listen and why a server cannot be made or started.

Owns: the causes, their messages, and the chain of causes behind each.

Does not own: what the operating system says, which arrives here as text.
-/

namespace ConnectionPool

/-- Why a transport cannot listen or take an address. -/
inductive TransportError where
  /-- The system refuses the address. -/
  | bind (address why : String)
  | alreadyListening (address : String)
  /-- The text is no address of the transport. -/
  | malformed (cause : AddressError)
  | unsupported (name : String)
  | tls (why : String)
  | io (why : String)
deriving DecidableEq, Repr

namespace TransportError

def message : TransportError → String
  | .bind address why => "failed to listen on " ++ address ++ ": " ++ why
  | .alreadyListening address => "transport is already listening on " ++ address
  | .malformed cause => cause.message
  | .unsupported name => name ++ " transport is not supported on this platform"
  | .tls why => "TLS configuration error: " ++ why
  | .io why => "transport I/O error: " ++ why

/-- The messages of the deeper causes, the nearest first. An address error stands for itself. -/
def causes : TransportError → List String
  | .bind _ why => [why]
  | .alreadyListening _ => []
  | .malformed _ => []
  | .unsupported _ => []
  | .tls _ => []
  | .io why => [why]

end TransportError

/-- Why a server cannot be made or started. -/
inductive ServerError where
  | unusable (cause : OptionsError)
  /-- A stop is still under way. -/
  | stopping
  | listen (cause : TransportError)
deriving DecidableEq, Repr

namespace ServerError

def message : ServerError → String
  | .unusable cause => "invalid server options: " ++ cause.message
  | .stopping => "server is stopping"
  | .listen cause => "failed to start listening: " ++ cause.message

/-- The messages of the deeper causes, the nearest first. -/
def causes : ServerError → List String
  | .unusable cause => [cause.message]
  | .stopping => []
  | .listen cause => cause.message :: cause.causes

end ServerError

end ConnectionPool
