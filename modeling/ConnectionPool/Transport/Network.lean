import ConnectionPool.Failure
import ConnectionPool.Files.Tree
import ConnectionPool.Tls.Settings

/-!
Contract: the transport of an endpoint, plain or encrypted.

Owns: the type `NetworkTransport` with `listen`, `unlisten` and `setAddress`.

Does not own: what the machine answers to a request to listen, which `listen` is given.
-/

namespace ConnectionPool

/-- Listens on an endpoint. -/
structure NetworkTransport where
  endpoint : Endpoint
  /-- Every session begins with a handshake under these settings. -/
  tls : Option TlsSettings := none
  /-- The number of its listener while it listens. -/
  listener : Option Nat := none
deriving DecidableEq, Repr

namespace NetworkTransport

def address (transport : NetworkTransport) : String :=
  transport.endpoint.text

/-- Begins to listen with a new listener. `bound` is what the request to listen on the endpoint gives; the
transport takes over the endpoint that it got. -/
def listen (listener : Nat) (bound : Except FileError Endpoint) (transport : NetworkTransport) :
    Except TransportError NetworkTransport :=
  match transport.listener with
  | some _ => .error (.alreadyListening transport.address)
  | none =>
      match bound with
      | .error cause => .error (.bind transport.address cause.message)
      | .ok endpoint => .ok { transport with endpoint, listener := some listener }

/-- Listens no more. The address stays. -/
def unlisten (transport : NetworkTransport) : NetworkTransport :=
  { transport with listener := none }

/-- Takes another address, which has to be one and cannot be taken while listening. -/
def setAddress (text : String) (transport : NetworkTransport) :
    Except TransportError NetworkTransport :=
  match Endpoint.parse text with
  | .error cause => .error (.malformed cause)
  | .ok endpoint =>
      match transport.listener with
      | some _ => .error (.alreadyListening transport.address)
      | none => .ok { transport with endpoint }

end NetworkTransport

end ConnectionPool
