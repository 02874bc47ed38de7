import ConnectionPool.Machine
import ConnectionPool.Transport.Network
import ConnectionPool.Transport.SocketFile

/-!
Contract: a transport of any kind on a machine.

Owns:
- the type `Transport`, and `Transport.forAddress?`, the transport of an address;
- listening and listening no more, with what they do to the machine.

Does not own: the connections that a listener accepts.
-/

namespace ConnectionPool

/-- A transport. -/
inductive Transport where
  | network (transport : NetworkTransport)
  | socketFile (transport : SocketFileTransport)
deriving DecidableEq, Repr

namespace Transport

/-- The transport of an address. An encrypted address needs settings for it; other addresses ignore them. -/
def forAddress? (address : ServerAddress) (tls : Option TlsSettings) : Option Transport :=
  match address with
  | .tcp endpoint => some (.network { endpoint })
  | .ssl endpoint => tls.map fun settings => .network { endpoint, tls := some settings }
  | .localSocket path => some (.socketFile { path })

def address : Transport → String
  | .network transport => transport.address
  | .socketFile transport => transport.address

/-- The number of the listener, while there is one. -/
def listener : Transport → Option Nat
  | .network transport => transport.listener
  | .socketFile transport => transport.listener

def isListening (transport : Transport) : Bool :=
  transport.listener.isSome

/-- Begins to listen. Gives the machine also where it fails. -/
def listen (transport : Transport) (machine : Machine) : Except TransportError Transport × Machine :=
  match transport with
  | .network transport =>
      match transport.listen machine.opened (machine.bound transport.endpoint) with
      | .error cause => (.error cause, machine)
      | .ok listening =>
          (.ok (.network listening), machine.openOn transport.endpoint listening.endpoint)
  | .socketFile transport =>
      let answer := transport.listen machine.opened machine.files
      match answer.1 with
      | .error cause => (.error cause, { machine with files := answer.2 })
      | .ok listening => (.ok (.socketFile listening), machine.openAmong answer.2)

def unlisten (transport : Transport) (machine : Machine) : Transport × Machine :=
  match transport with
  | .network transport =>
      match transport.listener with
      | none => (.network transport, machine)
      | some listener => (.network transport.unlisten, machine.close listener)
  | .socketFile transport =>
      let answer := transport.unlisten machine.files
      (.socketFile answer.1, { machine with files := answer.2 })

def setAddress (text : String) : Transport → Except TransportError Transport
  | .network transport => (transport.setAddress text).map .network
  | .socketFile transport => (transport.setAddress text).map .socketFile

/-- The listener that a client of the transport's address reaches. Clients on the machine itself reach
socket files only. -/
def reached? (transport : Transport) (machine : Machine) : Option Nat :=
  match transport with
  | .network _ => none
  | .socketFile transport => machine.files.listenerAt? transport.path

end Transport

end ConnectionPool
