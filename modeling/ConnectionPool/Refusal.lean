import ConnectionPool.Session.Delivery
import ConnectionPool.Session.Request

/-!
Contract: telling a connection that there is no room for it.

Owns:
- the messages that a refused connection can be told;
- `Refusal`, the machine that writes such a message, pushes it out once and never reads.

Does not own: which connections are refused, which is the pool's decision.
-/

namespace ConnectionPool

/-- What a refused connection is told when neither the options nor the protocol have a message. -/
def genericBusyMessage : Bytes := Bytes.ofText "Server busy\n"

/-- A busy message for connections that speak HTTP. -/
def httpBusyMessage : Bytes := Bytes.ofText "HTTP/1.1 503 Service Unavailable\r\n\r\n"

/-- The message of the options comes first, even an empty one, then that of the protocol. -/
def busyMessage (ofOptions ofProtocol : Option Bytes) : Bytes :=
  (ofOptions.or ofProtocol).getD genericBusyMessage

/-- Where a refusal stands. -/
inductive Refusal where
  /-- These bytes of the message were not taken yet. -/
  | telling (rest : Bytes)
  /-- The whole message was taken. -/
  | flushing
  | finished
deriving DecidableEq, Repr

namespace Refusal

/-- An empty message needs no write. -/
def start (message : Bytes) : Refusal :=
  if message.isEmpty then .flushing else .telling message

/-- A message that cannot be delivered ends the refusal without a flush. -/
def afterWrite (rest : Bytes) (outcome : WriteOutcome) : Refusal :=
  match Delivery.advance rest outcome with
  | .complete => .flushing
  | .remaining rest => .telling rest
  | .broken => .finished

/-- What a refusal asks of the channel in each state. -/
def request : Refusal → Request Refusal
  | .telling rest => .write rest (afterWrite rest)
  | .flushing => .flush fun _ => .finished
  | .finished => .finish

end Refusal

end ConnectionPool
