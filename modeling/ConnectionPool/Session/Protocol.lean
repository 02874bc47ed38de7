import ConnectionPool.Session.Counted
import ConnectionPool.Session.Echo
import ConnectionPool.Worker

/-!
Contract: the protocols that a server can be given, and the sessions they hold.

Owns:
- the type `Protocol`;
- the type `Dialogue`, a session of any of the protocols.

Does not own: the pool's decision which worker holds a session.
-/

namespace ConnectionPool

/-- What the workers of a server speak. -/
inductive Protocol where
  /-- Echo sessions on one instance for all workers. -/
  | echo
  /-- Counted sessions on one instance for all workers. -/
  | shared
  /-- Counted sessions on an instance for every worker. -/
  | forked
deriving DecidableEq, Repr

/-- A session of any protocol. -/
inductive Dialogue where
  | echo (state : Echo)
  | counted (state : Counted)
deriving DecidableEq, Repr

/-- The number by which an instance of the counted protocol calls itself. -/
def ProtocolInstance.number : ProtocolInstance → Nat
  | .prototype => 0
  | .own number => number

namespace Protocol

/-- The protocol makes an instance for every worker. -/
def forks : Protocol → Bool
  | .echo => false
  | .shared => false
  | .forked => true

/-- How session number `session` of an instance begins. -/
def begin (protocol : Protocol) (runsOn : ProtocolInstance) (session : Nat) : Dialogue :=
  match protocol with
  | .echo => .echo .asking
  | .shared => .counted (Counted.start runsOn.number session)
  | .forked => .counted (Counted.start runsOn.number session)

end Protocol

namespace Dialogue

def request : Dialogue → Request Dialogue
  | .echo state => state.request.map .echo
  | .counted state => state.request.map .counted

/-- A cancellation wakes the session while it waits for something to read. -/
def wakesOnCancellation : Dialogue → Bool
  | .echo _ => false
  | .counted _ => true

end Dialogue

end ConnectionPool
