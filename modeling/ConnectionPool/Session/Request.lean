import ConnectionPool.Channel

/-!
Contract: sessions as machines that ask their surroundings for one thing at a time.

Owns: the type `Request` of what a session can ask, each with the state in which every answer puts it.

Does not own: particular protocols, and the channels that answer.
-/

namespace ConnectionPool

/-- What a session in some state asks next. -/
inductive Request (State : Type) where
  /-- May the session go on? -/
  | poll (next : Bool → State)
  /-- Read at most `limit` bytes. -/
  | read (limit : Nat) (next : ReadOutcome → State)
  /-- Write some of `data`. -/
  | write (data : Bytes) (next : WriteOutcome → State)
  /-- Push out what was written. -/
  | flush (next : FlushOutcome → State)
  /-- Nothing more: the session is over. -/
  | finish

def Request.map {State Image : Type} (rename : State → Image) : Request State → Request Image
  | .poll next => .poll fun answer => rename (next answer)
  | .read limit next => .read limit fun outcome => rename (next outcome)
  | .write data next => .write data fun outcome => rename (next outcome)
  | .flush next => .flush fun outcome => rename (next outcome)
  | .finish => .finish

end ConnectionPool
