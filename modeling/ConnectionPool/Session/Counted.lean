import ConnectionPool.Session.Delivery
import ConnectionPool.Session.Request
import ConnectionPool.Text.Numeral

/-!
Contract: the counted session, which says who serves it and answers in capitals.

A session opens with the number of its protocol instance and its own number among the sessions of that
instance, answers everything it reads in capitals, and takes its leave with a word that tells why it ended.

Owns: the states of a session and what it asks in each.

Does not own: the numbers, which whoever runs the sessions keeps.
-/

namespace ConnectionPool

/-- Where a counted session stands. -/
inductive Counted where
  /-- These bytes are not written yet; after the last words the session is over. -/
  | saying (rest : Bytes) (last : Bool)
  /-- About to ask whether it may go on. -/
  | asking
  /-- About to read. -/
  | reading
  | finished
deriving DecidableEq, Repr

namespace Counted

def bufferSize : Nat := 64

/-- What follows words that were said, or could not be. -/
def afterWords (last : Bool) : Counted :=
  if last then .finished else .asking

/-- Starts saying `words`. -/
def say (words : Bytes) (last : Bool) : Counted :=
  if words.isEmpty then afterWords last else .saying words last

/-- The first session of instance 2 opens with `i2s1;`. -/
def greeting (number session : Nat) : Bytes :=
  Bytes.ofText ("i" ++ Text.Numeral.decimal number ++ "s" ++ Text.Numeral.decimal session ++ ";")

/-- How session number `session` of protocol instance `number` begins. -/
def start (number session : Nat) : Counted :=
  say (greeting number session) false

def afterWrite (rest : Bytes) (last : Bool) (outcome : WriteOutcome) : Counted :=
  match Delivery.advance rest outcome with
  | .remaining rest => .saying rest last
  | .complete => afterWords last
  | .broken => afterWords last

/-- A read that would block was woken by a cancellation, so the token is asked again. -/
def afterRead : ReadOutcome → Counted
  | .bytes [] => say (Bytes.ofText "bye") true
  | .bytes (byte :: bytes) => say (Bytes.capitalised (byte :: bytes)) false
  | .failed .wouldBlock => .asking
  | .failed _ => say (Bytes.ofText "error") true

def request : Counted → Request Counted
  | .saying rest last => .write rest (afterWrite rest last)
  | .asking => .poll fun goOn => if goOn then .reading else say (Bytes.ofText "cancelled") true
  | .reading => .read bufferSize afterRead
  | .finished => .finish

end Counted

end ConnectionPool
