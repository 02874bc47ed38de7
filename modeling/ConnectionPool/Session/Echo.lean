import ConnectionPool.Session.Delivery
import ConnectionPool.Session.Request

/-!
Contract: the echo session, which writes back every byte it reads.

Owns:
- the states of a session and what it asks in each;
- `Echo.play`, a whole session over a scripted channel, with every call it makes.

Does not own: the lines of a live server; see `Line`.
-/

namespace ConnectionPool

/-- Where an echo session stands. -/
inductive Echo where
  /-- About to ask whether it may go on. -/
  | asking
  /-- About to read. -/
  | reading
  /-- These bytes of the last read are not written back yet. -/
  | writing (rest : Bytes)
  /-- About to push out what it wrote. -/
  | flushing
  | finished
deriving DecidableEq, Repr

/-- One use of the channel, with its outcome. -/
inductive ChannelCall where
  | read (limit : Nat) (outcome : ReadOutcome)
  | write (offered : Nat) (outcome : WriteOutcome)
  | flush (outcome : FlushOutcome)
deriving DecidableEq, Repr

/-- What happened in a session over a scripted channel. -/
structure Transcript where
  /-- All uses of the channel, in order. -/
  calls : List ChannelCall := []
  /-- The bytes that the channel took. -/
  accepted : Bytes := []
  /-- How often the token was asked. -/
  polls : Nat := 0
  /-- The script as the session left it. -/
  script : Script := {}

namespace Echo

def bufferSize : Nat := 4096

/-- An interrupted read is retried after asking the token again; the end of the stream and any other
failure end the session. -/
def afterRead : ReadOutcome → Echo
  | .bytes [] => .finished
  | .bytes (byte :: bytes) => .writing (byte :: bytes)
  | .failed .interrupted => .asking
  | .failed _ => .finished

/-- A flush follows once all bytes of the last read were taken; a delivery that breaks ends the
session. -/
def afterWrite (rest : Bytes) (outcome : WriteOutcome) : Echo :=
  match Delivery.advance rest outcome with
  | .complete => .flushing
  | .remaining rest => .writing rest
  | .broken => .finished

def afterFlush : FlushOutcome → Echo
  | .done => .asking
  | .failed _ => .finished

def request : Echo → Request Echo
  | .asking => .poll fun goOn => if goOn then .reading else .finished
  | .reading => .read bufferSize afterRead
  | .writing rest => .write rest (afterWrite rest)
  | .flushing => .flush afterFlush
  | .finished => .finish

/-- States in the order in which a round goes through them, last first. -/
def rank : Echo → Nat
  | .finished => 0
  | .reading => 1
  | .asking => 2
  | .flushing => 3
  | .writing _ => 4

/-- Bytes of the current read that are still to be written. -/
def backlog : Echo → Nat
  | .writing rest => rest.length
  | _ => 0

/-- An attempt that leaves bytes to write took some of them or used up an item of the script. -/
private theorem backlog_decreases {rest left : Bytes} {script : Script}
    (unfinished : Delivery.advance rest (script.write rest.length).1 = .remaining left) :
    left.length + (script.write rest.length).2.writes.length <
      rest.length + script.writes.length := by
  unfold Delivery.advance Script.write at unfinished
  unfold Script.write
  split at unfinished
  · next count accepted =>
      split at unfinished
      · contradiction
      · split at unfinished
        · cases unfinished
          split <;> simp_all
          omega
        · contradiction
  · next interrupted =>
      cases unfinished
      split <;> simp_all
  · contradiction

private theorem afterWrite_decreases {rest : Bytes} {script : Script} :
    (afterWrite rest (script.write rest.length).1).rank < 4 ∨
      (afterWrite rest (script.write rest.length).1).rank = 4 ∧
        (afterWrite rest (script.write rest.length).1).backlog +
            (script.write rest.length).2.writes.length <
          rest.length + script.writes.length := by
  unfold afterWrite
  split
  · exact Or.inl (by simp [rank])
  · next left unfinished => exact Or.inr ⟨rfl, backlog_decreases unfinished⟩
  · exact Or.inl (by simp [rank])

def play (script : Script) (state : Echo) : Transcript :=
  match state with
  | .asking =>
      let answer := script.poll
      let later := play answer.2 (if answer.1 then .reading else .finished)
      { later with polls := later.polls + 1 }
  | .reading =>
      let answer := script.read bufferSize
      let later : Transcript :=
        match _outcome : answer.1 with
        | .bytes [] => { script := answer.2 }
        | .bytes (byte :: bytes) => play answer.2 (.writing (byte :: bytes))
        | .failed kind => play answer.2 (afterRead (.failed kind))
      { later with calls := .read bufferSize answer.1 :: later.calls }
  | .writing rest =>
      let answer := script.write rest.length
      let later := play answer.2 (afterWrite rest answer.1)
      { later with
        calls := .write rest.length answer.1 :: later.calls
        accepted := Delivery.taken rest answer.1 ++ later.accepted }
  | .flushing =>
      let answer := script.flush
      let later := play answer.2 (afterFlush answer.1)
      { later with calls := .flush answer.1 :: later.calls }
  | .finished => { script }
termination_by (script.unread, state.rank, state.backlog + script.writes.length)
decreasing_by
  · rw [Script.unread_poll]
    right; left
    split <;> simp [rank]
  · left
    exact Script.unread_read_lt (by decide) (by rw [_outcome]; simp)
  · left
    exact Script.unread_read_lt (by decide) (by rw [_outcome]; simp)
  · rw [Script.unread_write]
    right
    rcases @afterWrite_decreases rest script with lower | ⟨same, fewer⟩
    · left
      exact lower
    · rw [same]
      right
      exact fewer
  · rw [Script.unread_flush]
    right; left
    cases script.flush.1 <;> simp [afterFlush, rank]

def session (script : Script) : Transcript :=
  play script .asking

end Echo

end ConnectionPool
