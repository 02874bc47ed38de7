import ConnectionPool.Channel

/-!
Contract: delivering a whole message over a channel that may take it in pieces.

Owns: the type `Delivery` and `Delivery.advance`, what one attempt leaves of a message.

Does not own: what a session does after a message was delivered or could not be.
-/

namespace ConnectionPool

/-- How far a message has come. -/
inductive Delivery where
  | complete
  /-- These bytes at the end of the message were not taken yet. -/
  | remaining (rest : Bytes)
  | broken
deriving DecidableEq, Repr

namespace Delivery

/-- An interrupted attempt is made again. An attempt that takes nothing, like any other failure, ends
the delivery. -/
def advance (rest : Bytes) : WriteOutcome → Delivery
  | .accepted count =>
      if count = 0 then .broken
      else if count < rest.length then .remaining (rest.drop count)
      else .complete
  | .failed .interrupted => .remaining rest
  | .failed _ => .broken

/-- The bytes that an attempt at delivering `offered` put on the channel. -/
def taken (offered : Bytes) : WriteOutcome → Bytes
  | .accepted count => offered.take count
  | .failed _ => []

/-- What an attempt took and what it leaves are together what it was given. -/
theorem taken_append_of_remaining {offered rest : Bytes} {outcome : WriteOutcome}
    (unfinished : advance offered outcome = .remaining rest) :
    taken offered outcome ++ rest = offered := by
  unfold advance at unfinished
  split at unfinished
  · next count =>
      split at unfinished
      · contradiction
      · split at unfinished
        · cases unfinished
          exact List.take_append_drop count offered
        · contradiction
  · cases unfinished
    rfl
  · contradiction

/-- A complete delivery put the whole message on the channel. -/
theorem taken_of_complete {offered : Bytes} {outcome : WriteOutcome}
    (finished : advance offered outcome = .complete) :
    taken offered outcome = offered := by
  unfold advance at finished
  split at finished
  · next count =>
      split at finished
      · contradiction
      · split at finished
        · contradiction
        · next notLess => exact List.take_of_length_le (Nat.le_of_not_lt notLess)
  · contradiction
  · contradiction

end Delivery

end ConnectionPool
