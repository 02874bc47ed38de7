import ConnectionPool.Bytes

/-!
Contract: what a byte channel can answer, and channels that answer by a script.

Owns:
- the kinds of input and output failures and the outcomes of read, write and flush;
- `Script`, a channel whose answers are fixed beforehand together with a token that continues a fixed
  number of times.

Does not own: who uses the channel.
-/

namespace ConnectionPool

/-- The kinds of failure of an input or output operation. -/
inductive IoKind where
  | interrupted
  | connectionReset
  | connectionAborted
  | brokenPipe
  | timedOut
  | wouldBlock
  | unexpectedEof
  | addrInUse
  | permissionDenied
  | invalidData
  | other
deriving DecidableEq, Repr

def IoKind.text : IoKind → String
  | .interrupted => "Interrupted"
  | .connectionReset => "ConnectionReset"
  | .connectionAborted => "ConnectionAborted"
  | .brokenPipe => "BrokenPipe"
  | .timedOut => "TimedOut"
  | .wouldBlock => "WouldBlock"
  | .unexpectedEof => "UnexpectedEof"
  | .addrInUse => "AddrInUse"
  | .permissionDenied => "PermissionDenied"
  | .invalidData => "InvalidData"
  | .other => "Other"

def IoKind.ofText? (text : String) : Option IoKind :=
  [.interrupted, .connectionReset, .connectionAborted, .brokenPipe, .timedOut, .wouldBlock,
    .unexpectedEof, .addrInUse, .permissionDenied, .invalidData, .other].find?
    fun kind => kind.text == text

/-- What a read gave: bytes, none at the end of the stream, or a failure. -/
inductive ReadOutcome where
  | bytes (data : Bytes)
  | failed (kind : IoKind)
deriving DecidableEq, Repr

/-- What a write gave: how many bytes were taken, or a failure. -/
inductive WriteOutcome where
  | accepted (count : Nat)
  | failed (kind : IoKind)
deriving DecidableEq, Repr

/-- What a flush gave. -/
inductive FlushOutcome where
  | done
  | failed (kind : IoKind)
deriving DecidableEq, Repr

/-- A scripted write: it takes everything offered, at most a number of bytes, or fails. -/
inductive WritePlan where
  | everything
  | atMost (count : Nat)
  | failing (kind : IoKind)
deriving DecidableEq, Repr

/-- The answers that a channel and a token will give. When a list runs out, reads meet the end of the
stream, writes take everything and flushes succeed. -/
structure Script where
  reads : List ReadOutcome := []
  writes : List WritePlan := []
  flushes : List FlushOutcome := []
  /-- How often the token still says to continue; without a number it always does. -/
  continues : Option Nat := none
deriving DecidableEq, Repr

namespace Script

/-- How much there is left to read; every read of a script that is not exhausted lowers it. -/
def unread (script : Script) : Nat :=
  script.reads.foldr
    (fun item left =>
      match item with
      | .bytes data => data.length + 1 + left
      | .failed _ => 1 + left) 0

def poll (script : Script) : Bool × Script :=
  match script.continues with
  | none => (true, script)
  | some 0 => (false, script)
  | some (left + 1) => (true, { script with continues := some left })

/-- Reads at most `limit` bytes. What does not fit stays as the next item. -/
def read (limit : Nat) (script : Script) : ReadOutcome × Script :=
  match script.reads with
  | [] => (.bytes [], script)
  | .failed kind :: reads => (.failed kind, { script with reads })
  | .bytes data :: reads =>
      if data.length ≤ limit then
        (.bytes data, { script with reads })
      else
        (.bytes (data.take limit), { script with reads := .bytes (data.drop limit) :: reads })

/-- Offers `size` bytes. -/
def write (size : Nat) (script : Script) : WriteOutcome × Script :=
  match script.writes with
  | [] => (.accepted size, script)
  | .everything :: writes => (.accepted size, { script with writes })
  | .atMost count :: writes => (.accepted (min count size), { script with writes })
  | .failing kind :: writes => (.failed kind, { script with writes })

def flush (script : Script) : FlushOutcome × Script :=
  match script.flushes with
  | [] => (.done, script)
  | outcome :: flushes => (outcome, { script with flushes })

theorem unread_poll (script : Script) : script.poll.2.unread = script.unread := by
  unfold poll
  split <;> rfl

theorem unread_write (size : Nat) (script : Script) :
    (script.write size).2.unread = script.unread := by
  unfold write
  split <;> rfl

theorem unread_flush (script : Script) : script.flush.2.unread = script.unread := by
  unfold flush
  split <;> rfl

/-- A read that gives bytes or fails lowers what is left to read. -/
theorem unread_read_lt {limit : Nat} (limitPositive : 0 < limit) {script : Script}
    (notEnd : (script.read limit).1 ≠ .bytes []) :
    (script.read limit).2.unread < script.unread := by
  unfold read at notEnd ⊢
  split at notEnd
  · exact absurd rfl notEnd
  · next kind reads isFailure => simp [unread, isFailure]
  · next data reads isBytes =>
      split
      · simp [unread, isBytes]
      · simp [unread, isBytes]
        omega

end Script

end ConnectionPool
