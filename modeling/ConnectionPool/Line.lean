import ConnectionPool.Refusal
import ConnectionPool.Session.Protocol

/-!
Contract: one open connection in memory.

Owns:
- the type `Line`: what waits to be read on it, what was written to it and how much it still takes;
- `Line.converse`, which lets a session go on until it waits for something to read or ends.

Does not own: which session a connection belongs to.
-/

namespace ConnectionPool

/-- What can happen at the far end of a connection. -/
inductive Inbound where
  | bytes (data : Bytes)
  /-- The next read fails. -/
  | failure (kind : IoKind)
  /-- The next read makes the session collapse. -/
  | collapse
  /-- The far end sends nothing more. -/
  | hangUp
deriving DecidableEq, Repr

/-- A connection. -/
structure Line where
  /-- The position of the server that it belongs to. -/
  server : Nat
  descriptor : Descriptor
  inbound : List Inbound := []
  /-- What was written since the last report. -/
  outbound : Bytes := []
  /-- How many bytes it still takes, if that is limited. -/
  capacity : Option Nat := none
  isOpen : Bool := true
  /-- It was opened, written to or closed since the last report. -/
  touched : Bool := true
deriving DecidableEq, Repr

/-- What a read on a connection gives. -/
inductive LineRead where
  /-- There is nothing to read yet. -/
  | blocked
  | outcome (outcome : ReadOutcome)
  | collapsed
deriving DecidableEq, Repr

/-- Why a session stands still. -/
inductive Pause where
  /-- It waits for something to read. -/
  | blocked (dialogue : Dialogue)
  | ended (ending : SessionEnd)
deriving DecidableEq, Repr

namespace Line

/-- Something happens at the far end. Sending no bytes reads like the end of the stream. -/
def receive (event : Inbound) (line : Line) : Line :=
  { line with inbound := line.inbound ++ [event] }

/-- Reads at most `limit` bytes. The end of the stream stays. -/
def read (limit : Nat) (line : Line) : LineRead × Line :=
  match line.inbound with
  | [] => (.blocked, line)
  | .bytes data :: inbound =>
      match data.drop limit with
      | [] => (.outcome (.bytes data), { line with inbound })
      | rest => (.outcome (.bytes (data.take limit)), { line with inbound := .bytes rest :: inbound })
  | .failure kind :: inbound => (.outcome (.failed kind), { line with inbound })
  | .collapse :: inbound => (.collapsed, { line with inbound })
  | .hangUp :: _ => (.outcome (.bytes []), line)

/-- Offers bytes. When the capacity is used up, writing fails. -/
def write (data : Bytes) (line : Line) : WriteOutcome × Line :=
  match line.capacity with
  | none =>
      (.accepted data.length, { line with outbound := line.outbound ++ data, touched := true })
  | some 0 => (.failed .brokenPipe, line)
  | some (left + 1) =>
      let taken := data.take (left + 1)
      (.accepted taken.length,
        { line with
          outbound := line.outbound ++ taken
          capacity := some (left + 1 - taken.length)
          touched := true })

def close (line : Line) : Line :=
  { line with isOpen := false, touched := true }

/-! ## The far end -/

/-- The far end goes away: it sends nothing more and takes nothing more. -/
def abandon (line : Line) : Line :=
  { line.receive .hangUp with capacity := some 0 }

/-- The far end takes at most `limit` of the bytes that were written, or all of them. -/
def collect (limit : Option Nat) (line : Line) : Bytes × Line :=
  match limit with
  | none => (line.outbound, { line with outbound := [] })
  | some limit => (line.outbound.take limit, { line with outbound := line.outbound.drop limit })

/-! ## Sessions -/

/-- The first `limit` bytes of what is there to read, up to the end of the stream or a failure, and what is
left. -/
def takeInbound : Nat → List Inbound → Bytes × List Inbound
  | limit, .bytes data :: inbound =>
      if data.length ≤ limit then
        let more := takeInbound (limit - data.length) inbound
        (data ++ more.1, more.2)
      else
        (data.take limit, .bytes (data.drop limit) :: inbound)
  | _, inbound => ([], inbound)

/-- Reads again and again until there are `limit` bytes or nothing more comes. -/
def readAll (limit : Nat) (line : Line) : Bytes × Line :=
  let answer := takeInbound limit line.inbound
  (answer.1, { line with inbound := answer.2 })

def unread (line : Line) : Nat :=
  line.inbound.foldr
    (fun event left =>
      match event with
      | .bytes data => data.length + 1 + left
      | .failure _ => 1 + left
      | .collapse => 1 + left
      | .hangUp => 1 + left) 0

/-- Lets a session go on for at most `fuel` requests. -/
def converseFor (mayContinue : Bool) : Nat → Dialogue → Line → Pause × Line
  | 0, dialogue, line => (.blocked dialogue, line)
  | fuel + 1, dialogue, line =>
      match dialogue.request with
      | .poll next => converseFor mayContinue fuel (next mayContinue) line
      | .read limit next =>
          match line.read limit with
          | (.outcome outcome, line) => converseFor mayContinue fuel (next outcome) line
          | (.collapsed, line) => (.ended .panicked, line)
          | (.blocked, line) =>
              if dialogue.wakesOnCancellation ∧ mayContinue = false then
                converseFor mayContinue fuel (next (.failed .wouldBlock)) line
              else
                (.blocked dialogue, line)
      | .write data next =>
          let answer := line.write data
          converseFor mayContinue fuel (next answer.1) answer.2
      | .flush next => converseFor mayContinue fuel (next .done) line
      | .finish => (.ended .returned, line)

/-- Lets a session go on until it waits or ends. A round of a session makes fewer than eight requests and
reads at least one byte or one event. -/
def converse (mayContinue : Bool) (dialogue : Dialogue) (line : Line) : Pause × Line :=
  converseFor mayContinue (8 * (line.unread + 4)) dialogue line

/-- Lets a refusal go on for at most `fuel` requests. It never reads. -/
def refuseFor : Nat → Refusal → Line → Line
  | 0, _, line => line
  | fuel + 1, refusal, line =>
      match refusal.request with
      | .write data next =>
          let answer := line.write data
          refuseFor fuel (next answer.1) answer.2
      | .flush next => refuseFor fuel (next .done) line
      | .poll _ => line
      | .read _ _ => line
      | .finish => line

/-- Tells the far end a message and closes. -/
def refuse (message : Bytes) (line : Line) : Line :=
  (refuseFor (message.length + 2) (Refusal.start message) line).close

end Line

end ConnectionPool
