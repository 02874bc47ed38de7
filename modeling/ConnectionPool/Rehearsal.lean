import ConnectionPool.Line

/-!
Contract: a single worker under a controller that answers by a script.

Owns:
- the type `Rehearsal` with the calls on it;
- `Rehearsal.await`, which lets the worker wait out its patience until a goal is reached.

Does not own: the steps of the worker, which are those of `Worker.step?`.
-/

namespace ConnectionPool

/-- What a worker asked of its controller. -/
inductive ControllerCall where
  | create (descriptor : Descriptor)
  | available
  | finished (answer : Bool)
deriving DecidableEq, Repr

def ControllerCall.text (id : WorkerId) : ControllerCall → String
  | .create descriptor => "create " ++ descriptor.text
  | .available => "available " ++ workerText id
  | .finished answer => "finished " ++ workerText id ++ " " ++ toString answer

/-- What is awaited; an absent part is not awaited. -/
structure Goal where
  creates : Option Nat := none
  availables : Option Nat := none
  finisheds : Option Nat := none
  phase : Option WorkerPhase := none
  /-- Sessions that wait for something to read. -/
  blocked : Option Nat := none
deriving DecidableEq, Repr

/-- A worker and its controller. -/
structure Rehearsal where
  protocol : Protocol
  worker : Worker
  lines : List Line := []
  /-- The position of the connection that the worker has opened, and its session. -/
  engaged : Option (Nat × Option Dialogue) := none
  sessions : Nat := 0
  hasController : Bool := true
  /-- The answers to the next questions whether to retire; the answer after the last is yes. -/
  finishAnswers : List Bool := []
  /-- Descriptors without a channel. -/
  missing : List Descriptor := []
  /-- What was asked of the controller since the last report. -/
  calls : List ControllerCall := []
  creates : Nat := 0
  availables : Nat := 0
  finisheds : Nat := 0
deriving Repr

namespace Rehearsal

def new (protocol : Protocol) (finishAnswers : List Bool) : Rehearsal where
  protocol
  worker := { protocol := if protocol.forks then .own 1 else .prototype }
  finishAnswers

def modifyLine (rehearsal : Rehearsal) (position : Nat) (change : Line → Line) : Rehearsal :=
  { rehearsal with lines := rehearsal.lines.modify position change }

/-- Takes a step of the worker's thread; nothing happens where it cannot be taken. -/
def act (rehearsal : Rehearsal) (step : Worker.Act) : Rehearsal :=
  match rehearsal.worker.step? step with
  | none => rehearsal
  | some worker => { rehearsal with worker }

def disengage (rehearsal : Rehearsal) : Rehearsal :=
  match rehearsal.engaged with
  | none => rehearsal
  | some (line, _) => { rehearsal.modifyLine line Line.close with engaged := none }

/-- Exchanges a descriptor for a channel, with the help of the controller. -/
def exchange (descriptor : Descriptor) (rehearsal : Rehearsal) : Rehearsal :=
  if rehearsal.hasController then
    let granted := descriptor ∉ rehearsal.missing
    let asked := { rehearsal.act (.exchange (some granted)) with
      calls := rehearsal.calls ++ [.create descriptor]
      creates := rehearsal.creates + 1 }
    if granted then
      { asked with
        lines := asked.lines ++ [{ server := 0, descriptor }]
        engaged := some (asked.lines.length, none) }
    else
      asked
  else
    rehearsal.act (.exchange none)

/-- Looks at the token; a session begins, or the channel is closed. -/
def check (rehearsal : Rehearsal) : Rehearsal :=
  if rehearsal.worker.mayContinue then
    let number := rehearsal.sessions + 1
    let dialogue := rehearsal.protocol.begin rehearsal.worker.protocol number
    { rehearsal.act .check with
      sessions := number
      engaged := rehearsal.engaged.map fun entry => (entry.1, some dialogue) }
  else
    (rehearsal.act .check).disengage

/-- Lets the session go on. Tells whether it ended. -/
def converse (rehearsal : Rehearsal) : Bool × Rehearsal :=
  match rehearsal.engaged with
  | some (line, some dialogue) =>
      match rehearsal.lines[line]? with
      | none => (false, rehearsal)
      | some state =>
          let answer := state.converse rehearsal.worker.mayContinue dialogue
          let moved := rehearsal.modifyLine line fun _ => answer.2
          match answer.1 with
          | .ended ending => (true, (moved.act (.finish ending)).disengage)
          | .blocked dialogue => (false, { moved with engaged := some (line, some dialogue) })
  | _ => (false, rehearsal)

/-- Reports to the controller that the worker can take another connection. -/
def report (rehearsal : Rehearsal) : Rehearsal :=
  if rehearsal.hasController then
    { rehearsal.act (.report true) with
      calls := rehearsal.calls ++ [.available]
      availables := rehearsal.availables + 1 }
  else
    rehearsal.act (.report false)

def askRetirement (rehearsal : Rehearsal) : Rehearsal :=
  if rehearsal.hasController then
    let answer := rehearsal.finishAnswers.head?.getD true
    { rehearsal.act (.retire (some answer)) with
      calls := rehearsal.calls ++ [.finished answer]
      finisheds := rehearsal.finisheds + 1
      finishAnswers := rehearsal.finishAnswers.tail }
  else
    rehearsal.act (.retire none)

/-- One step of the thread, except that it never gives up waiting by itself. Tells whether there was one. -/
def advance (rehearsal : Rehearsal) : Bool × Rehearsal :=
  match rehearsal.worker.stage with
  | .unstarted => (false, rehearsal)
  | .waiting =>
      if rehearsal.worker.assignment.isSome then (true, rehearsal.act .take)
      else if rehearsal.worker.accepting then (false, rehearsal)
      else (true, rehearsal.act .leave)
  | .expired => (true, rehearsal.askRetirement)
  | .exchanging descriptor => (true, rehearsal.exchange descriptor)
  | .opened _ => (true, rehearsal.check)
  | .serving _ => rehearsal.converse
  | .returning => (true, rehearsal.report)
  | .exited => (false, rehearsal)

/-- At most `fuel` steps. -/
def restFor : Nat → Rehearsal → Rehearsal
  | 0, rehearsal => rehearsal
  | fuel + 1, rehearsal =>
      match rehearsal.advance with
      | (true, rehearsal) => restFor fuel rehearsal
      | (false, rehearsal) => rehearsal

/-- Lets the worker go on until it waits. Besides the connection in its hands there can be one in its slot,
and it takes fewer than eight steps for each. -/
def rest (rehearsal : Rehearsal) : Rehearsal :=
  rehearsal.restFor 24

/-- The number of sessions that wait for something to read. -/
def blocked (rehearsal : Rehearsal) : Nat :=
  match rehearsal.worker.stage with
  | .serving _ => 1
  | _ => 0

def reached (goal : Goal) (rehearsal : Rehearsal) : Bool :=
  goal.creates.all (· == rehearsal.creates) &&
  goal.availables.all (· == rehearsal.availables) &&
  goal.finisheds.all (· == rehearsal.finisheds) &&
  goal.phase.all (· == rehearsal.worker.phase) &&
  goal.blocked.all (· == rehearsal.blocked)

/-- Lets the wait of the worker end at most `fuel` times. -/
def awaitFor (goal : Goal) : Nat → Rehearsal → Rehearsal
  | 0, rehearsal => rehearsal
  | fuel + 1, rehearsal =>
      if rehearsal.reached goal then rehearsal
      else awaitFor goal fuel (rehearsal.act .expire).rest

/-- Lets the worker wait out its patience again and again until the goal is reached. Once the scripted
answers are used up it retires, so there is an end to that. -/
def await (goal : Goal) (rehearsal : Rehearsal) : Rehearsal :=
  rehearsal.rest.awaitFor goal (rehearsal.finishAnswers.length + 2)

/-! ## Calls -/

/-- Hands a connection to the worker. From now on its descriptor has a channel or has none. -/
def assign (descriptor : Descriptor) (isMissing : Bool) (rehearsal : Rehearsal) : Rehearsal :=
  let others := rehearsal.missing.filter (· ≠ descriptor)
  { rehearsal with
    missing := if isMissing then descriptor :: others else others
    worker := rehearsal.worker.assign descriptor }

def signal (mode : StopMode) (rehearsal : Rehearsal) : Rehearsal :=
  { rehearsal with worker := rehearsal.worker.signal mode }

/-- Waits for the end of the thread. Tells whether there was one to wait for. -/
def join (rehearsal : Rehearsal) : Bool × Rehearsal :=
  let claimed := rehearsal.worker.claimHandle
  let rehearsal := { rehearsal with worker := claimed.2 }
  if claimed.1 then
    (true, rehearsal.await { phase := some .exited })
  else
    (false, rehearsal)

/-- Something happens at the far end of the oldest open connection under a descriptor. Tells whether there
is one. -/
def receive (descriptor : Descriptor) (event : Inbound) (rehearsal : Rehearsal) : Bool × Rehearsal :=
  match rehearsal.lines.findIdx? fun line => line.descriptor = descriptor ∧ line.isOpen with
  | none => (false, rehearsal)
  | some line => (true, rehearsal.modifyLine line (Line.receive event))

/-- The connections that were touched since the last report, with their positions. -/
def touchedLines (rehearsal : Rehearsal) : List (Nat × Line) :=
  (rehearsal.lines.zipIdx.filter fun entry => entry.1.touched).map fun entry => (entry.2, entry.1)

def reported (rehearsal : Rehearsal) : Rehearsal :=
  { rehearsal with
    lines := rehearsal.lines.map fun line => { line with outbound := [], touched := false }
    calls := [] }

end Rehearsal

end ConnectionPool
