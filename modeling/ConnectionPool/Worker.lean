import ConnectionPool.Descriptor
import ConnectionPool.Options

/-!
Contract: one worker, which serves one connection at a time on a thread of its own.

A worker has a slot for the connection it was handed. Its thread is started by the first assignment and
then goes round: wait for the slot to fill, exchange the descriptor for a channel, hold a session on it,
report. It leaves the round when it was told to and the slot is empty, when it was retired, or when nobody
is left to report to.

Owns:
- the type `Worker` and what others do to it: `assign?`, `signal` and `claimHandle`;
- `Worker.step?`, the steps of its thread.

Does not own: who assigns and who answers the reports, which is the pool's work.
-/

namespace ConnectionPool

open Text

/-- The number of a worker within its server; the first worker has number one. -/
abbrev WorkerId := Nat

def workerText (worker : WorkerId) : String :=
  "worker-" ++ Numeral.decimal worker

/-- Where the thread of a worker stands. -/
inductive Stage where
  /-- There was no assignment yet, so there is no thread. -/
  | unstarted
  /-- Waiting for an assignment. -/
  | waiting
  /-- The wait took too long; about to ask whether to retire. -/
  | expired
  /-- Took this connection from the slot; about to exchange it for a channel. -/
  | exchanging (descriptor : Descriptor)
  /-- Has a channel; about to look whether the worker was interrupted. -/
  | opened (descriptor : Descriptor)
  /-- In a session. -/
  | serving (descriptor : Descriptor)
  /-- The channel is closed again; about to report. -/
  | returning
  /-- The thread has left its round. -/
  | exited
deriving DecidableEq, Repr

/-- The instance of the protocol that a worker runs. -/
inductive ProtocolInstance where
  /-- The instance that all workers of a server share. -/
  | prototype
  /-- An instance made for one worker; instances of a server are numbered from one. -/
  | own (number : Nat)
deriving DecidableEq, Repr

/-- How a session ended. -/
inductive SessionEnd where
  | returned
  | panicked
deriving DecidableEq, Repr

/-- One worker. -/
structure Worker where
  /-- What its sessions run on. -/
  protocol : ProtocolInstance := .prototype
  /-- The slot: a connection handed over and not taken yet. -/
  assignment : Option Descriptor := none
  /-- No stop was signalled yet. -/
  accepting : Bool := true
  /-- The token of the running session tells it to end. -/
  interrupted : Bool := false
  stage : Stage := .unstarted
  /-- The thread was started and nobody waits for its end yet. -/
  hasHandle : Bool := false
deriving DecidableEq, Repr

/-- What others see of a worker. -/
inductive WorkerPhase where
  | idle
  | waiting
  | executing
  | exited
deriving DecidableEq, Repr

def WorkerPhase.text : WorkerPhase → String
  | .idle => "idle"
  | .waiting => "waiting"
  | .executing => "executing"
  | .exited => "exited"

def WorkerPhase.ofText? (text : String) : Option WorkerPhase :=
  [.idle, .waiting, .executing, .exited].find? fun phase => phase.text == text

namespace Worker

/-- The worker runs an instance that nobody else runs. -/
def ownsProtocol (worker : Worker) : Bool :=
  match worker.protocol with
  | .prototype => false
  | .own _ => true

/-- A worker that expired, or that is about to report, still counts as waiting. -/
def phase (worker : Worker) : WorkerPhase :=
  match worker.stage with
  | .unstarted => .idle
  | .waiting => .waiting
  | .expired => .waiting
  | .exchanging _ => .executing
  | .opened _ => .executing
  | .serving _ => .executing
  | .returning => .waiting
  | .exited => .exited

/-- How a worker of some number is shown with its state. -/
def text (id : WorkerId) (worker : Worker) : String :=
  let state :=
    match worker.phase with
    | .idle => "Idle"
    | .waiting => "WaitingForWork"
    | .executing => "Executing"
    | .exited => "Exited"
  "Worker \x7b id: WorkerId(" ++ Numeral.decimal id ++ "), owns_protocol: " ++
    toString worker.ownsProtocol ++ ", state: " ++ state ++ " \x7d"

/-- The token: a session may go on until its worker is interrupted. -/
def mayContinue (worker : Worker) : Bool := !worker.interrupted

/-! ## What others do to a worker -/

/-- Fills the slot, whatever it held. The first assignment starts the thread. -/
def assign (descriptor : Descriptor) (worker : Worker) : Worker :=
  if worker.stage = .unstarted then
    { worker with assignment := some descriptor, stage := .waiting, hasHandle := true }
  else
    { worker with assignment := some descriptor }

def needsThread (worker : Worker) : Bool :=
  worker.stage = .unstarted

/-- An assignment on a system that starts a thread when asked, or that does not. Where the thread is needed
and not started, the connection is not kept. -/
def assign? (starts : Bool) (descriptor : Descriptor) (worker : Worker) : Option Worker :=
  if worker.needsThread && !starts then none else some (worker.assign descriptor)

/-- Tells the worker to leave its round; an interrupting stop also turns its token, for good. -/
def signal (mode : StopMode) (worker : Worker) : Worker :=
  match mode with
  | .waitClients => { worker with accepting := false }
  | .interruptClients => { worker with accepting := false, interrupted := true }

/-- Takes over the wait for the end of the thread. Only the first who asks gets it. -/
def claimHandle (worker : Worker) : Bool × Worker :=
  (worker.hasHandle, { worker with hasHandle := false })

/-! ## The thread -/

/-- The steps of a worker's thread. Where the thread asks its controller, the step carries the answer, or
nothing when there is no controller any more. -/
inductive Act where
  /-- Takes the connection out of the slot. -/
  | take
  /-- Leaves the round: the slot is empty and a stop was signalled. -/
  | leave
  /-- Has waited too long. -/
  | expire
  /-- Asks whether to retire. -/
  | retire (answer : Option Bool)
  /-- Exchanges the descriptor, with or without a channel as the outcome. -/
  | exchange (granted : Option Bool)
  /-- Looks at the token before the session. -/
  | check
  /-- The session ends and its channel is closed. -/
  | finish (ending : SessionEnd)
  /-- Reports that it can take another connection. -/
  | report (heard : Bool)
deriving DecidableEq, Repr

/-- The worker after a step of its thread, or nothing where the thread cannot take that step. -/
def step? (worker : Worker) : Act → Option Worker
  | .take =>
      match worker.stage, worker.assignment with
      | .waiting, some descriptor =>
          some { worker with assignment := none, stage := .exchanging descriptor }
      | _, _ => none
  | .leave =>
      match worker.stage, worker.assignment, worker.accepting with
      | .waiting, none, false => some { worker with stage := .exited }
      | _, _, _ => none
  | .expire =>
      match worker.stage, worker.assignment, worker.accepting with
      | .waiting, none, true => some { worker with stage := .expired }
      | _, _, _ => none
  | .retire answer =>
      match worker.stage, answer with
      | .expired, some false => some { worker with stage := .waiting }
      | .expired, _ => some { worker with stage := .exited }
      | _, _ => none
  | .exchange granted =>
      match worker.stage, granted with
      | .exchanging descriptor, some true => some { worker with stage := .opened descriptor }
      | .exchanging _, _ => some { worker with stage := .returning }
      | _, _ => none
  | .check =>
      match worker.stage, worker.interrupted with
      | .opened descriptor, false => some { worker with stage := .serving descriptor }
      | .opened _, true => some { worker with stage := .returning }
      | _, _ => none
  | .finish _ =>
      match worker.stage with
      | .serving _ => some { worker with stage := .returning }
      | _ => none
  | .report heard =>
      match worker.stage, heard with
      | .returning, true => some { worker with stage := .waiting }
      | .returning, false => some { worker with stage := .exited }
      | _, _ => none

/-! ## When the thread can take a step -/

section Steps
variable {worker next : Worker}

/-- What each step of the thread asks of the worker, and what it makes of it. -/
theorem step?_eq_some_iff {act : Act} :
    worker.step? act = some next ↔
      match act with
      | .take => ∃ descriptor, worker.stage = .waiting ∧ worker.assignment = some descriptor ∧
          next = { worker with assignment := none, stage := .exchanging descriptor }
      | .leave => worker.stage = .waiting ∧ worker.assignment = none ∧ worker.accepting = false ∧
          next = { worker with stage := .exited }
      | .expire => worker.stage = .waiting ∧ worker.assignment = none ∧ worker.accepting = true ∧
          next = { worker with stage := .expired }
      | .retire answer => worker.stage = .expired ∧
          next = { worker with stage := if answer = some false then .waiting else .exited }
      | .exchange granted => ∃ descriptor, worker.stage = .exchanging descriptor ∧
          next = { worker with
            stage := if granted = some true then .opened descriptor else .returning }
      | .check => ∃ descriptor, worker.stage = .opened descriptor ∧
          next = { worker with
            stage := if worker.interrupted then .returning else .serving descriptor }
      | .finish _ => ∃ descriptor, worker.stage = .serving descriptor ∧
          next = { worker with stage := .returning }
      | .report heard => worker.stage = .returning ∧
          next = { worker with stage := if heard then .waiting else .exited } := by
  cases act <;> simp only [step?] <;> split <;> grind

theorem step?_take_eq_some_iff :
    worker.step? .take = some next ↔ ∃ descriptor, worker.stage = .waiting ∧
      worker.assignment = some descriptor ∧
      next = { worker with assignment := none, stage := .exchanging descriptor } :=
  step?_eq_some_iff

theorem step?_leave_eq_some_iff :
    worker.step? .leave = some next ↔ worker.stage = .waiting ∧ worker.assignment = none ∧
      worker.accepting = false ∧ next = { worker with stage := .exited } :=
  step?_eq_some_iff

theorem step?_expire_eq_some_iff :
    worker.step? .expire = some next ↔ worker.stage = .waiting ∧ worker.assignment = none ∧
      worker.accepting = true ∧ next = { worker with stage := .expired } :=
  step?_eq_some_iff

theorem step?_retire_eq_some_iff {answer : Option Bool} :
    worker.step? (.retire answer) = some next ↔ worker.stage = .expired ∧
      next = { worker with stage := if answer = some false then .waiting else .exited } :=
  step?_eq_some_iff

theorem step?_exchange_eq_some_iff {granted : Option Bool} :
    worker.step? (.exchange granted) = some next ↔ ∃ descriptor,
      worker.stage = .exchanging descriptor ∧
      next = { worker with
        stage := if granted = some true then .opened descriptor else .returning } :=
  step?_eq_some_iff

theorem step?_check_eq_some_iff :
    worker.step? .check = some next ↔ ∃ descriptor, worker.stage = .opened descriptor ∧
      next = { worker with
        stage := if worker.interrupted then .returning else .serving descriptor } :=
  step?_eq_some_iff

theorem step?_finish_eq_some_iff {ending : SessionEnd} :
    worker.step? (.finish ending) = some next ↔ ∃ descriptor,
      worker.stage = .serving descriptor ∧ next = { worker with stage := .returning } :=
  step?_eq_some_iff

theorem step?_report_eq_some_iff {heard : Bool} :
    worker.step? (.report heard) = some next ↔ worker.stage = .returning ∧
      next = { worker with stage := if heard then .waiting else .exited } :=
  step?_eq_some_iff
end Steps

/-! ## Small laws -/

theorem assign?_eq_some_iff {starts : Bool} {descriptor : Descriptor} {worker next : Worker} :
    worker.assign? starts descriptor = some next ↔
      (worker.stage = .unstarted → starts = true) ∧ next = worker.assign descriptor := by
  unfold assign? needsThread
  by_cases unstarted : worker.stage = .unstarted <;> cases starts <;> simp [unstarted, eq_comm]

@[simp] theorem assign_assignment (descriptor : Descriptor) (worker : Worker) :
    (worker.assign descriptor).assignment = some descriptor := by
  unfold assign
  split <;> rfl

@[simp] theorem assign_accepting (descriptor : Descriptor) (worker : Worker) :
    (worker.assign descriptor).accepting = worker.accepting := by
  unfold assign
  split <;> rfl

@[simp] theorem assign_interrupted (descriptor : Descriptor) (worker : Worker) :
    (worker.assign descriptor).interrupted = worker.interrupted := by
  unfold assign
  split <;> rfl

@[simp] theorem assign_protocol (descriptor : Descriptor) (worker : Worker) :
    (worker.assign descriptor).protocol = worker.protocol := by
  unfold assign
  split <;> rfl

/-- Only a first assignment moves the thread: it starts it. -/
theorem assign_stage (descriptor : Descriptor) (worker : Worker) :
    (worker.assign descriptor).stage =
      if worker.stage = .unstarted then .waiting else worker.stage := by
  unfold assign
  split <;> rfl

/-- A stop does not empty the slot, and what it signals stays signalled. -/
theorem signal_assignment (mode : StopMode) (worker : Worker) :
    (worker.signal mode).assignment = worker.assignment := by
  cases mode <;> rfl

theorem signal_stage (mode : StopMode) (worker : Worker) :
    (worker.signal mode).stage = worker.stage := by
  cases mode <;> rfl

/-- No step of the thread touches what a stop has signalled. -/
theorem step?_signals {worker next : Worker} {act : Act} (stepped : worker.step? act = some next) :
    next.accepting = worker.accepting ∧ next.interrupted = worker.interrupted := by
  cases act <;> simp only [step?] at stepped <;> split at stepped <;> simp_all <;>
    (cases stepped; exact ⟨rfl, rfl⟩)

end Worker

end ConnectionPool
