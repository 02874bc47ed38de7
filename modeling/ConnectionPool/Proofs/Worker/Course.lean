import ConnectionPool.Worker

/-!
Contract: one worker, alone with a controller that may do anything.

The controller answers as it likes and may go away at any time, sessions end as they like, and others stop
the worker and hand it connections whenever they may. What the worker's thread does with its controller, its
sessions and its channels is shown sign by sign.

Owns:
- `Lone`, a worker and whether its controller is still there, and `Lone.Sign`;
- `Lone.MayAssign` and `Lone.Permits`, the discipline of those who assign and of a controller that retires;
- `Lone.Step` and `Lone.Course`, all that can happen, with what shows of it.

Does not own: what every course has in common; see `Lone.Orderly`.
-/

namespace ConnectionPool

/-- The connection whose channel the thread holds in some stage. -/
def Stage.channel? : Stage → Option Descriptor
  | .opened descriptor => some descriptor
  | .serving descriptor => some descriptor
  | _ => none

/-- A worker, and whether its controller is still there. -/
structure Lone where
  worker : Worker
  hasController : Bool := true

namespace Lone

/-- What shows of a worker. -/
inductive Sign where
  /-- The worker was handed a connection. -/
  | assigned (descriptor : Descriptor)
  | stopped (mode : StopMode)
  /-- The controller was asked for a channel, and gave one or none. -/
  | created (descriptor : Descriptor) (granted : Bool)
  /-- With the channel in its hands the thread looked whether it may go on. -/
  | checked (descriptor : Descriptor) (goesOn : Bool)
  | began (descriptor : Descriptor)
  | ended (descriptor : Descriptor) (ending : SessionEnd)
  /-- The channel was dropped. -/
  | closed (descriptor : Descriptor)
  /-- The controller heard that the worker can take another connection. -/
  | available
  /-- The controller was asked whether the worker may retire. -/
  | finished (answer : Bool)
deriving DecidableEq, Repr

namespace Sign

/-- It was the worker's own thread. -/
def isThread : Sign → Bool
  | .assigned _ => false
  | .stopped _ => false
  | _ => true

def assigned? : Sign → Option Descriptor
  | .assigned descriptor => some descriptor
  | _ => none

end Sign

/-- The connections that the worker was handed, in order. -/
def assignments (signs : List Sign) : List Descriptor :=
  signs.filterMap Sign.assigned?

/-- What the thread itself did. -/
def doings (signs : List Sign) : List Sign :=
  signs.filter Sign.isThread

@[simp] theorem assignments_append (front back : List Sign) :
    assignments (front ++ back) = assignments front ++ assignments back :=
  List.filterMap_append

@[simp] theorem doings_append (front back : List Sign) :
    doings (front ++ back) = doings front ++ doings back :=
  List.filter_append ..

/-- What a step of the thread shows by itself. -/
def shows (worker : Worker) : Worker.Act → List Sign
  | .exchange (some granted) =>
      match worker.stage with
      | .exchanging descriptor => [.created descriptor granted]
      | _ => []
  | .check =>
      match worker.stage, worker.interrupted with
      | .opened descriptor, true => [.checked descriptor false]
      | .opened descriptor, false => [.checked descriptor true, .began descriptor]
      | _, _ => []
  | .finish ending =>
      match worker.stage with
      | .serving descriptor => [.ended descriptor ending]
      | _ => []
  | .report true => [.available]
  | .retire (some answer) => [.finished answer]
  | _ => []

/-- A channel that the thread held before and holds no more was dropped. -/
def drops (before after : Worker) : List Sign :=
  match before.stage.channel?, after.stage.channel? with
  | some descriptor, none => [.closed descriptor]
  | _, _ => []

theorem drops_eq_nil {before after : Worker} (nothing : before.stage.channel? = none) :
    drops before after = [] := by
  simp [drops, nothing]

/-- Whatever a step of the thread shows is its own doing. -/
theorem doings_shown (worker next : Worker) (act : Worker.Act) :
    doings (shows worker act ++ drops worker next) = shows worker act ++ drops worker next := by
  have ofShows : doings (shows worker act) = shows worker act := by
    unfold shows
    split
    case h_1 | h_2 | h_3 => split <;> rfl
    all_goals rfl
  have ofDrops : doings (drops worker next) = drops worker next := by
    unfold drops
    split <;> rfl
  rw [doings_append, ofShows, ofDrops]

theorem isThread_of_shown {worker next : Worker} {act : Worker.Act} {sign : Sign}
    (shown : sign ∈ shows worker act ++ drops worker next) : sign.isThread = true :=
  List.filter_eq_self.1 (doings_shown worker next act) sign shown

theorem assignments_shown (worker next : Worker) (act : Worker.Act) :
    assignments (shows worker act ++ drops worker next) = [] := by
  refine List.filterMap_eq_nil_iff.2 fun sign shown => ?_
  have own := isThread_of_shown shown
  cases sign with
  | assigned => cases own
  | _ => rfl

/-! ## The discipline -/

/-- A connection may be handed to a worker that has none, in its slot or in its hands, and that was neither
stopped nor retired. -/
structure MayAssign (history : List Sign) (lone : Lone) : Prop where
  empty : lone.worker.assignment = none
  notExecuting : lone.worker.phase ≠ .executing
  notStopped : ∀ mode, .stopped mode ∉ history
  notRetired : .finished true ∉ history

/-- As long as it is there, the controller hears what the thread asks and reports. It retires no worker that
has a connection in its slot. -/
def Permits (lone : Lone) : Worker.Act → Prop
  | .exchange granted => granted.isSome = lone.hasController
  | .report heard => heard = lone.hasController
  | .retire answer =>
      answer.isSome = lone.hasController ∧ (answer = some true → lone.worker.assignment = none)
  | _ => True

/-! ## What can happen -/

/-- One thing that can happen to a worker with such a history, with what shows of it. -/
inductive Step (history : List Sign) (lone : Lone) : List Sign → Lone → Prop where
  | assign {next : Worker} (descriptor : Descriptor) (starts : Bool) (may : lone.MayAssign history)
      (assigned : lone.worker.assign? starts descriptor = some next) :
      Step history lone [.assigned descriptor] { lone with worker := next }
  /-- The thread could not be started; the connection is not kept. -/
  | unassigned (descriptor : Descriptor) (starts : Bool) (may : lone.MayAssign history)
      (failed : lone.worker.assign? starts descriptor = none) : Step history lone [] lone
  | stop (mode : StopMode) :
      Step history lone [.stopped mode] { lone with worker := lone.worker.signal mode }
  /-- The controller goes away. -/
  | dismiss : Step history lone [] { lone with hasController := false }
  | act {next : Worker} (act : Worker.Act) (permits : lone.Permits act)
      (stepped : lone.worker.step? act = some next) :
      Step history lone (shows lone.worker act ++ drops lone.worker next)
        { lone with worker := next }

/-- The life of a worker up to some moment, from its making on. -/
inductive Course : List Sign → Lone → Prop where
  | new (protocol : ProtocolInstance) : Course [] { worker := { protocol } }
  | step {history signs : List Sign} {lone next : Lone} (before : Course history lone)
      (step : Step history lone signs next) : Course (history ++ signs) next

end Lone

end ConnectionPool
