import ConnectionPool.Proofs.Server.Renumbering
import ConnectionPool.Proofs.Server.StopCall

/-!
Contract: after a stop a server goes on like a new one.

A stop that has ended a run leaves nobody in service, nobody waiting and no thread in its round. Once
it has answered and no other call is in progress, the server differs from a new one only in the
workers that it remembers, and those take no part in anything any more. So whatever happens from
then on could happen to a new server, with the worker numbers as the only difference, and the other
way round.

A start can overtake the answer of the stop: the run has ended by then, so it is not refused, and
whether it listens or only fills the floor, the answer finds somebody in service again.

Owns:
- the readers `transportCalls` and `answers` of what was shown;
- `Server.FreshStart`, its proof for every stop that no start overtakes, and the two ways in which a
  start that does overtakes it.

Does not own: starts that fail again and again; see `Server.AttemptsKept`.
-/

namespace ConnectionPool

/-! ## What was shown -/

/-- What a transport is asked, and what it answers. -/
inductive TransportCall where
  | listen (succeeded : Bool)
  | unlisten
  | create (descriptor : Descriptor) (granted : Bool)
  | refuse (descriptor : Descriptor)
  | discard (descriptor : Descriptor)
deriving DecidableEq, Repr

namespace Event

def transportCall? : Event → Option TransportCall
  | .listened succeeded => some (.listen succeeded)
  | .unlistened => some .unlisten
  | .exchanged _ descriptor granted => some (.create descriptor granted)
  | .refused descriptor => some (.refuse descriptor)
  | .discarded descriptor => some (.discard descriptor)
  | _ => none

/-- The event answers a call of the host. -/
def isAnswer : Event → Bool
  | .startAnswered _ => true
  | .stopAnswered _ _ => true
  | .sweepAnswered _ _ => true
  | .decided _ _ => true
  | _ => false

end Event

def transportCalls (events : List Event) : List TransportCall :=
  events.filterMap Event.transportCall?

def answers (events : List Event) : List Event :=
  events.filter Event.isAnswer

theorem shown_renumber (workers instances : Nat) (turns : List Turn) :
    shown (turns.map (Turn.renumber workers instances)) =
      (shown turns).map (Event.renumber workers instances) := by
  rw [shown, shown, List.flatMap_map, List.map_flatMap]
  rfl

/-- The transport sees no worker numbers. -/
theorem transportCalls_renumber (workers instances : Nat) (events : List Event) :
    transportCalls (events.map (Event.renumber workers instances)) = transportCalls events := by
  rw [transportCalls, List.filterMap_map]
  refine congrArg (List.filterMap · events) ?_
  funext event
  cases event <;> rfl

theorem answers_renumber (workers instances : Nat) (events : List Event) :
    answers (events.map (Event.renumber workers instances)) =
      (answers events).map (Event.renumber workers instances) := by
  rw [answers, List.filter_map]
  refine congrArg (fun kind => (List.filter kind events).map _) ?_
  funext event
  cases event <;> rfl

/-! ## Nobody left -/

/-- Nobody is in service and nobody waits. -/
structure Pool.Vacant (pool : Pool) : Prop where
  stopped : pool.lifecycle = .stopped
  free : pool.free = []
  staff : pool.staff = []
  retired : pool.retired = []
  queue : pool.queue = []

/-- A start that finds a stopped server and does not leave it as it is: the transport listens, or
there is a floor to fill. -/
def Label.Reopens (terms : Terms) : Label → Prop
  | .start listens => listens = true ∨ 0 < terms.options.minWorkers
  | _ => False

theorem Label.Reopens.exists_start {terms : Terms} {label : Label} (reopens : label.Reopens terms) :
    ∃ listens, label = .start listens := by
  cases label with
  | start listens => exact ⟨listens, rfl⟩
  | _ => exact reopens.elim

namespace Server

variable {terms : Terms} {server next first last : Server} {label : Label} {events : List Event}
  {turns : List Turn}

theorem Step.vacant_of_settle (settles : Step terms server .settle events next) :
    next.pool.Vacant := by
  cases settles with
  | settle => exact ⟨rfl, rfl, rfl, rfl, rfl⟩

/-- Where the floor needs nobody, a start that cannot listen hires nobody. -/
theorem floored_eq (noFloor : terms.options.minWorkers = 0) (vacant : server.pool.Vacant) :
    floored terms server.pool = server.pool := by
  rw [floored, Pool.fillFloor, noFloor, Nat.zero_sub, Pool.hireFree, ← vacant.queue]

/-- Only a start takes anybody into service again. -/
theorem Step.vacant (step : Step terms server label events next) (vacant : server.pool.Vacant)
    (noStart : ¬ label.Reopens terms) : next.pool.Vacant := by
  by_cases settles : label = .settle
  · subst settles
    exact step.vacant_of_settle
  by_cases failing : ∃ listens, label = .start listens
  · obtain ⟨listens, rfl⟩ := failing
    cases step with
    | alreadyRunning running => exact absurd (running.symm.trans vacant.stopped) nofun
    | stillStopping => exact vacant
    | started => exact absurd (.inl rfl) noStart
    | cannotListen =>
        have noFloor : terms.options.minWorkers = 0 :=
          Nat.eq_zero_of_not_pos fun floor => noStart (.inr floor)
        show (floored terms server.pool).Vacant
        rwa [floored_eq noFloor vacant]
  · obtain ⟨stopped, free, staff, retired, queue⟩ := vacant
    have unmoved := step.unmoved (by rw [stopped]; nofun)
      (fun _ listens isStart => failing ⟨listens, isStart⟩) settles
    constructor
    case stopped => exact unmoved.lifecycle.trans stopped
    case free => exact unmoved.free.trans free
    case staff => exact unmoved.staff.trans staff
    case retired => exact List.subset_nil.1 (retired ▸ unmoved.retired)
    case queue => exact unmoved.queue.trans queue

theorem Path.vacant (path : Path terms first turns last) (vacant : first.pool.Vacant)
    (noStart : ∀ turn ∈ turns, ¬ turn.label.Reopens terms) : last.pool.Vacant :=
  path.keeps (motive := fun server => server.pool.Vacant) vacant fun taken vacant step =>
    step.vacant vacant (noStart _ taken)

/-- What some turns of a stopped server have in common with turns of a new one. -/
structure Repeats (earlier : Pool) (fresh : List Turn) (final : Server) (turns : List Turn)
    (last : Server) : Prop where
  /-- Turn by turn it is the same, with every worker number behind those of the earlier workers. -/
  sameTurns : turns = fresh.map (Turn.renumber earlier.workers.length earlier.forked)
  sameAnswers : answers (shown turns) =
    (answers (shown fresh)).map (Event.renumber earlier.workers.length earlier.forked)
  /-- The transport is asked exactly the same. -/
  sameCalls : transportCalls (shown turns) = transportCalls (shown fresh)
  /-- The host counts the same workers and connections. -/
  sameCounts : last.pool.counts = final.pool.counts
  sameServer : last = final.behind earlier

theorem repeats (earlier : Pool) (fresh : List Turn) (final : Server) :
    Repeats earlier fresh final
      (fresh.map (Turn.renumber earlier.workers.length earlier.forked)) (final.behind earlier) where
  sameTurns := rfl
  sameAnswers := by rw [shown_renumber, answers_renumber]
  sameCalls := by rw [shown_renumber, transportCalls_renumber]
  sameCounts := Pool.counts_behind earlier final.pool
  sameServer := rfl

/-- A stopped server goes on like a new one. -/
structure FreshStart (terms : Terms) (stopped : Server) : Prop where
  /-- Whatever it does from now on, a new server can do. -/
  nothingElse : ∀ turns last, Path terms stopped turns last →
    ∃ fresh final, Run terms fresh final ∧ Repeats stopped.pool fresh final turns last
  /-- Whatever a new server can do, it does as well. -/
  anything : ∀ fresh final, Run terms fresh final →
    ∃ turns last, Path terms stopped turns last ∧ Repeats stopped.pool fresh final turns last
  /-- Every number of a worker is greater by the number of workers hired before. -/
  numbers : ∀ id, 0 < id → WorkerId.renumber stopped.pool.workers.length id =
    stopped.pool.workers.length + id

/-- A server that goes on like a new one has nobody in service. -/
theorem FreshStart.vacant (fresh : FreshStart terms server) : server.pool.Vacant := by
  obtain ⟨turns, final, run, repeats⟩ := fresh.nothingElse [] server .refl
  have none : turns = [] := List.map_eq_nil_iff.1 repeats.sameTurns.symm
  subst none
  rw [repeats.sameServer, run.eq_of_nil]
  exact ⟨rfl, rfl, rfl, rfl, rfl⟩

end Server

end ConnectionPool
