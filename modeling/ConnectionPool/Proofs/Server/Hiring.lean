import ConnectionPool.Proofs.Server.Sound
import Mathlib.Data.List.Range

/-!
Contract: who was hired, and what each worker runs.

A worker is hired to fill the floor of a start or for a connection that finds nobody free. The numbers
of workers are given in order and never again, so what was shown about hiring tells them all. With the
worker comes its protocol instance: a new one where the protocol makes one for every worker, and the
prototype where it does not.

Owns:
- the reader `hires` and `Path.numbered`;
- `Pool.Equipped`, kept by every turn.

Does not own: what a worker does with its protocol instance.
-/

namespace ConnectionPool

/-- The worker that an event tells was hired. -/
def Event.hired? : Event → Option WorkerId
  | .hired id => some id
  | _ => none

/-- The workers that were hired, in the order in which they were. -/
def hires (events : List Event) : List WorkerId :=
  events.filterMap Event.hired?

@[simp] theorem hires_append (front back : List Event) :
    hires (front ++ back) = hires front ++ hires back :=
  List.filterMap_append ..

/-- What a worker of this number runs. -/
def Terms.instanceFor (terms : Terms) (id : WorkerId) : ProtocolInstance :=
  if terms.forks then .own id else .prototype

namespace Pool

variable {terms : Terms} {pool base : Pool} {worker changed : Worker} {id : WorkerId}

/-! ## Protocol instances -/

/-- Every worker runs what belongs to its number, and an instance was made for each of them or for
none. -/
structure Equipped (terms : Terms) (pool : Pool) : Prop where
  runs : ∀ id worker, pool.worker? id = some worker → worker.protocol = terms.instanceFor id
  made : pool.forked = if terms.forks then pool.workers.length else 0

namespace Equipped

theorem new (terms : Terms) : Equipped terms {} where
  runs := fun id worker found => by cases id <;> cases found
  made := by cases terms.forks <;> rfl

theorem of_workers (equipped : pool.Equipped terms) (workers : base.workers = pool.workers)
    (forked : base.forked = pool.forked) : base.Equipped terms where
  runs := fun id worker found => by
    rw [worker?_of_workers workers] at found
    exact equipped.runs id worker found
  made := by rw [forked, workers, equipped.made]

/-- Whatever else changes about a worker, it goes on with what it runs. -/
theorem setWorker (equipped : pool.Equipped terms) (found : pool.worker? id = some worker)
    (same : changed.protocol = worker.protocol) (workers : base.workers = pool.workers)
    (forked : base.forked = pool.forked) : (base.setWorker changed id).Equipped terms where
  runs := fun other current present => by
    rw [worker?_setWorker] at present
    split at present
    · next here =>
        obtain ⟨_, _, rfl⟩ := Option.map_eq_some_iff.1 present
        rw [same, here, equipped.runs id worker found]
    · rw [worker?_of_workers workers] at present
      exact equipped.runs other current present
  made := by rw [setWorker_forked, length_setWorker, forked, workers, equipped.made]

theorem updateWorker {change : Worker → Worker} (equipped : pool.Equipped terms)
    (same : ∀ worker, (change worker).protocol = worker.protocol) :
    (pool.updateWorker id change).Equipped terms := by
  unfold Pool.updateWorker
  split
  · exact equipped
  · next found => exact equipped.setWorker found (same _) rfl rfl

/-- A new worker gets the instance of its number. -/
theorem newcomer_protocol (equipped : pool.Equipped terms) :
    (pool.newcomer terms).protocol = terms.instanceFor pool.nextId := by
  simp only [newcomer, Terms.instanceFor, nextId, equipped.made]
  split <;> rfl

theorem hire (equipped : pool.Equipped terms) : (pool.hire terms).Equipped terms where
  runs := fun id worker found => by
    rw [worker?_hire] at found
    split at found
    · next new =>
        cases found
        rw [equipped.newcomer_protocol, new]
    · exact equipped.runs id worker found
  made := by
    rw [length_hire]
    show (if terms.forks then pool.forked + 1 else pool.forked) = _
    rw [equipped.made]
    split <;> rfl

theorem hireFree (count : Nat) (equipped : pool.Equipped terms) :
    (hireFree terms count pool).Equipped terms := by
  induction count generalizing pool with
  | zero => exact equipped
  | succ count inductionHypothesis =>
      exact inductionHypothesis (equipped.hire.of_workers rfl rfl)

/-- In the order in which they were hired, the workers run the instances of their numbers. -/
theorem protocols_eq (equipped : pool.Equipped terms) : pool.workers.map Worker.protocol =
    (List.range' 1 pool.workers.length).map terms.instanceFor := by
  refine List.ext_getElem (by simp) fun position inside _ => ?_
  rw [List.length_map] at inside
  rw [List.getElem_map, List.getElem_map, List.getElem_range', Nat.one_mul, Nat.add_comm 1]
  exact equipped.runs (position + 1) _ (List.getElem?_eq_getElem inside)

end Equipped

/-! ## How many there are -/

theorem length_hireFree (count : Nat) (pool : Pool) :
    (hireFree terms count pool).workers.length = pool.workers.length + count := by
  induction count generalizing pool with
  | zero => rfl
  | succ count inductionHypothesis =>
      rw [hireFree, inductionHypothesis]
      show (pool.hire terms).workers.length + count = _
      rw [length_hire]
      omega

end Pool

namespace Server

variable {terms : Terms} {server next first last : Server} {label : Label} {events : List Event}
  {turns : List Turn}

/-! ## One turn -/

theorem Step.equipped (step : Step terms server label events next)
    (equipped : server.pool.Equipped terms) : next.pool.Equipped terms := by
  cases step with
  | started | cannotListen =>
      have swept : Pool.Equipped terms { server.pool with queue := [] } :=
        equipped.of_workers rfl rfl
      exact (swept.hireFree _).of_workers rfl rfl
  | @signal id closing =>
      refine equipped.updateWorker fun worker => ?_
      cases closing.mode <;> rfl
  | @spawned descriptor =>
      have hired := Pool.worker?_hire terms server.pool server.pool.nextId
      rw [if_pos rfl] at hired
      exact equipped.hire.setWorker hired (Worker.assign_protocol _ _) rfl rfl
  | unspawned => exact equipped.hire
  | @reused descriptor starts id free worker waits running top member found =>
      exact equipped.setWorker found (Worker.assign_protocol _ _) rfl rfl
  | claim _ _ found | sweepClaim _ _ _ found | take found | leave found | expire found
  | retire found | stay found | exchange found | beginSession found | skipSession found
  | finish found | handOver found | becomeFree found | comeBack found =>
      exact equipped.setWorker found rfl rfl rfl
  | _ => exact equipped.of_workers rfl rfl

theorem hires_hiredEvents (before after : Pool) : hires (hiredEvents before after) =
    List.range' before.nextId (after.workers.length - before.workers.length) := by
  rw [hires, hiredEvents, List.filterMap_map]
  exact List.filterMap_some

theorem length_floored (pool : Pool) : (floored terms pool).workers.length =
    pool.workers.length + (terms.options.minWorkers - pool.free.length) :=
  Pool.length_hireFree ..

/-- A start shows whom it hired for the floor. -/
theorem hires_startEvents {pool : Pool} {listens : Bool} {answer : StartAnswer} :
    hires (startEvents terms pool listens ++ [.startAnswered answer]) =
      List.range' pool.nextId (terms.options.minWorkers - pool.free.length) := by
  have none : hires (pool.queue.map Event.discarded) = [] := by
    rw [hires, List.filterMap_map]
    exact List.filterMap_eq_nil_iff.2 fun _ _ => rfl
  rw [startEvents, hires_append, hires_append, hires_append, none, hires_hiredEvents,
    length_floored, Nat.add_sub_cancel_left]
  simp [hires, Event.hired?, Pool.nextId]

/-- The numbers that a turn gives to workers are the next ones. -/
theorem Step.numbered (step : Step terms server label events next) :
    List.range' 1 next.pool.workers.length =
      List.range' 1 server.pool.workers.length ++ hires events := by
  have none (same : next.pool.workers.length = server.pool.workers.length)
      (silent : hires events = []) : List.range' 1 next.pool.workers.length =
        List.range' 1 server.pool.workers.length ++ hires events := by
    rw [same, silent, List.append_nil]
  have more (one : next.pool.workers.length = server.pool.workers.length + 1)
      (shows : hires events = [server.pool.nextId]) : List.range' 1 next.pool.workers.length =
        List.range' 1 server.pool.workers.length ++ hires events := by
    rw [one, shows, List.range'_1_concat, Pool.nextId, Nat.add_comm 1]
  cases step with
  | started | cannotListen =>
      rw [hires_startEvents]
      show List.range' 1 (floored terms server.pool).workers.length = _
      rw [length_floored, Pool.nextId, Nat.add_comm _ 1, List.range'_append_1]
  | spawned | unspawned => exact more (by simp) rfl
  | signal => exact none (Pool.length_updateWorker ..) rfl
  | claim | sweepClaim | take | leave | expire | retire | stay | exchange | beginSession
  | skipSession | finish | handOver | becomeFree | comeBack | reused =>
      exact none (Pool.length_setWorker ..) rfl
  | _ => exact none rfl rfl

/-- Nobody is forgotten. -/
theorem Step.knows {id : WorkerId} (step : Step terms server label events next)
    (known : server.pool.Knows id) : next.pool.Knows id := by
  have more := congrArg List.length step.numbered
  simp only [List.length_append, List.length_range'] at more
  refine ⟨known.1, Nat.lt_of_lt_of_le known.2 ?_⟩
  rw [Pool.nextId, Pool.nextId, more]
  omega

/-! ## Many turns -/

theorem Run.equipped (run : Run terms turns server) : server.pool.Equipped terms :=
  run.keeps (motive := fun server => server.pool.Equipped terms) (.new terms)
    fun _ equipped step => step.equipped equipped

theorem Path.numbered (path : Path terms first turns last) :
    List.range' 1 last.pool.workers.length =
      List.range' 1 first.pool.workers.length ++ hires (shown turns) := by
  induction path with
  | refl => exact (List.append_nil _).symm
  | turn before step inductionHypothesis =>
      rw [shown_append, shown_singleton, hires_append, step.numbered, inductionHypothesis,
        List.append_assoc]

/-- What was shown about hiring tells every worker ever hired, in order. -/
theorem Run.numbered (run : Run terms turns server) :
    hires (shown turns) = List.range' 1 server.pool.workers.length :=
  (Path.numbered run).symm

end Server

end ConnectionPool
