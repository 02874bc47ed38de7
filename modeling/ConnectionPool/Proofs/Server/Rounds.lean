import ConnectionPool.Proofs.Server.Hands

/-!
Contract: a worker serves one connection after the other, each to its end.

What a worker shows about connections is a list of rounds. A round begins with the assignment; then
the descriptor is exchanged, and the channel, if there is one, sees a session from its beginning to
its end, or is closed without a session. A worker begins no round before the last one is over, so
what it has shown is some whole rounds and the beginning of the round it is in.

Owns:
- the type `Round` and the reader `service` of what was shown;
- `Pool.progress`, and what every turn and every path make of it.

Does not own: when a worker is in no round; the invariants say that.
-/

namespace ConnectionPool

/-! ## What was shown -/

/-- The event belongs to what this worker does for connections. -/
def Event.isService (id : WorkerId) : Event → Bool
  | .assigned other _ => other = id
  | .exchanged other _ _ => other = id
  | .began other _ _ => other = id
  | .ended other _ _ => other = id
  | .skipped other _ => other = id
  | _ => false

/-- What a worker did for connections. -/
def service (id : WorkerId) (events : List Event) : List Event :=
  events.filter (Event.isService id)

@[simp] theorem service_append (id : WorkerId) (front back : List Event) :
    service id (front ++ back) = service id front ++ service id back :=
  List.filter_append ..

/-- What is read of a worker's own service is what is read of everything, for that worker. -/
theorem map_filterMap_service {read : Event → Option (WorkerId × Descriptor)}
    (own : ∀ event entry, read event = some entry →
      ∀ id, Event.isService id event = decide (entry.1 = id)) (id : WorkerId)
    (events : List Event) :
    ((service id events).filterMap read).map Prod.snd = ofWorker id (events.filterMap read) := by
  induction events with
  | nil => rfl
  | cons event events inductionHypothesis =>
      rw [← List.singleton_append, service_append, List.filterMap_append, List.filterMap_append,
        List.map_append, ofWorker_append, inductionHypothesis]
      congr 1
      cases reads : read event with
      | none =>
          rw [service, List.filter_cons]
          split <;> simp [reads, ofWorker]
      | some entry =>
          by_cases same : entry.1 = id <;>
            simp [service, own event entry reads id, reads, ofWorker, same]

theorem map_handings_service (id : WorkerId) (events : List Event) :
    (handings (service id events)).map Prod.snd = ofWorker id (handings events) := by
  refine map_filterMap_service (fun event entry reads id => ?_) id events
  cases event <;> cases reads
  rfl

theorem map_exchanges_service (id : WorkerId) (events : List Event) :
    (exchanges (service id events)).map Prod.snd = ofWorker id (exchanges events) := by
  refine map_filterMap_service (fun event entry reads id => ?_) id events
  cases event <;> cases reads
  rfl

/-! ## Rounds -/

/-- What became of a connection with the worker that it was handed to. -/
inductive Round where
  /-- There was no channel for it. -/
  | unopened (descriptor : Descriptor)
  /-- Its channel was closed without a session. -/
  | skipped (descriptor : Descriptor)
  /-- There was a session on its channel. -/
  | served (descriptor : Descriptor) (protocol : ProtocolInstance) (ending : SessionEnd)
deriving DecidableEq, Repr

namespace Round

def descriptor : Round → Descriptor
  | .unopened descriptor => descriptor
  | .skipped descriptor => descriptor
  | .served descriptor _ _ => descriptor

/-- What the worker shows in such a round, from the assignment on. -/
def events (id : WorkerId) : Round → List Event
  | .unopened descriptor => [.assigned id descriptor, .exchanged id descriptor false]
  | .skipped descriptor =>
      [.assigned id descriptor, .exchanged id descriptor true, .skipped id descriptor]
  | .served descriptor protocol ending =>
      [.assigned id descriptor, .exchanged id descriptor true, .began id protocol descriptor,
        .ended id descriptor ending]

/-- What is read once in every round is read for every connection. -/
theorem map_filterMap_flatMap_events {read : Event → Option (WorkerId × Descriptor)}
    {id : WorkerId} (once : ∀ round, (events id round).filterMap read = [(id, round.descriptor)])
    (rounds : List Round) :
    ((rounds.flatMap (events id)).filterMap read).map Prod.snd = rounds.map descriptor := by
  induction rounds with
  | nil => rfl
  | cons round rounds inductionHypothesis =>
      rw [List.flatMap_cons, List.filterMap_append, List.map_append, inductionHypothesis, once]
      rfl

theorem map_handings_flatMap_events (id : WorkerId) (rounds : List Round) :
    (handings (rounds.flatMap (events id))).map Prod.snd = rounds.map descriptor :=
  map_filterMap_flatMap_events (fun round => by cases round <;> rfl) rounds

theorem map_exchanges_flatMap_events (id : WorkerId) (rounds : List Round) :
    (exchanges (rounds.flatMap (events id))).map Prod.snd = rounds.map descriptor :=
  map_filterMap_flatMap_events (fun round => by cases round <;> rfl) rounds

end Round

/-- What the worker has shown of the round that it is in. -/
def Worker.progress (id : WorkerId) (worker : Worker) : List Event :=
  match worker.stage with
  | .exchanging descriptor => [.assigned id descriptor]
  | .opened descriptor => [.assigned id descriptor, .exchanged id descriptor true]
  | .serving descriptor =>
      [.assigned id descriptor, .exchanged id descriptor true, .began id worker.protocol descriptor]
  | _ => worker.assignment.toList.map (Event.assigned id)

namespace Pool

/-- What the worker of a number has shown of the round that it is in. -/
def progress (pool : Pool) (id : WorkerId) : List Event :=
  match pool.worker? id with
  | none => []
  | some worker => worker.progress id

variable {pool base : Pool} {worker : Worker} {id : WorkerId}

theorem progress_of_worker? (found : pool.worker? id = some worker) :
    pool.progress id = worker.progress id := by
  rw [progress, found]

theorem progress_of_workers (same : base.workers = pool.workers) (id : WorkerId) :
    base.progress id = pool.progress id := by
  rw [progress, progress, worker?_of_workers same]

theorem progress_hire (terms : Terms) (pool : Pool) (id : WorkerId) :
    (pool.hire terms).progress id = pool.progress id := by
  by_cases new : id = pool.nextId
  · subst new
    rw [progress, progress, worker?_hire, if_pos rfl, worker?_nextId]
    rfl
  · rw [progress, progress, worker?_hire, if_neg new]

theorem progress_hireFree (terms : Terms) (count : Nat) (pool : Pool) (id : WorkerId) :
    (hireFree terms count pool).progress id = pool.progress id := by
  induction count generalizing pool with
  | zero => rfl
  | succ count inductionHypothesis =>
      exact (inductionHypothesis _).trans (progress_hire terms pool id)

end Pool

/-! ## One turn -/

/-- For each worker, the round that it was in and what it shows are some whole rounds and the round
that it is in then. -/
def Serviced (before after : Pool) (events : List Event) : Prop :=
  ∀ id, ∃ rounds : List Round,
    before.progress id ++ service id events =
      rounds.flatMap (Round.events id) ++ after.progress id

namespace Serviced

variable {before middle after base : Pool} {events more : List Event} {worker changed : Worker}
  {id : WorkerId}

theorem of_silent (silent : ∀ id, service id events = [])
    (same : ∀ id, after.progress id = before.progress id) : Serviced before after events := by
  intro id
  exact ⟨[], by rw [silent, same, List.append_nil]; rfl⟩

theorem of_workers (silent : ∀ id, service id events = [])
    (same : after.workers = before.workers) : Serviced before after events :=
  of_silent silent (Pool.progress_of_workers same)

/-- Only one worker moves. -/
theorem setWorker (rounds : List Round) (found : before.worker? id = some worker)
    (workers : base.workers = before.workers) (own : ∀ other, other ≠ id → service other events = [])
    (goesOn : worker.progress id ++ service id events =
      rounds.flatMap (Round.events id) ++ changed.progress id) :
    Serviced before (base.setWorker changed id) events := by
  intro other
  by_cases same : other = id
  · subst same
    refine ⟨rounds, ?_⟩
    rw [Pool.progress_of_worker? found,
      Pool.progress_of_worker? (Pool.worker?_setWorker_self changed found workers), goesOn]
  · have still : (base.setWorker changed id).progress other = before.progress other := by
      rw [Pool.progress, Pool.progress, Pool.worker?_setWorker, if_neg same,
        Pool.worker?_of_workers workers]
    exact ⟨[], by rw [own other same, still, List.append_nil]; rfl⟩

/-- A worker moves and shows nothing of its service. -/
theorem setWorker_of_silent (found : before.worker? id = some worker)
    (workers : base.workers = before.workers) (silent : ∀ id, service id events = [])
    (same : changed.progress id = worker.progress id) :
    Serviced before (base.setWorker changed id) events :=
  setWorker [] found workers (fun other _ => silent other)
    (by rw [silent, same, List.append_nil]; rfl)

/-- Whoever was just hired is in no round. -/
theorem of_hire (terms : Terms) (serviced : Serviced (before.hire terms) after events) :
    Serviced before after events := by
  intro id
  rw [← Pool.progress_hire terms before id]
  exact serviced id

theorem append (front : Serviced before middle events) (back : Serviced middle after more) :
    Serviced before after (events ++ more) := by
  intro id
  obtain ⟨first, inFront⟩ := front id
  obtain ⟨second, behind⟩ := back id
  refine ⟨first ++ second, ?_⟩
  calc before.progress id ++ service id (events ++ more)
      = before.progress id ++ service id events ++ service id more := by
        rw [service_append, List.append_assoc]
    _ = first.flatMap (Round.events id) ++ (middle.progress id ++ service id more) := by
        rw [inFront, List.append_assoc]
    _ = (first ++ second).flatMap (Round.events id) ++ after.progress id := by
        rw [behind, List.flatMap_append, List.append_assoc]

end Serviced

namespace Server

variable {terms : Terms} {server next : Server} {label : Label} {events : List Event}

/-- A worker that has taken no connection has shown of its round at most the assignment. -/
theorem progress_of_not_isEngaged {worker : Worker} (id : WorkerId)
    (idle : worker.stage.isEngaged = false) :
    worker.progress id = worker.assignment.toList.map (Event.assigned id) := by
  unfold Worker.progress
  revert idle
  cases worker.stage <;> simp [Stage.isEngaged]

theorem progress_assign {worker : Worker} (id : WorkerId) (descriptor : Descriptor)
    (idle : worker.stage.isEngaged = false) :
    (worker.assign descriptor).progress id = [.assigned id descriptor] := by
  have still : (worker.assign descriptor).stage.isEngaged = false := by
    rw [Worker.assign_stage]
    split
    · rfl
    · exact idle
  rw [progress_of_not_isEngaged id still, Worker.assign_assignment]
  rfl

theorem service_startEvents {pool : Pool} {listens : Bool} {answer : StartAnswer}
    (empty : pool.queue = []) (id : WorkerId) :
    service id (startEvents terms pool listens ++ [.startAnswered answer]) = [] := by
  refine List.filter_eq_nil_iff.2 fun event member => ?_
  have shown := ofStart_of_mem empty member
  revert shown
  cases event <;> simp [ofStart, Event.isService]

theorem serviced_floored {pool after : Pool} (silent : ∀ id, service id events = [])
    (workers : after.workers = (floored terms pool).workers) : Serviced pool after events :=
  .of_silent silent fun id =>
    (Pool.progress_of_workers workers id).trans (Pool.progress_hireFree terms _ _ id)

/-- Every turn carries on the rounds. -/
theorem Step.serviced (step : Step terms server label events next) (sound : Sound terms server) :
    Serviced server.pool next.pool events := by
  cases step with
  | started stopped | cannotListen stopped =>
      have empty : server.pool.queue = [] := sound.roster.stopped_queue stopped
      exact serviced_floored (service_startEvents empty) rfl
  | @signal id closing =>
      show Serviced server.pool (server.pool.updateWorker id (Worker.signal closing.mode)) []
      unfold Pool.updateWorker
      split
      · exact .of_workers (fun _ => rfl) rfl
      · next worker found =>
          refine .setWorker_of_silent found rfl (fun _ => rfl) ?_
          cases closing.mode <;> rfl
  | claim _ _ found | sweepClaim _ _ _ found =>
      exact .setWorker_of_silent found rfl (fun _ => rfl) rfl
  | @reused descriptor starts id free worker waits running top member found =>
      have idle := (sound.duty id worker found).idle (by rw [top]; exact List.mem_cons_self)
      refine .setWorker [] found rfl (fun other different => ?_) ?_
      · simp [service, Event.isService, different.symm]
      · rw [progress_of_not_isEngaged id idle.2, idle.1, progress_assign id descriptor idle.2]
        simp [service, Event.isService]
  | @spawned descriptor waits running none room =>
      have found := Pool.worker?_hire terms server.pool server.pool.nextId
      rw [if_pos rfl] at found
      refine .of_hire terms (.setWorker [] found rfl (fun other different => ?_) ?_)
      · simp [service, Event.isService, different.symm]
      · rw [progress_assign server.pool.nextId descriptor rfl]
        simp [service, Event.isService, Pool.newcomer, Worker.progress]
  | unspawned => exact .of_hire terms (.of_workers (fun _ => rfl) rfl)
  | @take id worker descriptor found stage full =>
      refine .setWorker_of_silent found rfl (fun _ => rfl) ?_
      simp [Worker.progress, stage, full]
  | leave found stage | expire found stage | retire found stage | stay found stage
  | becomeFree found stage | comeBack found stage =>
      exact .setWorker_of_silent found rfl (fun _ => rfl) (by simp [Worker.progress, stage])
  | @exchange id worker descriptor granted found stage =>
      -- Without a channel the round is over.
      have empty := (sound.duty id worker found).empty_of_isEngaged (by rw [stage]; rfl)
      refine .setWorker (if granted then [] else [.unopened descriptor]) found rfl
        (fun other different => ?_) ?_
      · simp [service, Event.isService, different.symm]
      · cases granted <;> simp [service, Event.isService, Worker.progress, stage, empty, Round.events]
  | @beginSession id worker descriptor found stage =>
      refine .setWorker [] found rfl (fun other different => ?_) ?_
      · simp [service, Event.isService, different.symm]
      · simp [service, Event.isService, Worker.progress, stage]
  | @skipSession id worker descriptor found stage =>
      have empty := (sound.duty id worker found).empty_of_isEngaged (by rw [stage]; rfl)
      refine .setWorker [.skipped descriptor] found rfl (fun other different => ?_) ?_
      · simp [service, Event.isService, different.symm]
      · simp [service, Event.isService, Worker.progress, stage, empty, Round.events]
  | @finish id worker descriptor ending found stage =>
      have empty := (sound.duty id worker found).empty_of_isEngaged (by rw [stage]; rfl)
      refine .setWorker [.served descriptor worker.protocol ending] found rfl
        (fun other different => ?_) ?_
      · simp [service, Event.isService, different.symm]
      · simp [service, Event.isService, Worker.progress, stage, empty, Round.events]
  | @handOver id worker descriptor queue starts found stage running member first =>
      have empty := (sound.duty id worker found).empty_of_isEngaged (by rw [stage]; rfl)
      refine .setWorker [] found rfl (fun other different => ?_) ?_
      · simp [service, Event.isService, different.symm]
      · simp [service, Event.isService, Worker.progress, stage, empty]
  | _ => exact .of_workers (fun _ => rfl) rfl

/-! ## A path -/

theorem Path.serviced {first last : Server} {turns : List Turn}
    (path : Path terms first turns last) (sound : Sound terms first) :
    Serviced first.pool last.pool (shown turns) := by
  induction path with
  | refl => exact .of_workers (fun _ => rfl) rfl
  | turn before step inductionHypothesis =>
      rw [shown_append, shown_singleton]
      exact inductionHypothesis.append (step.serviced (before.sound sound))

end Server

end ConnectionPool
