import ConnectionPool.Proofs.Server.Sound
import ConnectionPool.Proofs.Server.Tally

/-!
Contract: no assignment is overwritten or stranded, and no more sessions run than there may be
workers.

A full slot belongs to a worker whose thread is about to look at it. Whatever others do, the
connection stays there until that thread takes it, and the thread does so with the next two turns of
its own at the latest.

Owns:
- `Pool.Has`, a property of one worker that others do not change;
- `Pool.Holds`, and what every turn and every path make of a full slot;
- `Server.SlotsKept` and its proof for every run.

Does not own: what becomes of connections that are in no slot.
-/

namespace ConnectionPool

def Stage.isServing : Stage → Bool
  | .serving _ => true
  | _ => false

namespace Event

def isBeginning : Event → Bool
  | .began .. => true
  | _ => false

def isEnding : Event → Bool
  | .ended .. => true
  | _ => false

end Event

namespace Worker

/-- The slot holds the connection, and the thread is in its round and about to look. -/
def Holds (descriptor : Descriptor) (worker : Worker) : Prop :=
  worker.assignment = some descriptor ∧ (worker.stage = .waiting ∨ worker.stage = .expired)

/-- How many connections the worker was handed and has not reported about. -/
def outstanding (worker : Worker) : Nat :=
  (if worker.assignment.isSome then 1 else 0) + (if worker.stage.isEngaged then 1 else 0)

end Worker

theorem Worker.holds_assign {worker : Worker} (descriptor : Descriptor)
    (idle : worker.stage.isEngaged = false) (present : worker.stage ≠ .exited) :
    (worker.assign descriptor).Holds descriptor := by
  refine ⟨worker.assign_assignment descriptor, ?_⟩
  rw [Worker.assign_stage]
  revert idle present
  cases worker.stage <;> simp [Stage.isEngaged]

namespace Pool

def sessions (pool : Pool) : Nat :=
  pool.countWorkers fun worker => worker.stage.isServing

/-- The worker of a number holds the connection in its slot. -/
def Holds (pool : Pool) (id : WorkerId) (descriptor : Descriptor) : Prop :=
  ∃ worker, pool.worker? id = some worker ∧ worker.Holds descriptor

/-- The worker of a number took the connection from its slot, and is about to exchange it. -/
def Took (pool : Pool) (id : WorkerId) (descriptor : Descriptor) : Prop :=
  ∃ worker, pool.worker? id = some worker ∧ worker.stage = .exchanging descriptor

/-- The worker of a number has a property. -/
def Has (pool : Pool) (id : WorkerId) (property : Worker → Prop) : Prop :=
  ∃ worker, pool.worker? id = some worker ∧ property worker

namespace Has

variable {pool base : Pool} {id other : WorkerId} {property : Worker → Prop}

theorem of_worker? (has : pool.Has id property) (same : base.worker? id = pool.worker? id) :
    base.Has id property := by
  obtain ⟨worker, found, holds⟩ := has
  exact ⟨worker, same.trans found, holds⟩

theorem of_workers (has : pool.Has id property) (same : base.workers = pool.workers) :
    base.Has id property :=
  has.of_worker? (worker?_of_workers same id)

theorem ne_nextId (has : pool.Has id property) : id ≠ pool.nextId := by
  obtain ⟨worker, found, _⟩ := has
  rintro rfl
  rw [worker?_nextId] at found
  cases found

theorem setWorker {worker changed : Worker} (has : pool.Has id property)
    (found : pool.worker? other = some worker) (workers : base.workers = pool.workers)
    (kept : property worker → other = id → property changed) :
    (base.setWorker changed other).Has id property := by
  obtain ⟨holder, present, holds⟩ := has
  by_cases same : id = other
  · subst same
    cases found.symm.trans present
    exact ⟨changed, worker?_setWorker_self changed found workers, kept holds rfl⟩
  · refine ⟨holder, ?_, holds⟩
    rw [worker?_setWorker, if_neg same, worker?_of_workers workers, present]

theorem updateWorker {change : Worker → Worker} (has : pool.Has id property)
    (kept : ∀ worker, property worker → property (change worker)) :
    (pool.updateWorker other change).Has id property := by
  unfold Pool.updateWorker
  split
  · exact has
  · next worker found => exact has.setWorker found rfl fun holds _ => kept worker holds

theorem hire (terms : Terms) (has : pool.Has id property) : (pool.hire terms).Has id property :=
  has.of_worker? (by rw [worker?_hire, if_neg has.ne_nextId])

theorem hireFree {terms : Terms} (count : Nat) (has : pool.Has id property) :
    (Pool.hireFree terms count pool).Has id property := by
  induction count generalizing pool with
  | zero => exact has
  | succ count inductionHypothesis => exact inductionHypothesis ((has.hire terms).of_workers rfl)

theorem floored {terms : Terms} (has : pool.Has id property) :
    (Server.floored terms pool).Has id property :=
  hireFree _ (has.of_workers rfl)

end Has

end Pool

namespace Server

variable {terms : Terms} {server next : Server} {label : Label} {events : List Event}
  {id : WorkerId} {descriptor : Descriptor}

/-! ## A full slot -/

theorem Step.holds (step : Step terms server label events next) (sound : Sound terms server)
    (holds : server.pool.Holds id descriptor) :
    next.pool.Holds id descriptor ∨ label = .take id ∧ next.pool.Took id descriptor := by
  have notFree : id ∉ server.pool.free := by
    obtain ⟨worker, found, held⟩ := holds
    intro isFree
    have empty := ((sound.duty id worker found).idle isFree).1
    rw [held.1] at empty
    cases empty
  have has : server.pool.Has id (Worker.Holds descriptor) := holds
  cases step with
  | started => exact .inl (has.floored.of_workers rfl)
  | cannotListen => exact .inl has.floored
  | signal =>
      refine .inl (has.updateWorker fun worker held => ?_)
      rwa [Worker.Holds, Worker.signal_assignment, Worker.signal_stage]
  | claim _ _ found | sweepClaim _ _ _ found =>
      exact .inl (has.setWorker found rfl fun held _ => held)
  | reused waits running top member found =>
      refine .inl (has.setWorker found rfl fun _ same => absurd ?_ notFree)
      rw [top, same]
      exact List.mem_cons_self
  | spawned =>
      exact .inl (has.of_worker? (by rw [Pool.worker?_employ, if_neg has.ne_nextId]))
  | unspawned => exact .inl (has.hire terms)
  | @take other worker taken found stage full =>
      by_cases same : other = id
      · subst same
        obtain ⟨_, present, held⟩ := holds
        cases found.symm.trans present
        cases full.symm.trans held.1
        exact .inr ⟨rfl, _, Pool.worker?_setWorker_self _ found rfl, rfl⟩
      · exact .inl (has.setWorker found rfl fun _ same' => absurd same' same)
  | leave found stage empty | expire found stage empty =>
      refine .inl (has.setWorker found rfl fun held _ => ?_)
      cases held.1.symm.trans empty
  | retire found stage may =>
      refine .inl (has.setWorker found rfl fun _ same => absurd ?_ notFree)
      rw [← same]
      exact may.2.2
  | stay found stage =>
      exact .inl (has.setWorker found rfl fun held _ => ⟨held.1, .inl rfl⟩)
  | exchange found stage | beginSession found stage | skipSession found stage | finish found stage
  | handOver found stage | becomeFree found stage | comeBack found stage =>
      -- The thread of a full slot is in none of these stages.
      exact .inl (has.setWorker found rfl fun held _ => absurd held.2 (by simp [stage]))
  | _ => exact .inl (has.of_workers rfl)

/-- Somewhere along these turns the worker takes the connection, which was in its slot until then.
-/
def TakenAlong (terms : Terms) (first last : Server) (turns : List Turn) (id : WorkerId)
    (descriptor : Descriptor) : Prop :=
  ∃ before after middle next, turns = before ++ ⟨.take id, []⟩ :: after ∧
    Path terms first before middle ∧ middle.pool.Holds id descriptor ∧
    Step terms middle (.take id) [] next ∧ next.pool.Took id descriptor ∧ Path terms next after last

/-- A full slot stays full along every path until its worker takes the connection. -/
theorem Path.holds {first last : Server} {turns : List Turn} (path : Path terms first turns last)
    (sound : Sound terms first) (holds : first.pool.Holds id descriptor) :
    last.pool.Holds id descriptor ∨ TakenAlong terms first last turns id descriptor := by
  induction path with
  | refl => exact .inl holds
  | @turn turns last next label events before step inductionHypothesis =>
      rcases inductionHypothesis with held | taken
      · rcases step.holds (before.sound sound) held with still | ⟨rfl, took⟩
        · exact .inl still
        · have silent : events = [] := by
            cases step
            rfl
          subst silent
          exact .inr ⟨turns, [], last, next, rfl, before, held, step, took, .refl⟩
      · -- The turn in which it was taken stays where it is; the path behind it grows.
        obtain ⟨front, back, middle, after, rfl, path, held, take, took, rest⟩ := taken
        refine .inr ⟨front, back ++ [⟨label, events⟩], middle, after, ?_, path, held, take, took,
          rest.turn step⟩
        rw [List.append_assoc, List.cons_append]

private theorem exists_take (terms : Terms) (server : Server) {worker : Worker}
    (found : server.pool.worker? id = some worker) (full : worker.assignment = some descriptor)
    (stage : worker.stage = .waiting) :
    ∃ next, Step terms server (.take id) [] next ∧ next.pool.Took id descriptor :=
  ⟨_, .take found stage full, _, Pool.worker?_setWorker_self _ found rfl, rfl⟩

/-- The thread of a worker with a full slot takes the connection with its next two turns at the
latest: a stop does not keep it from that, and where it has waited too long already it may not
retire. -/
theorem Sound.takes (sound : Sound terms server) (holds : server.pool.Holds id descriptor) :
    ∃ turns next, Path terms server turns next ∧ turns.length ≤ 2 ∧
      (∀ turn ∈ turns, turn.label = .askRetirement id ∨ turn.label = .take id) ∧
      next.pool.Took id descriptor := by
  obtain ⟨worker, found, full, waiting | expired⟩ := holds
  · obtain ⟨next, take, took⟩ := exists_take terms server found full waiting
    exact ⟨_, next, .turn .refl take, by simp, by simp, took⟩
  · have mayNot : ¬ MayRetire terms server.pool id := by
      rintro ⟨_, _, isFree⟩
      have empty := ((sound.duty id worker found).idle isFree).1
      cases full.symm.trans empty
    let waiting : Worker := { worker with stage := .waiting }
    let stayed : Server := { server with pool := server.pool.setWorker waiting id }
    have stay : Step terms server (.askRetirement id) [.retirementAsked id false] stayed :=
      .stay found expired mayNot
    have again : stayed.pool.worker? id = some waiting :=
      Pool.worker?_setWorker_self waiting found rfl
    obtain ⟨next, take, took⟩ := exists_take terms stayed again full rfl
    exact ⟨_, next, .turn (.turn .refl stay) take, by simp, by simp, took⟩

/-! ## An assignment -/

theorem phase_of_not_isEngaged {worker : Worker} (idle : worker.stage.isEngaged = false)
    (present : worker.stage ≠ .exited) : worker.phase ≠ .executing ∧ worker.phase ≠ .exited := by
  unfold Worker.phase
  revert idle present
  cases worker.stage <;> simp [Stage.isEngaged]

/-- An assignment goes to a new worker, or to one that has nothing in its slot, is not in a session,
and was never gone. -/
theorem Step.assigned (step : Step terms server label events next) (sound : Sound terms server)
    (shown : .assigned id descriptor ∈ events) :
    next.pool.Holds id descriptor ∧ id ∈ next.pool.staff ∧ id ∉ server.pool.retired ∧
      ∀ worker, server.pool.worker? id = some worker →
        worker.assignment = none ∧ worker.phase ≠ .executing ∧ worker.phase ≠ .exited := by
  cases step with
  | @reused taken starts other free worker waits running top member found =>
      obtain ⟨rfl, rfl⟩ : id = other ∧ descriptor = taken := by simpa using shown
      have fits := sound.duty id worker found
      have idle := fits.idle (by rw [top]; exact List.mem_cons_self)
      have present := fits.present running member
      have holds := Worker.holds_assign descriptor idle.2 present
      refine ⟨⟨_, Pool.worker?_setWorker_self _ found rfl, holds⟩, by simpa using member,
        fun retired => sound.roster.retired_outside id retired member, fun current known => ?_⟩
      cases found.symm.trans known
      exact ⟨idle.1, phase_of_not_isEngaged idle.2 present⟩
  | @spawned taken waits running none room =>
      obtain ⟨rfl, rfl⟩ : id = server.pool.nextId ∧ descriptor = taken := by simpa using shown
      have found := Pool.worker?_employ terms server.pool
        ((server.pool.newcomer terms).assign descriptor) server.pool.nextId
      rw [if_pos rfl] at found
      have holds : ((server.pool.newcomer terms).assign descriptor).Holds descriptor :=
        Worker.holds_assign descriptor rfl nofun
      refine ⟨⟨_, found, holds⟩, by simp,
        fun retired => Pool.not_knows_nextId (sound.roster.retired_known _ retired),
        fun current known => ?_⟩
      rw [Pool.worker?_nextId] at known
      cases known
  | @handOver other worker first queue starts found stage running member front =>
      obtain ⟨rfl, rfl⟩ : id = other ∧ descriptor = first := by simpa using shown
      have empty := (sound.duty id worker found).empty_of_stage (by simp [stage]) (by simp [stage])
      refine ⟨⟨_, Pool.worker?_setWorker_self _ found rfl, rfl, .inl rfl⟩, by simpa using member,
        fun retired => sound.roster.retired_outside id retired member, fun current known => ?_⟩
      cases found.symm.trans known
      exact ⟨empty, by simp [Worker.phase, stage], by simp [Worker.phase, stage]⟩
  | started => simp [startEvents, hiredEvents] at shown
  | cannotListen => simp [startEvents, hiredEvents] at shown
  | _ => simp at shown

/-! ## Sessions -/

theorem sessions_floored (pool : Pool) : (floored terms pool).sessions = pool.sessions :=
  Pool.countWorkers_hireFree (fun _ => rfl) _

theorem sessions_setWorker {pool base : Pool} {worker changed : Worker}
    (found : pool.worker? id = some worker) (workers : base.workers = pool.workers)
    (same : changed.stage.isServing = worker.stage.isServing) :
    (base.setWorker changed id).sessions = pool.sessions := by
  have present : base.worker? id = some worker := (Pool.worker?_of_workers workers id).trans found
  exact (Pool.countWorkers_setWorker_of_eq present same).trans
    (Pool.countWorkers_of_workers workers)

theorem isServing_assign (worker : Worker) :
    (worker.assign descriptor).stage.isServing = worker.stage.isServing := by
  rw [Worker.assign_stage]
  split
  · next unstarted => rw [unstarted]; rfl
  · rfl

/-- Sessions run from the turn that shows their beginning to the turn that shows their end. -/
theorem Step.sessions (step : Step terms server label events next) (sound : Sound terms server) :
    events.countP Event.isBeginning + server.pool.sessions =
      events.countP Event.isEnding + next.pool.sessions := by
  -- Most turns show no beginning and no end, and leave the number of sessions as it was.
  have quiet : events.countP Event.isBeginning = 0 → events.countP Event.isEnding = 0 →
      next.pool.sessions = server.pool.sessions →
      events.countP Event.isBeginning + server.pool.sessions =
        events.countP Event.isEnding + next.pool.sessions := by
    intro noBeginning noEnding same
    rw [noBeginning, noEnding, same]
  cases step with
  | started stopped | cannotListen stopped =>
      have empty : server.pool.queue = [] := sound.roster.stopped_queue stopped
      refine quiet ?_ ?_ (sessions_floored server.pool)
      · apply countP_startEvents empty
        intro event
        cases event <;> simp [ofStart, Event.isBeginning]
      · apply countP_startEvents empty
        intro event
        cases event <;> simp [ofStart, Event.isEnding]
  | signal =>
      refine quiet rfl rfl (Pool.countWorkers_updateWorker fun worker => ?_)
      rw [Worker.signal_stage]
  | claim _ _ found | sweepClaim _ _ _ found =>
      exact quiet rfl rfl (sessions_setWorker found rfl rfl)
  | reused waits running top member found =>
      exact quiet rfl rfl (sessions_setWorker found rfl (isServing_assign _))
  | @spawned descriptor waits running none room =>
      have found := Pool.worker?_hire terms server.pool server.pool.nextId
      rw [if_pos rfl] at found
      refine quiet rfl rfl ((sessions_setWorker found rfl (isServing_assign _)).trans ?_)
      exact Pool.countWorkers_hire rfl
  | unspawned => exact quiet rfl rfl (Pool.countWorkers_hire rfl)
  | take found stage | leave found stage | expire found stage | retire found stage
  | stay found stage | skipSession found stage | handOver found stage | becomeFree found stage
  | comeBack found stage =>
      exact quiet rfl rfl (sessions_setWorker found rfl (by rw [stage]; rfl))
  | @exchange id worker descriptor granted found stage =>
      refine quiet rfl rfl (sessions_setWorker found rfl ?_)
      rw [stage]
      cases granted <;> rfl
  | @beginSession id worker descriptor found stage =>
      have counted := Pool.countWorkers_setWorker (fun worker => worker.stage.isServing)
        { worker with stage := .serving descriptor } found
      rw [stage] at counted
      exact (Nat.add_comm _ _).trans (counted.symm.trans (Nat.add_comm _ _))
  | @finish id worker descriptor ending found stage =>
      have counted := Pool.countWorkers_setWorker (fun worker => worker.stage.isServing)
        { worker with stage := .returning } found
      rw [stage] at counted
      exact (Nat.add_comm _ _).trans (counted.symm.trans (Nat.add_comm _ _))
  | _ => exact quiet rfl rfl rfl

theorem Run.sessions {turns : List Turn} (run : Run terms turns server) :
    (shown turns).countP Event.isBeginning =
      (shown turns).countP Event.isEnding + server.pool.sessions := by
  induction run with
  | refl => rfl
  | turn before step inductionHypothesis =>
      have balance := step.sessions (Run.sound before)
      simp only [shown_append, shown_singleton, List.countP_append]
      omega

theorem Sound.sessions_le (sound : Sound terms server) (valid : terms.options.Valid) :
    server.pool.sessions ≤ terms.options.maxWorkers := by
  refine Nat.le_trans (Pool.countWorkers_le_staff fun id worker found serving => ?_)
    (sound.roster.staff_le valid)
  refine (sound.duty id worker found).hired_of_isActive ?_
  revert serving
  cases worker.stage <;> simp [Stage.isServing, Stage.isActive]

/-! ## All together -/

/-- What a server keeps to about assignments and sessions. -/
structure SlotsKept (terms : Terms) (turns : List Turn) (server : Server) : Prop where
  /-- A free worker has an empty slot and is not in a session. -/
  idle : ∀ id ∈ server.pool.free, ∃ worker, server.pool.worker? id = some worker ∧
    worker.assignment = none ∧ worker.stage.isEngaged = false
  /-- Every other worker of a running server has one connection, in its slot or taken and not
  reported. -/
  busy : server.pool.lifecycle = .running → ∀ id ∈ server.pool.staff, id ∉ server.pool.free →
    ∃ worker, server.pool.worker? id = some worker ∧ worker.outstanding = 1
  /-- A full slot has a thread in its round. -/
  attended : ∀ id worker descriptor, server.pool.worker? id = some worker →
    worker.assignment = some descriptor → worker.Holds descriptor
  /-- Whatever happens next, only that thread empties the slot. -/
  kept : ∀ id descriptor, server.pool.Holds id descriptor → ∀ later last,
    Path terms server later last →
      last.pool.Holds id descriptor ∨ TakenAlong terms server last later id descriptor
  /-- Nothing that happened before keeps that thread from it. -/
  taken : ∀ id descriptor, server.pool.Holds id descriptor → ∃ later last,
    Path terms server later last ∧ later.length ≤ 2 ∧
      (∀ turn ∈ later, turn.label = .askRetirement id ∨ turn.label = .take id) ∧
      last.pool.Took id descriptor
  /-- The next assignment, if there is one, goes to a worker that is new or has nothing to do. -/
  assigned : ∀ label events next, Step terms server label events next →
    ∀ id descriptor, .assigned id descriptor ∈ events →
      next.pool.Holds id descriptor ∧ id ∈ next.pool.staff ∧ id ∉ server.pool.retired ∧
        ∀ worker, server.pool.worker? id = some worker →
          worker.assignment = none ∧ worker.phase ≠ .executing ∧ worker.phase ≠ .exited
  sessions : (shown turns).countP Event.isBeginning =
    (shown turns).countP Event.isEnding + server.pool.sessions
  sessions_le : terms.options.Valid → server.pool.sessions ≤ terms.options.maxWorkers

theorem Sound.outstanding {worker : Worker} (sound : Sound terms server)
    (running : server.pool.lifecycle = .running) (member : id ∈ server.pool.staff)
    (notFree : id ∉ server.pool.free) (found : server.pool.worker? id = some worker) :
    worker.outstanding = 1 := by
  have fits := sound.duty id worker found
  unfold Worker.outstanding
  rcases fits.busy running member notFree with full | engaged
  · have idle : worker.stage.isEngaged = false := by
      rcases fits.full full with stage | stage <;> rw [stage] <;> rfl
    rw [if_pos (Option.isSome_iff_ne_none.2 full), idle]
    rfl
  · rw [fits.empty_of_isEngaged engaged, engaged]
    rfl

/-- Every run of a server keeps to it. -/
theorem slotsKept_of_run {turns : List Turn} (run : Run terms turns server) :
    SlotsKept terms turns server := by
  have sound := run.sound
  have known : ∀ id ∈ server.pool.staff, ∃ worker, server.pool.worker? id = some worker := by
    intro id member
    exact Option.isSome_iff_exists.1
      ((Pool.worker?_isSome_iff server.pool id).2 (sound.roster.staff_known id member))
  exact {
    idle := fun id isFree => by
      obtain ⟨worker, found⟩ := known id (sound.roster.free_subset isFree)
      exact ⟨worker, found, (sound.duty id worker found).idle isFree⟩
    busy := fun running id member notFree => by
      obtain ⟨worker, found⟩ := known id member
      exact ⟨worker, found, sound.outstanding running member notFree found⟩
    attended := fun id worker descriptor found full =>
      ⟨full, (sound.duty id worker found).full (by simp [full])⟩
    kept := fun id descriptor holds later last path => path.holds sound holds
    taken := fun id descriptor holds => sound.takes holds
    assigned := fun label events next step id descriptor shown => step.assigned sound shown
    sessions := run.sessions
    sessions_le := sound.sessions_le }

/-- The first connection of a server stands in the slot of its first worker, also once the server is
told to stop. -/
theorem slotsKept_of_stop_before_take :
    ∃ turns server, Run {} turns server ∧ server.pool.lifecycle = .stopping ∧
      server.pool.Holds 1 ⟨.network, 7⟩ ∧ SlotsKept {} turns server := by
  obtain ⟨turns, run, _⟩ := path_iff_run?.2
    (show run? {} {} [.start true, .arrive ⟨.network, 7⟩, .decide ⟨.network, 7⟩ true,
      .beginStop 1 .interruptClients] = some (_, _) from rfl)
  exact ⟨turns, _, run, rfl, ⟨_, rfl, rfl, .inl rfl⟩, slotsKept_of_run run⟩

end Server

end ConnectionPool
