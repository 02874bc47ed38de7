import ConnectionPool.Pool

/-!
Contract: where the thread of a worker may stand, by the worker's place in the pool.

`Worker.Fits` ties one worker to four facts about its place: the lifecycle of the pool, whether the
worker is in service, whether it is free, and whether a stop waits for its thread. `Pool.Duty` says
so of all workers. The laws below follow what a turn does to one worker.

Owns:
- the predicates `Stage.isEngaged` and `Stage.isActive`;
- the invariants `Worker.Fits` and `Pool.Duty` and what keeps them.

Does not own: which turn does what.
-/

namespace ConnectionPool

namespace Stage

/-- The worker has taken a connection and has not reported since. -/
def isEngaged : Stage → Bool
  | .exchanging _ => true
  | .opened _ => true
  | .serving _ => true
  | .returning => true
  | _ => false

/-- The thread of the worker was started and has not left its round. -/
def isActive : Stage → Bool
  | .unstarted => false
  | .exited => false
  | _ => true

theorem isActive_of_isEngaged {stage : Stage} (engaged : stage.isEngaged = true) :
    stage.isActive = true := by
  revert engaged
  cases stage <;> simp [isEngaged, isActive]

end Stage

namespace Worker

/-- The worker stands where its place in the pool allows it to. -/
structure Fits (lifecycle : Lifecycle) (hired free awaited : Prop) (worker : Worker) : Prop where
  /-- A full slot has a thread that is about to look at it. -/
  full : worker.assignment ≠ none → worker.stage = .waiting ∨ worker.stage = .expired
  idle : free → worker.assignment = none ∧ worker.stage.isEngaged = false
  outside : ¬ hired → worker.assignment = none ∧ worker.stage.isActive = false
  busy : lifecycle = .running → hired → ¬ free →
    worker.assignment ≠ none ∨ worker.stage.isEngaged = true
  present : lifecycle = .running → hired → worker.stage ≠ .exited
  accepting : lifecycle ≠ .stopping → hired → worker.accepting = true
  unused : lifecycle = .stopped → hired → worker.stage = .unstarted
  /-- A thread in its round can be waited for, or is waited for already. -/
  handle : worker.stage.isActive = true → worker.hasHandle = true ∨ awaited
  noHandle : worker.stage = .unstarted → worker.hasHandle = false

namespace Fits

variable {lifecycle : Lifecycle} {hired free awaited : Prop} {worker : Worker}

/-- Only a thread in its round needs to be awaited. -/
theorem awaited_of_imp {awaited' : Prop} (fits : worker.Fits lifecycle hired free awaited)
    (await : worker.stage.isActive = true → awaited → awaited') :
    worker.Fits lifecycle hired free awaited' :=
  { fits with handle := fun active => (fits.handle active).imp_right (await active) }

theorem hired_of_isActive (fits : worker.Fits lifecycle hired free awaited)
    (active : worker.stage.isActive = true) : hired := by
  refine Classical.byContradiction fun gone => ?_
  rw [(fits.outside gone).2] at active
  cases active

/-- A slot is full only before the thread of its worker. -/
theorem empty_of_stage (fits : worker.Fits lifecycle hired free awaited)
    (waiting : worker.stage ≠ .waiting) (expired : worker.stage ≠ .expired) :
    worker.assignment = none := by
  refine Decidable.byContradiction fun full => ?_
  rcases fits.full full with stage | stage
  · exact waiting stage
  · exact expired stage

theorem full_of_busy (fits : worker.Fits lifecycle hired free awaited)
    (running : lifecycle = .running) (member : hired) (notFree : ¬ free)
    (idle : worker.stage.isEngaged = false) : worker.assignment ≠ none := by
  rcases fits.busy running member notFree with full | engaged
  · exact full
  · rw [idle] at engaged
    cases engaged

/-! ## The thread moves -/

/-- A thread in its round moves, and its worker stays in service. What a stop signals and what waits
for the thread stay as they are, so only the slot and the stage have to be looked at. -/
theorem move {free' : Prop} {assignment : Option Descriptor} {stage : Stage}
    (fits : worker.Fits lifecycle hired free awaited) (active : worker.stage.isActive = true)
    (begun : stage ≠ .unstarted)
    (full : assignment ≠ none → stage = .waiting ∨ stage = .expired)
    (idle : free' → assignment = none ∧ stage.isEngaged = false)
    (busy : lifecycle = .running → hired → ¬ free' → assignment ≠ none ∨ stage.isEngaged = true)
    (present : lifecycle = .running → hired → stage ≠ .exited) :
    Fits lifecycle hired free' awaited { worker with assignment, stage } where
  full := full
  idle := idle
  outside := fun gone => absurd (fits.hired_of_isActive active) gone
  busy := busy
  present := present
  accepting := fits.accepting
  unused := fun stopped member => by
    rw [fits.unused stopped member] at active
    cases active
  handle := fun _ => fits.handle active
  noHandle := fun unstarted => absurd unstarted begun

theorem take {descriptor : Descriptor} (fits : worker.Fits lifecycle hired free awaited)
    (stage : worker.stage = .waiting) (full : worker.assignment = some descriptor) :
    Fits lifecycle hired free awaited
      { worker with assignment := none, stage := .exchanging descriptor } := by
  have active : worker.stage.isActive = true := by rw [stage]; rfl
  apply fits.move active
  case begun => nofun
  case full => exact absurd rfl
  case idle =>
    intro isFree
    cases full.symm.trans (fits.idle isFree).1
  case busy => exact fun _ _ _ => .inr rfl
  case present => exact fun _ _ => nofun

theorem leave (fits : worker.Fits lifecycle hired free awaited) (stage : worker.stage = .waiting)
    (empty : worker.assignment = none) (told : worker.accepting = false) :
    Fits lifecycle hired free awaited { worker with stage := .exited } := by
  have active : worker.stage.isActive = true := by rw [stage]; rfl
  -- Only a stop tells a worker in service to leave.
  have other : lifecycle ≠ .running := by
    rintro rfl
    rw [fits.accepting nofun (fits.hired_of_isActive active)] at told
    cases told
  apply fits.move active
  case begun => nofun
  case full => exact absurd empty
  case idle => exact fun _ => ⟨empty, rfl⟩
  case busy => exact fun running => absurd running other
  case present => exact fun running => absurd running other

theorem expire (fits : worker.Fits lifecycle hired free awaited) (stage : worker.stage = .waiting)
    (empty : worker.assignment = none) :
    Fits lifecycle hired free awaited { worker with stage := .expired } := by
  have active : worker.stage.isActive = true := by rw [stage]; rfl
  have idle : worker.stage.isEngaged = false := by rw [stage]; rfl
  apply fits.move active
  case begun => nofun
  case full => exact fun _ => .inr rfl
  case idle => exact fun _ => ⟨empty, rfl⟩
  case busy =>
    intro running member notFree
    exact .inl (fits.full_of_busy running member notFree idle)
  case present => exact fun _ _ => nofun

theorem stay (fits : worker.Fits lifecycle hired free awaited) (stage : worker.stage = .expired) :
    Fits lifecycle hired free awaited { worker with stage := .waiting } := by
  have active : worker.stage.isActive = true := by rw [stage]; rfl
  have idle : worker.stage.isEngaged = false := by rw [stage]; rfl
  apply fits.move active
  case begun => nofun
  case full => exact fun _ => .inl rfl
  case idle => exact fun isFree => ⟨(fits.idle isFree).1, rfl⟩
  case busy =>
    intro running member notFree
    exact .inl (fits.full_of_busy running member notFree idle)
  case present => exact fun _ _ => nofun

theorem empty_of_isEngaged (fits : worker.Fits lifecycle hired free awaited)
    (engaged : worker.stage.isEngaged = true) : worker.assignment = none := by
  refine fits.empty_of_stage ?_ ?_ <;> intro stage <;> rw [stage] at engaged <;> cases engaged

theorem not_free_of_isEngaged (fits : worker.Fits lifecycle hired free awaited)
    (engaged : worker.stage.isEngaged = true) : ¬ free := by
  intro isFree
  rw [(fits.idle isFree).2] at engaged
  cases engaged

/-- The worker goes on with the connection that it took. -/
theorem proceed {stage : Stage} (fits : worker.Fits lifecycle hired free awaited)
    (engaged : worker.stage.isEngaged = true) (still : stage.isEngaged = true) :
    Fits lifecycle hired free awaited { worker with stage } := by
  apply fits.move (Stage.isActive_of_isEngaged engaged)
  case begun =>
    rintro rfl
    cases still
  case full => exact absurd (fits.empty_of_isEngaged engaged)
  case idle => exact fun isFree => absurd isFree (fits.not_free_of_isEngaged engaged)
  case busy => exact fun _ _ _ => .inr still
  case present =>
    rintro _ _ rfl
    cases still

theorem handOver {descriptor : Descriptor} (fits : worker.Fits lifecycle hired free awaited)
    (stage : worker.stage = .returning) :
    Fits lifecycle hired free awaited
      { worker with stage := .waiting, assignment := some descriptor } := by
  have engaged : worker.stage.isEngaged = true := by rw [stage]; rfl
  apply fits.move (Stage.isActive_of_isEngaged engaged)
  case begun => nofun
  case full => exact fun _ => .inl rfl
  case idle => exact fun isFree => absurd isFree (fits.not_free_of_isEngaged engaged)
  case busy => exact fun _ _ _ => .inl nofun
  case present => exact fun _ _ => nofun

theorem becomeFree (fits : worker.Fits lifecycle hired free awaited)
    (stage : worker.stage = .returning) :
    Fits lifecycle hired True awaited { worker with stage := .waiting } := by
  have engaged : worker.stage.isEngaged = true := by rw [stage]; rfl
  apply fits.move (Stage.isActive_of_isEngaged engaged)
  case begun => nofun
  case full => exact fun _ => .inl rfl
  case idle => exact fun _ => ⟨fits.empty_of_isEngaged engaged, rfl⟩
  case busy => exact fun _ _ notFree => absurd trivial notFree
  case present => exact fun _ _ => nofun

theorem comeBack (fits : worker.Fits lifecycle hired free awaited)
    (stage : worker.stage = .returning) (outside : ¬ (lifecycle = .running ∧ hired)) :
    Fits lifecycle hired free awaited { worker with stage := .waiting } := by
  have engaged : worker.stage.isEngaged = true := by rw [stage]; rfl
  apply fits.move (Stage.isActive_of_isEngaged engaged)
  case begun => nofun
  case full => exact fun _ => .inl rfl
  case idle => exact fun _ => ⟨fits.empty_of_isEngaged engaged, rfl⟩
  case busy => exact fun running member => absurd ⟨running, member⟩ outside
  case present => exact fun _ _ => nofun

/-! ## The worker goes out of service -/

/-- A worker out of service needs an empty slot and no thread in its round. -/
theorem gone (empty : worker.assignment = none) (ended : worker.stage.isActive = false)
    (noHandle : worker.stage = .unstarted → worker.hasHandle = false) :
    worker.Fits lifecycle False False awaited where
  full := absurd empty
  idle := nofun
  outside := fun _ => ⟨empty, ended⟩
  busy := nofun
  present := nofun
  accepting := nofun
  unused := nofun
  handle := fun active => by
    rw [ended] at active
    cases active
  noHandle := noHandle

theorem retire (fits : worker.Fits lifecycle hired free awaited) (isFree : free) :
    Fits lifecycle False False awaited { worker with stage := .exited } :=
  gone (fits.idle isFree).1 rfl nofun

theorem discharge (fits : worker.Fits lifecycle hired free awaited) (isFree : free)
    (stage : worker.stage = .unstarted) : worker.Fits lifecycle False False awaited :=
  gone (fits.idle isFree).1 (by rw [stage]; rfl) fits.noHandle

theorem settle {awaited' : Prop} (fits : worker.Fits lifecycle hired free awaited)
    (ended : worker.stage.isActive = false) : worker.Fits .stopped False False awaited' := by
  have empty : worker.assignment = none := by
    refine fits.empty_of_stage ?_ ?_ <;> intro stage <;> rw [stage] at ended <;> cases ended
  exact gone empty ended fits.noHandle

/-! ## Others act on the worker -/

/-- A free worker of a running pool is no longer free once it was handed a connection. -/
theorem assign (descriptor : Descriptor) (fits : worker.Fits .running hired free awaited)
    (isFree : free) (member : hired) :
    (worker.assign descriptor).Fits .running hired False awaited := by
  have present : worker.stage ≠ .exited := fits.present rfl member
  unfold Worker.assign
  split
  · exact {
      full := fun _ => .inl rfl
      idle := nofun
      outside := absurd member
      busy := fun _ _ _ => .inl nofun
      present := fun _ _ => nofun
      accepting := fits.accepting
      unused := nofun
      handle := fun _ => .inl rfl
      noHandle := nofun }
  · next begun =>
      have idle : worker.stage.isEngaged = false := (fits.idle isFree).2
      have waits : worker.stage = .waiting ∨ worker.stage = .expired := by
        revert idle present begun
        cases worker.stage <;> simp [Stage.isEngaged]
      exact { fits with
        full := fun _ => waits
        idle := nofun
        outside := absurd member
        busy := fun _ _ _ => .inl nofun }

theorem signal (mode : StopMode) (fits : worker.Fits .stopping hired free awaited) :
    (worker.signal mode).Fits .stopping hired free awaited := by
  cases mode <;> exact { fits with accepting := fun other => absurd rfl other }

/-- Who takes the handle waits for the thread. -/
theorem claim (fits : worker.Fits lifecycle hired free awaited) (unclaimed : ¬ awaited) :
    Fits lifecycle hired free (worker.hasHandle = true) { worker with hasHandle := false } :=
  { fits with
    handle := fun active => .inr ((fits.handle active).resolve_right unclaimed)
    noHandle := fun _ => rfl }

/-- Nobody waits long for a worker that is gone. -/
theorem claim_outside (fits : worker.Fits lifecycle hired free awaited) (gone : ¬ hired) :
    Fits lifecycle hired free awaited { worker with hasHandle := false } :=
  { fits with
    handle := fun active => absurd (fits.hired_of_isActive active) gone
    noHandle := fun _ => rfl }

/-! ## The pool moves on -/

theorem stopping (fits : worker.Fits .running hired free awaited) :
    worker.Fits .stopping hired free awaited :=
  { fits with
    busy := nofun
    present := nofun
    accepting := fun other => absurd rfl other
    unused := nofun }

/-- A run begins with free workers that have no thread. -/
theorem run (fits : worker.Fits .stopped hired free awaited) (isFree : hired → free) :
    worker.Fits .running hired free awaited :=
  { fits with
    busy := fun _ member notFree => absurd (isFree member) notFree
    present := fun _ member exited => by
      rw [fits.unused rfl member] at exited
      cases exited
    accepting := fun _ => fits.accepting nofun
    unused := nofun }

end Fits

/-- A worker that was just hired has no thread and nothing to do. -/
theorem fits_of_new (worker : ProtocolInstance) {lifecycle : Lifecycle} {hired free awaited : Prop}
    (idle : lifecycle = .running → hired → free) :
    Fits lifecycle hired free awaited { protocol := worker } where
  full := absurd rfl
  idle := fun _ => ⟨rfl, rfl⟩
  outside := fun _ => ⟨rfl, rfl⟩
  busy := fun running member notFree => absurd (idle running member) notFree
  present := fun _ _ => nofun
  accepting := fun _ _ => rfl
  unused := fun _ _ => rfl
  handle := nofun
  noHandle := fun _ => rfl

end Worker

namespace Pool

/-- Every worker stands where its place in the pool allows it to. -/
def Duty (awaited : WorkerId → Prop) (pool : Pool) : Prop :=
  ∀ id worker, pool.worker? id = some worker →
    worker.Fits pool.lifecycle (id ∈ pool.staff) (id ∈ pool.free) (awaited id)

theorem worker?_of_workers {pool base : Pool} (same : base.workers = pool.workers)
    (id : WorkerId) : base.worker? id = pool.worker? id := by
  cases id with
  | zero => rfl
  | succ position => simp only [worker?, same]

theorem worker?_setWorker_self {pool base : Pool} {id : WorkerId} {worker : Worker}
    (changed : Worker) (found : pool.worker? id = some worker)
    (workers : base.workers = pool.workers) :
    (base.setWorker changed id).worker? id = some changed := by
  rw [worker?_setWorker, if_pos rfl, worker?_of_workers workers, found]
  rfl

/-- A worker that is hired and goes to work at once changes nobody else. -/
theorem worker?_employ (terms : Terms) (pool : Pool) (changed : Worker) (id : WorkerId) :
    Pool.worker? (Pool.setWorker { pool.hire terms with staff := pool.staff ++ [pool.nextId] }
        changed pool.nextId) id =
      if id = pool.nextId then some changed else pool.worker? id := by
  rw [worker?_setWorker]
  show (if id = pool.nextId then ((pool.hire terms).worker? pool.nextId).map fun _ => changed
    else (pool.hire terms).worker? id) = _
  simp only [worker?_hire]
  by_cases same : id = pool.nextId <;> simp [same]

namespace Duty

variable {awaited awaited' : WorkerId → Prop} {pool base next : Pool} {id : WorkerId}

/-! ## One worker at a time -/

/-- Where only one worker changes or moves, only that worker has to be looked at. -/
theorem exceptAt (id : WorkerId) (duty : pool.Duty awaited)
    (workers : ∀ other, other ≠ id → next.worker? other = pool.worker? other)
    (lifecycle : next.lifecycle = pool.lifecycle)
    (places : ∀ other, other ≠ id → ((other ∈ next.staff ↔ other ∈ pool.staff) ∧
      (other ∈ next.free ↔ other ∈ pool.free)))
    (await : ∀ other, other ≠ id → awaited other → awaited' other)
    (fits : ∀ worker, next.worker? id = some worker →
      worker.Fits next.lifecycle (id ∈ next.staff) (id ∈ next.free) (awaited' id)) :
    next.Duty awaited' := by
  intro other worker found
  by_cases same : other = id
  · subst same
    exact fits worker found
  · rw [workers other same] at found
    have stays := (duty other worker found).awaited_of_imp fun _ => await other same
    rwa [lifecycle, (places other same).1, (places other same).2]

/-- One worker changes and moves. -/
theorem setWorker {worker changed : Worker} (duty : pool.Duty awaited)
    (found : pool.worker? id = some worker) (workers : base.workers = pool.workers)
    (lifecycle : base.lifecycle = pool.lifecycle)
    (places : ∀ other, other ≠ id → ((other ∈ base.staff ↔ other ∈ pool.staff) ∧
      (other ∈ base.free ↔ other ∈ pool.free)))
    (await : ∀ other, other ≠ id → awaited other → awaited' other)
    (fits : worker.Fits pool.lifecycle (id ∈ pool.staff) (id ∈ pool.free) (awaited id) →
      changed.Fits base.lifecycle (id ∈ base.staff) (id ∈ base.free) (awaited' id)) :
    (base.setWorker changed id).Duty awaited' := by
  apply duty.exceptAt id
  case workers =>
    intro other different
    rw [worker?_setWorker, if_neg different, worker?_of_workers workers]
  case lifecycle => rw [setWorker_lifecycle, lifecycle]
  case places =>
    intro other different
    rw [setWorker_staff, setWorker_free]
    exact places other different
  case await => exact await
  case fits =>
    intro current present
    rw [worker?_setWorker, if_pos rfl] at present
    obtain ⟨_, _, rfl⟩ := Option.map_eq_some_iff.1 present
    rw [setWorker_lifecycle, setWorker_staff, setWorker_free]
    exact fits (duty id worker found)

/-- One worker changes and stays in its place. -/
theorem changeWorker {worker changed : Worker} (duty : pool.Duty awaited)
    (found : pool.worker? id = some worker)
    (fits : worker.Fits pool.lifecycle (id ∈ pool.staff) (id ∈ pool.free) (awaited id) →
      changed.Fits pool.lifecycle (id ∈ pool.staff) (id ∈ pool.free) (awaited id)) :
    (pool.setWorker changed id).Duty awaited :=
  duty.setWorker found rfl rfl (fun _ _ => ⟨Iff.rfl, Iff.rfl⟩) (fun _ _ await => await) fits

/-- A new worker changes nobody else. -/
theorem hire {terms : Terms} (duty : pool.Duty awaited)
    (workers : next.workers = (pool.hire terms).workers)
    (lifecycle : next.lifecycle = pool.lifecycle)
    (places : ∀ other, other ≠ pool.nextId → ((other ∈ next.staff ↔ other ∈ pool.staff) ∧
      (other ∈ next.free ↔ other ∈ pool.free)))
    (idle : next.lifecycle = .running → pool.nextId ∈ next.staff → pool.nextId ∈ next.free) :
    next.Duty awaited := by
  apply duty.exceptAt pool.nextId
  case workers =>
    intro other different
    rw [worker?_of_workers workers, worker?_hire, if_neg different]
  case lifecycle => exact lifecycle
  case places => exact places
  case await => exact fun _ _ await => await
  case fits =>
    intro worker found
    rw [worker?_of_workers workers, worker?_hire, if_pos rfl] at found
    cases found
    exact Worker.fits_of_new _ idle

/-! ## The pool as a whole -/

theorem hireFree {terms : Terms} (count : Nat) (duty : pool.Duty awaited)
    (stopped : pool.lifecycle = .stopped) : (Pool.hireFree terms count pool).Duty awaited := by
  induction count generalizing pool with
  | zero => exact duty
  | succ count inductionHypothesis =>
      refine inductionHypothesis ?_ stopped
      refine duty.hire rfl rfl ?places ?idle
      case places =>
        intro other different
        simp [recruit, different]
      case idle =>
        intro running
        cases stopped.symm.trans running

theorem run (duty : pool.Duty awaited) (stopped : pool.lifecycle = .stopped)
    (allFree : pool.staff ⊆ pool.free) :
    Duty awaited { pool with lifecycle := .running } := by
  intro id worker found
  have fits := duty id worker found
  rw [stopped] at fits
  exact fits.run fun member => allFree member

theorem stopping (duty : pool.Duty awaited) (running : pool.lifecycle = .running)
    (await : ∀ other, awaited other → awaited' other) :
    Duty awaited' { pool with lifecycle := .stopping } := by
  intro id worker found
  have fits := duty id worker found
  rw [running] at fits
  exact fits.stopping.awaited_of_imp fun _ => await id

theorem settle (duty : pool.Duty awaited)
    (ended : ∀ id ∈ pool.staff, ∀ worker, pool.worker? id = some worker →
      worker.stage.isActive = false) :
    Duty awaited' { pool with
      lifecycle := .stopped, free := [], staff := [], retired := [], queue := [] } := by
  intro id worker found
  have fits := duty id worker found
  have inactive : worker.stage.isActive = false := by
    by_cases member : id ∈ pool.staff
    · exact ended id member worker found
    · exact (fits.outside member).2
  have settled : worker.Fits .stopped False False (awaited' id) := fits.settle inactive
  simpa using settled

end Duty

end Pool

end ConnectionPool
