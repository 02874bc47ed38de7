import ConnectionPool.Proofs.Server.Duty
import ConnectionPool.Proofs.Server.Roster
import ConnectionPool.Proofs.Server.Run

/-!
Contract: what holds of a server between any two turns.

`Server.Sound` joins the invariants of the pool to the calls that are under way. A stop waits for a
thread that gave up its handle, and it ends the run only after every worker in service has left its
round. A sweep only ever waits for workers that are not in service any more.

Owns:
- the invariant `Server.Sound`, kept by `Server.Step.sound` and thus true along every run.

Does not own: what follows from it for the host.
-/

namespace ConnectionPool

/-- The worker whose thread a stop waits for. -/
def ClosingStage.awaited : ClosingStage → Option WorkerId
  | .joining _ _ current => current
  | _ => none

/-- The worker whose thread is waited for by the stop that ends the current run. -/
def Awaits (closing : Option Closing) (id : WorkerId) : Prop :=
  ∃ active, closing = some active ∧ active.stage.awaited = some id

/-- The stop has every worker in service before it, or has seen it leave its round. -/
def Pool.Covered (pool : Pool) : ClosingStage → Prop
  | .unlistening => True
  | .collecting => True
  | .signalling held _ => pool.staff ⊆ held
  | .joining _ left current =>
      ∀ id ∈ pool.staff, id ∈ left ∨ current = some id ∨
        ∀ worker, pool.worker? id = some worker → worker.stage.isActive = false

theorem Pool.covered_signalStage {pool : Pool} {held left : List WorkerId}
    (all : pool.staff ⊆ held) : pool.Covered (Server.signalStage held left) := by
  unfold Server.signalStage
  split
  · exact fun id member => .inl (all member)
  · exact all

namespace Server

theorem floored_lifecycle {terms : Terms} {pool : Pool} (stopped : pool.lifecycle = .stopped) :
    (floored terms pool).lifecycle = .stopped := by
  rw [floored, Pool.fillFloor, Pool.hireFree_lifecycle, stopped]

/-- What holds between turns. -/
structure Sound (terms : Terms) (server : Server) : Prop where
  roster : server.pool.Roster terms
  duty : server.pool.Duty (Awaits server.closing)
  closes : server.closing.isSome ↔ server.pool.lifecycle = .stopping
  covers : ∀ closing, server.closing = some closing → server.pool.Covered closing.stage
  sweeps : ∀ sweep ∈ server.sweeps, ∀ id ∈ sweep.left,
    server.pool.Knows id ∧ id ∉ server.pool.staff

theorem Sound.new (terms : Terms) : Sound terms {} where
  roster := .new terms
  duty := fun id worker found => by cases id <;> cases found
  closes := by simp
  covers := nofun
  sweeps := nofun

variable {terms : Terms} {server next : Server} {label : Label} {events : List Event}

namespace Sound

theorem not_awaits (sound : Sound terms server) (other : server.pool.lifecycle ≠ .stopping)
    (id : WorkerId) : ¬ Awaits server.closing id := by
  rintro ⟨closing, active, _⟩
  exact other (sound.closes.1 (by rw [active]; rfl))

theorem stopping_of_closing (sound : Sound terms server) {closing : Closing}
    (active : server.closing = some closing) : server.pool.lifecycle = .stopping :=
  sound.closes.1 (by rw [active]; rfl)

theorem closing_eq_none (sound : Sound terms server)
    (other : server.pool.lifecycle ≠ .stopping) : server.closing = none := by
  rw [← Option.not_isSome_iff_eq_none, sound.closes]
  exact other

/-! ## The pool of a server that is not being stopped -/

/-- Outside a stop it is enough to look at the pool. -/
theorem withPool (sound : Sound terms server) (other : server.pool.lifecycle ≠ .stopping)
    (closing : next.closing = server.closing) (swept : next.sweeps = server.sweeps)
    (still : next.pool.lifecycle ≠ .stopping) (roster : next.pool.Roster terms)
    (duty : next.pool.Duty (Awaits server.closing))
    (gone : ∀ id, server.pool.Knows id → id ∉ server.pool.staff →
      next.pool.Knows id ∧ id ∉ next.pool.staff) : Sound terms next where
  roster := roster
  duty := by rwa [closing]
  closes := by
    rw [closing, sound.closing_eq_none other]
    simpa using still
  covers := by
    rw [closing, sound.closing_eq_none other]
    nofun
  sweeps := by
    rw [swept]
    intro sweep member id waits
    obtain ⟨known, outside⟩ := sound.sweeps sweep member id waits
    exact gone id known outside

/-- A thread moves on, and its worker keeps its place. -/
theorem changeWorker {id : WorkerId} {worker changed : Worker} (sound : Sound terms server)
    (found : server.pool.worker? id = some worker)
    (fits : worker.Fits server.pool.lifecycle (id ∈ server.pool.staff) (id ∈ server.pool.free)
        (Awaits server.closing id) →
      changed.Fits server.pool.lifecycle (id ∈ server.pool.staff) (id ∈ server.pool.free)
        (Awaits server.closing id))
    (thread : worker.stage.isActive = true ∨ worker.stage = changed.stage) :
    Sound terms { server with pool := server.pool.setWorker changed id } where
  roster := sound.roster.setWorker changed id
  duty := sound.duty.changeWorker found fits
  closes := by
    rw [Pool.setWorker_lifecycle]
    exact sound.closes
  covers := fun closing current => by
    have covered := sound.covers closing current
    revert covered
    cases closing.stage with
    | unlistening => exact fun covered => covered
    | collecting => exact fun covered => covered
    | signalling held left =>
        intro covered
        simpa only [Pool.Covered, Pool.setWorker_staff] using covered
    | joining held left awaited =>
        intro covered other member
        rw [Pool.setWorker_staff] at member
        refine (covered other member).imp_right (Or.imp_right fun ended other' found' => ?_)
        rw [Pool.worker?_setWorker] at found'
        split at found'
        · next same =>
            obtain ⟨_, _, rfl⟩ := Option.map_eq_some_iff.1 found'
            rw [same] at ended
            rcases thread with active | still
            · rw [ended worker found] at active
              cases active
            · rw [← still]
              exact ended worker found
        · exact ended other' found'
  sweeps := by
    simp only [Pool.knows_setWorker, Pool.setWorker_staff]
    exact sound.sweeps

/-! ## Starts -/

theorem floored (sound : Sound terms server) (stopped : server.pool.lifecycle = .stopped) :
    Sound terms { server with pool := Server.floored terms server.pool } := by
  have queue : server.pool.queue = [] := sound.roster.stopped_queue stopped
  have same : { server.pool with queue := [] } = server.pool := by rw [← queue]
  refine sound.withPool (by simp [stopped]) rfl rfl ?still ?roster ?duty ?gone
  case still => simp [floored_lifecycle stopped]
  all_goals simp only [Server.floored, same]
  case roster => exact sound.roster.fillFloor stopped
  case duty => exact sound.duty.hireFree _ stopped
  case gone => exact fun id => Pool.outside_hireFree _

theorem run (sound : Sound terms server) (stopped : server.pool.lifecycle = .stopped) :
    Sound terms { server with pool := { server.pool with lifecycle := .running } } := by
  refine sound.withPool (by simp [stopped]) rfl rfl ?still ?roster ?duty ?gone
  case still => nofun
  case roster => exact sound.roster.run (sound.roster.stopped_queue stopped)
  case duty => exact sound.duty.run stopped (sound.roster.stopped_free stopped)
  case gone => exact fun _ known outside => ⟨known, outside⟩

/-! ## Sections of a running server -/

/-- While the server runs and goes on running it is enough to look at the pool. -/
theorem whileRunning (sound : Sound terms server) (running : server.pool.lifecycle = .running)
    (closing : next.closing = server.closing) (swept : next.sweeps = server.sweeps)
    (still : next.pool.lifecycle = .running) (roster : next.pool.Roster terms)
    (duty : next.pool.Duty (Awaits server.closing))
    (gone : ∀ id, server.pool.Knows id → id ∉ server.pool.staff →
      next.pool.Knows id ∧ id ∉ next.pool.staff) : Sound terms next :=
  sound.withPool (by simp [running]) closing swept (by simp [still]) roster duty gone

/-- The free worker on top goes to work. -/
theorem reuse {id : WorkerId} {free : List WorkerId} {worker : Worker}
    {arrivals : List Descriptor} (descriptor : Descriptor) (sound : Sound terms server)
    (running : server.pool.lifecycle = .running) (top : server.pool.free = id :: free)
    (member : id ∈ server.pool.staff) (found : server.pool.worker? id = some worker) :
    Sound terms { server with
      pool := Pool.setWorker { server.pool with free } (worker.assign descriptor) id
      arrivals } := by
  have nodup := sound.roster.free_nodup
  rw [top] at nodup
  have notFree : id ∉ free := (List.nodup_cons.1 nodup).1
  refine sound.whileRunning running rfl rfl ?still ?roster ?duty ?gone
  case still => simpa using running
  case roster => exact (sound.roster.pop top running).setWorker _ _
  case duty =>
    refine sound.duty.setWorker found rfl rfl ?places ?await ?fits
    case places =>
      intro other different
      simp [top, different]
    case await => exact fun _ _ awaited => awaited
    case fits =>
      intro fits
      rw [running] at fits
      have placed := fits.assign descriptor (by simp [top]) member
      simpa [running, notFree] using placed
  case gone =>
    intro other known outside
    exact ⟨(Pool.knows_setWorker _ _ _).2 known, by simpa using outside⟩

/-- The free worker on top has no thread and goes out of service. -/
theorem discharge {id : WorkerId} {free : List WorkerId} {arrivals dismissals : List Descriptor}
    (sound : Sound terms server) (running : server.pool.lifecycle = .running)
    (top : server.pool.free = id :: free)
    (thread : ∀ worker, server.pool.worker? id = some worker → worker.stage = .unstarted) :
    Sound terms { server with
      pool := { server.pool with free, staff := server.pool.staff.erase id }
      arrivals, dismissals } := by
  have nodup := sound.roster.free_nodup
  rw [top] at nodup
  have notFree : id ∉ free := (List.nodup_cons.1 nodup).1
  have gone : id ∉ server.pool.staff.erase id := sound.roster.staff_nodup.not_mem_erase
  refine sound.whileRunning running rfl rfl ?still ?roster ?duty ?gone
  case still => exact running
  case roster => exact sound.roster.discharge top running
  case duty =>
    refine sound.duty.exceptAt id (fun _ _ => rfl) rfl ?places ?await ?fits
    case places =>
      intro other different
      simp [top, different, List.mem_erase_of_ne different]
    case await => exact fun _ _ awaited => awaited
    case fits =>
      intro worker found
      have placed := (sound.duty id worker found).discharge (by simp [top]) (thread worker found)
      simpa [gone, notFree] using placed
  case gone =>
    intro other known outside
    exact ⟨known, fun member => outside (List.mem_of_mem_erase member)⟩

/-- A new worker goes to work at once. -/
theorem spawn {arrivals : List Descriptor} (descriptor : Descriptor) (sound : Sound terms server)
    (running : server.pool.lifecycle = .running) (none : server.pool.free = [])
    (room : server.pool.staff.length < terms.options.maxWorkers) :
    Sound terms { server with
      pool := Pool.setWorker
        { server.pool.hire terms with staff := server.pool.staff ++ [server.pool.nextId] }
        ((server.pool.newcomer terms).assign descriptor) server.pool.nextId
      arrivals } := by
  have roster := (sound.roster.employ running room).setWorker
    ((server.pool.newcomer terms).assign descriptor) server.pool.nextId
  refine sound.whileRunning running rfl rfl ?still ?roster ?duty ?gone
  case still => simpa [Pool.hire] using running
  case roster => exact roster
  case duty =>
    apply sound.duty.exceptAt server.pool.nextId
    case workers =>
      intro other different
      rw [Pool.worker?_employ, if_neg different]
    case lifecycle =>
      rw [Pool.setWorker_lifecycle]
      rfl
    case places =>
      intro other different
      simp [different, Pool.hire]
    case await => exact fun _ _ awaited => awaited
    case fits =>
      intro worker found
      rw [Pool.worker?_employ, if_pos rfl] at found
      cases found
      have fits : Worker.Fits .running True True (Awaits server.closing server.pool.nextId)
          (server.pool.newcomer terms) := Worker.fits_of_new _ fun _ _ => trivial
      have placed := fits.assign descriptor trivial trivial
      simpa [running, none, Pool.hire] using placed
  case gone =>
    intro other known outside
    refine ⟨(Pool.knows_setWorker _ _ _).2 (known.hire terms), ?_⟩
    rw [Pool.setWorker_staff]
    intro member
    rcases List.mem_append.1 member with old | new
    · exact outside old
    · rw [List.mem_singleton.1 new] at known
      exact Pool.not_knows_nextId known

theorem hire {arrivals dismissals : List Descriptor} (sound : Sound terms server)
    (running : server.pool.lifecycle = .running) :
    Sound terms { server with pool := server.pool.hire terms, arrivals, dismissals } := by
  have new : server.pool.nextId ∉ server.pool.staff := fun member =>
    Pool.not_knows_nextId (sound.roster.staff_known _ member)
  refine sound.whileRunning running rfl rfl ?still ?roster ?duty ?gone
  case still => exact running
  case roster => exact sound.roster.hire
  case duty =>
    refine sound.duty.hire rfl rfl ?places ?idle
    case places => exact fun _ _ => ⟨Iff.rfl, Iff.rfl⟩
    case idle => exact fun _ member => absurd member new
  case gone => exact fun _ known outside => ⟨known.hire terms, outside⟩

theorem enqueue {descriptor : Descriptor} {arrivals : List Descriptor} (sound : Sound terms server)
    (running : server.pool.lifecycle = .running) (none : server.pool.free = [])
    (full : terms.options.maxWorkers ≤ server.pool.staff.length)
    (room : server.pool.queue.length < terms.options.maxPending)
    (new : descriptor ∉ server.pool.queue) :
    Sound terms { server with
      pool := { server.pool with queue := server.pool.queue ++ [descriptor] }, arrivals } := by
  refine sound.whileRunning running rfl rfl ?still ?roster ?duty ?gone
  case still => exact running
  case roster => exact sound.roster.enqueue none full room new running
  case duty => exact sound.duty
  case gone => exact fun _ known outside => ⟨known, outside⟩

theorem retire {id : WorkerId} {worker : Worker} (sound : Sound terms server)
    (running : server.pool.lifecycle = .running) (isFree : id ∈ server.pool.free)
    (found : server.pool.worker? id = some worker) :
    Sound terms { server with
      pool := Pool.setWorker
        { server.pool with
          free := server.pool.free.erase id
          staff := server.pool.staff.erase id
          retired :=
            if id ∈ server.pool.staff then server.pool.retired ++ [id] else server.pool.retired }
        { worker with stage := .exited } id } := by
  have gone : id ∉ server.pool.staff.erase id := sound.roster.staff_nodup.not_mem_erase
  have notFree : id ∉ server.pool.free.erase id := sound.roster.free_nodup.not_mem_erase
  refine sound.whileRunning running rfl rfl ?still ?roster ?duty ?gone
  case still => simpa using running
  case roster => exact (sound.roster.retire running isFree).setWorker _ _
  case duty =>
    refine sound.duty.setWorker found rfl rfl ?places ?await ?fits
    case places =>
      intro other different
      simp [List.mem_erase_of_ne different]
    case await => exact fun _ _ awaited => awaited
    case fits =>
      intro fits
      have placed := fits.retire isFree
      simpa [gone, notFree] using placed
  case gone =>
    intro other known outside
    refine ⟨(Pool.knows_setWorker _ _ _).2 known, ?_⟩
    rw [Pool.setWorker_staff]
    exact fun member => outside (List.mem_of_mem_erase member)

/-- A worker that reports takes the first connection that waits. -/
theorem handOver {id : WorkerId} {worker : Worker} {descriptor : Descriptor}
    {queue : List Descriptor} (sound : Sound terms server)
    (running : server.pool.lifecycle = .running) (first : server.pool.queue = descriptor :: queue)
    (found : server.pool.worker? id = some worker) (stage : worker.stage = .returning) :
    Sound terms { server with
      pool := Pool.setWorker { server.pool with queue }
        { worker with stage := .waiting, assignment := some descriptor } id } := by
  refine sound.whileRunning running rfl rfl ?still ?roster ?duty ?gone
  case still => simpa using running
  case roster => exact (sound.roster.dequeue first running).setWorker _ _
  case duty =>
    refine sound.duty.setWorker found rfl rfl ?places ?await ?fits
    case places => exact fun _ _ => ⟨Iff.rfl, Iff.rfl⟩
    case await => exact fun _ _ awaited => awaited
    case fits => exact fun fits => fits.handOver stage
  case gone =>
    intro other known outside
    exact ⟨(Pool.knows_setWorker _ _ _).2 known, by simpa using outside⟩

theorem becomeFree {id : WorkerId} {worker : Worker} (sound : Sound terms server)
    (running : server.pool.lifecycle = .running) (member : id ∈ server.pool.staff)
    (none : server.pool.queue = []) (found : server.pool.worker? id = some worker)
    (stage : worker.stage = .returning) :
    Sound terms { server with
      pool := Pool.setWorker { server.pool with free := id :: server.pool.free }
        { worker with stage := .waiting } id } := by
  have notFree : id ∉ server.pool.free :=
    (sound.duty id worker found).not_free_of_isEngaged (by rw [stage]; rfl)
  refine sound.whileRunning running rfl rfl ?still ?roster ?duty ?gone
  case still => simpa using running
  case roster => exact (sound.roster.push member notFree none running).setWorker _ _
  case duty =>
    refine sound.duty.setWorker found rfl rfl ?places ?await ?fits
    case places =>
      intro other different
      simp [different]
    case await => exact fun _ _ awaited => awaited
    case fits =>
      intro fits
      simpa using fits.becomeFree stage
  case gone =>
    intro other known outside
    exact ⟨(Pool.knows_setWorker _ _ _).2 known, by simpa using outside⟩

/-! ## Stops -/

theorem beginStop {caller : Nat} {mode : StopMode} (sound : Sound terms server)
    (running : server.pool.lifecycle = .running) :
    Sound terms { server with
      pool := { server.pool with lifecycle := .stopping }, closing := some { caller, mode } } where
  roster := sound.roster.stopping
  duty := sound.duty.stopping running fun id awaited =>
    absurd awaited (sound.not_awaits (by simp [running]) id)
  closes := by simp
  covers := by
    rintro closing ⟨⟩
    trivial
  sweeps := sound.sweeps

/-- A stop that waits for no thread moves on. -/
theorem moveClosing {closing : Closing} {stage : ClosingStage} (sound : Sound terms server)
    (active : server.closing = some closing)
    (await : ∀ id worker, server.pool.worker? id = some worker →
      worker.stage.isActive = true → closing.stage.awaited = some id → stage.awaited = some id)
    (covered : server.pool.Covered stage) :
    Sound terms { server with closing := some { closing with stage } } where
  roster := sound.roster
  duty := fun id worker found => (sound.duty id worker found).awaited_of_imp fun inRound => by
    rintro ⟨_, same, awaited⟩
    cases active.symm.trans same
    exact ⟨_, rfl, await id worker found inRound awaited⟩
  closes := by simp [sound.stopping_of_closing active]
  covers := by
    rintro _ ⟨⟩
    exact covered
  sweeps := sound.sweeps

theorem tell {closing : Closing} (sound : Sound terms server)
    (active : server.closing = some closing) (id : WorkerId) :
    Sound terms { server with
      pool := server.pool.updateWorker id (Worker.signal closing.mode) } := by
  have stopping := sound.stopping_of_closing active
  unfold Pool.updateWorker
  cases found : server.pool.worker? id with
  | none => exact sound
  | some worker =>
      refine sound.changeWorker found (fun fits => ?_) (.inr (Worker.signal_stage _ _).symm)
      rw [stopping] at fits ⊢
      exact fits.signal closing.mode

theorem claim {id : WorkerId} {worker : Worker} {closing : Closing} {held left : List WorkerId}
    (sound : Sound terms server) (active : server.closing = some closing)
    (stage : closing.stage = .joining held left none)
    (found : server.pool.worker? id = some worker) :
    Sound terms { server with
      pool := server.pool.setWorker { worker with hasHandle := false } id
      closing := some { closing with
        stage := .joining held (left.erase id) (if worker.hasHandle then some id else none) } } where
  roster := sound.roster.setWorker _ id
  duty := by
    have unawaited : ∀ other, ¬ Awaits server.closing other := by
      rintro other ⟨_, same, awaited⟩
      cases active.symm.trans same
      rw [stage] at awaited
      cases awaited
    refine sound.duty.setWorker found rfl rfl ?places ?await ?fits
    case places => exact fun _ _ => ⟨Iff.rfl, Iff.rfl⟩
    case await => exact fun other _ awaited => absurd awaited (unawaited other)
    case fits =>
      intro fits
      refine (fits.claim (unawaited id)).awaited_of_imp fun _ claimed => ⟨_, rfl, ?_⟩
      rw [if_pos claimed]
      rfl
  closes := by simp [sound.stopping_of_closing active]
  covers := by
    rintro _ ⟨⟩ other member
    have covered := sound.covers closing active
    rw [stage] at covered
    rw [Pool.setWorker_staff] at member
    by_cases same : other = id
    · subst same
      by_cases claimed : worker.hasHandle = true
      · exact .inr (.inl (if_pos claimed))
      · -- Nobody can wait for the thread and nobody does, so it is not in its round.
        refine .inr (.inr fun changed present => ?_)
        rw [Pool.worker?_setWorker, if_pos rfl, found] at present
        cases present
        have fits := sound.duty other worker found
        refine Bool.eq_false_iff.2 fun inRound => ?_
        rcases fits.handle inRound with handle | ⟨_, same, awaited⟩
        · exact claimed handle
        · cases active.symm.trans same
          rw [stage] at awaited
          cases awaited
    · rcases covered other member with waits | current | ended
      · exact .inl ((List.mem_erase_of_ne same).2 waits)
      · cases current
      · refine .inr (.inr fun changed present => ended changed ?_)
        rwa [Pool.worker?_setWorker, if_neg same] at present
  sweeps := by
    simp only [Pool.knows_setWorker, Pool.setWorker_staff]
    exact sound.sweeps

theorem settle {closing : Closing} {held : List WorkerId} {clearances : List Clearance}
    (sound : Sound terms server) (active : server.closing = some closing)
    (stage : closing.stage = .joining held [] none) :
    Sound terms { server with pool := settled server.pool, closing := none, clearances } where
  roster := .settle terms server.pool
  duty := by
    refine sound.duty.settle fun id member worker found => ?_
    have covered := sound.covers closing active
    rw [stage] at covered
    rcases covered id member with waits | current | ended
    · cases waits
    · cases current
    · exact ended worker found
  closes := by simp [settled]
  covers := nofun
  sweeps := fun sweep member id waits => ⟨(sound.sweeps sweep member id waits).1, nofun⟩

/-! ## Sweeps -/

theorem beginSweep {caller : Nat} (sound : Sound terms server) :
    Sound terms { server with
      pool := { server.pool with retired := [] }
      sweeps := server.sweeps ++
        [{ caller, held := server.pool.retired, left := server.pool.retired }] } where
  roster := sound.roster.sweep
  duty := sound.duty
  closes := sound.closes
  covers := fun closing active => by
    have covered := sound.covers closing active
    cases stage : closing.stage <;> rw [stage] at covered <;> exact covered
  sweeps := fun sweep member id waits => by
    rcases List.mem_append.1 member with old | new
    · exact sound.sweeps sweep old id waits
    · rw [List.mem_singleton.1 new] at waits
      exact ⟨sound.roster.retired_known id waits, sound.roster.retired_outside id waits⟩

/-- A sweep moves on and waits for nobody new. -/
theorem moveSweep {position : Nat} {sweep : Sweep} (sound : Sound terms server)
    (found : server.sweeps[position]? = some sweep) (changed : Sweep)
    (fewer : changed.left ⊆ sweep.left) :
    Sound terms { server with sweeps := server.sweeps.set position changed } :=
  { sound with
    sweeps := fun other member id waits => by
      rcases List.mem_or_eq_of_mem_set member with old | rfl
      · exact sound.sweeps other old id waits
      · exact sound.sweeps sweep (List.mem_of_getElem? found) id (fewer waits) }

end Sound

/-- Every turn keeps the invariant. -/
theorem Step.sound (step : Step terms server label events next) (sound : Sound terms server) :
    Sound terms next := by
  cases step with
  | alreadyRunning | stillStopping | notRunning => exact sound
  | started stopped => exact (sound.floored stopped).run (Server.floored_lifecycle stopped)
  | cannotListen stopped => exact sound.floored stopped
  | beginStop running => exact sound.beginStop running
  | unlisten active stage =>
      refine sound.moveClosing active (fun _ _ _ _ awaited => ?_) trivial
      rw [stage] at awaited
      cases awaited
  | collect active stage =>
      refine sound.moveClosing active (fun _ _ _ _ awaited => ?_) ?_
      · rw [stage] at awaited
        cases awaited
      · exact Pool.covered_signalStage (List.subset_append_left _ _)
  | @signal id closing held left active stage member =>
      refine (sound.tell active id).moveClosing active (fun _ _ _ _ awaited => ?_) ?_
      · rw [stage] at awaited
        cases awaited
      · have covered := (sound.tell active id).covers closing active
        rw [stage] at covered
        exact Pool.covered_signalStage covered
  | claim active stage found member => exact sound.claim active stage found
  | @joined id worker closing held left active stage found ended =>
      have covered := sound.covers closing active
      rw [stage] at covered
      refine sound.moveClosing active (fun other waited present inRound awaited => ?_) ?_
      · rw [stage] at awaited
        cases awaited
        cases found.symm.trans present
        rw [ended] at inRound
        cases inRound
      · intro other member
        rcases covered other member with waits | current | gone
        · exact .inl waits
        · cases current
          refine .inr (.inr fun waited present => ?_)
          cases found.symm.trans present
          rw [ended]
          rfl
        · exact .inr (.inr gone)
  | settle active stage => exact sound.settle active stage
  | clear | endStop | arrive | dropped | busy | refuse | dismiss => exact { sound with }
  | reused waits running top member found => exact sound.reuse _ running top member found
  | unusable waits running top member thread =>
      exact sound.discharge running top fun worker found => (thread worker found).1
  | misplaced waits running top other =>
      exact absurd (sound.roster.free_subset (by simp [top])) other
  | spawned waits running none room => exact sound.spawn _ running none room
  | unspawned waits running => exact sound.hire running
  | queued waits running none full room new => exact sound.enqueue running none full room new
  | beginSweep => exact sound.beginSweep
  | @sweepClaim position sweep id left worker found next idle known =>
      have outside := (sound.sweeps sweep (List.mem_of_getElem? found) id (by simp [next])).2
      have claimed := sound.changeWorker known (fun fits => fits.claim_outside outside) (.inr rfl)
      refine claimed.moveSweep found
        { sweep with left, current := if worker.hasHandle then some id else none } ?_
      rw [next]
      exact List.subset_cons_self _ _
  | @sweepJoined position sweep id worker found =>
      exact sound.moveSweep found { sweep with current := none } (List.Subset.refl _)
  | endSweep found all idle =>
      exact { sound with
        sweeps := fun sweep member => sound.sweeps sweep (List.mem_of_mem_eraseIdx member) }
  | take found stage full =>
      exact sound.changeWorker found (fun fits => fits.take stage full) (.inl (by rw [stage]; rfl))
  | leave found stage empty told =>
      exact sound.changeWorker found (fun fits => fits.leave stage empty told)
        (.inl (by rw [stage]; rfl))
  | expire found stage empty =>
      exact sound.changeWorker found (fun fits => fits.expire stage empty)
        (.inl (by rw [stage]; rfl))
  | retire found stage may => exact sound.retire may.1 may.2.2 found
  | stay found stage =>
      exact sound.changeWorker found (fun fits => fits.stay stage) (.inl (by rw [stage]; rfl))
  | @exchange id worker descriptor granted found stage =>
      refine sound.changeWorker found (fun fits => fits.proceed ?_ ?_) (.inl (by rw [stage]; rfl))
      · rw [stage]
        rfl
      · cases granted <;> rfl
  | beginSession found stage | skipSession found stage | finish found stage =>
      exact sound.changeWorker found (fun fits => fits.proceed (by rw [stage]; rfl) rfl)
        (.inl (by rw [stage]; rfl))
  | handOver found stage running member first => exact sound.handOver running first found stage
  | becomeFree found stage running member none =>
      exact sound.becomeFree running member none found stage
  | comeBack found stage outside =>
      exact sound.changeWorker found (fun fits => fits.comeBack stage outside)
        (.inl (by rw [stage]; rfl))

theorem Path.sound {first last : Server} {turns : List Turn}
    (path : Path terms first turns last) (sound : Sound terms first) : Sound terms last :=
  path.keeps sound fun _ sound step => step.sound sound

theorem Run.sound {turns : List Turn} (run : Run terms turns server) : Sound terms server :=
  Path.sound run (.new terms)

end Server

end ConnectionPool
