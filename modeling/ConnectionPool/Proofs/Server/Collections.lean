import ConnectionPool.Proofs.Server.Sound

/-!
Contract: what a host may rely on when it looks at the collections of a pool.

The limits of a pool hold between any two turns. That a running pool has the least number of workers
needs a system that starts every thread that it is asked for: a worker without a thread is let go.

Owns:
- `Pool.WellKept` and its proof for every run.

Does not own: what the workers do; see `Worker.Fits`.
-/

namespace ConnectionPool

/-- The system starts a thread if this turn asks for one. -/
def Label.startsThread : Label → Bool
  | .decide _ starts => starts
  | .report _ starts => starts
  | _ => true

/-- The collections of a pool agree with each other, with its limits and with its lifecycle. -/
structure Pool.WellKept (terms : Terms) (pool : Pool) : Prop where
  free_nodup : pool.free.Nodup
  staff_nodup : pool.staff.Nodup
  free_in_service : ∀ id ∈ pool.free, id ∈ pool.staff
  retired_apart : pool.retired.Disjoint pool.staff
  staff_le : pool.staff.length ≤ terms.options.maxWorkers
  queue_le : pool.queue.length ≤ terms.options.maxPending
  queue_nodup : pool.queue.Nodup
  staff_ge : pool.lifecycle = .running → terms.options.minWorkers ≤ pool.staff.length
  stopped_empty : pool.lifecycle = .stopped → pool.queue = [] ∧ pool.retired = []
  stopped_free : pool.lifecycle = .stopped → ∀ id, id ∈ pool.free ↔ id ∈ pool.staff
  /-- A stopped pool has no threads. -/
  stopped_unstarted : pool.lifecycle = .stopped → ∀ id ∈ pool.staff, ∃ worker,
    pool.worker? id = some worker ∧ worker.stage = .unstarted ∧ worker.hasHandle = false
  /-- The number of workers with work is a true difference. -/
  busy_add_free : pool.counts.busy + pool.counts.free = pool.counts.all

namespace Server

variable {terms : Terms} {server next : Server} {label : Label} {events : List Event}

/-! ## The least number of workers -/

def Floored (terms : Terms) (pool : Pool) : Prop :=
  pool.lifecycle = .running → terms.options.minWorkers ≤ pool.staff.length

theorem minWorkers_le_staff_floored (sound : Sound terms server)
    (stopped : server.pool.lifecycle = .stopped) :
    terms.options.minWorkers ≤ (floored terms server.pool).staff.length := by
  have roster := (sound.floored stopped).roster
  calc terms.options.minWorkers
      ≤ (floored terms server.pool).free.length := Pool.minWorkers_le_free_fillFloor _
    _ ≤ (floored terms server.pool).staff.length :=
        (roster.free_nodup.subperm roster.free_subset).length_le

/-- No turn on a system that starts threads brings a running pool below the least number. -/
theorem Step.keepsFloor (step : Step terms server label events next) (sound : Sound terms server)
    (starts : label.startsThread = true) (enough : Floored terms server.pool) :
    Floored terms next.pool := by
  cases step with
  | started stopped => exact fun _ => minWorkers_le_staff_floored sound stopped
  | cannotListen stopped =>
      intro running
      cases (floored_lifecycle stopped).symm.trans running
  | beginStop => nofun
  | settle => nofun
  | @unusable descriptor starts id free waits running top member thread =>
      obtain ⟨worker, found⟩ := (sound.roster.staff_known id member).exists_worker
      cases (thread worker found).2.symm.trans starts
  | spawned waits running =>
      intro _
      rw [Pool.setWorker_staff, List.length_append]
      exact Nat.le_succ_of_le (enough running)
  | retire found stage may =>
      intro _
      have member := sound.roster.free_subset may.2.2
      rw [Pool.setWorker_staff, List.length_erase_of_mem member]
      exact Nat.le_sub_one_of_lt may.2.1
  | _ => simpa [Floored] using enough

theorem floored_of_run {turns : List Turn} (run : Run terms turns server)
    (starts : ∀ label ∈ turns.map Turn.label, label.startsThread = true) :
    Floored terms server.pool := by
  have both : Sound terms server ∧ Floored terms server.pool :=
    run.keeps (motive := fun server => Sound terms server ∧ Floored terms server.pool)
      ⟨.new terms, nofun⟩ fun taken holds step =>
        ⟨step.sound holds.1, step.keepsFloor holds.1 (starts _ (List.mem_map_of_mem taken)) holds.2⟩
  exact both.2

/-! ## All together -/

theorem Sound.wellKept (sound : Sound terms server) (valid : terms.options.Valid)
    (enough : Floored terms server.pool) : server.pool.WellKept terms where
  free_nodup := sound.roster.free_nodup
  staff_nodup := sound.roster.staff_nodup
  free_in_service := fun _ isFree => sound.roster.free_subset isFree
  retired_apart := fun id => sound.roster.retired_outside id
  staff_le := sound.roster.staff_le valid
  queue_le := sound.roster.queue_le
  queue_nodup := sound.roster.queue_nodup
  staff_ge := enough
  stopped_empty := fun stopped =>
    ⟨sound.roster.stopped_queue stopped, sound.roster.stopped_retired stopped⟩
  stopped_free := fun stopped _ =>
    ⟨fun isFree => sound.roster.free_subset isFree,
      fun member => sound.roster.stopped_free stopped member⟩
  stopped_unstarted := fun stopped id member => by
    have known := sound.roster.staff_known id member
    obtain ⟨worker, found⟩ :=
      Option.isSome_iff_exists.1 ((Pool.worker?_isSome_iff server.pool id).2 known)
    have fits := sound.duty id worker found
    have unstarted : worker.stage = .unstarted := fits.unused stopped member
    exact ⟨worker, found, unstarted, fits.noHandle unstarted⟩
  busy_add_free := by
    have fewer := (sound.roster.free_nodup.subperm sound.roster.free_subset).length_le
    simp only [PoolCounts.busy, Pool.counts]
    omega

/-- Between any two turns of a run the collections agree, whatever calls and threads did before. -/
theorem wellKept_of_run {turns : List Turn} (valid : terms.options.Valid)
    (run : Run terms turns server)
    (starts : ∀ label ∈ turns.map Turn.label, label.startsThread = true) :
    server.pool.WellKept terms :=
  Sound.wellKept run.sound valid (floored_of_run run starts)

/-- A server with the usual limits that was started and has handed its first connection to a new
worker. -/
theorem wellKept_after_first_connection :
    ∃ turns server, Run {} turns server ∧
      turns.map Turn.label = [.start true, .arrive ⟨.network, 7⟩, .decide ⟨.network, 7⟩ true] ∧
      server.pool.counts =
        { lifecycle := .running, all := 1, free := 0, finished := 0, pending := 0 } ∧
      server.pool.WellKept {} := by
  have valid : ({} : Terms).options.Valid := (Options.validate_eq_ok_iff _).1 rfl
  obtain ⟨turns, run, labelled, _⟩ := path_iff_run?.2
    (show run? {} {} [.start true, .arrive ⟨.network, 7⟩, .decide ⟨.network, 7⟩ true] = some (_, _)
      from rfl)
  have starts : ∀ label ∈ turns.map Turn.label, label.startsThread = true := by
    rw [labelled]
    decide
  exact ⟨turns, _, run, labelled, rfl, wellKept_of_run valid run starts⟩

end Server

end ConnectionPool
