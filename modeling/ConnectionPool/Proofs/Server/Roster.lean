import ConnectionPool.Pool
import Mathlib.Data.List.Nodup
import Mathlib.Data.List.Perm.Subperm

/-!
Contract: how the collections of a pool agree with each other and with the limits.

`Pool.Roster` is about numbers of workers and waiting connections only, never about what a worker
does. Each law below is one way in which a section changes the collections.

Owns:
- the invariant `Pool.Roster` and what keeps it;
- how many workers a start leaves.

Does not own: the workers themselves, and that a worker which reports is not free yet.
-/

namespace ConnectionPool

namespace Pool

private theorem nodup_snoc {α : Type} {items : List α} {item : α} (nodup : items.Nodup)
    (new : item ∉ items) : (items ++ [item]).Nodup := by
  rw [← List.concat_eq_append]
  exact nodup.concat new

/-- The number was given to a worker. -/
def Knows (pool : Pool) (id : WorkerId) : Prop :=
  0 < id ∧ id < pool.nextId

/-- The collections of a pool agree with each other and with its limits. -/
structure Roster (terms : Terms) (pool : Pool) : Prop where
  free_nodup : pool.free.Nodup
  free_subset : pool.free ⊆ pool.staff
  staff_nodup : pool.staff.Nodup
  staff_known : ∀ id ∈ pool.staff, pool.Knows id
  staff_le : terms.options.Valid → pool.staff.length ≤ terms.options.maxWorkers
  retired_known : ∀ id ∈ pool.retired, pool.Knows id
  retired_outside : ∀ id ∈ pool.retired, id ∉ pool.staff
  queue_le : pool.queue.length ≤ terms.options.maxPending
  queue_nodup : pool.queue.Nodup
  /-- Nobody waits while a worker is free or may be hired. -/
  queue_full : pool.lifecycle = .running → pool.queue ≠ [] →
    pool.free = [] ∧ terms.options.maxWorkers ≤ pool.staff.length
  stopped_free : pool.lifecycle = .stopped → pool.staff ⊆ pool.free
  stopped_retired : pool.lifecycle = .stopped → pool.retired = []
  stopped_queue : pool.lifecycle = .stopped → pool.queue = []

variable {terms : Terms} {pool : Pool} {id : WorkerId}

theorem Knows.exists_worker (known : pool.Knows id) :
    ∃ worker, pool.worker? id = some worker :=
  Option.isSome_iff_exists.1 ((worker?_isSome_iff pool id).2 known)

theorem knows_of_worker? {worker : Worker} (found : pool.worker? id = some worker) :
    pool.Knows id :=
  (worker?_isSome_iff pool id).1 (by rw [found]; rfl)

theorem not_knows_nextId : ¬ pool.Knows pool.nextId :=
  fun known => Nat.lt_irrefl _ known.2

theorem Knows.hire (known : pool.Knows id) (terms : Terms) : (pool.hire terms).Knows id :=
  ⟨known.1, by rw [nextId_hire]; exact Nat.lt_succ_of_lt known.2⟩

theorem knows_nextId_hire (terms : Terms) (pool : Pool) :
    (pool.hire terms).Knows pool.nextId :=
  ⟨Nat.succ_pos _, by rw [nextId_hire]; exact Nat.lt_succ_self _⟩

@[simp] theorem knows_setWorker (worker : Worker) (id other : WorkerId) :
    (pool.setWorker worker id).Knows other ↔ pool.Knows other := by
  simp [Knows]

namespace Roster

/-! ## Workers -/

/-- What a worker does changes no collection. -/
theorem setWorker (roster : pool.Roster terms) (worker : Worker) (id : WorkerId) :
    (pool.setWorker worker id).Roster terms := by
  constructor <;> simp only [knows_setWorker, setWorker_lifecycle, setWorker_free, setWorker_staff,
    setWorker_retired, setWorker_queue]
  exacts [roster.free_nodup, roster.free_subset, roster.staff_nodup, roster.staff_known,
    roster.staff_le, roster.retired_known, roster.retired_outside, roster.queue_le,
    roster.queue_nodup, roster.queue_full, roster.stopped_free, roster.stopped_retired,
    roster.stopped_queue]

theorem updateWorker (roster : pool.Roster terms) (change : Worker → Worker) (id : WorkerId) :
    (pool.updateWorker id change).Roster terms := by
  unfold Pool.updateWorker
  split
  · exact roster
  · exact roster.setWorker _ _

/-- Hiring puts nobody in service. -/
theorem hire (roster : pool.Roster terms) : (pool.hire terms).Roster terms :=
  { roster with
    staff_known := fun id member => (roster.staff_known id member).hire terms
    retired_known := fun id member => (roster.retired_known id member).hire terms }

/-- A new worker goes to work at once. -/
theorem employ (roster : pool.Roster terms) (running : pool.lifecycle = .running)
    (room : pool.staff.length < terms.options.maxWorkers) :
    Roster terms { pool.hire terms with staff := pool.staff ++ [pool.nextId] } := by
  have new : pool.nextId ∉ pool.staff := fun member =>
    not_knows_nextId (roster.staff_known _ member)
  exact { roster.hire with
    free_subset := fun _ member => List.mem_append_left _ (roster.free_subset member)
    staff_nodup := nodup_snoc roster.staff_nodup new
    staff_known := fun id member => by
      rcases List.mem_append.1 member with old | new
      · exact (roster.staff_known id old).hire terms
      · rw [List.mem_singleton.1 new]
        exact knows_nextId_hire terms pool
    staff_le := fun _ => by
      rw [List.length_append]
      exact room
    retired_outside := fun id member inside => by
      rcases List.mem_append.1 inside with old | new
      · exact roster.retired_outside id member old
      · rw [List.mem_singleton.1 new] at member
        exact not_knows_nextId (roster.retired_known _ member)
    queue_full := fun _ waiting => absurd (roster.queue_full running waiting).2 (Nat.not_le.2 room)
    stopped_free := fun stopped => by cases running.symm.trans stopped }

/-- The worker on top goes to work. -/
theorem pop (roster : pool.Roster terms) {free : List WorkerId} (top : pool.free = id :: free)
    (running : pool.lifecycle = .running) : Roster terms { pool with free } := by
  have nodup := roster.free_nodup
  have subset := roster.free_subset
  rw [top] at nodup subset
  exact { roster with
    free_nodup := nodup.of_cons
    free_subset := fun _ member => subset (List.mem_cons_of_mem _ member)
    queue_full := fun _ waiting => by
      have empty := (roster.queue_full running waiting).1
      rw [top] at empty
      cases empty
    stopped_free := fun stopped => by cases running.symm.trans stopped }

theorem discharge (roster : pool.Roster terms) {free : List WorkerId} (top : pool.free = id :: free)
    (running : pool.lifecycle = .running) :
    Roster terms { pool with free, staff := pool.staff.erase id } := by
  have nodup := roster.free_nodup
  have subset := roster.free_subset
  rw [top] at nodup subset
  exact { roster.pop top running with
    free_subset := fun other member =>
      roster.staff_nodup.mem_erase_iff.2
        ⟨fun same => (List.nodup_cons.1 nodup).1 (same ▸ member),
          subset (List.mem_cons_of_mem _ member)⟩
    staff_nodup := roster.staff_nodup.erase id
    staff_known := fun other member => roster.staff_known other (List.mem_of_mem_erase member)
    staff_le := fun valid => Nat.le_trans List.length_erase_le (roster.staff_le valid)
    retired_outside := fun other member inside =>
      roster.retired_outside other member (List.mem_of_mem_erase inside)
    queue_full := fun _ waiting => by
      have empty := (roster.queue_full running waiting).1
      rw [top] at empty
      cases empty
    stopped_free := fun stopped => by cases running.symm.trans stopped }

theorem push (roster : pool.Roster terms) (member : id ∈ pool.staff) (notFree : id ∉ pool.free)
    (empty : pool.queue = []) (running : pool.lifecycle = .running) :
    Roster terms { pool with free := id :: pool.free } :=
  { roster with
    free_nodup := List.nodup_cons.2 ⟨notFree, roster.free_nodup⟩
    free_subset := List.cons_subset.2 ⟨member, roster.free_subset⟩
    queue_full := fun _ waiting => absurd empty waiting
    stopped_free := fun stopped => by cases running.symm.trans stopped }

theorem retire (roster : pool.Roster terms) (running : pool.lifecycle = .running)
    (isFree : id ∈ pool.free) :
    Roster terms { pool with
      free := pool.free.erase id
      staff := pool.staff.erase id
      retired := if id ∈ pool.staff then pool.retired ++ [id] else pool.retired } := by
  have member : id ∈ pool.staff := roster.free_subset isFree
  rw [if_pos member]
  exact { roster with
    free_nodup := roster.free_nodup.erase id
    free_subset := fun other inside => by
      rw [roster.free_nodup.mem_erase_iff] at inside
      exact roster.staff_nodup.mem_erase_iff.2 ⟨inside.1, roster.free_subset inside.2⟩
    staff_nodup := roster.staff_nodup.erase id
    staff_known := fun other inside => roster.staff_known other (List.mem_of_mem_erase inside)
    staff_le := fun valid => Nat.le_trans List.length_erase_le (roster.staff_le valid)
    retired_known := fun other inside => by
      rcases List.mem_append.1 inside with old | new
      · exact roster.retired_known other old
      · rw [List.mem_singleton.1 new]
        exact roster.staff_known id member
    retired_outside := fun other inside stays => by
      rw [roster.staff_nodup.mem_erase_iff] at stays
      rcases List.mem_append.1 inside with old | new
      · exact roster.retired_outside other old stays.2
      · exact stays.1 (List.mem_singleton.1 new)
    queue_full := fun _ waiting => by
      rw [(roster.queue_full running waiting).1] at isFree
      cases isFree
    stopped_free := fun stopped => by cases running.symm.trans stopped
    stopped_retired := fun stopped => by cases running.symm.trans stopped }

/-! ## Waiting connections -/

theorem enqueue (roster : pool.Roster terms) {descriptor : Descriptor} (none : pool.free = [])
    (full : terms.options.maxWorkers ≤ pool.staff.length)
    (room : pool.queue.length < terms.options.maxPending) (new : descriptor ∉ pool.queue)
    (running : pool.lifecycle = .running) :
    Roster terms { pool with queue := pool.queue ++ [descriptor] } :=
  { roster with
    queue_le := by
      rw [List.length_append]
      exact room
    queue_nodup := nodup_snoc roster.queue_nodup new
    queue_full := fun _ _ => ⟨none, full⟩
    stopped_queue := fun stopped => by cases running.symm.trans stopped }

theorem dequeue (roster : pool.Roster terms) {descriptor : Descriptor} {queue : List Descriptor}
    (first : pool.queue = descriptor :: queue) (running : pool.lifecycle = .running) :
    Roster terms { pool with queue } := by
  have limited := roster.queue_le
  have nodup := roster.queue_nodup
  rw [first] at limited nodup
  exact { roster with
    queue_le := Nat.le_of_succ_le limited
    queue_nodup := nodup.of_cons
    queue_full := fun _ _ => roster.queue_full running (by simp [first])
    stopped_queue := fun stopped => by cases running.symm.trans stopped }

/-! ## Stops and sweeps -/

theorem stopping (roster : pool.Roster terms) : Roster terms { pool with lifecycle := .stopping } :=
  { roster with
    queue_full := nofun
    stopped_free := nofun
    stopped_retired := nofun
    stopped_queue := nofun }

theorem sweep (roster : pool.Roster terms) : Roster terms { pool with retired := [] } :=
  { roster with
    retired_known := nofun
    retired_outside := nofun
    stopped_retired := fun _ => rfl }

theorem settle (terms : Terms) (pool : Pool) :
    Roster terms { pool with
      lifecycle := .stopped, free := [], staff := [], retired := [], queue := [] } where
  free_nodup := List.nodup_nil
  free_subset := List.nil_subset _
  staff_nodup := List.nodup_nil
  staff_known := nofun
  staff_le := fun _ => Nat.zero_le _
  retired_known := nofun
  retired_outside := nofun
  queue_le := Nat.zero_le _
  queue_nodup := List.nodup_nil
  queue_full := nofun
  stopped_free := fun _ => List.nil_subset _
  stopped_retired := fun _ => rfl
  stopped_queue := fun _ => rfl

/-- A pool starts like one whose run has ended. -/
theorem new (terms : Terms) : Roster terms {} :=
  settle terms {}

/-! ## Starts -/

theorem staff_length_of_stopped (roster : pool.Roster terms) (stopped : pool.lifecycle = .stopped) :
    pool.staff.length = pool.free.length :=
  Nat.le_antisymm (roster.staff_nodup.subperm (roster.stopped_free stopped)).length_le
    (roster.free_nodup.subperm roster.free_subset).length_le

theorem recruit (roster : pool.Roster terms) (stopped : pool.lifecycle = .stopped)
    (room : terms.options.Valid → pool.staff.length < terms.options.maxWorkers) :
    (pool.recruit terms).Roster terms := by
  have new : pool.nextId ∉ pool.staff := fun member =>
    not_knows_nextId (roster.staff_known _ member)
  exact { roster.hire with
    free_nodup :=
      List.nodup_cons.2 ⟨fun member => new (roster.free_subset member), roster.free_nodup⟩
    free_subset := List.cons_subset.2 ⟨List.mem_append_right _ (List.mem_singleton_self _),
      fun _ member => List.mem_append_left _ (roster.free_subset member)⟩
    staff_nodup := nodup_snoc roster.staff_nodup new
    staff_known := fun id member => by
      rcases List.mem_append.1 member with old | new
      · exact (roster.staff_known id old).hire terms
      · rw [List.mem_singleton.1 new]
        exact knows_nextId_hire terms pool
    staff_le := fun valid => by
      have := room valid
      rw [Pool.recruit, List.length_append]
      exact this
    retired_outside := fun id member => by
      have none : pool.retired = [] := roster.stopped_retired stopped
      rw [Pool.recruit, Pool.hire, none] at member
      cases member
    queue_full := fun running => by cases stopped.symm.trans running
    stopped_free := fun _ id member => by
      rcases List.mem_append.1 member with old | new
      · exact List.mem_cons_of_mem _ (roster.stopped_free stopped old)
      · rw [List.mem_singleton.1 new]
        exact List.mem_cons_self }

theorem hireFree (count : Nat) (roster : pool.Roster terms) (stopped : pool.lifecycle = .stopped)
    (room : terms.options.Valid → pool.staff.length + count ≤ terms.options.maxWorkers) :
    (Pool.hireFree terms count pool).Roster terms := by
  induction count generalizing pool with
  | zero => exact roster
  | succ count inductionHypothesis =>
      refine inductionHypothesis (roster.recruit stopped fun valid => ?_) stopped fun valid => ?_
      · have := room valid
        omega
      · have := room valid
        rw [Pool.recruit, List.length_append, List.length_singleton]
        omega

theorem fillFloor (roster : pool.Roster terms) (stopped : pool.lifecycle = .stopped) :
    (pool.fillFloor terms).Roster terms := by
  refine roster.hireFree _ stopped fun valid => ?_
  have same := roster.staff_length_of_stopped stopped
  have within := roster.staff_le valid
  have floor := valid.minWorkers_le_max
  omega

/-- A stopped pool where nobody waits may begin to run. -/
theorem run (roster : pool.Roster terms) (empty : pool.queue = []) :
    Roster terms { pool with lifecycle := .running } :=
  { roster with
    queue_full := fun _ waiting => absurd empty waiting
    stopped_free := nofun
    stopped_retired := nofun
    stopped_queue := nofun }

end Roster

/-! ## How many workers a start leaves -/

@[simp] theorem hireFree_lifecycle (count : Nat) (pool : Pool) :
    (hireFree terms count pool).lifecycle = pool.lifecycle := by
  induction count generalizing pool with
  | zero => rfl
  | succ count inductionHypothesis => exact inductionHypothesis _

@[simp] theorem hireFree_queue (count : Nat) (pool : Pool) :
    (hireFree terms count pool).queue = pool.queue := by
  induction count generalizing pool with
  | zero => rfl
  | succ count inductionHypothesis => exact inductionHypothesis _

theorem length_free_hireFree (count : Nat) (pool : Pool) :
    (hireFree terms count pool).free.length = pool.free.length + count := by
  induction count generalizing pool with
  | zero => rfl
  | succ count inductionHypothesis =>
      rw [hireFree, inductionHypothesis, recruit, List.length_cons]
      omega

/-- A number that was given to a worker out of service is never given to another. -/
theorem outside_hireFree (count : Nat) (known : pool.Knows id) (outside : id ∉ pool.staff) :
    (hireFree terms count pool).Knows id ∧ id ∉ (hireFree terms count pool).staff := by
  induction count generalizing pool with
  | zero => exact ⟨known, outside⟩
  | succ count inductionHypothesis =>
      refine inductionHypothesis (known.hire terms) fun member => ?_
      rcases List.mem_append.1 member with old | new
      · exact outside old
      · rw [List.mem_singleton.1 new] at known
        exact not_knows_nextId known

/-- A floor that was filled is reached by free workers alone. -/
theorem minWorkers_le_free_fillFloor (pool : Pool) :
    terms.options.minWorkers ≤ (pool.fillFloor terms).free.length := by
  rw [fillFloor, length_free_hireFree]
  omega

end Pool

end ConnectionPool
