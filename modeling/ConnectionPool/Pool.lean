import ConnectionPool.Worker

/-!
Contract: the workers of one server and the connections that wait for them.

Owns:
- the type `Pool`;
- the sections that change it as a whole: `fillFloor`, `dispatch`, `available`, `retire`.

Does not own: which calls are under way, and the order in which sections follow each other; see `Server`.
-/

namespace ConnectionPool

open Text

/-- The state of a server as its host sees it. -/
inductive Lifecycle where
  | stopped
  | stopping
  | running
deriving DecidableEq, Repr

def Lifecycle.text : Lifecycle → String
  | .stopped => "stopped"
  | .stopping => "stopping"
  | .running => "running"

def Lifecycle.name : Lifecycle → String
  | .stopped => "Stopped"
  | .stopping => "Stopping"
  | .running => "Running"

/-- What becomes of an incoming connection. -/
inductive Dispatch where
  /-- An idle worker takes it. -/
  | reused (worker : WorkerId)
  /-- A new worker takes it. -/
  | spawned (worker : WorkerId)
  /-- It waits until a worker is free. -/
  | queued
  /-- It is refused, because all workers are busy and nobody else may wait. -/
  | busy
  /-- It is closed, because the server is not running or has no thread for it. -/
  | dropped
deriving DecidableEq, Repr

def Dispatch.text : Dispatch → String
  | .reused worker => "reused " ++ workerText worker
  | .spawned worker => "spawned " ++ workerText worker
  | .queued => "queued"
  | .busy => "busy"
  | .dropped => "dropped"

/-- What comes of the report of a worker that it can take another connection. -/
inductive Handover where
  /-- It takes this one, which waited. -/
  | handed (descriptor : Descriptor)
  /-- It should take this one, but could not; the connection is to be closed. -/
  | failed (descriptor : Descriptor)
  /-- Nobody waits: it becomes free. -/
  | freed
  /-- The server does not run any more, or the worker is not in service any more. -/
  | ignored
deriving DecidableEq, Repr

/-- The limits of a pool, and whether the protocol makes an instance for every worker. -/
structure Terms where
  options : Options := {}
  forks : Bool := false
deriving DecidableEq, Repr

/-- The workers of a server and its waiting connections. -/
structure Pool where
  lifecycle : Lifecycle := .stopped
  /-- Workers without work, the one that became free last in front. -/
  free : List WorkerId := []
  /-- All workers in service, in the order in which they were hired. -/
  staff : List WorkerId := []
  /-- Workers that retired and were not reaped yet, in the order in which they retired. -/
  retired : List WorkerId := []
  /-- Connections that wait, the one that came first in front. -/
  queue : List Descriptor := []
  /-- Every worker ever hired; worker number `n + 1` stands at position `n`. -/
  workers : List Worker := []
  /-- How many protocol instances were made for workers. -/
  forked : Nat := 0
deriving Repr

/-- The counts that a pool shows to its host. -/
structure PoolCounts where
  lifecycle : Lifecycle
  all : Nat
  free : Nat
  finished : Nat
  pending : Nat
deriving DecidableEq, Repr

def PoolCounts.busy (counts : PoolCounts) : Nat :=
  counts.all - counts.free

def PoolCounts.text (counts : PoolCounts) : String :=
  "PoolSnapshot \x7b state: " ++ counts.lifecycle.name ++
    ", all_workers: " ++ Numeral.decimal counts.all ++
    ", free_workers: " ++ Numeral.decimal counts.free ++
    ", finished_workers: " ++ Numeral.decimal counts.finished ++
    ", pending_connections: " ++ Numeral.decimal counts.pending ++ " \x7d"

namespace Pool

def counts (pool : Pool) : PoolCounts where
  lifecycle := pool.lifecycle
  all := pool.staff.length
  free := pool.free.length
  finished := pool.retired.length
  pending := pool.queue.length

/-! ## Workers by number -/

/-- The worker of a number. -/
def worker? (pool : Pool) : WorkerId → Option Worker
  | 0 => none
  | position + 1 => pool.workers[position]?

def setWorker (pool : Pool) (worker : Worker) : WorkerId → Pool
  | 0 => pool
  | position + 1 => { pool with workers := pool.workers.set position worker }

def updateWorker (pool : Pool) (id : WorkerId) (change : Worker → Worker) : Pool :=
  match pool.worker? id with
  | none => pool
  | some worker => pool.setWorker (change worker) id

/-- The number of the next worker. -/
def nextId (pool : Pool) : WorkerId :=
  pool.workers.length + 1

/-- The worker that is hired next, with a protocol instance of its own where the protocol makes one. -/
def newcomer (terms : Terms) (pool : Pool) : Worker where
  protocol := if terms.forks then .own (pool.forked + 1) else .prototype

/-- Hires a worker. It is not in service yet. -/
def hire (terms : Terms) (pool : Pool) : Pool :=
  { pool with
    workers := pool.workers ++ [pool.newcomer terms]
    forked := if terms.forks then pool.forked + 1 else pool.forked }

/-! ## Sections -/

/-- Hires a worker that is in service at once and free. -/
def recruit (terms : Terms) (pool : Pool) : Pool :=
  { pool.hire terms with
    free := pool.nextId :: pool.free
    staff := pool.staff ++ [pool.nextId] }

/-- Hires free workers, as many as asked for. -/
def hireFree (terms : Terms) : Nat → Pool → Pool
  | 0, pool => pool
  | count + 1, pool => hireFree terms count (pool.recruit terms)

/-- Hires until the least number of workers is free. -/
def fillFloor (terms : Terms) (pool : Pool) : Pool :=
  hireFree terms (terms.options.minWorkers - pool.free.length) pool

def assign? (starts : Bool) (id : WorkerId) (descriptor : Descriptor) (pool : Pool) : Option Pool :=
  (pool.worker? id).bind fun worker =>
    (worker.assign? starts descriptor).map fun next => pool.setWorker next id

/-- Decides about an incoming connection: the worker that became free last takes it; without one a new
worker does, while there may be more; without that it waits, while there is room and it does not wait
already. A worker whose thread does not start goes out of service. -/
def dispatch (terms : Terms) (starts : Bool) (descriptor : Descriptor) (pool : Pool) :
    Dispatch × Pool :=
  if pool.lifecycle ≠ .running then
    (.dropped, pool)
  else
    match pool.free with
    | id :: free =>
        if id ∈ pool.staff then
          match { pool with free }.assign? starts id descriptor with
          | some assigned => (.reused id, assigned)
          | none => (.dropped, { pool with free, staff := pool.staff.erase id })
        else
          (.dropped, { pool with free })
    | [] =>
        if pool.staff.length < terms.options.maxWorkers then
          let id := pool.nextId
          let hired := pool.hire terms
          match hired.assign? starts id descriptor with
          | some assigned => (.spawned id, { assigned with staff := assigned.staff ++ [id] })
          | none => (.dropped, hired)
        else if pool.queue.length < terms.options.maxPending ∧ descriptor ∉ pool.queue then
          (.queued, { pool with queue := pool.queue ++ [descriptor] })
        else
          (.busy, pool)

/-- A worker reports that it can take another connection: the first that waits goes to it, and without one
the worker becomes free. -/
def available (starts : Bool) (id : WorkerId) (pool : Pool) : Handover × Pool :=
  if pool.lifecycle = .running ∧ id ∈ pool.staff then
    match pool.queue with
    | descriptor :: queue =>
        match { pool with queue }.assign? starts id descriptor with
        | some assigned => (.handed descriptor, assigned)
        | none => (.failed descriptor, { pool with queue })
    | [] => (.freed, { pool with free := id :: pool.free })
  else
    (.ignored, pool)

/-- A worker without work asks whether to retire. It may when there are more workers than the least number
and it is still free. -/
def retire (terms : Terms) (id : WorkerId) (pool : Pool) : Bool × Pool :=
  if pool.lifecycle = .running ∧ terms.options.minWorkers < pool.staff.length ∧ id ∈ pool.free then
    (true, { pool with
      free := pool.free.erase id
      staff := pool.staff.erase id
      retired := if id ∈ pool.staff then pool.retired ++ [id] else pool.retired })
  else
    (false, pool)

/-! ## Small laws -/

section Parts

variable (pool : Pool) (worker : Worker) (id : WorkerId)

@[simp] theorem setWorker_lifecycle : (pool.setWorker worker id).lifecycle = pool.lifecycle := by
  cases id <;> rfl

@[simp] theorem setWorker_free : (pool.setWorker worker id).free = pool.free := by
  cases id <;> rfl

@[simp] theorem setWorker_staff : (pool.setWorker worker id).staff = pool.staff := by
  cases id <;> rfl

@[simp] theorem setWorker_retired : (pool.setWorker worker id).retired = pool.retired := by
  cases id <;> rfl

@[simp] theorem setWorker_queue : (pool.setWorker worker id).queue = pool.queue := by
  cases id <;> rfl

@[simp] theorem setWorker_forked : (pool.setWorker worker id).forked = pool.forked := by
  cases id <;> rfl

@[simp] theorem length_setWorker :
    (pool.setWorker worker id).workers.length = pool.workers.length := by
  cases id <;> simp [setWorker]

@[simp] theorem setWorker_nextId : (pool.setWorker worker id).nextId = pool.nextId := by
  simp [nextId]

@[simp] theorem updateWorker_lifecycle (change : Worker → Worker) :
    (pool.updateWorker id change).lifecycle = pool.lifecycle := by
  unfold updateWorker
  split <;> simp

@[simp] theorem updateWorker_free (change : Worker → Worker) :
    (pool.updateWorker id change).free = pool.free := by
  unfold updateWorker
  split <;> simp

@[simp] theorem updateWorker_staff (change : Worker → Worker) :
    (pool.updateWorker id change).staff = pool.staff := by
  unfold updateWorker
  split <;> simp

@[simp] theorem updateWorker_retired (change : Worker → Worker) :
    (pool.updateWorker id change).retired = pool.retired := by
  unfold updateWorker
  split <;> simp

@[simp] theorem updateWorker_queue (change : Worker → Worker) :
    (pool.updateWorker id change).queue = pool.queue := by
  unfold updateWorker
  split <;> simp

@[simp] theorem length_updateWorker (change : Worker → Worker) :
    (pool.updateWorker id change).workers.length = pool.workers.length := by
  unfold updateWorker
  split <;> simp

@[simp] theorem updateWorker_nextId (change : Worker → Worker) :
    (pool.updateWorker id change).nextId = pool.nextId := by
  simp [nextId]

@[simp] theorem hire_lifecycle (terms : Terms) : (pool.hire terms).lifecycle = pool.lifecycle :=
  rfl

@[simp] theorem hire_free (terms : Terms) : (pool.hire terms).free = pool.free :=
  rfl

@[simp] theorem hire_staff (terms : Terms) : (pool.hire terms).staff = pool.staff :=
  rfl

@[simp] theorem hire_queue (terms : Terms) : (pool.hire terms).queue = pool.queue :=
  rfl

end Parts

theorem worker?_isSome_iff (pool : Pool) (id : WorkerId) :
    (pool.worker? id).isSome ↔ 0 < id ∧ id < pool.nextId := by
  cases id with
  | zero => simp [worker?]
  | succ position => simp [worker?, nextId]

theorem worker?_nextId (pool : Pool) : pool.worker? pool.nextId = none := by
  simp [worker?, nextId]

@[simp] theorem length_hire (terms : Terms) (pool : Pool) :
    (pool.hire terms).workers.length = pool.workers.length + 1 := by
  simp [hire]

@[simp] theorem nextId_hire (terms : Terms) (pool : Pool) :
    (pool.hire terms).nextId = pool.nextId + 1 := by
  simp [hire, nextId]

/-- An assignment reaches a worker that exists and has, or gets, a thread. -/
theorem assign?_eq_some_iff {starts : Bool} {id : WorkerId} {descriptor : Descriptor}
    {pool next : Pool} :
    pool.assign? starts id descriptor = some next ↔
      ∃ worker, pool.worker? id = some worker ∧ (worker.stage = .unstarted → starts = true) ∧
        next = pool.setWorker (worker.assign descriptor) id := by
  simp only [assign?, Option.bind_eq_some_iff, Option.map_eq_some_iff, Worker.assign?_eq_some_iff]
  constructor
  · rintro ⟨worker, found, _, ⟨started, rfl⟩, rfl⟩
    exact ⟨worker, found, started, rfl⟩
  · rintro ⟨worker, found, started, rfl⟩
    exact ⟨worker, found, _, ⟨started, rfl⟩, rfl⟩

theorem worker?_setWorker (pool : Pool) (worker : Worker) (id other : WorkerId) :
    (pool.setWorker worker id).worker? other =
      if other = id then (pool.worker? id).map fun _ => worker else pool.worker? other := by
  cases id with
  | zero => cases other <;> simp [setWorker, worker?]
  | succ position =>
      cases other with
      | zero => simp [worker?]
      | succ place =>
          by_cases same : place = position
          · subst same
            simp only [setWorker, worker?, if_pos]
            rw [List.getElem?_set]
            by_cases inside : place < pool.workers.length <;> simp [inside]
          · have differs : ¬ place + 1 = position + 1 := by omega
            have differs' : ¬ position = place := fun h => same h.symm
            simp [setWorker, worker?, differs']
            simp [same]

theorem setWorker_setWorker (pool : Pool) (worker other : Worker) (id : WorkerId) :
    (pool.setWorker worker id).setWorker other id = pool.setWorker other id := by
  cases id <;> simp [setWorker]

theorem worker?_updateWorker (pool : Pool) (id other : WorkerId) (change : Worker → Worker) :
    (pool.updateWorker id change).worker? other =
      if other = id then (pool.worker? id).map change else pool.worker? other := by
  unfold updateWorker
  cases found : pool.worker? id with
  | none =>
      by_cases same : other = id
      · subst same
        simpa using found
      · simp [same]
  | some worker =>
      rw [worker?_setWorker, found]
      simp

/-- Hiring adds one worker under the next number and leaves every other as it was. -/
theorem worker?_hire (terms : Terms) (pool : Pool) (id : WorkerId) :
    (pool.hire terms).worker? id =
      if id = pool.nextId then some (pool.newcomer terms) else pool.worker? id := by
  cases id with
  | zero => simp [worker?, nextId]
  | succ position =>
      simp only [worker?, hire, nextId]
      by_cases last : position = pool.workers.length
      · subst last
        simp
      · by_cases inside : position < pool.workers.length
        · simp [List.getElem?_append_left inside, last]
        · have outside : pool.workers.length < position := by omega
          simp [List.getElem?_append_right (Nat.le_of_lt outside), last,
            List.getElem?_eq_none (Nat.le_of_lt outside)]
          omega

theorem assign?_eq_none {starts : Bool} {id : WorkerId} {descriptor : Descriptor} {pool : Pool}
    (thread : ∀ worker, pool.worker? id = some worker →
      worker.stage = .unstarted ∧ starts = false) : pool.assign? starts id descriptor = none := by
  cases found : pool.worker? id with
  | none => simp [assign?, found]
  | some worker => simp [assign?, found, Worker.assign?, Worker.needsThread, thread worker found]

/-- An assignment that fails needed a thread and got none. -/
theorem unstarted_of_assign? {starts : Bool} {id : WorkerId} {descriptor : Descriptor} {pool : Pool}
    {worker : Worker} (failed : pool.assign? starts id descriptor = none)
    (found : pool.worker? id = some worker) : worker.stage = .unstarted ∧ starts = false := by
  simpa [assign?, found, Worker.assign?, Worker.needsThread] using failed

end Pool

end ConnectionPool
