import ConnectionPool.Proofs.Server.Closing

/-!
Contract: how a stop comes to its end when nobody keeps it up.

A stop takes a server out of service, tells its workers to leave, waits for the thread of each, ends the
run, and closes what was waiting. Nobody hands a worker anything any more, so every turn of the thread of a
worker that was told brings it nearer to its exit.

Owns:
- `Worker.distance`, which every turn of such a thread makes smaller;
- the turns of a stop that begins, tells, waits and closes, each with the server they lead to.

Does not own: whether sessions end.
-/

namespace ConnectionPool

/-- How many turns a thread at this stage is away from its exit, if its slot is empty. -/
def Stage.distance : Stage → Nat
  | .unstarted => 0
  | .exited => 0
  | .waiting => 1
  | .expired => 2
  | .returning => 2
  | .serving _ => 3
  | .opened _ => 4
  | .exchanging _ => 5

namespace Worker

/-- How many turns the thread of a worker that was told to leave is away from its exit, at most. -/
def distance (worker : Worker) : Nat :=
  worker.stage.distance + if worker.assignment.isSome then 6 else 0

/-- The worker was told to leave, or it has nothing to leave. -/
def Told (worker : Worker) : Prop :=
  worker.accepting = false ∨ worker.stage.isActive = false

theorem signal_accepting (mode : StopMode) (worker : Worker) :
    (worker.signal mode).accepting = false := by
  cases mode <;> rfl

theorem signal_hasHandle (mode : StopMode) (worker : Worker) :
    (worker.signal mode).hasHandle = worker.hasHandle := by
  cases mode <;> rfl

theorem distance_lt (worker : Worker) : worker.distance < 12 := by
  have few : worker.stage.distance ≤ 5 := by
    cases worker.stage <;> simp [Stage.distance]
  unfold distance
  split <;> omega

end Worker

namespace Server

variable {terms : Terms} {server next : Server} {label : Label} {events : List Event}

/-! ## Threads -/

/-- Once a server is out of service, a turn of a thread changes its own worker only, and brings it nearer to
its exit if it was told. The worker opens a channel only from further away than from a session. -/
theorem Step.nearer {id : WorkerId} {worker : Worker} (step : Step terms server label events next)
    (thread : label.thread? = some id) (other : server.pool.lifecycle ≠ .running)
    (found : server.pool.worker? id = some worker) (told : worker.accepting = false) :
    ∃ moved : Worker, next = { server with pool := server.pool.setWorker moved id } ∧
      moved.accepting = false ∧ moved.distance < worker.distance ∧
        (worker.distance ≤ 3 → ∀ granted, label ≠ .exchange id granted) := by
  cases step with
  | take present stage full =>
      cases thread
      cases found.symm.trans present
      exact ⟨_, rfl, told, by simp [Worker.distance, Stage.distance, stage, full], nofun⟩
  | leave present stage empty =>
      cases thread
      cases found.symm.trans present
      exact ⟨_, rfl, told, by simp [Worker.distance, Stage.distance, stage, empty], nofun⟩
  | expire present _ _ untold =>
      cases thread
      cases found.symm.trans present
      cases told.symm.trans untold
  | retire _ _ may => exact absurd may.1 other
  | stay present stage | skipSession present stage | finish present stage | comeBack present stage
  | beginSession present stage =>
      cases thread
      cases found.symm.trans present
      exact ⟨_, rfl, told, by simp [Worker.distance, Stage.distance, stage], nofun⟩
  | @exchange _ _ descriptor granted present stage =>
      cases thread
      cases found.symm.trans present
      refine ⟨_, rfl, told, ?_, fun near => ?_⟩
      · cases granted <;> simp [Worker.distance, Stage.distance, stage]
      · simp only [Worker.distance, stage, Stage.distance] at near
        omega
  | handOver _ _ running | becomeFree _ _ running => exact absurd running other
  | _ => cases thread

/-! ## The turns of a stop -/

/-- The server when a stop has found it running. -/
def begun (server : Server) (caller : Nat) (mode : StopMode) (stage : ClosingStage) : Server :=
  { server with
    pool := { server.pool with lifecycle := .stopping }
    closing := some { caller, mode, stage } }

/-- A stop begins, asks the transport to listen no more, and looks whom it has to tell. -/
theorem path_beginStop (running : server.pool.lifecycle = .running) (caller : Nat) (mode : StopMode) :
    Path terms server [⟨.beginStop caller mode, []⟩, ⟨.unlisten, [.unlistened]⟩, ⟨.collect, []⟩]
      (server.begun caller mode (signalStage (server.pool.staff ++ server.pool.retired)
        (server.pool.staff ++ server.pool.retired))) := by
  have begins : Step terms server (.beginStop caller mode) []
      (server.begun caller mode .unlistening) := .beginStop running
  have unlistens : Step terms (server.begun caller mode .unlistening) .unlisten [.unlistened]
      (server.begun caller mode .collecting) := @Step.unlisten _ _ { caller, mode } rfl rfl
  exact ((Path.refl.turn begins).turn unlistens).turn
    (@Step.collect _ _ { caller, mode, stage := .collecting } rfl rfl)

/-- The pool after these workers were told. -/
def signalled (mode : StopMode) (ids : List WorkerId) (pool : Pool) : Pool :=
  ids.foldl (fun pool id => pool.updateWorker id (Worker.signal mode)) pool

/-- Telling workers changes what they were told, and nothing else. -/
theorem worker?_signalled {mode : StopMode} {ids : List WorkerId} {pool : Pool} {id : WorkerId}
    {worker : Worker} (found : (signalled mode ids pool).worker? id = some worker) :
    ∃ before, pool.worker? id = some before ∧ worker.stage = before.stage ∧
      worker.assignment = before.assignment ∧ worker.hasHandle = before.hasHandle ∧
        (id ∈ ids ∨ before.accepting = false → worker.accepting = false) := by
  induction ids generalizing pool with
  | nil => exact ⟨worker, found, rfl, rfl, rfl, fun told => told.resolve_left List.not_mem_nil⟩
  | cons first ids inductionHypothesis =>
      obtain ⟨between, present, stage, assignment, handle, told⟩ := inductionHypothesis found
      rw [Pool.worker?_updateWorker] at present
      split at present
      · next same =>
          subst same
          obtain ⟨before, wasPresent, rfl⟩ := Option.map_eq_some_iff.1 present
          rw [Worker.signal_stage] at stage
          rw [Worker.signal_assignment] at assignment
          rw [Worker.signal_hasHandle] at handle
          exact ⟨before, wasPresent, stage, assignment, handle,
            fun _ => told (.inr (before.signal_accepting mode))⟩
      · next different =>
          refine ⟨between, present, stage, assignment, handle, fun isTold => told ?_⟩
          exact isTold.imp_left fun member => (List.mem_cons.1 member).resolve_left different

section Signalled

variable (mode : StopMode) (ids : List WorkerId) (pool : Pool)

theorem exists_updateWorker (pool : Pool) (id : WorkerId) (change : Worker → Worker) :
    ∃ workers, pool.updateWorker id change = { pool with workers } ∧
      workers.length = pool.workers.length := by
  cases found : pool.worker? id with
  | none => exact ⟨pool.workers, by rw [Pool.updateWorker, found], rfl⟩
  | some worker =>
      cases id with
      | zero => cases found
      | succ place =>
          refine ⟨pool.workers.set place (change worker), ?_, List.length_set⟩
          simp only [Pool.updateWorker, found]
          rfl

/-- Signals change the workers themselves and nothing else, and they add none. -/
theorem exists_signalled : ∃ workers, signalled mode ids pool = { pool with workers } ∧
    workers.length = pool.workers.length := by
  induction ids generalizing pool with
  | nil => exact ⟨pool.workers, rfl, rfl⟩
  | cons id ids inductionHypothesis =>
      obtain ⟨workers, same, length⟩ :=
        inductionHypothesis (pool.updateWorker id (Worker.signal mode))
      obtain ⟨changed, isChanged, few⟩ := exists_updateWorker pool id (Worker.signal mode)
      refine ⟨workers, same.trans ?_, length.trans ?_⟩
      · rw [isChanged]
      · rw [isChanged, few]

@[simp] theorem signalled_lifecycle : (signalled mode ids pool).lifecycle = pool.lifecycle := by
  obtain ⟨workers, same, -⟩ := exists_signalled mode ids pool
  rw [same]

@[simp] theorem signalled_staff : (signalled mode ids pool).staff = pool.staff := by
  obtain ⟨workers, same, -⟩ := exists_signalled mode ids pool
  rw [same]

@[simp] theorem signalled_queue : (signalled mode ids pool).queue = pool.queue := by
  obtain ⟨workers, same, -⟩ := exists_signalled mode ids pool
  rw [same]

@[simp] theorem length_signalled :
    (signalled mode ids pool).workers.length = pool.workers.length := by
  obtain ⟨workers, same, length⟩ := exists_signalled mode ids pool
  rw [same, length]

end Signalled

/-- A stop tells everybody on its list. -/
theorem path_signals {closing : Closing} {held left : List WorkerId}
    (active : server.closing = some closing) (stage : closing.stage = signalStage held left) :
    Path terms server (left.map fun id => ⟨.signal id, []⟩)
      { server with
        pool := signalled closing.mode left server.pool
        closing := some { closing with stage := .joining held held none } } := by
  induction left generalizing server closing with
  | nil =>
      have same : server.closing = some { closing with stage := .joining held held none } := by
        rw [active, ← show closing.stage = .joining held held none from stage]
      have whole : ({ server with
          pool := signalled closing.mode [] server.pool
          closing := some { closing with stage := .joining held held none } } : Server) = server := by
        rw [← same]
        rfl
      rw [whole]
      exact .refl
  | cons id left inductionHypothesis =>
      have signal : Step terms server (.signal id) [] _ := .signal active stage List.mem_cons_self
      rw [List.erase_cons_head] at signal
      let telling : Closing := { closing with stage := signalStage held left }
      have behind : Path terms { server with
          pool := server.pool.updateWorker id (Worker.signal closing.mode)
          closing := some telling } _ _ := inductionHypothesis rfl rfl
      exact (Path.turn .refl signal).append behind

/-- The server once the stop has waited for one more worker. -/
def joined (server : Server) (closing : Closing) (held left : List WorkerId) (id : WorkerId)
    (worker : Worker) : Server :=
  { server with
    pool := server.pool.setWorker { worker with hasHandle := false } id
    closing := some { closing with stage := .joining held left none } }

section Joining

variable {closing : Closing} {held left : List WorkerId} {id : WorkerId} {worker : Worker}

/-- A stop waits for a worker that has left its round. -/
theorem path_join (active : server.closing = some closing)
    (stage : closing.stage = .joining held (id :: left) none)
    (found : server.pool.worker? id = some worker) (ended : worker.stage = .exited)
    (handle : worker.hasHandle = true) :
    Path terms server [⟨.claim id, []⟩, ⟨.joined, []⟩]
      (server.joined closing held left id worker) := by
  have claim : Step terms server (.claim id) [] _ :=
    .claim active stage found List.mem_cons_self
  rw [List.erase_cons_head, if_pos handle] at claim
  let waiting : Closing := { closing with stage := .joining held left (some id) }
  exact (Path.turn .refl claim).turn
    (@Step.joined _ _ id _ waiting held left rfl rfl (Pool.worker?_setWorker_self _ found rfl) ended)

/-- A stop does not wait for a worker whose thread somebody else waits for, or who has none. -/
theorem path_skip (active : server.closing = some closing)
    (stage : closing.stage = .joining held (id :: left) none)
    (found : server.pool.worker? id = some worker) (handle : worker.hasHandle = false) :
    Path terms server [⟨.claim id, []⟩] (server.joined closing held left id worker) ∧
      (server.joined closing held left id worker).step? terms .joined = none := by
  have claim : Step terms server (.claim id) [] _ :=
    .claim active stage found List.mem_cons_self
  rw [List.erase_cons_head, handle] at claim
  exact ⟨.turn .refl claim, rfl⟩

end Joining

/-- The only clearance closes what it holds, and answers. -/
theorem path_clear {caller : Nat} {left : List Descriptor}
    (clearance : server.clearances = [⟨caller, left⟩]) :
    Path terms server
      (left.map (fun descriptor => ⟨.clear 0, [.discarded descriptor]⟩) ++
        [⟨.endStop 0, [.stopAnswered caller true]⟩])
      { server with clearances := [] } := by
  induction left generalizing server with
  | nil =>
      have ends : Step terms server (.endStop 0) [.stopAnswered caller true] _ :=
        .endStop (by rw [clearance]; rfl)
      rw [clearance] at ends
      exact .turn .refl ends
  | cons descriptor left inductionHypothesis =>
      have clears : Step terms server (.clear 0) [.discarded descriptor] _ :=
        .clear (by rw [clearance]; rfl)
      rw [clearance] at clears
      have behind : Path terms { server with clearances := [⟨caller, left⟩] } _ _ :=
        inductionHypothesis rfl
      exact (Path.turn .refl clears).append behind

end Server

end ConnectionPool
