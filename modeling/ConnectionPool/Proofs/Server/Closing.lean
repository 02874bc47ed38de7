import ConnectionPool.Proofs.Server.Order
import ConnectionPool.Proofs.Server.Rounds
import ConnectionPool.Proofs.Server.Slots

/-!
Contract: what stays as it is once a server does not run.

A stop that is under way hires nobody and hands out nothing: the workers in service, the free ones
and the waiting connections stay the same until it ends the run, and so do its caller and its mode.
A stopped server does nothing at all before the next start. A worker that is out of service stays
out of it, and does nothing for connections any more.

Owns:
- `Pool.Gone`, `Server.Frozen`, and what keeps them along every path;
- `Pool.Unmoved`, where a turn leaves the workers of a server that does not run;
- the silence of workers without a connection.

Does not own: what a stop tells its workers.
-/

namespace ConnectionPool

/-- The worker of this number was in service and is not any more, or never was. -/
def Pool.Gone (pool : Pool) (id : WorkerId) : Prop :=
  pool.Knows id ∧ id ∉ pool.staff

/-- From one pool to the other nobody came into service or left it, and nobody has become free or
begun to wait. -/
structure Pool.Unmoved (before after : Pool) : Prop where
  lifecycle : after.lifecycle = before.lifecycle
  free : after.free = before.free
  staff : after.staff = before.staff
  retired : after.retired ⊆ before.retired
  queue : after.queue = before.queue
  nextId : after.nextId = before.nextId

theorem Pool.unmoved_setWorker (pool : Pool) (worker : Worker) (id : WorkerId) :
    pool.Unmoved (pool.setWorker worker id) := by
  constructor <;> simp

/-- Who called the stop, and how it treats clients. -/
def Closing.call (closing : Closing) : Nat × StopMode :=
  (closing.caller, closing.mode)

namespace Server

variable {terms : Terms} {server next first middle last : Server} {label : Label}
  {events : List Event} {turns : List Turn} {id : WorkerId}

/-! ## Silence -/

/-- A worker without a connection that is not handed one shows nothing of a service. -/
theorem Step.silent (step : Step terms server label events next) (sound : Sound terms server)
    (idle : ∀ worker, server.pool.worker? id = some worker → worker.stage.isEngaged = false)
    (unreachable : server.pool.lifecycle = .running → server.pool.Gone id) :
    service id events = [] := by
  cases step with
  | started stopped | cannotListen stopped =>
      exact service_startEvents (sound.roster.stopped_queue stopped) id
  | @reused _ _ other _ _ _ running _ member =>
      have different : other ≠ id := by
        rintro rfl
        exact (unreachable running).2 member
      simp [service, Event.isService, different]
  | spawned _ running =>
      have different : server.pool.nextId ≠ id := by
        rintro rfl
        exact Pool.not_knows_nextId (unreachable running).1
      simp [service, Event.isService, different]
  | @exchange other _ _ _ found stage | @beginSession other _ _ found stage
  | @skipSession other _ _ found stage | @finish other _ _ _ found stage =>
      have different : other ≠ id := by
        rintro rfl
        have notEngaged := idle _ found
        rw [stage] at notEngaged
        cases notEngaged
      simp [service, Event.isService, different]
  | @handOver other _ _ _ _ _ _ running member =>
      have different : other ≠ id := by
        rintro rfl
        exact (unreachable running).2 member
      simp [service, Event.isService, different]
  | _ => rfl

/-- Only a running server hands out connections. -/
theorem Step.handings_eq_nil (step : Step terms server label events next)
    (sound : Sound terms server) (other : server.pool.lifecycle ≠ .running) :
    handings events = [] := by
  cases step with
  | started stopped | cannotListen stopped =>
      exact handings_startEvents (sound.roster.stopped_queue stopped)
  | reused _ running | spawned _ running | handOver _ _ running => exact absurd running other
  | _ => rfl

/-- Only a running server hires, or a start that finds the server stopped. -/
theorem Step.not_hired (step : Step terms server label events next)
    (other : server.pool.lifecycle ≠ .running)
    (noStart : server.pool.lifecycle = .stopped → ∀ listens, label ≠ .start listens)
    (id : WorkerId) : .hired id ∉ events := by
  cases step with
  | started stopped | cannotListen stopped => exact absurd rfl (noStart stopped _)
  | spawned _ running | unspawned _ running => exact absurd running other
  | _ => simp

/-- A server that does not run leaves its workers where they are, unless a start or the end of a stop
changes its state. -/
theorem Step.unmoved (step : Step terms server label events next)
    (other : server.pool.lifecycle ≠ .running)
    (noStart : server.pool.lifecycle = .stopped → ∀ listens, label ≠ .start listens)
    (unsettled : label ≠ .settle) : server.pool.Unmoved next.pool := by
  cases step with
  | started stopped | cannotListen stopped => exact absurd rfl (noStart stopped _)
  | beginStop running | reused _ running | unusable _ running | misplaced _ running
  | spawned _ running | unspawned _ running | queued _ running | handOver _ _ running
  | becomeFree _ _ running => exact absurd running other
  | retire _ _ may => exact absurd may.1 other
  | settle => exact absurd rfl unsettled
  | beginSweep => exact ⟨rfl, rfl, rfl, List.nil_subset _, rfl, rfl⟩
  | signal => constructor <;> simp
  | claim | sweepClaim | take | leave | expire | stay | exchange | beginSession | skipSession
  | finish | comeBack => exact Pool.unmoved_setWorker ..
  | _ => exact ⟨rfl, rfl, rfl, List.Subset.refl _, rfl, rfl⟩

/-! ## Workers out of service -/

theorem Sound.inactive_of_gone {worker : Worker} (sound : Sound terms server)
    (gone : server.pool.Gone id) (found : server.pool.worker? id = some worker) :
    worker.stage.isActive = false :=
  ((sound.duty id worker found).outside gone.2).2

theorem not_isEngaged_of_not_isActive {stage : Stage} (inactive : stage.isActive = false) :
    stage.isEngaged = false := by
  refine Bool.eq_false_iff.2 fun engaged => ?_
  rw [Stage.isActive_of_isEngaged engaged] at inactive
  cases inactive

/-- Nobody comes back into service, because no number is given twice. -/
theorem Step.gone (step : Step terms server label events next) (gone : server.pool.Gone id) :
    next.pool.Gone id := by
  obtain ⟨known, outside⟩ := gone
  cases step with
  | started | cannotListen => exact Pool.outside_hireFree _ known outside
  | settle => exact ⟨known, List.not_mem_nil⟩
  | @signal other closing =>
      show (server.pool.updateWorker other (Worker.signal closing.mode)).Gone id
      unfold Pool.updateWorker
      split
      · exact ⟨known, outside⟩
      · exact ⟨(Pool.knows_setWorker _ _ _).2 known, by rwa [Pool.setWorker_staff]⟩
  | unusable => exact ⟨known, fun member => outside (List.mem_of_mem_erase member)⟩
  | spawned =>
      refine ⟨(Pool.knows_setWorker _ _ _).2 (known.hire terms), ?_⟩
      rw [Pool.setWorker_staff, List.mem_append, List.mem_singleton]
      rintro (member | rfl)
      · exact outside member
      · exact Pool.not_knows_nextId known
  | unspawned => exact ⟨known.hire terms, outside⟩
  | retire =>
      refine ⟨(Pool.knows_setWorker _ _ _).2 known, ?_⟩
      rw [Pool.setWorker_staff]
      exact fun member => outside (List.mem_of_mem_erase member)
  | claim | reused | sweepClaim | take | leave | expire | stay | exchange | beginSession
  | skipSession | finish | handOver | becomeFree | comeBack =>
      refine ⟨(Pool.knows_setWorker _ _ _).2 known, ?_⟩
      rwa [Pool.setWorker_staff]
  | _ => exact ⟨known, outside⟩

theorem Path.gone (path : Path terms first turns last) (gone : first.pool.Gone id) :
    last.pool.Gone id :=
  path.keeps (motive := fun server => server.pool.Gone id) gone fun _ gone step => step.gone gone

/-- Whoever is out of service does nothing for connections any more. -/
theorem Path.silent_of_gone (path : Path terms first turns last) (sound : Sound terms first)
    (gone : first.pool.Gone id) : service id (shown turns) = [] := by
  induction path with
  | refl => rfl
  | turn before step inductionHypothesis =>
      have stillGone := before.gone gone
      have soundThen := before.sound sound
      have silent : service id _ = [] := step.silent soundThen (fun worker found =>
        not_isEngaged_of_not_isActive (soundThen.inactive_of_gone stillGone found))
        fun _ => stillGone
      rw [shown_append, shown_singleton, service_append, inductionHypothesis, silent]
      rfl

/-! ## A stopped server -/

/-- The workers of a stopped server have nothing to do, and no thread in its round. -/
theorem Sound.resting {worker : Worker} (sound : Sound terms server)
    (stopped : server.pool.lifecycle = .stopped)
    (found : server.pool.worker? id = some worker) :
    worker.assignment = none ∧ worker.stage.isActive = false := by
  have fits := sound.duty id worker found
  by_cases member : id ∈ server.pool.staff
  · have unstarted : worker.stage = .unstarted := fits.unused stopped member
    exact ⟨fits.empty_of_stage (by simp [unstarted]) (by simp [unstarted]), by rw [unstarted]; rfl⟩
  · exact fits.outside member

theorem Sound.progress_eq_nil (sound : Sound terms server)
    (stopped : server.pool.lifecycle = .stopped) (id : WorkerId) :
    server.pool.progress id = [] := by
  unfold Pool.progress
  split
  · rfl
  · next worker found =>
      obtain ⟨empty, inactive⟩ := sound.resting stopped found
      rw [progress_of_not_isEngaged id (not_isEngaged_of_not_isActive inactive), empty]
      rfl

theorem Sound.sessions_eq_zero (sound : Sound terms server)
    (stopped : server.pool.lifecycle = .stopped) : server.pool.sessions = 0 := by
  refine List.countP_eq_zero.2 fun worker member serving => ?_
  obtain ⟨position, here⟩ := List.mem_iff_getElem?.1 member
  have found : server.pool.worker? (position + 1) = some worker := here
  have resting := sound.resting stopped found
  revert serving resting
  cases worker.stage <;> simp [Stage.isServing, Stage.isActive]

/-- Before the next start a stopped server stays stopped, and nobody does anything for a connection.
-/
theorem Path.silent_of_stopped (path : Path terms first turns last) (sound : Sound terms first)
    (stopped : first.pool.lifecycle = .stopped)
    (noStart : .startAnswered .started ∉ shown turns) :
    last.pool.lifecycle = .stopped ∧ ∀ id, service id (shown turns) = [] := by
  induction path with
  | refl => exact ⟨stopped, fun _ => rfl⟩
  | @turn turns server next label events before step inductionHypothesis =>
      rw [shown_append, shown_singleton, List.mem_append, not_or] at noStart
      obtain ⟨stillStopped, silentSoFar⟩ := inductionHypothesis noStart.1
      have soundThen := before.sound sound
      refine ⟨?_, fun id => ?_⟩
      · refine Decidable.byContradiction fun begun => noStart.2 ?_
        exact (step.begins stillStopped begun).1
      · have silent : service id events = [] := step.silent soundThen (fun worker found =>
          not_isEngaged_of_not_isActive (soundThen.resting stillStopped found).2)
          fun running => by cases stillStopped.symm.trans running
        rw [shown_append, shown_singleton, service_append, silentSoFar id, silent]
        rfl

theorem Step.start_of_started (step : Step terms server label events next)
    (opens : .startAnswered .started ∈ events) : ∃ listens, label = .start listens := by
  cases step with
  | started | cannotListen => exact ⟨_, rfl⟩
  | _ => simp at opens

theorem Path.not_started (path : Path terms first turns last)
    (noStart : ∀ turn ∈ turns, ∀ listens, turn.label ≠ .start listens) :
    .startAnswered .started ∉ shown turns := by
  induction path with
  | refl => exact List.not_mem_nil
  | turn before step inductionHypothesis =>
      rw [shown_append, shown_singleton, List.mem_append, not_or]
      refine ⟨inductionHypothesis fun turn member => ?_, fun opens => ?_⟩
      · exact noStart turn (List.mem_append_left _ member)
      · obtain ⟨listens, same⟩ := step.start_of_started opens
        exact noStart _ (List.mem_append_right _ (List.mem_singleton_self _)) listens same

/-- Before the next start nobody is hired either. -/
theorem Path.not_hired_of_stopped (path : Path terms first turns last)
    (stopped : first.pool.lifecycle = .stopped)
    (noStart : ∀ turn ∈ turns, ∀ listens, turn.label ≠ .start listens) :
    last.pool.lifecycle = .stopped ∧ ∀ id, .hired id ∉ shown turns := by
  induction path with
  | refl => exact ⟨stopped, fun _ => List.not_mem_nil⟩
  | @turn turns server next label events before step inductionHypothesis =>
      obtain ⟨stillStopped, nobody⟩ := inductionHypothesis fun turn member =>
        noStart turn (List.mem_append_left _ member)
      have other : ∀ listens, label ≠ .start listens :=
        noStart ⟨label, events⟩ (List.mem_append_right _ (List.mem_singleton_self _))
      refine ⟨?_, fun id => ?_⟩
      · by_cases settles : label = .settle
        · subst settles
          cases step
          rfl
        · have unmoved := step.unmoved (by rw [stillStopped]; nofun) (fun _ => other) settles
          exact unmoved.lifecycle.trans stillStopped
      · have silent := step.not_hired (by rw [stillStopped]; nofun) (fun _ => other) id
        rw [shown_append, shown_singleton, List.mem_append, not_or]
        exact ⟨nobody id, silent⟩

/-! ## A stop under way -/

/-- From one server to the other a stop was under way and has not ended the run. -/
structure Frozen (before after : Server) : Prop where
  stopping : after.pool.lifecycle = .stopping
  free : after.pool.free = before.pool.free
  staff : after.pool.staff = before.pool.staff
  queue : after.pool.queue = before.pool.queue
  nextId : after.pool.nextId = before.pool.nextId
  call : after.closing.map Closing.call = before.closing.map Closing.call

namespace Frozen

theorem refl (stopping : server.pool.lifecycle = .stopping) : Frozen server server :=
  ⟨stopping, rfl, rfl, rfl, rfl, rfl⟩

theorem trans (front : Frozen first middle) (back : Frozen middle last) : Frozen first last where
  stopping := back.stopping
  free := back.free.trans front.free
  staff := back.staff.trans front.staff
  queue := back.queue.trans front.queue
  nextId := back.nextId.trans front.nextId
  call := back.call.trans front.call

end Frozen

/-- Only the end of a stop, or the beginning of the next one, changes who stops the server. -/
theorem Step.call_eq (step : Step terms server label events next)
    (stopping : server.pool.lifecycle = .stopping) (unsettled : label ≠ .settle) :
    next.closing.map Closing.call = server.closing.map Closing.call := by
  cases step with
  | beginStop running => cases stopping.symm.trans running
  | settle => exact absurd rfl unsettled
  | unlisten active | collect active | joined active | signal active | claim active =>
      rw [active]
      rfl
  | _ => rfl

theorem Step.frozen (step : Step terms server label events next)
    (stopping : server.pool.lifecycle = .stopping) (unsettled : label ≠ .settle) :
    Frozen server next := by
  have unmoved : server.pool.Unmoved next.pool := by
    apply step.unmoved _ _ unsettled
    · rw [stopping]
      nofun
    · intro stopped
      cases stopping.symm.trans stopped
  exact ⟨unmoved.lifecycle.trans stopping, unmoved.free, unmoved.staff, unmoved.queue,
    unmoved.nextId, step.call_eq stopping unsettled⟩

theorem Path.frozen (path : Path terms first turns last)
    (stopping : first.pool.lifecycle = .stopping)
    (unsettled : ∀ turn ∈ turns, turn.label ≠ .settle) : Frozen first last :=
  path.keeps (motive := Frozen first) (.refl stopping) fun taken frozen step =>
    frozen.trans (step.frozen frozen.stopping (unsettled _ taken))

/-- A run that goes on was not ended since it began. -/
theorem Path.unsettled (path : Path terms first turns last) (sound : Sound terms first)
    (begun : last.pool.lifecycle ≠ .stopped) (noStart : .startAnswered .started ∉ shown turns) :
    ∀ turn ∈ turns, turn.label ≠ .settle := by
  intro turn member settles
  obtain ⟨front, back, rfl⟩ := List.append_of_mem member
  obtain ⟨middle, inFront, behind⟩ := path.split
  obtain ⟨ended, step, rest⟩ := behind.exists_first
  have stopped : ended.pool.lifecycle = .stopped := by
    generalize turn.events = events at step
    rw [settles] at step
    cases step
    rfl
  refine begun (rest.silent_of_stopped (step.sound (inFront.sound sound)) stopped ?_).1
  intro opens
  refine noStart ?_
  rw [shown_append, ← List.singleton_append, shown_append]
  exact List.mem_append_right _ (List.mem_append_right _ opens)

/-- Until the run is over, nobody is hired and nothing is handed out. -/
theorem Path.nothing_of_frozen (path : Path terms first turns last) (sound : Sound terms first)
    (stopping : first.pool.lifecycle = .stopping)
    (unsettled : ∀ turn ∈ turns, turn.label ≠ .settle) :
    handings (shown turns) = [] ∧ ∀ id, .hired id ∉ shown turns := by
  induction path with
  | refl => exact ⟨rfl, fun _ => List.not_mem_nil⟩
  | @turn turns server next label events before step inductionHypothesis =>
      have unsettledBefore := fun turn member => unsettled turn (List.mem_append_left _ member)
      have stillStopping := (before.frozen stopping unsettledBefore).stopping
      have other : server.pool.lifecycle ≠ .running := by
        rw [stillStopping]
        nofun
      obtain ⟨nothing, nobody⟩ := inductionHypothesis unsettledBefore
      refine ⟨?_, fun id => ?_⟩
      · have nothingNow := step.handings_eq_nil (before.sound sound) other
        rw [shown_append, shown_singleton, handings_append, nothing, nothingNow]
        rfl
      · have nobodyNow := step.not_hired other (fun stopped => by
          cases stillStopping.symm.trans stopped) id
        rw [shown_append, shown_singleton, List.mem_append, not_or]
        exact ⟨nobody id, nobodyNow⟩

end Server

end ConnectionPool
