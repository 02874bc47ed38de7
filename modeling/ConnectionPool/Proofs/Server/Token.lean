import ConnectionPool.Proofs.Server.Closing

/-!
Contract: the token of a worker is turned by an interrupting stop, once and for good.

Nothing but a stop that interrupts clients turns a token, worker by worker, and nothing turns one
back. Such a stop has turned the tokens of all workers in service before it waits for the first of
them. Who holds a turned token begins no session.

Owns:
- `Pool.Interrupted`, and what every turn and every path make of it;
- the invariant `Server.Signals`.

Does not own: how far a session goes on after its token was turned.
-/

namespace ConnectionPool

/-- A stop is under way that interrupts clients. -/
def Interrupting (closing : Option Closing) : Prop :=
  ∃ active, closing = some active ∧ active.mode = .interruptClients

namespace Pool

/-- The token of the worker of this number answers that its session has to end. -/
def Interrupted (pool : Pool) (id : WorkerId) : Prop :=
  ∃ worker, pool.worker? id = some worker ∧ worker.mayContinue = false

/-- At this stage of an interrupting stop, these workers in service were told already. -/
def Told (pool : Pool) : ClosingStage → Prop
  | .unlistening => True
  | .collecting => True
  | .signalling _ left => ∀ id ∈ pool.staff, id ∈ left ∨ pool.Interrupted id
  | .joining _ _ _ => ∀ id ∈ pool.staff, pool.Interrupted id

variable {pool base : Pool} {worker changed : Worker} {id other : WorkerId}

theorem Interrupted.knows (told : pool.Interrupted id) : pool.Knows id := by
  obtain ⟨worker, found, _⟩ := told
  exact knows_of_worker? found

theorem interrupted_of_worker? (same : base.worker? id = pool.worker? id) :
    base.Interrupted id ↔ pool.Interrupted id := by
  simp only [Interrupted, same]

theorem interrupted_of_workers (same : base.workers = pool.workers) :
    base.Interrupted id ↔ pool.Interrupted id :=
  interrupted_of_worker? (worker?_of_workers same id)

/-- A worker moves and keeps its token as it is. -/
theorem interrupted_setWorker (found : pool.worker? other = some worker)
    (workers : base.workers = pool.workers) (same : changed.interrupted = worker.interrupted) :
    (base.setWorker changed other).Interrupted id ↔ pool.Interrupted id := by
  by_cases mover : id = other
  · subst mover
    simp [Interrupted, worker?_setWorker_self changed found workers, found, Worker.mayContinue, same]
  · refine interrupted_of_worker? ?_
    rw [worker?_setWorker, if_neg mover, worker?_of_workers workers]

theorem interrupted_hire (terms : Terms) :
    (pool.hire terms).Interrupted id ↔ pool.Interrupted id := by
  by_cases new : id = pool.nextId
  · subst new
    simp [Interrupted, worker?_hire, worker?_nextId, Worker.mayContinue, newcomer]
  · exact interrupted_of_worker? (by rw [worker?_hire, if_neg new])

theorem interrupted_hireFree (terms : Terms) (count : Nat) :
    (hireFree terms count pool).Interrupted id ↔ pool.Interrupted id := by
  induction count generalizing pool with
  | zero => rfl
  | succ count inductionHypothesis => exact inductionHypothesis.trans (interrupted_hire terms)

theorem interrupted_signal {mode : StopMode} :
    (pool.updateWorker other (Worker.signal mode)).Interrupted id ↔
      pool.Interrupted id ∨ (id = other ∧ mode = .interruptClients ∧ pool.Knows id) := by
  simp only [Interrupted, worker?_updateWorker]
  by_cases same : id = other
  · subst same
    cases found : pool.worker? id with
    | none =>
        have unknown : ¬ pool.Knows id := fun known => by
          obtain ⟨_, present⟩ := known.exists_worker
          cases found.symm.trans present
        simp [unknown]
    | some worker =>
        have known : pool.Knows id := knows_of_worker? found
        cases mode <;> simp [Worker.mayContinue, Worker.signal, known]
  · simp [same]

theorem Told.mono {stage : ClosingStage} (told : pool.Told stage) (staff : base.staff = pool.staff)
    (kept : ∀ id, pool.Interrupted id → base.Interrupted id) : base.Told stage := by
  revert told
  cases stage with
  | unlistening | collecting => exact id
  | signalling held left =>
      intro told other member
      rw [staff] at member
      exact (told other member).imp_right (kept other)
  | joining held left current =>
      intro told other member
      rw [staff] at member
      exact kept other (told other member)

/-- Once nobody is left to be told, everybody was told. -/
theorem told_signalStage {held left : List WorkerId}
    (told : ∀ id ∈ pool.staff, id ∈ left ∨ pool.Interrupted id) :
    pool.Told (Server.signalStage held left) := by
  unfold Server.signalStage
  split
  · next none =>
      intro id member
      refine (told id member).resolve_left fun waits => ?_
      rw [List.isEmpty_iff.1 none] at waits
      cases waits
  · exact told

end Pool

namespace Server

variable {terms : Terms} {server next first last : Server} {label : Label} {events : List Event}
  {turns : List Turn} {id : WorkerId}

/-! ## One turn -/

/-- Only the turn in which an interrupting stop tells a worker turns a token, and it turns that
worker's. -/
theorem Step.interrupted_iff (step : Step terms server label events next) :
    next.pool.Interrupted id ↔ server.pool.Interrupted id ∨
      (label = .signal id ∧ Interrupting server.closing ∧ server.pool.Knows id) := by
  have untold (other : label ≠ .signal id)
      (same : next.pool.Interrupted id ↔ server.pool.Interrupted id) :
      next.pool.Interrupted id ↔ server.pool.Interrupted id ∨
        (label = .signal id ∧ Interrupting server.closing ∧ server.pool.Knows id) := by
    rw [same, or_iff_left fun told => other told.1]
  cases step with
  | started | cannotListen => exact untold nofun (Pool.interrupted_hireFree terms _)
  | @signal other closing held left active =>
      have interrupting : Interrupting server.closing ↔ closing.mode = .interruptClients := by
        simp [Interrupting, active]
      rw [interrupting, Label.signal.injEq, eq_comm (a := other)]
      exact Pool.interrupted_signal
  | claim _ _ found | sweepClaim _ _ _ found | take found | leave found | expire found
  | retire found | stay found | exchange found | beginSession found | skipSession found
  | finish found | handOver found | becomeFree found | comeBack found =>
      exact untold nofun (Pool.interrupted_setWorker found rfl rfl)
  | reused waits running top member found =>
      exact untold nofun (Pool.interrupted_setWorker found rfl (Worker.assign_interrupted _ _))
  | spawned =>
      have found := Pool.worker?_hire terms server.pool server.pool.nextId
      rw [if_pos rfl] at found
      refine untold nofun (Iff.trans ?_ (Pool.interrupted_hire terms))
      exact Pool.interrupted_setWorker found rfl (Worker.assign_interrupted _ _)
  | unspawned => exact untold nofun (Pool.interrupted_hire terms)
  | _ => exact untold nofun (Pool.interrupted_of_workers rfl)

theorem Step.interrupted (step : Step terms server label events next)
    (told : server.pool.Interrupted id) : next.pool.Interrupted id :=
  step.interrupted_iff.2 (.inl told)

/-- Who holds a turned token begins no session. -/
theorem Step.not_interrupted_of_began (step : Step terms server label events next)
    {protocol : ProtocolInstance} {descriptor : Descriptor}
    (sound : Sound terms server) (began : .began id protocol descriptor ∈ events) :
    ¬ server.pool.Interrupted id := by
  rintro ⟨worker, present, told⟩
  cases step with
  | started stopped | cannotListen stopped =>
      cases ofStart_of_mem (sound.roster.stopped_queue stopped) began
  | beginSession found stage untold =>
      obtain ⟨rfl, _⟩ : id = _ ∧ _ := by simpa using began
      cases found.symm.trans present
      simp [Worker.mayContinue, untold] at told
  | _ => simp at began

/-- A channel is closed without a session only under a turned token. -/
theorem Step.interrupted_of_skipped (step : Step terms server label events next)
    {descriptor : Descriptor} (sound : Sound terms server)
    (skipped : .skipped id descriptor ∈ events) : server.pool.Interrupted id := by
  cases step with
  | started stopped | cannotListen stopped =>
      cases ofStart_of_mem (sound.roster.stopped_queue stopped) skipped
  | skipSession found stage told =>
      obtain ⟨rfl, _⟩ : id = _ ∧ _ := by simpa using skipped
      exact ⟨_, found, by simp [Worker.mayContinue, told]⟩
  | _ => simp at skipped

/-! ## A path -/

/-- A turned token stays turned. -/
theorem Path.interrupted (path : Path terms first turns last) (told : first.pool.Interrupted id) :
    last.pool.Interrupted id :=
  path.keeps (motive := fun server => server.pool.Interrupted id) told
    fun _ told step => step.interrupted told

/-- Somewhere along these turns an interrupting stop tells the worker. -/
def ToldAlong (terms : Terms) (first last : Server) (turns : List Turn) (id : WorkerId) : Prop :=
  ∃ before after middle, turns = before ++ ⟨.signal id, []⟩ :: after ∧
    Path terms first before middle ∧ Interrupting middle.closing ∧
    Path terms middle (⟨.signal id, []⟩ :: after) last

/-- A token that was turned on the way was turned by an interrupting stop. -/
theorem Path.toldAlong (path : Path terms first turns last) (told : last.pool.Interrupted id)
    (untold : ¬ first.pool.Interrupted id) : ToldAlong terms first last turns id := by
  induction path with
  | refl => exact absurd told untold
  | @turn turns server next label events before step inductionHypothesis =>
      rcases step.interrupted_iff.1 told with earlier | ⟨rfl, interrupting, _⟩
      · obtain ⟨front, back, middle, rfl, inFront, interrupting, behind⟩ :=
          inductionHypothesis earlier
        refine ⟨front, back ++ [⟨label, events⟩], middle, ?_, inFront, interrupting, ?_⟩
        · rw [List.append_assoc, List.cons_append]
        · exact behind.turn step
      · have silent : events = [] := by
          cases step
          rfl
        subst silent
        exact ⟨turns, [], server, rfl, before, interrupting, .turn .refl step⟩

/-- From a turned token on, the worker begins no session. -/
theorem Path.not_began (path : Path terms first turns last) (sound : Sound terms first)
    (told : first.pool.Interrupted id) (protocol : ProtocolInstance) (descriptor : Descriptor) :
    .began id protocol descriptor ∉ shown turns := by
  induction path with
  | refl => exact List.not_mem_nil
  | turn before step inductionHypothesis =>
      rw [shown_append, shown_singleton, List.mem_append, not_or]
      refine ⟨inductionHypothesis, fun began => ?_⟩
      exact step.not_interrupted_of_began (before.sound sound) began (before.interrupted told)

/-- Unless its token is turned in the end, a worker closes no channel without a session. -/
theorem Path.not_skipped (path : Path terms first turns last) (sound : Sound terms first)
    (untold : ¬ last.pool.Interrupted id) (descriptor : Descriptor) :
    .skipped id descriptor ∉ shown turns := by
  induction path with
  | refl => exact List.not_mem_nil
  | turn before step inductionHypothesis =>
      have untoldBefore := fun told => untold (step.interrupted told)
      rw [shown_append, shown_singleton, List.mem_append, not_or]
      refine ⟨inductionHypothesis untoldBefore, fun skipped => ?_⟩
      exact untoldBefore (step.interrupted_of_skipped (before.sound sound) skipped)

/-! ## Who is told when -/

/-- Workers in service hold turned tokens only while they are being interrupted, and then the stop
has told everybody before it waits for anybody. -/
structure Signals (server : Server) : Prop where
  occasion : ∀ id ∈ server.pool.staff, server.pool.Interrupted id → Interrupting server.closing
  told : ∀ closing, server.closing = some closing → closing.mode = .interruptClients →
    server.pool.Told closing.stage

/-- An interrupting stop stays one until it has ended the run. -/
theorem Step.interrupting (step : Step terms server label events next) (sound : Sound terms server)
    (interrupting : Interrupting server.closing) (unsettled : label ≠ .settle) :
    Interrupting next.closing := by
  obtain ⟨closing, active, mode⟩ := interrupting
  have call := (step.frozen (sound.stopping_of_closing active) unsettled).call
  rw [active] at call
  obtain ⟨other, present, same⟩ := Option.map_eq_some_iff.1 call
  exact ⟨other, present, (congrArg Prod.snd same).trans mode⟩

private theorem Step.occasion (step : Step terms server label events next)
    (sound : Sound terms server) (signals : Signals server) (member : id ∈ next.pool.staff)
    (told : next.pool.Interrupted id) : Interrupting next.closing := by
  have unsettled : label ≠ .settle := by
    rintro rfl
    cases step
    cases member
  have interrupting : Interrupting server.closing := by
    rcases step.interrupted_iff.1 told with earlier | ⟨_, interrupting, _⟩
    · refine signals.occasion id (Decidable.byContradiction fun outside => ?_) earlier
      exact (step.gone ⟨earlier.knows, outside⟩).2 member
    · exact interrupting
  exact step.interrupting sound interrupting unsettled

private theorem Step.told (step : Step terms server label events next) (sound : Sound terms server)
    (signals : Signals server) {closing : Closing} (active : next.closing = some closing)
    (mode : closing.mode = .interruptClients) : next.pool.Told closing.stage := by
  have stays (id : WorkerId) : server.pool.Interrupted id → next.pool.Interrupted id :=
    step.interrupted
  -- While the stop itself does not move on, it has told whom it had told.
  have kept (same : next.closing = server.closing) (unsettled : label ≠ .settle) :
      next.pool.Told closing.stage := by
    rw [same] at active
    have frozen := step.frozen (sound.stopping_of_closing active) unsettled
    exact (signals.told closing active mode).mono frozen.staff stays
  cases step with
  | beginStop | unlisten =>
      cases active
      trivial
  | @collect moving present stage =>
      cases active
      have covered := sound.covers moving present
      exact Pool.told_signalStage fun id member => .inl (List.mem_append_left _ member)
  | @signal other moving held left present stage =>
      cases active
      have before := signals.told moving present mode
      rw [stage] at before
      refine Pool.told_signalStage fun id member => ?_
      rw [Pool.updateWorker_staff] at member
      by_cases same : id = other
      · exact .inr (Pool.interrupted_signal.2 (.inr ⟨same, mode, sound.roster.staff_known id member⟩))
      · refine (before id member).imp (fun waits => ?_) fun told => ?_
        · exact (List.mem_erase_of_ne same).2 waits
        · exact stays id told
  | @claim other worker moving held left present stage =>
      cases active
      have before := signals.told moving present mode
      rw [stage] at before
      intro id member
      rw [Pool.setWorker_staff] at member
      exact stays id (before id member)
  | @joined other worker moving held left present stage =>
      cases active
      have before := signals.told moving present mode
      rw [stage] at before
      exact before
  | settle => cases active
  | _ => exact kept rfl nofun

theorem Step.signals (step : Step terms server label events next) (sound : Sound terms server)
    (signals : Signals server) : Signals next where
  occasion := fun _ => step.occasion sound signals
  told := fun _ => step.told sound signals

theorem Run.signals (run : Run terms turns server) : Signals server := by
  have both : Sound terms server ∧ Signals server :=
    run.keeps (motive := fun server => Sound terms server ∧ Signals server)
      ⟨.new terms, nofun, nofun⟩ fun _ holds step =>
        ⟨step.sound holds.1, step.signals holds.1 holds.2⟩
  exact both.2

end Server

end ConnectionPool
