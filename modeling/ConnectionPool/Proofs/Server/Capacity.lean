import ConnectionPool.Proofs.Server.Slots

/-!
Contract: no connection waits or is refused while a worker is free or could be hired.

A connection is made to wait only when there are as many workers as there may be and none of them is
free. Until nobody waits any more it stays that way: each of these workers has a connection of its
own, takes the first that waits when it reports, and may not retire.

Owns: `Server.WorkConserving` and its proof for every run.

Does not own: in which order connections are served; see `Server.InOrder`.
-/

namespace ConnectionPool

namespace Server

variable {terms : Terms} {server next : Server} {label : Label} {events : List Event}
  {id : WorkerId} {descriptor : Descriptor}

/-- Whoever waits finds as many workers as there may be, and none of them free. -/
theorem Sound.full_of_waiting (sound : Sound terms server) (valid : terms.options.Valid)
    (running : server.pool.lifecycle = .running) (waiting : server.pool.queue ≠ []) :
    server.pool.free = [] ∧ server.pool.staff.length = terms.options.maxWorkers := by
  obtain ⟨noneFree, full⟩ := sound.roster.queue_full running waiting
  exact ⟨noneFree, Nat.le_antisymm (sound.roster.staff_le valid) full⟩

/-- A worker that reports while somebody waits takes the first that waits, whether or not the system
would start a thread. -/
theorem Sound.pulls {worker : Worker} {waiting : List Descriptor} (sound : Sound terms server)
    (running : server.pool.lifecycle = .running) (first : server.pool.queue = descriptor :: waiting)
    (found : server.pool.worker? id = some worker) (stage : worker.stage = .returning)
    (starts : Bool) :
    ∃ next, server.step? terms (.report id starts) =
        some (next, [.reported id, .assigned id descriptor]) ∧
      next.pool.queue = waiting ∧ next.pool.Holds id descriptor := by
  have inRound : worker.stage.isActive = true := by
    rw [stage]
    rfl
  have member : id ∈ server.pool.staff := (sound.duty id worker found).hired_of_isActive inRound
  refine ⟨_, Step.step? (.handOver found stage running member first), ?_, ?_⟩
  · exact Pool.setWorker_queue _ _ _
  · exact ⟨_, Pool.worker?_setWorker_self _ found rfl, rfl, .inl rfl⟩

/-- A decision makes a connection wait, or refuses it, only where nobody else could take it. -/
theorem Step.turnedAway {outcome : Dispatch} (step : Step terms server label events next)
    (sound : Sound terms server) (valid : terms.options.Valid)
    (decided : .decided descriptor outcome ∈ events) (away : outcome = .queued ∨ outcome = .busy) :
    server.pool.free = [] ∧ server.pool.staff.length = terms.options.maxWorkers ∧
      (outcome = .busy → server.pool.queue.length = terms.options.maxPending ∨
        descriptor ∈ server.pool.queue) := by
  have atLimit (full : terms.options.maxWorkers ≤ server.pool.staff.length) :
      server.pool.staff.length = terms.options.maxWorkers :=
    Nat.le_antisymm (sound.roster.staff_le valid) full
  cases step with
  | queued waits running none full =>
      obtain ⟨rfl, rfl⟩ : _ ∧ outcome = .queued := by simpa using decided
      exact ⟨none, atLimit full, nofun⟩
  | busy waits running none full noRoom =>
      obtain ⟨rfl, rfl⟩ : _ ∧ outcome = .busy := by simpa using decided
      exact ⟨none, atLimit full, fun _ => noRoom.imp_left (Nat.le_antisymm sound.roster.queue_le)⟩
  | started stopped | cannotListen stopped =>
      have empty : server.pool.queue = [] := sound.roster.stopped_queue stopped
      cases ofStart_of_mem empty decided
  | _ =>
      -- Every other turn shows no decision, or one for a worker or against the connection.
      rcases away with rfl | rfl <;> simp at decided

/-- Nobody retires while somebody waits. -/
theorem Step.empty_of_retirement (step : Step terms server label events next)
    (sound : Sound terms server) (retired : .retirementAsked id true ∈ events) :
    server.pool.queue = [] := by
  cases step with
  | retire found stage may =>
      refine Decidable.byContradiction fun waiting => ?_
      have noneFree := (sound.roster.queue_full may.1 waiting).1
      have isFree := may.2.2
      rw [noneFree] at isFree
      cases isFree
  | started stopped | cannotListen stopped =>
      have empty : server.pool.queue = [] := sound.roster.stopped_queue stopped
      cases ofStart_of_mem empty retired
  | _ => simp at retired

/-- What a server keeps to about connections that wait or are refused. -/
structure WorkConserving (terms : Terms) (server : Server) : Prop where
  waits : server.pool.lifecycle = .running → server.pool.queue ≠ [] →
    server.pool.free = [] ∧ server.pool.staff.length = terms.options.maxWorkers
  /-- While somebody waits, every worker has one connection, in its slot or taken and not reported. -/
  engaged : server.pool.lifecycle = .running → server.pool.queue ≠ [] → ∀ id ∈ server.pool.staff,
    ∃ worker, server.pool.worker? id = some worker ∧ worker.outstanding = 1
  /-- Once it reports, it takes the first that waits. -/
  pulls : server.pool.lifecycle = .running → ∀ descriptor waiting,
    server.pool.queue = descriptor :: waiting → ∀ id worker,
      server.pool.worker? id = some worker → worker.stage = .returning → ∀ starts, ∃ next,
        server.step? terms (.report id starts) =
            some (next, [.reported id, .assigned id descriptor]) ∧
          next.pool.queue = waiting ∧ next.pool.Holds id descriptor
  /-- Only where all workers that there may be are busy a connection is made to wait or refused, and
  it is refused only where moreover nobody else may wait or it waits already. -/
  turnedAway : ∀ label events next, Step terms server label events next →
    ∀ descriptor outcome, .decided descriptor outcome ∈ events →
      outcome = .queued ∨ outcome = .busy →
        server.pool.free = [] ∧ server.pool.staff.length = terms.options.maxWorkers ∧
          (outcome = .busy → server.pool.queue.length = terms.options.maxPending ∨
            descriptor ∈ server.pool.queue)
  stays : ∀ label events next, Step terms server label events next →
    ∀ id, .retirementAsked id true ∈ events → server.pool.queue = []

/-- Every run keeps to it, also on a system that does not start every thread. -/
theorem workConserving_of_run {turns : List Turn} (valid : terms.options.Valid)
    (run : Run terms turns server) : WorkConserving terms server := by
  have sound := run.sound
  exact {
    waits := sound.full_of_waiting valid
    engaged := fun running waiting id member => by
      have noneFree := (sound.full_of_waiting valid running waiting).1
      have notFree : id ∉ server.pool.free := by
        rw [noneFree]
        exact List.not_mem_nil
      obtain ⟨worker, found⟩ := Option.isSome_iff_exists.1
        ((Pool.worker?_isSome_iff server.pool id).2 (sound.roster.staff_known id member))
      exact ⟨worker, found, sound.outstanding running member notFree found⟩
    pulls := fun running descriptor waiting first id worker found stage starts =>
      sound.pulls running first found stage starts
    turnedAway := fun label events next step descriptor outcome decided away =>
      step.turnedAway sound valid decided away
    stays := fun label events next step id retired => step.empty_of_retirement sound retired }

/-- With one worker and room for one connection that waits: the worker is about to report, and the
second connection waits for it. -/
theorem workConserving_of_second_connection :
    ∃ turns server,
      ({ options := { maxWorkers := 1, maxPending := 1 } } : Terms).options.Valid ∧
      Run { options := { maxWorkers := 1, maxPending := 1 } } turns server ∧
      server.pool.lifecycle = .running ∧ server.pool.queue = [⟨.network, 8⟩] ∧
      (∃ worker, server.pool.worker? 1 = some worker ∧ worker.stage = .returning) ∧
      WorkConserving { options := { maxWorkers := 1, maxPending := 1 } } server := by
  have valid : ({ options := { maxWorkers := 1, maxPending := 1 } } : Terms).options.Valid :=
    (Options.validate_eq_ok_iff _).1 rfl
  obtain ⟨turns, run, _⟩ := path_iff_run?.2
    (show run? { options := { maxWorkers := 1, maxPending := 1 } } {}
      [.start true, .arrive ⟨.network, 7⟩, .decide ⟨.network, 7⟩ true, .take 1,
        .arrive ⟨.network, 8⟩, .decide ⟨.network, 8⟩ true, .exchange 1 false] = some (_, _) from rfl)
  exact ⟨turns, _, valid, run, rfl, rfl, ⟨_, rfl, rfl⟩, workConserving_of_run valid run⟩

end Server

end ConnectionPool
