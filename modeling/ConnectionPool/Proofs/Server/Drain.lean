import ConnectionPool.Proofs.Server.StopCall

/-!
Contract: a stop that waits for clients cuts nobody off.

Whatever a worker was handed in the run that the stop ends, it has exchanged before the run is over,
and each session on a channel has ended by itself, under a token that nobody has turned. What still
waited when the server went out of service is closed. After that no worker of the run does anything
for a connection again, and nobody does before the next start.

Owns: `Server.Drained` and its proof for every stop that waits for clients.

Does not own: stops that interrupt clients; see `Server.CutShort`.
-/

namespace ConnectionPool

namespace Server

variable {terms : Terms} {id : WorkerId}

/-! ## Tokens -/

/-- A worker that does anything for a connection in the run of a graceful stop keeps its token until
the run is over. -/
theorem StopUnderWay.not_interrupted (stop : StopUnderWay terms .waitClients)
    (serves : service id (shown stop.period) ≠ []) : ¬ stop.latest.pool.Interrupted id := by
  intro told
  obtain ⟨earlier, first, _, opening, path, running, _⟩ := stop.opening
  have sound := Run.sound opening
  by_cases before : first.pool.Interrupted id
  · -- Its token was turned in an earlier run, so it was out of service when this one began.
    refine serves (path.silent_of_gone sound ⟨before.knows, fun member => ?_⟩)
    obtain ⟨closing, active, _⟩ := (Run.signals opening).occasion id member before
    cases running.symm.trans (sound.stopping_of_closing active)
  · obtain ⟨front, back, middle, whole, inFront, interrupting, behind⟩ :=
      path.toldAlong told before
    cases stop.mode_of_interrupting behind (inFront.sound sound) whole interrupting

/-! ## All together -/

/-- What a graceful stop keeps to. -/
structure Drained (call : StopCall terms .waitClients) : Prop where
  /-- For every worker, the run is a list of whole rounds, one for each connection that it was
  handed: the descriptor was exchanged, and a session on its channel has ended by itself. -/
  finished : ∀ id, ∃ rounds : List Round,
    service id (shown call.period) = rounds.flatMap (Round.events id) ∧
      rounds.map Round.descriptor = ofWorker id (handings (shown call.period)) ∧
        ∀ descriptor, .skipped descriptor ∉ rounds
  /-- All that time the token of such a worker answered that its session may go on. -/
  uninterrupted : ∀ id, service id (shown call.period) ≠ [] → ∀ front back middle,
    call.history = front ++ back → Run terms front middle → Path terms middle back call.latest →
      ∀ worker, middle.pool.worker? id = some worker → worker.mayContinue = true
  /-- What was accepted in the run is what the workers were handed, and then what still waited. -/
  accepted : assignments (shown call.period) ++ call.found.pool.queue =
    acceptances (shown call.period)
  /-- The stop has closed what still waited before it answered. -/
  discarded : call.closed = call.found.pool.queue
  answered : .stopAnswered call.caller true ∈ shown call.later
  /-- The workers of the run have left their rounds and do nothing for connections any more. -/
  gone : ∀ more final, Path terms call.settled more final →
    ∀ id, call.settled.pool.Knows id → service id (shown more) = [] ∧
      ∀ worker, final.pool.worker? id = some worker → worker.stage.isActive = false
  /-- Before the next start nobody does, and there are no sessions. -/
  quiet : ∀ more final, Path terms call.settled more final →
    .startAnswered .started ∉ shown more →
      final.pool.sessions = 0 ∧ ∀ id, service id (shown more) = []

/-- Every graceful stop keeps to it, whatever happens meanwhile. -/
theorem drained_of_stopCall (call : StopCall terms .waitClients) : Drained call where
  finished := fun id => by
    obtain ⟨rounds, whole, handed, _⟩ := call.rounds_of_period id
    refine ⟨rounds, whole, handed, fun descriptor member => ?_⟩
    have skipped : .skipped id descriptor ∈ service id (shown call.period) := by
      rw [whole]
      exact List.mem_flatMap.2 ⟨_, member, by simp [Round.events]⟩
    have untold := call.not_interrupted (List.ne_nil_of_mem skipped)
    obtain ⟨_, _, _, opening, path, _⟩ := call.opening
    exact path.not_skipped (Run.sound opening) untold descriptor (List.mem_of_mem_filter skipped)
  uninterrupted := fun id serves front back middle _ _ path worker found => by
    refine eq_true_of_ne_false fun told => call.not_interrupted serves ?_
    exact path.interrupted ⟨worker, found, told⟩
  accepted := call.accepted
  discarded := call.closed_eq
  answered := call.stopAnswered
  gone := fun more final path id known => by
    have gone := call.gone_of_knows known
    refine ⟨path.silent_of_gone call.sound_settled gone, fun worker found => ?_⟩
    exact (path.sound call.sound_settled).inactive_of_gone (path.gone gone) found
  quiet := fun more final path noStart => by
    obtain ⟨stopped, silent⟩ :=
      path.silent_of_stopped call.sound_settled call.stopped_settled noStart
    exact ⟨(path.sound call.sound_settled).sessions_eq_zero stopped, silent⟩

/-- With one worker and room for one connection that waits: the stop is called while the first
connection is still in the slot and the second waits behind it. -/
theorem drained_of_stop_before_take :
    ∃ call : StopCall { options := { maxWorkers := 1, maxPending := 1 } } .waitClients,
      call.found.pool.Holds 1 ⟨.network, 7⟩ ∧ call.found.pool.queue = [⟨.network, 8⟩] ∧
      service 1 (shown call.during) = [.exchanged 1 ⟨.network, 7⟩ true,
        .began 1 .prototype ⟨.network, 7⟩, .ended 1 ⟨.network, 7⟩ .panicked] ∧
      call.closed = [⟨.network, 8⟩] ∧ Drained call := by
  obtain ⟨stop, found, latest, shows⟩ := exists_stopUnderWay 1 .waitClients
    [.start true, .arrive ⟨.network, 7⟩, .decide ⟨.network, 7⟩ true, .arrive ⟨.network, 8⟩,
      .decide ⟨.network, 8⟩ true]
    [.unlisten, .collect, .signal 1, .claim 1, .take 1, .exchange 1 true, .check 1,
      .finish 1 .panicked, .report 1 true, .leave 1, .joined]
    (show run? { options := { maxWorkers := 1, maxPending := 1 } } {} _ = some (_, _) from rfl)
    rfl rfl (by decide)
  have active : stop.latest.closing = some ⟨1, .waitClients, .joining [1] [] none⟩ := by
    rw [latest]
    rfl
  obtain ⟨call, rfl⟩ := stop.exists_stopCall active rfl
  refine ⟨call, ?_, ?_, ?_, ?_, drained_of_stopCall call⟩
  · rw [found]
    exact ⟨_, rfl, rfl, .inl rfl⟩
  · rw [found]
    rfl
  · rw [shows]
    rfl
  · rw [call.closed_eq, found]
    rfl

end Server

end ConnectionPool
