import ConnectionPool.Proofs.Server.StopCall

/-!
Contract: a stop that interrupts clients lets nobody begin anything new.

From the moment the server is out of service until the run is over, nobody is hired and nothing is
handed out. The stop turns the token of every worker in service before it waits for the first of
them, and a turned token stays turned. A connection that such a worker still has in its slot is
exchanged and its channel closed without a session; what waits in the queue is never exchanged.
Workers that are hired later have tokens of their own.

Owns: `Server.CutShort` and its proof for every stop that interrupts clients.

Does not own: stops that wait for clients; see `Server.Drained`.
-/

namespace ConnectionPool

namespace Server

variable {terms : Terms} {server : Server} {id : WorkerId} {descriptor : Descriptor}

/-! ## What is still in a worker's hands -/

theorem Sound.progress_of_inHands (sound : Sound terms server)
    (holds : server.pool.inHands id = [descriptor]) :
    server.pool.progress id = [.assigned id descriptor] := by
  cases found : server.pool.worker? id with
  | none => simp [Pool.inHands, found] at holds
  | some worker =>
      rw [Pool.inHands_of_worker? found] at holds
      rw [Pool.progress_of_worker? found]
      have empty := (sound.duty id worker found).empty_of_isEngaged
      unfold Worker.hands at holds
      unfold Worker.progress
      cases stage : worker.stage <;> simp_all [Stage.isEngaged]

variable {mode : StopMode} {front back : List Turn} {middle : Server}

/-- A round that is under way during a stop comes to its end, and is the last of its worker. -/
theorem StopCall.lastRound (call : StopCall terms mode) (whole : call.during = front ++ back)
    (inFront : Path terms call.opened front middle) (behind : Path terms middle back call.latest)
    (inRound : (handings (middle.pool.progress id)).map Prod.snd = [descriptor]) :
    ∃ round : Round, round.descriptor = descriptor ∧
      middle.pool.progress id ++ service id (shown back) = round.events id := by
  have sound : Sound terms middle := inFront.sound call.sound_opened
  have stopping : middle.pool.lifecycle = .stopping := (call.upTo whole inFront).frozen.stopping
  have unsettled : ∀ turn ∈ back, turn.label ≠ .settle := fun turn member =>
    call.unsettled turn (by rw [whole]; exact List.mem_append_right _ member)
  obtain ⟨nothing, _⟩ := behind.nothing_of_frozen sound stopping unsettled
  obtain ⟨rounds, served⟩ := (behind.turn call.settles).serviced sound id
  rw [call.sound_settled.progress_eq_nil call.stopped_settled, List.append_nil, shown_append,
    shown_singleton, List.append_nil] at served
  -- Nothing is handed out any more, so there is one assignment, and with it one round.
  have single : rounds.map Round.descriptor = [descriptor] := by
    rw [← Round.map_handings_flatMap_events id, ← served, handings_append, List.map_append, inRound,
      map_handings_service, nothing]
    rfl
  obtain ⟨round, rfl, same⟩ := List.map_eq_singleton_iff.1 single
  refine ⟨round, same, ?_⟩
  rw [served, List.flatMap_singleton]

/-! ## All together -/

/-- What an interrupting stop keeps to. -/
structure CutShort (call : StopCall terms .interruptClients) : Prop where
  /-- Until the run is over, nobody is hired and nothing is handed out. -/
  frozen : handings (shown call.during) = [] ∧ ∀ id, .hired id ∉ shown call.during
  /-- Afterwards nobody is hired and nothing is handed out before the next start. -/
  quiet : ∀ more final, Path terms call.settled more final →
    (∀ turn ∈ more, ∀ listens, turn.label ≠ .start listens) →
      (∀ id, service id (shown more) = []) ∧ ∀ id, .hired id ∉ shown more
  /-- Before the stop waits for anybody it has told everybody who was in service when it began. -/
  toldFirst : ∀ front back middle, call.during = front ++ back →
    Path terms call.opened front middle → ∀ closing held left current,
      middle.closing = some closing → closing.stage = .joining held left current →
        ∀ id ∈ call.found.pool.staff, middle.pool.Interrupted id
  told : ∀ id ∈ call.found.pool.staff, call.latest.pool.Interrupted id
  /-- Nothing turns a token back, and who holds a turned one begins no session. -/
  forever : ∀ earlier middle more final, Run terms earlier middle → Path terms middle more final →
    ∀ id, middle.pool.Interrupted id → final.pool.Interrupted id ∧
      ∀ protocol descriptor, .began id protocol descriptor ∉ shown more
  /-- A worker that was told and has a connection in its slot, or has just taken it, exchanges it,
  and closes its channel without a session. -/
  unserved : ∀ front back middle, call.during = front ++ back →
    Path terms call.opened front middle → Path terms middle back call.latest →
      ∀ id descriptor, middle.pool.Interrupted id → middle.pool.inHands id = [descriptor] →
        service id (shown back) = [.exchanged id descriptor false] ∨
          service id (shown back) = [.exchanged id descriptor true, .skipped id descriptor]
  /-- The same goes for one that has its channel already. -/
  unbegun : ∀ front back middle, call.during = front ++ back →
    Path terms call.opened front middle → Path terms middle back call.latest →
      ∀ id worker descriptor, middle.pool.Interrupted id → middle.pool.worker? id = some worker →
        worker.stage = .opened descriptor → service id (shown back) = [.skipped id descriptor]
  /-- What was accepted in the run is what the workers were handed, and then what still waited. -/
  accepted : assignments (shown call.period) ++ call.found.pool.queue =
    acceptances (shown call.period)
  /-- Each worker exchanged what it was handed in the run, and nothing else. -/
  exchanged : ∀ id, ofWorker id (exchanges (shown call.period)) =
    ofWorker id (handings (shown call.period))
  /-- What still waited is closed before the stop answers, and does not wait any more. -/
  discarded : call.closed = call.found.pool.queue ∧ call.settled.pool.queue = []
  answered : .stopAnswered call.caller true ∈ shown call.later
  /-- Whoever is hired later keeps its token until an interrupting stop tells it. -/
  newcomers : ∀ more final, Path terms call.settled more final →
    ∀ id, ¬ call.settled.pool.Knows id → final.pool.Interrupted id →
      ToldAlong terms call.settled final more id

section Proofs
variable (call : StopCall terms .interruptClients)

private theorem StopCall.unserved (whole : call.during = front ++ back)
    (inFront : Path terms call.opened front middle) (behind : Path terms middle back call.latest)
    (told : middle.pool.Interrupted id) (holds : middle.pool.inHands id = [descriptor]) :
    service id (shown back) = [.exchanged id descriptor false] ∨
      service id (shown back) = [.exchanged id descriptor true, .skipped id descriptor] := by
  have sound : Sound terms middle := inFront.sound call.sound_opened
  have progress := sound.progress_of_inHands holds
  obtain ⟨round, rfl, served⟩ := call.lastRound whole inFront behind
    (show _ = [descriptor] by rw [progress]; rfl)
  rw [progress] at served
  cases round with
  | unopened => exact .inl (List.cons.inj served).2
  | skipped => exact .inr (List.cons.inj served).2
  | served descriptor protocol ending =>
      have rest : service id (shown back) = [.exchanged id descriptor true,
          .began id protocol descriptor, .ended id descriptor ending] := (List.cons.inj served).2
      have began : .began id protocol descriptor ∈ service id (shown back) := by simp [rest]
      exact absurd (List.mem_of_mem_filter began) (behind.not_began sound told protocol descriptor)

private theorem StopCall.unbegun (whole : call.during = front ++ back)
    (inFront : Path terms call.opened front middle) (behind : Path terms middle back call.latest)
    {worker : Worker} (told : middle.pool.Interrupted id)
    (found : middle.pool.worker? id = some worker) (stage : worker.stage = .opened descriptor) :
    service id (shown back) = [.skipped id descriptor] := by
  have sound : Sound terms middle := inFront.sound call.sound_opened
  have progress : middle.pool.progress id =
      [.assigned id descriptor, .exchanged id descriptor true] := by
    rw [Pool.progress_of_worker? found, Worker.progress, stage]
  obtain ⟨round, rfl, served⟩ := call.lastRound whole inFront behind
    (show _ = [descriptor] by rw [progress]; rfl)
  rw [progress] at served
  cases round with
  | unopened => simp [Round.events] at served
  | skipped => exact (List.cons.inj (List.cons.inj served).2).2
  | served descriptor protocol ending =>
      have rest : service id (shown back) = [.began id protocol descriptor,
          .ended id descriptor ending] := (List.cons.inj (List.cons.inj served).2).2
      have began : .began id protocol descriptor ∈ service id (shown back) := by simp [rest]
      exact absurd (List.mem_of_mem_filter began) (behind.not_began sound told protocol descriptor)

end Proofs

/-- Every interrupting stop keeps to it, whatever happens meanwhile. -/
theorem cutShort_of_stopCall (call : StopCall terms .interruptClients) : CutShort call where
  frozen := call.drains.nothing_of_frozen call.sound_opened call.stopping_opened call.unsettled
  quiet := fun more final path noStart => by
    have stopped := call.stopped_settled
    have noAnswer := path.not_started noStart
    exact ⟨(path.silent_of_stopped call.sound_settled stopped noAnswer).2,
      (path.not_hired_of_stopped stopped noStart).2⟩
  toldFirst := fun front back middle whole path closing held left current active stage id member =>
    (call.upTo whole path).told_of_joining active stage member
  told := fun id member => by
    obtain ⟨closing, held, active, stage, _⟩ := call.settled_eq
    exact call.told_of_joining active stage member
  forever := fun earlier middle more final run path id told =>
    ⟨path.interrupted told, path.not_began (Run.sound run) told⟩
  unserved := fun front back middle whole inFront behind id descriptor told holds =>
    call.unserved whole inFront behind told holds
  unbegun := fun front back middle whole inFront behind id worker descriptor told found stage =>
    call.unbegun whole inFront behind told found stage
  accepted := call.accepted
  exchanged := fun id => by
    obtain ⟨rounds, _, handed, exchanged⟩ := call.rounds_of_period id
    exact exchanged.symm.trans handed
  discarded := ⟨call.closed_eq, by
    obtain ⟨_, _, _, _, _, result⟩ := call.settled_eq
    rw [result]
    rfl⟩
  answered := call.stopAnswered
  newcomers := fun more final path id unknown told =>
    path.toldAlong told fun before => unknown before.knows

/-- With one worker and room for one connection that waits: the stop is called and tells the worker
while the first connection is still in the slot and the second waits behind it. -/
theorem cutShort_of_stop_before_take :
    ∃ call : StopCall { options := { maxWorkers := 1, maxPending := 1 } } .interruptClients,
      call.found.pool.Holds 1 ⟨.network, 7⟩ ∧ call.found.pool.queue = [⟨.network, 8⟩] ∧
      service 1 (shown call.during) =
        [.exchanged 1 ⟨.network, 7⟩ true, .skipped 1 ⟨.network, 7⟩] ∧
      call.closed = [⟨.network, 8⟩] ∧ CutShort call := by
  obtain ⟨stop, found, latest, shows⟩ := exists_stopUnderWay 1 .interruptClients
    [.start true, .arrive ⟨.network, 7⟩, .decide ⟨.network, 7⟩ true, .arrive ⟨.network, 8⟩,
      .decide ⟨.network, 8⟩ true]
    [.unlisten, .collect, .signal 1, .claim 1, .take 1, .exchange 1 true, .check 1, .report 1 true,
      .leave 1, .joined]
    (show run? { options := { maxWorkers := 1, maxPending := 1 } } {} _ = some (_, _) from rfl)
    rfl rfl (by decide)
  have active : stop.latest.closing = some ⟨1, .interruptClients, .joining [1] [] none⟩ := by
    rw [latest]
    rfl
  obtain ⟨call, rfl⟩ := stop.exists_stopCall active rfl
  refine ⟨call, ?_, ?_, ?_, ?_, cutShort_of_stopCall call⟩
  · rw [found]
    exact ⟨_, rfl, rfl, .inl rfl⟩
  · rw [found]
    rfl
  · rw [shows]
    rfl
  · rw [call.closed_eq, found]
    rfl

end Server

end ConnectionPool
