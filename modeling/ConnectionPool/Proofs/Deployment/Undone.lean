import ConnectionPool.Proofs.Deployment.Reached
import ConnectionPool.Proofs.Lobby.Agreement
import ConnectionPool.Proofs.Transport.Listener

/-!
Contract: what is left of a server that nobody refers to.

A server that is dropped is stopped, if it was not, and removed. Its transport listens no more, and the
machine does not have its listener. None of its workers is in a round, nothing waits, and every connection
that it ever opened is closed. Whatever its accepting thread did meanwhile, that has ended too and has left
no stream open.

Owns:
- `Deployment.Undone`, a server of which nothing goes on;
- `Deployment.Serving.drop` and `Deployment.over_drop`, how servers come to that.

Does not own: why a server is dropped.
-/

namespace ConnectionPool.Deployment

variable {deployment before after : Deployment} {position : Nat} {transport : Transport}
  {calls : List (StopMode × Bool)}

/-! ## Listeners -/

/-- Whatever is asked of transports, nobody is heard who was not heard before. -/
theorem heardOn_of_foldl_obey (asked : List (Nat × Hook))
    (heard : transport.HeardOn (asked.foldl obey deployment).machine) :
    transport.HeardOn deployment.machine := by
  induction asked generalizing deployment with
  | nil => exact heard
  | cons first asked inductionHypothesis =>
      have behind := inductionHypothesis heard
      obtain ⟨other, hook⟩ := first
      cases hook with
      | listen | create | discard => exact behind
      | unlisten =>
          simp only [obey, unlisten] at behind
          split at behind
          · exact behind
          · exact behind.of_unlisten

/-- A transport that was asked to listen no more is not heard, whatever else was asked. -/
theorem not_heardOn_foldl_obey {asked : List (Nat × Hook)}
    (found : deployment.transports[position]? = some transport)
    (asks : (position, .unlisten) ∈ asked) :
    ¬ transport.HeardOn (asked.foldl obey deployment).machine := by
  induction asked generalizing deployment with
  | nil => cases asks
  | cons first asked inductionHypothesis =>
      rw [List.foldl_cons]
      by_cases isFirst : first = (position, .unlisten)
      · subst isFirst
        have silent : ¬ transport.HeardOn (deployment.obey (position, .unlisten)).machine := by
          simp only [obey, unlisten, found]
          exact transport.not_heardOn_unlisten deployment.machine
        exact fun heard => silent (heardOn_of_foldl_obey asked heard)
      · have later := (List.mem_cons.1 asks).resolve_left (Ne.symm isFirst)
        refine inductionHypothesis ?_ later
        obtain ⟨other, hook⟩ := first
        cases hook with
        | listen | create | discard => exact found
        | unlisten =>
            have different : other ≠ position := fun same => isFirst (by rw [same])
            simp only [obey, unlisten]
            split
            · exact found
            · exact (List.getElem?_set_ne different).trans found

/-! ## Servers of which nothing goes on -/

/-- Nothing goes on any more that has to do with a server. -/
structure Undone (position : Nat) (deployment : Deployment) : Prop where
  /-- It is stopped and gone, and its transport does not listen. -/
  ended : ∃ calls, deployment.Over position calls
  /-- All its connections are closed. -/
  closed : ∀ (number : Nat) (line : Line), deployment.site.lines[number]? = some line →
    line.server = position → line.isOpen = false
  /-- None of its workers is in a round. -/
  inactive : ∀ live, deployment.site.servers[position]? = some live →
    ∀ id stage, live.server.pool.InStage id stage → stage.isActive = false
  /-- No connection waits for a worker. -/
  empty : ∀ live, deployment.site.servers[position]? = some live → live.server.pool.queue = []
  /-- However its accepting thread and its workers have taken their turns, that thread has ended, and no
  stream is open that it accepted. -/
  streams : ∀ live, deployment.site.servers[position]? = some live →
    ∀ events lobby, Lobby.Run live.terms events lobby → lobby.server = live.server →
      lobby.errand = .ended ∧ lobby.inUse = []

/-- Of a server that is over nothing goes on. -/
theorem Over.undone (ended : deployment.Over position calls) (coherent : deployment.Coherent) :
    deployment.Undone position := by
  obtain ⟨live, turns, life, -, stopped, called, answered⟩ := ended.stopped
  have only {other : LiveServer} (found : deployment.site.servers[position]? = some other) :
      other = live := Option.some.inj (found.symm.trans life.found)
  have sound := Server.Run.sound life.run
  have nothingToClear : live.server.clearances = [] := by
    have counted := Server.Run.underWay life.run
    rw [called, answered] at counted
    exact List.length_eq_zero_iff.1 (by omega)
  constructor
  case ended => exact ⟨calls, ended⟩
  case closed =>
    rintro number line here rfl
    exact coherent.tended.closed life.found sound stopped here
  case inactive =>
    intro other found id stage stands
    cases only found
    refine Bool.eq_false_iff.2 fun active => ?_
    exact sound.not_inStage stopped active stands
  case empty =>
    intro other found
    cases only found
    exact sound.roster.stopped_queue stopped
  case streams =>
    intro other found events lobby run same
    cases only found
    have stoppedToo : lobby.server.pool.lifecycle = .stopped := by rw [same, stopped]
    have left := run.sound.perm_inUse stoppedToo
    rw [same, Server.drained, nothingToClear] at left
    exact ⟨run.sound.ended_of_stopped stoppedToo, left.eq_nil⟩

/-- A server that serves and has no name is stopped when it is dropped, and its listener is gone. -/
theorem Serving.drop (serving : deployment.Serving position) (orderly : deployment.Orderly)
    (unnamed : position ∉ deployment.site.directory.values)
    (found : deployment.transports[position]? = some transport) :
    (deployment.drop position).Over position [(.interruptClients, true)] ∧
      Concerns [position] deployment (deployment.drop position) ∧
      ¬ transport.HeardOn (deployment.drop position).machine := by
  obtain ⟨gone, beside, asked⟩ := serving.runs.removeUnreferenced orderly.manned.posted unnamed
  refine ⟨⟨?_, ?_⟩, concerns_of_beside (fun site => ((), site.removeUnreferenced position)) orderly
    beside, not_heardOn_foldl_obey found asked⟩
  · rw [Deployment.drop, site_perform]
    exact gone.goes (.of_eq rfl)
  · rw [Deployment.drop, listens?_perform, if_pos asked, serving.listens]
    rfl

end ConnectionPool.Deployment
