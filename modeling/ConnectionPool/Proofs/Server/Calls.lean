import ConnectionPool.Proofs.Server.Lifecycle

/-!
Contract: which stops a server has seen.

Connections, sweeps and threads neither start nor stop a server, so between a start and the next stop the
server stays as running as it was.

Owns:
- `stopCalls`, the stops that were called, each with what it found;
- `Label.isOrdinary`, the turns that belong to no start and no stop, and what they leave alone;
- `Label.isOfStop`, the turns of a stop from its begin to its answer;
- `Server.Run.underWay`, how many stops have not answered yet.

Does not own: what a stop does.
-/

namespace ConnectionPool

/-- The stop that a turn begins, and whether it found the server running: it did if it does not answer at
once. -/
def Turn.stopCall? (turn : Turn) : Option (StopMode × Bool) :=
  match turn.label with
  | .beginStop _ mode => some (mode, turn.events.isEmpty)
  | _ => none

/-- The stops that were called in some turns, in their order. -/
def stopCalls (turns : List Turn) : List (StopMode × Bool) :=
  turns.filterMap Turn.stopCall?

@[simp] theorem stopCalls_nil : stopCalls [] = [] :=
  rfl

@[simp] theorem stopCalls_append (front back : List Turn) :
    stopCalls (front ++ back) = stopCalls front ++ stopCalls back :=
  List.filterMap_append

/-- A turn that belongs to no start and no stop: one of a connection, of a sweep or of a thread. -/
def Label.isOrdinary : Label → Bool
  | .start _ => false
  | .beginStop .. => false
  | .unlisten => false
  | .collect => false
  | .signal _ => false
  | .claim _ => false
  | .joined => false
  | .settle => false
  | .clear _ => false
  | .endStop _ => false
  | _ => true

theorem Label.isOrdinary_of_thread {label : Label} (thread : label.thread?.isSome) :
    label.isOrdinary = true := by
  cases label <;> first | rfl | cases thread

/-- A turn of a stop that has begun, but for its answer. -/
def Label.isOfStop : Label → Bool
  | .unlisten => true
  | .collect => true
  | .signal _ => true
  | .claim _ => true
  | .joined => true
  | .settle => true
  | .clear _ => true
  | _ => false

namespace Server

variable {terms : Terms} {server next first last : Server} {label : Label} {events : List Event}
  {turns : List Turn}

/-- What is as before when a server took ordinary turns. -/
structure GoesOn (before after : Server) (turns : List Turn) : Prop where
  lifecycle : after.pool.lifecycle = before.pool.lifecycle
  closing : after.closing = before.closing
  clearances : after.clearances = before.clearances
  calls : stopCalls turns = []
  answers : stopAnswers (shown turns) = []
  listens : .unlistened ∉ shown turns

theorem Step.goesOn_of_ordinary (step : Step terms server label events next)
    (ordinary : label.isOrdinary = true) : GoesOn server next [⟨label, events⟩] := by
  have calls : stopCalls [⟨label, events⟩] = [] := by
    cases label <;> first | rfl | cases ordinary
  cases step with
  | take | leave | expire | retire | stay | exchange | beginSession | skipSession | finish | handOver
  | becomeFree | comeBack | reused | spawned | sweepClaim =>
      exact ⟨by simp, rfl, rfl, calls, rfl, by simp⟩
  | dropped | unusable | misplaced | unspawned | queued | busy | arrive | refuse | dismiss
  | beginSweep | sweepJoined | endSweep =>
      exact ⟨rfl, rfl, rfl, calls, rfl, by simp⟩
  | _ => cases ordinary

theorem Path.goesOn_of_ordinary (path : Path terms first turns last)
    (ordinary : ∀ turn ∈ turns, turn.label.isOrdinary = true) : GoesOn first last turns := by
  induction path with
  | refl => exact ⟨rfl, rfl, rfl, rfl, rfl, List.not_mem_nil⟩
  | @turn turns last next label events before step inductionHypothesis =>
      have earlier := inductionHypothesis fun turn member =>
        ordinary turn (List.mem_append_left _ member)
      have later := step.goesOn_of_ordinary
        (ordinary ⟨label, events⟩ (List.mem_append_right _ (List.mem_singleton_self _)))
      exact {
        lifecycle := later.lifecycle.trans earlier.lifecycle
        closing := later.closing.trans earlier.closing
        clearances := later.clearances.trans earlier.clearances
        calls := by rw [stopCalls_append, earlier.calls, later.calls]; rfl
        answers := by rw [shown_append, stopAnswers_append, earlier.answers, later.answers]; rfl
        listens := by
          rw [shown_append, List.mem_append, not_or]
          exact ⟨earlier.listens, later.listens⟩ }

/-! ## Stops under way -/

/-- A turn that begins a stop adds it to those under way, and a turn that answers one takes it away. -/
theorem Step.underWay (step : Step terms server label events next) (sound : Sound terms server) :
    (stopCalls [⟨label, events⟩]).countP Prod.snd +
        (server.closing.toList.length + server.clearances.length) =
      (stopAnswers events).length + (next.closing.toList.length + next.clearances.length) := by
  by_cases ordinary : label.isOrdinary = true
  · have same := step.goesOn_of_ordinary ordinary
    have answers := same.answers
    rw [shown_singleton] at answers
    rw [same.calls, answers, same.closing, same.clearances]
    rfl
  · cases step with
    | started stopped | cannotListen stopped =>
        rw [stopAnswers_startEvents (sound.roster.stopped_queue stopped)]
        rfl
    | beginStop running =>
        rw [sound.closing_eq_none (by rw [running]; nofun)]
        simp [stopCalls, Turn.stopCall?, stopAnswers, Nat.add_comm]
    | settle active =>
        rw [active]
        simp [stopCalls, Turn.stopCall?, stopAnswers, Nat.add_comm]
    | endStop found =>
        have inside := (List.getElem?_eq_some_iff.1 found).1
        show 0 + (server.closing.toList.length + server.clearances.length) =
          1 + (server.closing.toList.length + (server.clearances.eraseIdx _).length)
        rw [List.length_eraseIdx, if_pos inside]
        omega
    | unlisten active | collect active | signal active | claim active | joined active =>
        rw [active]
        rfl
    | alreadyRunning | stillStopping | notRunning => rfl
    | clear found =>
        rw [List.length_set]
        rfl
    | _ => exact absurd rfl ordinary

/-- Every stop that found the server running has answered, or is under way. -/
theorem Run.underWay (run : Run terms turns server) :
    (stopCalls turns).countP Prod.snd =
      (stopAnswers (shown turns)).length +
        (server.closing.toList.length + server.clearances.length) := by
  induction run with
  | refl => rfl
  | turn before step inductionHypothesis =>
      have turned := step.underWay (Run.sound before)
      rw [stopCalls_append, shown_append, stopAnswers_append, shown_singleton, List.countP_append,
        List.length_append]
      dsimp only
      omega

end Server

end ConnectionPool
