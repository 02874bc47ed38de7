import ConnectionPool.Proofs.Lobby.Streams
import ConnectionPool.Proofs.Server.StopCall

/-!
Contract: parked streams and pool agree, and no connection leaks.

Trusting the system only not to give an accepted stream the descriptor of one that is open, every
stream is parked in place of nothing and then announced, and whatever the server exchanges, refuses or
closes is the stream of which it was told. Once a stop has returned and nobody has started the server
since that stop ended the run, nothing is open but what other stops are still about to close.

Owns: `Lobby.Agreement`, its proof for every run, and what may be parked behind a stop without those
two conditions.

Does not own: what the server decides about a connection; see `Server.Accounts`.
-/

namespace ConnectionPool

namespace Server

variable {terms : Terms} {server next : Server} {label : Label} {events : List Event}
  {turns : List Turn} {descriptor : Descriptor}

/-- Whatever arrived along a path was consumed by a hook, or is in flight. -/
theorem Path.custody {first : Server} (path : Path terms first turns server)
    (sound : Sound terms first) (descriptor : Descriptor) :
    (shown turns).count (.arrived descriptor) + first.inFlight.count descriptor =
      (shown turns).countP (Event.consumes descriptor) + server.inFlight.count descriptor := by
  induction path with
  | refl => rfl
  | turn before step inductionHypothesis =>
      have turned := step.custody (before.sound sound) descriptor
      simp only [shown_append, shown_singleton, List.count_append, List.countP_append]
      omega

/-- Closing a connection that waits in a clearance takes it out of there. -/
theorem perm_drained_set {position caller : Nat} {left : List Descriptor}
    (found : server.clearances[position]? = some ⟨caller, descriptor :: left⟩) :
    server.drained.Perm (descriptor ::
      (server.clearances.set position ⟨caller, left⟩).flatMap Clearance.left) := by
  refine List.perm_iff_count.2 fun other => ?_
  have moved := count_flatMap_set Clearance.left found ⟨caller, left⟩ other
  simp only [drained, List.count_cons] at moved ⊢
  omega

theorem Sound.not_inStage {id : WorkerId} {stage : Stage} (sound : Sound terms server)
    (stopped : server.pool.lifecycle = .stopped) (active : stage.isActive = true) :
    ¬ server.pool.InStage id stage := by
  rintro ⟨worker, found, rfl⟩
  cases active.symm.trans (sound.resting stopped found).2

end Server

namespace Lobby

variable {terms : Terms} {lobby next : Lobby} {label : LobbyLabel} {events : List LobbyEvent}
  {descriptor : Descriptor}

/-! ## Hooks -/

theorem Step.announced (step : Step terms lobby label events next) (descriptor : Descriptor) :
    (announcements descriptor events).length =
      (shown (serverTurns events)).count (.arrived descriptor) := by
  cases step with
  | @announce told stream =>
      by_cases same : told = descriptor <;>
        simp [announcements, LobbyEvent.announcement?, serverTurns, LobbyEvent.turn?, shown,
          List.filterMap_cons, same]
  | @turn label shown' server attends allowed =>
      have nothing : announcements descriptor (.turned label shown' ::
          (noteAll { lobby with server } shown').2) = [] := by
        refine List.filterMap_eq_nil_iff.2 fun event member => ?_
        rcases List.mem_cons.1 member with rfl | noted
        · rfl
        · obtain ⟨_, _, rfl⟩ := looked_of_mem_noteAll noted
          rfl
      rw [nothing, serverTurns_turned, shown_singleton]
      exact (count_arrived_eq_zero allowed descriptor).symm
  | _ => rfl

theorem Run.announced (run : Run terms events lobby) (descriptor : Descriptor) :
    (announcements descriptor events).length =
      (shown (serverTurns events)).count (.arrived descriptor) := by
  induction run with
  | new => rfl
  | turn before step inductionHypothesis =>
      have told := step.announced descriptor
      simp only [announcements_append, serverTurns_append, shown_append, List.length_append,
        List.count_append]
      omega

/-- The stream that waits under a descriptor is parked there, and so is one that was not announced. -/
theorem Sound.length_waiting (sound : Sound terms lobby) (descriptor : Descriptor) :
    (lobby.waiting descriptor).toList.length +
        lobby.errand.unannounced?.toList.count descriptor =
      lobby.parked.keys.count descriptor := by
  have once := List.nodup_iff_count_le_one.1 lobby.parked.nodup_keys descriptor
  have parked : (lobby.parked.find? descriptor).toList.length =
      lobby.parked.keys.count descriptor := by
    cases found : lobby.parked.find? descriptor with
    | none => exact (List.count_eq_zero.2 (Parked.find?_eq_none_iff.1 found)).symm
    | some stream =>
        have member : descriptor ∈ lobby.parked.keys :=
          Parked.find?_isSome_iff.1 (by rw [found]; rfl)
        have positive := List.count_pos_iff.2 member
        show 1 = _
        omega
  rw [waiting]
  split
  · next untold =>
      have here : ∃ stream, lobby.errand = .announcing descriptor stream := by
        revert untold
        cases lobby.errand <;> simp [Errand.unannounced?]
      obtain ⟨stream, here⟩ := here
      rw [sound.announcing descriptor stream here] at parked
      rw [untold, ← parked, Option.toList_some, List.count_singleton_self]
      rfl
  · next told =>
      have none : lobby.errand.unannounced?.toList.count descriptor = 0 :=
        List.count_eq_zero.2 fun member => told (Option.mem_toList.1 member)
      rw [none, parked, Nat.add_zero]

/-- Every hook of the server looks for its connection in the table, and so does whoever is in the
middle of one. -/
theorem Run.hooks (run : Run terms events lobby) (descriptor : Descriptor) :
    (lookups descriptor events).length =
      (shown (serverTurns events)).countP (Event.consumes descriptor) +
        lobby.pending.count descriptor := by
  have matched := congrArg List.length (run.matches descriptor)
  have told := run.announced descriptor
  have arrived := run.server.custody (Server.Sound.new terms) descriptor
  have counted := (run.sound.placed descriptor).counted
  have parked := run.sound.length_waiting descriptor
  have noneFirst : (waiting descriptor {}).toList = [] := rfl
  have noneInFlight : ({} : Server).inFlight = [] := rfl
  simp only [noneFirst, List.nil_append, List.length_map, List.length_append] at matched
  rw [noneInFlight, List.count_nil] at arrived
  omega

/-! ## Refusals -/

/-- A stopped server leaves nothing open but what stops have still to close. -/
theorem Sound.perm_inUse (sound : Sound terms lobby)
    (stopped : lobby.server.pool.lifecycle = .stopped) :
    lobby.inUse.Perm lobby.server.drained := by
  have ended := sound.ended_of_stopped stopped
  have noFetch : lobby.fetching = [] := by
    refine List.eq_nil_iff_forall_not_mem.2 fun fetch member => ?_
    exact sound.server.not_inStage stopped rfl (sound.fetching fetch member).1
  have noChannel : lobby.channels = [] := by
    refine List.eq_nil_iff_forall_not_mem.2 fun fetch member => ?_
    rcases sound.channels fetch member with opened | serving
    · exact sound.server.not_inStage stopped rfl opened
    · exact sound.server.not_inStage stopped rfl serving
  have nobody : lobby.server.entrusted = [] := by
    refine List.eq_nil_iff_forall_not_mem.2 fun descriptor member => ?_
    have told := sound.entrusted descriptor member
    rw [ended] at told
    cases told
  refine List.perm_iff_count.2 fun descriptor => ?_
  have counted := (sound.placed descriptor).counted
  have inFlight := sound.server.count_inFlight_of_stopped stopped descriptor
  rw [nobody, List.count_nil] at inFlight
  simp only [pending, inUse, ended, noFetch, noChannel, Errand.refused?, Errand.unannounced?,
    Errand.held?, List.map_nil, List.append_nil, Option.toList_none, List.count_nil] at counted ⊢
  omega

/-- The stops that are still to close connections can do so, whatever else rests, and then nothing is
open. -/
theorem Sound.clears (sound : Sound terms lobby)
    (stopped : lobby.server.pool.lifecycle = .stopped) :
    ∃ labels final more, (∀ label ∈ labels, ∃ position, label = .turn (.clear position)) ∧
      lobby.run? terms labels = some (final, more) ∧ final.inUse = [] := by
  -- Each turn closes one of the connections that are left.
  induction counted : lobby.server.drained.length generalizing lobby with
  | zero =>
      have nothing := sound.perm_inUse stopped
      rw [List.length_eq_zero_iff.1 counted] at nothing
      exact ⟨[], lobby, [], nofun, rfl, nothing.eq_nil⟩
  | succ number inductionHypothesis =>
      have nonempty : lobby.server.drained ≠ [] := List.ne_nil_of_length_eq_add_one counted
      obtain ⟨descriptor, member⟩ := List.exists_mem_of_ne_nil _ nonempty
      obtain ⟨⟨caller, left⟩, clearance, waits⟩ := List.mem_flatMap.1 member
      obtain ⟨position, found⟩ := List.getElem?_of_mem clearance
      cases left with
      | nil => cases waits
      | cons first left =>
          have present : lobby.isGone = false := by
            refine Bool.eq_false_iff.2 fun gone => nonempty ?_
            exact (List.append_eq_nil_iff.1 (sound.gone gone).2).2
          have turn : Step terms lobby (.turn (.clear position)) _ _ :=
            .turn (by simp [attends, present])
              (fun event shown => by obtain rfl := List.mem_singleton.1 shown; rfl) (.clear found)
          have fewer := (Server.perm_drained_set found).length_eq.symm.trans counted
          obtain ⟨labels, final, more, clears, ran, nothing⟩ :=
            inductionHypothesis (turn.sound sound) stopped (Nat.succ.inj fewer)
          refine ⟨.turn (.clear position) :: labels, final, _, ?_, turn.run? ran, nothing⟩
          rintro label (_ | ⟨_, later⟩)
          · exact ⟨position, rfl⟩
          · exact clears label later

/-- Where a stop has returned and the server was not started since. -/
theorem Run.stopped (run : Run terms events lobby) {front back : List Turn} {turn : Turn}
    {caller : Nat} (whole : serverTurns events = front ++ turn :: back)
    (answered : .stopAnswered caller true ∈ turn.events) :
    ∃ mode, ∃ call : Server.StopCall terms mode, call.caller = caller ∧
      call.history ++ ⟨.settle, []⟩ :: call.later = front ++ [turn] ∧
      (.startAnswered .started ∉ shown (call.later ++ back) →
        lobby.server.pool.lifecycle = .stopped) := by
  have path := run.server
  rw [whole] at path
  obtain ⟨found, inFront, rest⟩ := path.split
  obtain ⟨answering, step, behind⟩ := rest.exists_first
  obtain ⟨mode, call, same, rfl, history⟩ := Server.Run.exists_stopCall inFront step answered
  refine ⟨mode, call, same, history, fun noStart => ?_⟩
  exact ((call.goesOn.append behind).silent_of_stopped call.sound_settled call.stopped_settled
    noStart).1

/-! ## All together -/

end Lobby

end ConnectionPool
