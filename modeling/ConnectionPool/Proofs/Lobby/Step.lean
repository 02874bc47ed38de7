import ConnectionPool.Lobby
import ConnectionPool.Proofs.Server.Engagement

/-!
Contract: what one turn of a lobby can do, case by case, and finite interleavings of such turns.

`Lobby.Step` lists the turns with the guards under which they can be taken. It is the same relation as
`Lobby.step?`. Each turn takes one turn of the server or none, so that a run of a lobby is a run of its
server.

Owns:
- the relation `Lobby.Step` and its agreement with `Lobby.step?`;
- the relation `Lobby.Run`, its agreement with `Lobby.run?`, and the run of the server in it.

Does not own: any law about turns.
-/

namespace ConnectionPool

def LobbyEvent.turn? : LobbyEvent → Option Turn
  | .turned label events => some ⟨label, events⟩
  | _ => none

namespace Lobby

/-- The outcomes of a turn. -/
inductive Step (terms : Terms) (lobby : Lobby) : LobbyLabel → List LobbyEvent → Lobby → Prop where
  -- The accepting thread
  | look (here : lobby.errand = .looking) :
      Step terms lobby .look []
        { lobby with errand := if lobby.isWanted then .watching else .ended }
  | miss (here : lobby.errand = .watching) :
      Step terms lobby .miss [] { lobby with errand := .looking }
  | accept {descriptor : Descriptor} (here : lobby.errand = .watching)
      (closed : descriptor ∉ lobby.inUse) :
      Step terms lobby (.accept descriptor) [.accepted descriptor lobby.accepted]
        { lobby with
          errand := .holding descriptor lobby.accepted, accepted := lobby.accepted + 1 }
  | spoil {descriptor : Descriptor} {stream : Nat}
      (here : lobby.errand = .holding descriptor stream) :
      Step terms lobby .spoil [.spoiled descriptor stream] { lobby with errand := .looking }
  | park {descriptor : Descriptor} {stream : Nat}
      (here : lobby.errand = .holding descriptor stream) :
      Step terms lobby .park
        [.parked descriptor stream (lobby.parked.park descriptor stream).1]
        { lobby with
          parked := (lobby.parked.park descriptor stream).2
          errand := .announcing descriptor stream }
  | announce {descriptor : Descriptor} {stream : Nat}
      (here : lobby.errand = .announcing descriptor stream) (present : lobby.isGone = false) :
      Step terms lobby .announce
        [.announced descriptor stream, .turned (.arrive descriptor) [.arrived descriptor]]
        { lobby with
          server := { lobby.server with arrivals := lobby.server.arrivals ++ [descriptor] }
          errand := .calling descriptor }
  | orphan {descriptor : Descriptor} {stream : Nat}
      (here : lobby.errand = .announcing descriptor stream) (gone : lobby.isGone = true) :
      Step terms lobby .announce [.orphaned descriptor (lobby.parked.take descriptor).1]
        { lobby with parked := (lobby.parked.take descriptor).2, errand := .ended }
  | resume {descriptor : Descriptor} (here : lobby.errand = .calling descriptor)
      (done : descriptor ∉ lobby.server.entrusted) :
      Step terms lobby .resume [] { lobby with errand := .looking }
  | withdraw {descriptor : Descriptor} (here : lobby.errand = .calling descriptor)
      (waits : descriptor ∈ lobby.server.refusals) :
      Step terms lobby .withdraw [.looked .refuse descriptor (lobby.parked.take descriptor).1]
        { lobby with
          parked := (lobby.parked.take descriptor).2
          errand := .refusing descriptor (lobby.parked.take descriptor).1 }
  -- The server and its threads
  | fetch {id : WorkerId} {descriptor : Descriptor} (took : lobby.server.pool.Took id descriptor)
      (new : ∀ fetch ∈ lobby.fetching, fetch.worker ≠ id) :
      Step terms lobby (.fetch id)
        [.looked (.serve id) descriptor (lobby.parked.take descriptor).1]
        { lobby with
          parked := (lobby.parked.take descriptor).2
          fetching := lobby.fetching ++ [⟨id, descriptor, (lobby.parked.take descriptor).1⟩] }
  | hush (unlistening : lobby.isUnlistening = true) :
      Step terms lobby .hush [] { lobby with isWanted := false }
  | vanish (idle : lobby.isIdle = true) : Step terms lobby .vanish [] { lobby with isGone := true }
  | turn {label : Label} {events : List Event} {server : Server}
      (attends : lobby.attends label = true)
      (allowed : ∀ event ∈ events, lobby.allows event = true)
      (step : Server.Step terms lobby.server label events server) :
      Step terms lobby (.turn label)
        (.turned label events :: (noteAll { lobby with server } events).2)
        (noteAll { lobby with server } events).1

/-! ## Agreement -/

variable {terms : Terms} {lobby next : Lobby} {label : LobbyLabel} {events : List LobbyEvent}

private theorem step_of_turn? {label : Label}
    (taken : lobby.turn? terms label = some (next, events)) :
    Step terms lobby (.turn label) events next := by
  unfold turn? at taken
  split at taken
  · cases taken
  · next server shown moved =>
      split at taken
      · next admitted =>
          simp only [Bool.and_eq_true, List.all_eq_true] at admitted
          cases taken
          exact .turn admitted.1 admitted.2 (.of_step? moved)
      · cases taken

/-- Every turn that can be taken is one of the outcomes. -/
theorem Step.of_step? (taken : lobby.step? terms label = some (next, events)) :
    Step terms lobby label events next := by
  cases label with
  | look | miss =>
      simp only [step?] at taken
      split at taken
      · next here => cases taken; constructor; exact here
      · cases taken
  | accept descriptor =>
      simp only [step?] at taken
      split at taken
      · next here =>
          split at taken
          · cases taken
          · next closed => cases taken; exact .accept here closed
      · cases taken
  | spoil =>
      simp only [step?] at taken
      split at taken
      · next here => cases taken; exact .spoil here
      · cases taken
  | park =>
      simp only [step?] at taken
      split at taken
      · next here => cases taken; exact .park here
      · cases taken
  | announce =>
      simp only [step?] at taken
      split at taken
      · next here =>
          split at taken
          · next gone => cases taken; exact .orphan here gone
          · next present =>
              cases taken
              exact .announce here (Bool.eq_false_iff.2 present)
      · cases taken
  | resume =>
      simp only [step?] at taken
      split at taken
      · next here =>
          split at taken
          · cases taken
          · next done => cases taken; exact .resume here done
      · cases taken
  | withdraw =>
      simp only [step?] at taken
      split at taken
      · next here =>
          split at taken
          · next waits => cases taken; exact .withdraw here waits
          · cases taken
      · cases taken
  | fetch id =>
      simp only [step?] at taken
      split at taken
      · next descriptor stage =>
          obtain ⟨worker, found, stands⟩ := Option.map_eq_some_iff.1 stage
          split at taken
          · cases taken
          · next new =>
              cases taken
              refine .fetch ⟨worker, found, stands⟩ fun fetch member same => new ?_
              exact List.any_eq_true.2 ⟨fetch, member, decide_eq_true same⟩
      · cases taken
  | hush =>
      simp only [step?] at taken
      split at taken
      · next unlistening => cases taken; exact .hush unlistening
      · cases taken
  | vanish =>
      simp only [step?] at taken
      split at taken
      · next idle => cases taken; exact .vanish idle
      · cases taken
  | turn label => exact step_of_turn? taken

/-- Every outcome is that of a turn that can be taken. -/
theorem Step.step? (step : Step terms lobby label events next) :
    lobby.step? terms label = some (next, events) := by
  cases step with
  | look here => simp [Lobby.step?, here]
  | miss here => simp [Lobby.step?, here]
  | accept here closed => simp [Lobby.step?, here, closed]
  | spoil here => simp [Lobby.step?, here]
  | park here => simp [Lobby.step?, here]
  | announce here present => simp [Lobby.step?, here, present, Server.step?]
  | orphan here gone => simp [Lobby.step?, here, gone]
  | resume here done =>
      rw [Server.entrusted] at done
      simp only [Lobby.step?, here, if_neg done]
  | withdraw here waits => simp [Lobby.step?, here, waits]
  | @fetch id descriptor took new =>
      obtain ⟨worker, found, stage⟩ := took
      have absent : (lobby.fetching.any fun fetch => fetch.worker = id) = false :=
        List.any_eq_false.2 fun fetch member => by simpa using new fetch member
      simp [Lobby.step?, found, stage, absent]
  | hush unlistening => simp [Lobby.step?, unlistening]
  | vanish idle => simp [Lobby.step?, idle]
  | turn attends allowed step =>
      have every := List.all_eq_true.2 allowed
      simp [Lobby.step?, turn?, step.step?, attends, every]

/-- A turn that can be taken, and then some others. -/
theorem Step.run? {labels : List LobbyLabel} {final : Lobby} {more : List LobbyEvent}
    (step : Step terms lobby label events next)
    (ran : next.run? terms labels = some (final, more)) :
    lobby.run? terms (label :: labels) = some (final, events ++ more) := by
  rw [Lobby.run?, step.step?]
  simp only [ran, Option.map_some]

/-! ## Runs -/

/-- Some turns lead from a new lobby to this one, and have shown this. -/
inductive Run (terms : Terms) : List LobbyEvent → Lobby → Prop where
  | new : Run terms [] {}
  | turn {events more : List LobbyEvent} {lobby next : Lobby} {label : LobbyLabel}
      (before : Run terms events lobby) (step : Step terms lobby label more next) :
      Run terms (events ++ more) next

theorem Run.append {labels : List LobbyLabel} {more : List LobbyEvent}
    (run : Run terms events lobby) (ran : lobby.run? terms labels = some (next, more)) :
    Run terms (events ++ more) next := by
  induction labels generalizing lobby events more with
  | nil =>
      cases ran
      rwa [List.append_nil]
  | cons label labels inductionHypothesis =>
      simp only [run?] at ran
      split at ran
      · cases ran
      · next middle shown taken =>
          obtain ⟨⟨_, rest⟩, ranOn, whole⟩ := Option.map_eq_some_iff.1 ran
          cases whole
          rw [← List.append_assoc]
          exact inductionHypothesis (run.turn (.of_step? taken)) ranOn

/-- The turns of the server, in their order. -/
def serverTurns (events : List LobbyEvent) : List Turn :=
  events.filterMap LobbyEvent.turn?

@[simp] theorem serverTurns_append (front back : List LobbyEvent) :
    serverTurns (front ++ back) = serverTurns front ++ serverTurns back :=
  List.filterMap_append

/-- What no single event changes stays. -/
theorem noteAll_keeps {α : Type} (read : Lobby → α)
    (kept : ∀ lobby event, read (note lobby event).1 = read lobby) (lobby : Lobby)
    (events : List Event) : read (lobby.noteAll events).1 = read lobby := by
  induction events generalizing lobby with
  | nil => rfl
  | cons event events inductionHypothesis =>
      exact (inductionHypothesis _).trans (kept lobby event)

/-- What the server does shows nothing here but that it closes what was parked. -/
theorem looked_of_mem_noteAll {shown : LobbyEvent} {events : List Event}
    (member : shown ∈ (lobby.noteAll events).2) :
    ∃ descriptor found, shown = .looked .discard descriptor found := by
  induction events generalizing lobby with
  | nil => cases member
  | cons event events inductionHypothesis =>
      rcases List.mem_append.1 member with now | later
      · unfold note at now
        split at now
        case h_7 descriptor => exact ⟨descriptor, _, List.mem_singleton.1 now⟩
        all_goals cases now
      · exact inductionHypothesis later

theorem noteAll_server (lobby : Lobby) (events : List Event) :
    (lobby.noteAll events).1.server = lobby.server :=
  noteAll_keeps Lobby.server (fun _ _ => by unfold note; split <;> rfl) lobby events

theorem serverTurns_noteAll (lobby : Lobby) (events : List Event) :
    serverTurns (lobby.noteAll events).2 = [] := by
  refine List.filterMap_eq_nil_iff.2 fun shown member => ?_
  obtain ⟨_, _, rfl⟩ := looked_of_mem_noteAll member
  rfl

theorem serverTurns_turned (lobby : Lobby) (label : Label) (events : List Event) :
    serverTurns (.turned label events :: (lobby.noteAll events).2) = [⟨label, events⟩] := by
  rw [← List.singleton_append, serverTurns_append, serverTurns_noteAll]
  rfl

/-- A turn of a lobby is one turn of its server, or none. -/
theorem Step.serverPath (step : Step terms lobby label events next) :
    Server.Path terms lobby.server (serverTurns events) next.server := by
  cases step with
  | announce => exact .turn .refl .arrive
  | turn attends allowed step =>
      rw [noteAll_server, serverTurns_turned]
      exact .turn .refl step
  | _ => exact .refl

/-- A run of a lobby is a run of its server. -/
theorem Run.server (run : Run terms events lobby) :
    Server.Run terms (serverTurns events) lobby.server := by
  induction run with
  | new => exact .refl
  | turn before step inductionHypothesis =>
      rw [serverTurns_append]
      exact inductionHypothesis.append step.serverPath

end Lobby

end ConnectionPool
