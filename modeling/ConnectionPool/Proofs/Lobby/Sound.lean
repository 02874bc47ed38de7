import ConnectionPool.Proofs.Lobby.Step

/-!
Contract: the table, the accepting thread and the server agree.

A descriptor is open once at most, because the system gives no accepted stream the descriptor of one
that is open. What is parked, or was taken out and is still being dealt with, is what the server has
in flight, and the stream of which it was not told yet. So whoever looks for a connection in flight
that was not taken out finds it.

Owns: `Lobby.Sound`, that every turn keeps it, and what is found in the table.

Does not own: which stream was accepted for which connection.
-/

namespace ConnectionPool

namespace Errand

/-- The stream that the thread took out to refuse it. -/
def refused? : Errand → Option Descriptor
  | .refusing descriptor _ => some descriptor
  | _ => none

/-- The stream that is parked while the server was not told of it. -/
def unannounced? : Errand → Option Descriptor
  | .announcing descriptor _ => some descriptor
  | _ => none

/-- The stream that the thread tells the server of. -/
def caller? : Errand → Option Descriptor
  | .calling descriptor => some descriptor
  | .refusing descriptor _ => some descriptor
  | _ => none

end Errand

namespace Lobby

/-- What was taken out of the table and is still to become a channel or to be refused. -/
def pending (lobby : Lobby) : List Descriptor :=
  lobby.fetching.map Fetch.descriptor ++ lobby.errand.refused?.toList

theorem count_pending (lobby : Lobby) (descriptor : Descriptor) :
    lobby.pending.count descriptor = (lobby.fetching.map Fetch.descriptor).count descriptor +
      lobby.errand.refused?.toList.count descriptor :=
  List.count_append

theorem count_inUse (lobby : Lobby) (descriptor : Descriptor) :
    lobby.inUse.count descriptor = lobby.parked.keys.count descriptor +
      (lobby.fetching.map Fetch.descriptor).count descriptor +
      (lobby.channels.map Fetch.descriptor).count descriptor +
      lobby.errand.held?.toList.count descriptor := by
  rw [inUse, List.count_append, List.count_append, List.count_append]

/-- The streams of a descriptor are where they belong. -/
structure Placed (lobby : Lobby) (descriptor : Descriptor) : Prop where
  /-- What is parked or was taken out is in flight, or about to be announced. -/
  counted : lobby.parked.keys.count descriptor + lobby.pending.count descriptor =
    lobby.server.inFlight.count descriptor + lobby.errand.unannounced?.toList.count descriptor
  once : lobby.inUse.count descriptor ≤ 1

/-- The same, place by place. -/
theorem placed_iff {lobby : Lobby} {descriptor : Descriptor} : Placed lobby descriptor ↔
    lobby.parked.keys.count descriptor +
          ((lobby.fetching.map Fetch.descriptor).count descriptor +
            lobby.errand.refused?.toList.count descriptor) =
        lobby.server.inFlight.count descriptor +
          lobby.errand.unannounced?.toList.count descriptor ∧
      lobby.parked.keys.count descriptor +
          (lobby.fetching.map Fetch.descriptor).count descriptor +
          (lobby.channels.map Fetch.descriptor).count descriptor +
          lobby.errand.held?.toList.count descriptor ≤ 1 := by
  rw [← count_pending, ← count_inUse]
  exact ⟨fun placed => ⟨placed.counted, placed.once⟩, fun placed => ⟨placed.1, placed.2⟩⟩

/-- What holds between turns. -/
structure Sound (terms : Terms) (lobby : Lobby) : Prop where
  server : Server.Sound terms lobby.server
  placed : ∀ descriptor, Placed lobby descriptor
  fetching : ∀ fetch ∈ lobby.fetching,
    lobby.server.pool.Took fetch.worker fetch.descriptor ∧ fetch.stream.isSome
  channels : ∀ fetch ∈ lobby.channels,
    lobby.server.pool.HasChannel fetch.worker fetch.descriptor
  /-- The thread deals with its connection before it accepts another one. -/
  entrusted : ∀ descriptor ∈ lobby.server.entrusted, lobby.errand.caller? = some descriptor
  refusing : ∀ descriptor found, lobby.errand = .refusing descriptor found →
    descriptor ∈ lobby.server.refusals ∧ found.isSome
  announcing : ∀ descriptor stream, lobby.errand = .announcing descriptor stream →
    lobby.parked.find? descriptor = some stream
  listening : lobby.errand ≠ .ended → lobby.isListening = true
  listens : lobby.isListening = true → lobby.server.Listens
  gone : lobby.isGone = true →
    lobby.server.pool.lifecycle = .stopped ∧ lobby.server.inFlight = []

variable {terms : Terms} {lobby next : Lobby} {label : LobbyLabel} {events : List LobbyEvent}
  {id : WorkerId} {descriptor : Descriptor}

theorem Sound.new (terms : Terms) : Sound terms {} where
  server := Server.Sound.new terms
  placed := fun _ => ⟨rfl, Nat.zero_le 1⟩
  fetching := nofun
  channels := nofun
  entrusted := nofun
  refusing := nofun
  announcing := nofun
  listening := fun other => absurd rfl other
  listens := nofun
  gone := nofun

/-! ## What is found in the table -/

namespace Sound

theorem count_fetching_le (sound : Sound terms lobby) (descriptor : Descriptor) :
    (lobby.fetching.map Fetch.descriptor).count descriptor ≤
      lobby.server.pool.hands.count descriptor := by
  have once := (sound.placed descriptor).once
  rw [count_inUse] at once
  rcases Nat.eq_zero_or_pos ((lobby.fetching.map Fetch.descriptor).count descriptor) with
    none | some
  · omega
  · obtain ⟨fetch, member, rfl⟩ := List.mem_map.1 (List.count_pos_iff.1 some)
    have inHands := List.count_pos_iff.2 (sound.fetching fetch member).1.mem_hands
    omega

theorem count_refused_le (sound : Sound terms lobby) (descriptor : Descriptor) :
    lobby.errand.refused?.toList.count descriptor ≤
      lobby.server.refusals.count descriptor := by
  cases here : lobby.errand with
  | refusing other found =>
      have waits := List.count_pos_iff.2 (sound.refusing other found here).1
      by_cases same : other = descriptor
      · subst same
        simpa [Errand.refused?] using waits
      · simp [Errand.refused?, same]
  | _ => exact Nat.zero_le _

/-- No connection is in flight twice, and none that was not announced is. -/
theorem count_inFlight_le (sound : Sound terms lobby) (descriptor : Descriptor) :
    lobby.server.inFlight.count descriptor +
      lobby.errand.unannounced?.toList.count descriptor ≤ 1 := by
  have counted := (sound.placed descriptor).counted
  have once := (sound.placed descriptor).once
  have refused : lobby.errand.refused?.toList.count descriptor ≤
      lobby.errand.held?.toList.count descriptor := by
    cases lobby.errand <;> simp [Errand.refused?, Errand.held?]
  rw [count_pending] at counted
  rw [count_inUse] at once
  omega

/-- What is in flight and was not taken out is parked. -/
theorem exists_find? (sound : Sound terms lobby)
    (here : lobby.pending.count descriptor < lobby.server.inFlight.count descriptor) :
    ∃ stream, lobby.parked.find? descriptor = some stream := by
  have counted := (sound.placed descriptor).counted
  refine Option.isSome_iff_exists.1 (Parked.find?_isSome_iff.2 (List.count_pos_iff.1 ?_))
  omega

/-- A worker that took a connection finds its stream. -/
theorem find?_of_took (sound : Sound terms lobby)
    (took : lobby.server.pool.Took id descriptor)
    (new : ∀ fetch ∈ lobby.fetching, fetch.worker ≠ id) :
    ∃ stream, lobby.parked.find? descriptor = some stream := by
  have atMost := sound.count_inFlight_le descriptor
  have refused := sound.count_refused_le descriptor
  have inHands := List.count_pos_iff.2 took.mem_hands
  have notFetched : (lobby.fetching.map Fetch.descriptor).count descriptor = 0 := by
    refine List.count_eq_zero.2 fun member => ?_
    obtain ⟨fetch, fetched, rfl⟩ := List.mem_map.1 member
    have twice := took.two_le_count_hands (sound.fetching fetch fetched).1 (new fetch fetched).symm
    simp only [Server.inFlight, List.count_append] at atMost
    omega
  refine sound.exists_find? ?_
  rw [count_pending, notFetched]
  simp only [Server.inFlight, List.count_append] at atMost ⊢
  omega

/-- The thread that is to refuse a connection finds its stream. -/
theorem find?_of_calling (sound : Sound terms lobby) (here : lobby.errand = .calling descriptor)
    (waits : descriptor ∈ lobby.server.refusals) :
    ∃ stream, lobby.parked.find? descriptor = some stream := by
  have fetched := sound.count_fetching_le descriptor
  have refusals := List.count_pos_iff.2 waits
  refine sound.exists_find? ?_
  rw [count_pending, here]
  simp only [Server.inFlight, Errand.refused?, Option.toList_none, List.count_nil,
    List.count_append]
  omega

/-- Whoever is to close a connection finds its stream. -/
theorem find?_of_waits (sound : Sound terms lobby)
    (waits : descriptor ∈ lobby.server.dismissals ∨ descriptor ∈ lobby.server.drained) :
    ∃ stream, lobby.parked.find? descriptor = some stream := by
  have fetched := sound.count_fetching_le descriptor
  have refused := sound.count_refused_le descriptor
  have positive : 0 < lobby.server.dismissals.count descriptor +
      lobby.server.drained.count descriptor := by
    rcases waits with dismissed | left
    · exact Nat.add_pos_left (List.count_pos_iff.2 dismissed) _
    · exact Nat.add_pos_right _ (List.count_pos_iff.2 left)
  refine sound.exists_find? ?_
  rw [count_pending]
  simp only [Server.inFlight, List.count_append]
  omega

/-- Nothing is parked under the descriptor of the stream that was just accepted. -/
theorem find?_of_holding {stream : Nat} (sound : Sound terms lobby)
    (here : lobby.errand = .holding descriptor stream) :
    lobby.parked.find? descriptor = none := by
  refine Parked.find?_eq_none_iff.2 fun member => ?_
  have parked := List.count_pos_iff.2 member
  have once := (sound.placed descriptor).once
  rw [count_inUse, here, Errand.held?, Option.toList_some, List.count_singleton_self] at once
  omega

/-- A connection in flight is not the one that is about to be announced. -/
theorem ne_of_announcing {other : Descriptor} {stream : Nat} (sound : Sound terms lobby)
    (here : lobby.errand = .announcing other stream)
    (member : descriptor ∈ lobby.server.inFlight) : other ≠ descriptor := by
  rintro rfl
  have atMost := sound.count_inFlight_le other
  have inFlight := List.count_pos_iff.2 member
  simp only [here, Errand.unannounced?, Option.toList_some, List.count_singleton_self] at atMost
  omega

end Sound

/-- No thread accepts while the server is stopped. -/
theorem Sound.ended_of_stopped (sound : Sound terms lobby)
    (stopped : lobby.server.pool.lifecycle = .stopped) : lobby.errand = .ended := by
  refine Decidable.byContradiction fun other => ?_
  exact sound.server.not_listens stopped (sound.listens (sound.listening other))

/-! ## One turn -/

theorem noteAll_effects (lobby : Lobby) (events : List Event) :
    lobby.noteAll (Server.effects events) = lobby.noteAll events := by
  induction events generalizing lobby with
  | nil => rfl
  | cons event events inductionHypothesis =>
      by_cases counts : event.isEffect = true
      · rw [Server.effects, List.filter_cons_of_pos counts, noteAll, noteAll]
        rw [Server.effects] at inductionHypothesis
        rw [inductionHypothesis]
      · have nothing : lobby.note event = (lobby, []) := by
          revert counts
          cases event with
          | listened succeeded => cases succeeded <;> simp [Event.isEffect, note]
          | _ => simp [Event.isEffect, note]
        rw [Server.effects, List.filter_cons_of_neg counts, noteAll, nothing]
        exact inductionHypothesis lobby

/-- A connection is refused on the thread that took its stream out for that. -/
theorem errand_of_refused (allowed : lobby.allows (.refused descriptor) = true) :
    ∃ found, lobby.errand = .refusing descriptor found := by
  simp only [allows] at allowed
  split at allowed
  · next other found here =>
      obtain rfl : other = descriptor := of_decide_eq_true allowed
      exact ⟨found, here⟩
  · cases allowed

theorem noteAll_isGone (lobby : Lobby) (events : List Event) :
    (lobby.noteAll events).1.isGone = lobby.isGone :=
  noteAll_keeps Lobby.isGone (fun _ _ => by unfold note; split <;> rfl) lobby events

/-- What a turn of the server asks for, and what is made of it. -/
theorem Sound.exists_effect {label : Label} {shown : List Event} {server : Server}
    (sound : Sound terms lobby) (allowed : ∀ event ∈ shown, lobby.allows event = true)
    (step : Server.Step terms lobby.server label shown server) :
    ∃ kept, Server.effects shown = kept ∧ Server.Effect lobby.server server label kept ∧
      noteAll { lobby with server } shown = noteAll { lobby with server } kept ∧
        ∀ event ∈ kept, lobby.allows event = true := by
  refine ⟨_, rfl, step.effect sound.server, (noteAll_effects _ shown).symm, fun event member => ?_⟩
  exact allowed event (List.mem_of_mem_filter member)

theorem Step.fetching (step : Step terms lobby label events next) (sound : Sound terms lobby) :
    ∀ fetch ∈ next.fetching,
      next.server.pool.Took fetch.worker fetch.descriptor ∧ fetch.stream.isSome := by
  cases step with
  | @fetch id descriptor took new =>
      intro fetch member
      rcases List.mem_append.1 member with before | now
      · exact sound.fetching fetch before
      · obtain rfl := List.mem_singleton.1 now
        exact ⟨took, Option.isSome_iff_exists.2 (sound.find?_of_took took new)⟩
  | @turn label shown server attends allowed step =>
      obtain ⟨kept, shows, effect, noted, _⟩ := sound.exists_effect allowed step
      rw [noteAll_server, noted]
      -- Only the exchange of a worker takes its fetch away, and is its next turn.
      have still : ∀ fetch ∈ lobby.fetching, (∀ granted,
          kept ≠ [.exchanged fetch.worker fetch.descriptor granted]) →
          server.pool.Took fetch.worker fetch.descriptor ∧ fetch.stream.isSome := by
        intro fetch member other
        obtain ⟨took, found⟩ := sound.fetching fetch member
        refine ⟨(step.took took).resolve_right ?_, found⟩
        rintro ⟨granted, rfl⟩
        exact other granted shows.symm
      cases effect with
      | @exchanged id descriptor granted =>
          intro fetch member
          obtain ⟨before, different⟩ := List.mem_filter.1 member
          refine still fetch before fun granted same => of_decide_eq_true different ?_
          cases same
          rfl
      | _ => exact fun fetch member => still fetch member nofun
  | _ => exact sound.fetching

theorem Step.channels (step : Step terms lobby label events next) (sound : Sound terms lobby) :
    ∀ fetch ∈ next.channels, next.server.pool.HasChannel fetch.worker fetch.descriptor := by
  cases step with
  | @turn label shown server attends allowed step =>
      obtain ⟨kept, shows, effect, noted, _⟩ := sound.exists_effect allowed step
      rw [noteAll_server, noted]
      have still : ∀ fetch ∈ lobby.channels,
          kept ≠ [.skipped fetch.worker fetch.descriptor] →
          (∀ ending, kept ≠ [.ended fetch.worker fetch.descriptor ending]) →
          server.pool.HasChannel fetch.worker fetch.descriptor := by
        intro fetch member notSkipped notEnded
        rcases step.hasChannel (sound.channels fetch member) with has | rfl | ⟨ending, rfl⟩
        · exact has
        · exact absurd shows.symm notSkipped
        · exact absurd shows.symm (notEnded ending)
      cases effect with
      | @exchanged id descriptor granted took opened =>
          intro fetch member
          rcases List.mem_append.1 member with before | now
          · exact still fetch before nofun nofun
          · cases granted with
            | false => cases now
            | true =>
                obtain ⟨fetched, own⟩ := List.mem_filter.1 now
                have took' := (sound.fetching fetch fetched).1
                rw [of_decide_eq_true own] at took' ⊢
                obtain rfl : descriptor = fetch.descriptor := took.unique took'
                exact opened rfl
      | skipped =>
          intro fetch member
          obtain ⟨before, different⟩ := List.mem_filter.1 member
          refine still fetch before (fun same => of_decide_eq_true different ?_) nofun
          cases same
          rfl
      | ended =>
          intro fetch member
          obtain ⟨before, different⟩ := List.mem_filter.1 member
          refine still fetch before nofun fun _ same => of_decide_eq_true different ?_
          cases same
          rfl
      | _ => exact fun fetch member => still fetch member nofun nofun
  | _ => exact sound.channels

theorem Step.entrusted (step : Step terms lobby label events next) (sound : Sound terms lobby) :
    ∀ descriptor ∈ next.server.entrusted, next.errand.caller? = some descriptor := by
  have kept := sound.entrusted
  cases step with
  | look here | miss here | accept here | spoil here | park here | orphan here =>
      -- These errands begin while nothing is entrusted to the thread.
      rw [here] at kept
      intro descriptor member
      cases kept descriptor member
  | announce here =>
      rw [here] at kept
      intro descriptor member
      rw [Server.mem_entrusted] at member
      rcases member with arrived | elsewhere
      · rcases List.mem_append.1 arrived with before | now
        · cases kept descriptor (Server.mem_entrusted.2 (.inl before))
        · rw [List.mem_singleton.1 now]
          rfl
      · cases kept descriptor (Server.mem_entrusted.2 (.inr elsewhere))
  | resume here done =>
      rw [here] at kept
      intro descriptor member
      obtain rfl := Option.some.inj (kept descriptor member)
      exact absurd member done
  | withdraw here =>
      rw [here] at kept
      exact kept
  | @turn label shown server attends allowed step =>
      obtain ⟨_, _, effect, noted, admitted⟩ := sound.exists_effect allowed step
      have fewer := step.entrusted_subset fun descriptor same => by
        subst same
        cases step
        cases allowed _ (List.mem_singleton_self _)
      rw [noteAll_server, noted]
      cases effect with
      | listened own stopped =>
          rw [sound.ended_of_stopped stopped] at kept
          intro descriptor member
          cases kept descriptor (fewer member)
      | refused =>
          obtain ⟨found, here⟩ := errand_of_refused (admitted _ (List.mem_singleton_self _))
          rw [here] at kept
          exact fun descriptor member => kept descriptor (fewer member)
      | _ => exact fun descriptor member => kept descriptor (fewer member)
  | _ => exact kept

theorem Step.listening (step : Step terms lobby label events next) (sound : Sound terms lobby) :
    next.errand ≠ .ended → next.isListening = true := by
  cases step with
  | look here | miss here | accept here | spoil here | park here | announce here | orphan here
  | resume here | withdraw here =>
      exact fun _ => sound.listening (by rw [here]; nofun)
  | @turn label shown server attends allowed step =>
      obtain ⟨_, _, effect, noted, admitted⟩ := sound.exists_effect allowed step
      rw [noted]
      cases effect with
      | listened => exact fun _ => rfl
      | unlistened =>
          have ended := of_decide_eq_true (admitted _ (List.mem_singleton_self _))
          exact fun other => absurd ended other
      | refused =>
          obtain ⟨found, here⟩ := errand_of_refused (admitted _ (List.mem_singleton_self _))
          exact fun _ => sound.listening (by rw [here]; nofun)
      | _ => exact sound.listening
  | _ => exact sound.listening

theorem Step.listens (step : Step terms lobby label events next) (sound : Sound terms lobby) :
    next.isListening = true → next.server.Listens := by
  cases step with
  | @turn label shown server attends allowed step =>
      obtain ⟨_, shows, effect, noted, _⟩ := sound.exists_effect allowed step
      rw [noteAll_server, noted]
      have still : label ≠ .unlisten → lobby.isListening = true → server.Listens :=
        fun other listening => step.listens sound.server (sound.listens listening) other
      cases effect with
      | listened own stopped running => exact fun _ => .inl running
      | unlistened => nofun
      | _ =>
          refine still ?_
          rintro rfl
          rw [step.effects_unlisten] at shows
          cases shows
  | _ => exact sound.listens

theorem Step.refusing (step : Step terms lobby label events next) (sound : Sound terms lobby) :
    ∀ descriptor found, next.errand = .refusing descriptor found →
      descriptor ∈ next.server.refusals ∧ found.isSome := by
  cases step with
  | look =>
      intro descriptor found same
      dsimp only at same
      split at same <;> cases same
  | miss | accept | spoil | park | announce | orphan | resume => nofun
  | withdraw here waits =>
      intro descriptor found same
      cases same
      exact ⟨waits, Option.isSome_iff_exists.2 (sound.find?_of_calling here waits)⟩
  | @turn label shown server attends allowed step =>
      obtain ⟨_, shows, effect, noted, _⟩ := sound.exists_effect allowed step
      rw [noteAll_server, noted]
      have still : (∀ descriptor, label ≠ .refuse descriptor) →
          ∀ descriptor found, lobby.errand = .refusing descriptor found →
            descriptor ∈ server.refusals ∧ found.isSome := by
        intro other descriptor found here
        obtain ⟨waits, isFound⟩ := sound.refusing descriptor found here
        exact ⟨step.mem_refusals waits (other descriptor), isFound⟩
      cases effect with
      | listened | refused => nofun
      | _ =>
          refine still fun descriptor => ?_
          rintro rfl
          rw [step.effects_refuse] at shows
          cases shows
  | _ => exact sound.refusing

theorem Step.announcing (step : Step terms lobby label events next) (sound : Sound terms lobby) :
    ∀ descriptor stream, next.errand = .announcing descriptor stream →
      next.parked.find? descriptor = some stream := by
  -- Whoever takes a connection out that is in flight leaves the one that was not announced.
  have still : ∀ taken, taken ∈ lobby.server.inFlight → ∀ descriptor stream,
      lobby.errand = .announcing descriptor stream →
        (lobby.parked.take taken).2.find? descriptor = some stream := by
    intro taken inFlight descriptor stream here
    have different := sound.ne_of_announcing here inFlight
    have kept := lobby.parked.find?_without taken descriptor
    rw [if_neg different] at kept
    exact kept.trans (sound.announcing descriptor stream here)
  cases step with
  | look =>
      intro descriptor stream same
      dsimp only at same
      split at same <;> cases same
  | miss | accept | spoil | announce | orphan | resume | withdraw =>
      intro descriptor stream same
      cases same
  | park =>
      intro descriptor stream same
      cases same
      rw [Parked.find?_park, if_pos rfl]
  | fetch took => exact still _ (Server.mem_inFlight_of_took took)
  | @turn label shown server attends allowed step =>
      obtain ⟨_, _, effect, noted, _⟩ := sound.exists_effect allowed step
      rw [noted]
      cases effect with
      | listened | refused =>
          intro descriptor stream same
          cases same
      | discarded waits => exact still _ (Server.mem_inFlight_of_waits waits)
      | _ => exact sound.announcing
  | _ => exact sound.announcing

/-- A server that nobody calls and that is not running has nothing in flight. -/
theorem Sound.nothing_of_isIdle (sound : Sound terms lobby) (idle : lobby.isIdle = true) :
    lobby.server.pool.lifecycle = .stopped ∧ lobby.server.inFlight = [] := by
  simp only [isIdle, Bool.and_eq_true, decide_eq_true_eq, Option.isNone_iff_eq_none,
    List.isEmpty_iff, ne_eq] at idle
  obtain ⟨⟨⟨⟨⟨⟨notRunning, noStop⟩, noClearance⟩, _⟩, noArrival⟩, noRefusal⟩, noDismissal⟩ := idle
  have stopped : lobby.server.pool.lifecycle = .stopped := by
    cases now : lobby.server.pool.lifecycle with
    | stopped => rfl
    | running => exact absurd now notRunning
    | stopping =>
        have active := sound.server.closes.2 now
        rw [noStop] at active
        cases active
  refine ⟨stopped, List.eq_nil_iff_forall_not_mem.2 fun descriptor member => ?_⟩
  have counted := sound.server.count_inFlight_of_stopped stopped descriptor
  simp only [Server.entrusted, Server.drained, noArrival, noRefusal, noDismissal, noClearance,
    List.append_nil, List.flatMap_nil, List.count_nil] at counted
  exact List.count_eq_zero.1 counted member

theorem count_arrived_eq_zero {shown : List Event}
    (allowed : ∀ event ∈ shown, lobby.allows event = true) (descriptor : Descriptor) :
    shown.count (.arrived descriptor) = 0 :=
  List.count_eq_zero.2 fun member => by cases allowed _ member

/-- A server that was dropped is not started again. -/
theorem Step.gone (step : Step terms lobby label events next) (sound : Sound terms lobby) :
    next.isGone = true → next.server.pool.lifecycle = .stopped ∧ next.server.inFlight = [] := by
  cases step with
  | announce here present =>
      intro gone
      cases present.symm.trans gone
  | vanish idle => exact fun _ => sound.nothing_of_isIdle idle
  | @turn label shown server attends allowed step =>
      have same : (noteAll { lobby with server } shown).1.isGone = lobby.isGone :=
        noteAll_isGone _ shown
      rw [noteAll_server, same]
      intro gone
      obtain ⟨stopped, nothing⟩ := sound.gone gone
      refine ⟨Decidable.byContradiction fun begun => ?_, ?_⟩
      · obtain ⟨listens, rfl⟩ := step.start_of_started (step.begins stopped begun).1
        simp [Lobby.attends, gone, Label.thread?] at attends
      · refine List.eq_nil_iff_forall_not_mem.2 fun descriptor member => ?_
        have flows := step.custody sound.server descriptor
        have noArrival := count_arrived_eq_zero allowed descriptor
        rw [nothing, List.count_nil] at flows
        have none : server.inFlight.count descriptor = 0 := by omega
        exact List.count_eq_zero.1 none member
  | _ => exact sound.gone

/-- The exchange of a worker takes away what that worker fetched, and nothing else. -/
theorem Sound.count_fetching (sound : Sound terms lobby)
    (took : lobby.server.pool.Took id descriptor)
    (fetched : ∃ fetch ∈ lobby.fetching, fetch.worker = id) (other : Descriptor) :
    ((lobby.fetching.filter fun fetch => fetch.worker = id).map Fetch.descriptor).count other =
        [descriptor].count other ∧
      ((lobby.fetching.filter fun fetch => fetch.worker ≠ id).map Fetch.descriptor).count other +
          [descriptor].count other =
        (lobby.fetching.map Fetch.descriptor).count other := by
  have split := ((List.filter_append_perm (fun fetch : Fetch => fetch.worker = id)
    lobby.fetching).map Fetch.descriptor).count_eq other
  rw [List.map_append, List.count_append] at split
  have same : ∀ fetch ∈ lobby.fetching, fetch.worker = id → fetch.descriptor = descriptor := by
    rintro fetch member rfl
    exact (sound.fetching fetch member).1.unique took
  have own : ((lobby.fetching.filter fun fetch => fetch.worker = id).map Fetch.descriptor).count
      other = [descriptor].count other := by
    have once := (sound.placed other).once
    rw [count_inUse] at once
    by_cases here : descriptor = other
    · subst here
      obtain ⟨fetch, member, worker⟩ := fetched
      have present : descriptor ∈
          (lobby.fetching.filter fun fetch => fetch.worker = id).map Fetch.descriptor := by
        refine List.mem_map.2 ⟨fetch, List.mem_filter.2 ⟨member, decide_eq_true worker⟩, ?_⟩
        exact same fetch member worker
      have positive := List.count_pos_iff.2 present
      rw [List.count_singleton_self]
      omega
    · rw [List.count_singleton, beq_false_of_ne here]
      refine List.count_eq_zero.2 fun member => here ?_
      obtain ⟨fetch, kept, rfl⟩ := List.mem_map.1 member
      obtain ⟨inside, worker⟩ := List.mem_filter.1 kept
      exact (same fetch inside (of_decide_eq_true worker)).symm
  refine ⟨own, ?_⟩
  simp only [← decide_not] at split
  simp only [ne_eq]
  omega

/-- What a hook of the server consumes leaves the place where it was, and nothing else moves. -/
theorem Sound.placed_turn {label : Label} {shown : List Event} {server : Server}
    (sound : Sound terms lobby) (allowed : ∀ event ∈ shown, lobby.allows event = true)
    (step : Server.Step terms lobby.server label shown server) (other : Descriptor) :
    Placed (noteAll { lobby with server } shown).1 other := by
  obtain ⟨counted, once⟩ := placed_iff.1 (sound.placed other)
  obtain ⟨kept, shows, effect, noted, admitted⟩ := sound.exists_effect allowed step
  have flows := step.custody sound.server other
  rw [count_arrived_eq_zero allowed other, ← Server.countP_consumes_effects, shows] at flows
  rw [noted, placed_iff]
  cases effect with
  | none =>
      rw [List.countP_nil] at flows
      simp only [noteAll]
      omega
  | unlistened =>
      simp only [List.countP_singleton, Event.consumes, Bool.false_eq_true, if_false] at flows
      simp only [noteAll, note]
      omega
  | listened own stopped =>
      rw [sound.ended_of_stopped stopped] at counted once
      simp only [List.countP_singleton, Event.consumes, Bool.false_eq_true, if_false] at flows
      simp only [Errand.refused?, Errand.unannounced?, Errand.held?] at counted once
      simp only [noteAll, note, Errand.refused?, Errand.unannounced?, Errand.held?]
      omega
  | @skipped id | @ended id =>
      have fewer : ((lobby.channels.filter fun fetch => fetch.worker ≠ id).map
          Fetch.descriptor).count other ≤ (lobby.channels.map Fetch.descriptor).count other :=
        (List.filter_sublist.map Fetch.descriptor).count_le other
      simp only [List.countP_singleton, Event.consumes, Bool.false_eq_true, if_false] at flows
      simp only [noteAll, note, closeChannel]
      omega
  | @exchanged id descriptor granted took =>
      have own := admitted _ (List.mem_singleton_self _)
      obtain ⟨fetch, member, admits⟩ := List.any_eq_true.1 own
      rw [Bool.and_eq_true, decide_eq_true_eq] at admits
      obtain ⟨taken, left⟩ := sound.count_fetching took ⟨fetch, member, admits.1⟩ other
      simp only [List.countP_singleton, Event.consumes, decide_eq_true_eq] at flows
      simp only [List.count_singleton, beq_iff_eq] at taken left
      cases granted with
      | false =>
          simp only [noteAll, note, Bool.false_eq_true, if_false, List.append_nil]
          omega
      | true =>
          simp only [noteAll, note, if_true, List.map_append, List.count_append]
          omega
  | @refused descriptor =>
      obtain ⟨found, here⟩ := errand_of_refused (admitted _ (List.mem_singleton_self _))
      rw [here] at counted once
      simp only [List.countP_singleton, Event.consumes, decide_eq_true_eq] at flows
      simp only [Errand.refused?, Errand.unannounced?, Errand.held?, Option.toList_some,
        Option.toList_none, List.count_nil, List.count_singleton, beq_iff_eq] at counted once
      simp only [noteAll, note, Errand.refused?, Errand.unannounced?, Errand.held?,
        Option.toList_none, List.count_nil]
      omega
  | @discarded descriptor waits =>
      obtain ⟨stream, found⟩ := sound.find?_of_waits waits
      have taken := (Parked.perm_keys_take found).count_eq other
      simp only [List.count_cons, beq_iff_eq] at taken
      simp only [List.countP_singleton, Event.consumes, decide_eq_true_eq] at flows
      simp only [noteAll, note]
      omega

/-- Every stream that leaves one place is in the next one, or closed. -/
theorem Step.placed (step : Step terms lobby label events next) (sound : Sound terms lobby)
    (other : Descriptor) : Placed next other := by
  obtain ⟨counted, once⟩ := placed_iff.1 (sound.placed other)
  rw [placed_iff]
  cases step with
  | look here =>
      rw [here] at counted once
      cases lobby.isWanted <;> exact ⟨counted, once⟩
  | miss here | resume here =>
      rw [here] at counted once
      exact ⟨counted, once⟩
  | hush | vanish => exact ⟨counted, once⟩
  | spoil here =>
      rw [here] at counted once
      exact ⟨counted, (Nat.le_add_right _ _).trans once⟩
  | @accept descriptor here closed =>
      have absent : lobby.inUse.count descriptor = 0 := List.count_eq_zero.2 closed
      rw [count_inUse] at absent
      rw [here] at counted once absent
      refine ⟨counted, ?_⟩
      by_cases same : descriptor = other
      · subst same
        simp only [Errand.held?, Option.toList_some, List.count_singleton_self] at absent ⊢
        omega
      · simp only [Errand.held?, Option.toList_some, List.count_singleton, beq_iff_eq, same]
        exact once
  | @park descriptor stream here =>
      have added := (Parked.perm_keys_park (sound.find?_of_holding here) stream).count_eq other
      rw [List.count_cons] at added
      simp only [here, Errand.refused?, Errand.unannounced?, Errand.held?, Option.toList_some,
        Option.toList_none, List.count_nil, List.count_singleton] at counted once ⊢
      omega
  | @announce descriptor stream here =>
      simp only [here, Errand.refused?, Errand.unannounced?, Errand.held?, Option.toList_some,
        Option.toList_none, List.count_nil, List.count_singleton, Server.inFlight, Server.drained,
        List.count_append] at counted once ⊢
      omega
  | orphan here gone => cases here.symm.trans (sound.ended_of_stopped (sound.gone gone).1)
  | @withdraw descriptor here waits =>
      obtain ⟨stream, found⟩ := sound.find?_of_calling here waits
      have taken := (Parked.perm_keys_take found).count_eq other
      rw [List.count_cons] at taken
      simp only [here, Errand.refused?, Errand.unannounced?, Errand.held?, Option.toList_some,
        Option.toList_none, List.count_nil, List.count_singleton] at counted once ⊢
      omega
  | @fetch id descriptor took new =>
      obtain ⟨stream, found⟩ := sound.find?_of_took took new
      have taken := (Parked.perm_keys_take found).count_eq other
      rw [List.count_cons] at taken
      simp only [List.map_append, List.map_singleton, List.count_append, List.count_singleton]
      omega
  | turn attends allowed step => exact placed_iff.1 (sound.placed_turn allowed step other)

/-- Every turn keeps the agreement. -/
theorem Step.sound (step : Step terms lobby label events next) (sound : Sound terms lobby) :
    Sound terms next where
  server := step.serverPath.sound sound.server
  placed := step.placed sound
  fetching := step.fetching sound
  channels := step.channels sound
  entrusted := step.entrusted sound
  refusing := step.refusing sound
  announcing := step.announcing sound
  listening := step.listening sound
  listens := step.listens sound
  gone := step.gone sound

theorem Run.sound (run : Run terms events lobby) : Sound terms lobby := by
  induction run with
  | new => exact Sound.new terms
  | turn _ step inductionHypothesis => exact step.sound inductionHypothesis

end Lobby

end ConnectionPool
