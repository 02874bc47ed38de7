import ConnectionPool.Proofs.Lobby.Sound

/-!
Contract: which stream is found for which connection.

The accepting thread goes from one stream to the next: each is parked and then announced, unless it
could not be made ready. Under every descriptor the streams that were looked up are those that were
announced, in that order, but for the one that is still parked.

Owns:
- the readers `ofThread`, `announcements` and `lookups` of what was shown;
- the laws of these for every run.

Does not own: that there is no more than one stream under a descriptor; see `Lobby.Sound`.
-/

namespace ConnectionPool

/-! ## What was shown -/

namespace LobbyEvent

/-- Shown by the accepting thread about its own work. -/
def isOfThread : LobbyEvent → Bool
  | .accepted .. => true
  | .spoiled .. => true
  | .parked .. => true
  | .announced .. => true
  | .orphaned .. => true
  | _ => false

def announcement? (descriptor : Descriptor) : LobbyEvent → Option Nat
  | .announced other stream => if other = descriptor then some stream else none
  | _ => none

def lookup? (descriptor : Descriptor) : LobbyEvent → Option (Option Nat)
  | .looked _ other found => if other = descriptor then some found else none
  | _ => none

end LobbyEvent

/-- What the accepting thread has shown of its own work. -/
def ofThread (events : List LobbyEvent) : List LobbyEvent :=
  events.filter LobbyEvent.isOfThread

/-- The streams of which the server was told under a descriptor. -/
def announcements (descriptor : Descriptor) (events : List LobbyEvent) : List Nat :=
  events.filterMap (LobbyEvent.announcement? descriptor)

/-- What the server has found in the table under a descriptor. -/
def lookups (descriptor : Descriptor) (events : List LobbyEvent) : List (Option Nat) :=
  events.filterMap (LobbyEvent.lookup? descriptor)

section Append
variable (descriptor : Descriptor) (front back : List LobbyEvent)

@[simp] theorem ofThread_append : ofThread (front ++ back) = ofThread front ++ ofThread back :=
  List.filter_append ..

@[simp] theorem announcements_append : announcements descriptor (front ++ back) =
    announcements descriptor front ++ announcements descriptor back :=
  List.filterMap_append

@[simp] theorem lookups_append :
    lookups descriptor (front ++ back) = lookups descriptor front ++ lookups descriptor back :=
  List.filterMap_append

end Append

/-- What becomes of an accepted stream on the accepting thread. -/
inductive Passage where
  /-- It could not be made ready. -/
  | spoiled (descriptor : Descriptor) (stream : Nat)
  /-- It was parked, in place of nothing, and the server was told of it. -/
  | announced (descriptor : Descriptor) (stream : Nat)
deriving DecidableEq, Repr

namespace Passage

def stream : Passage → Nat
  | .spoiled _ stream => stream
  | .announced _ stream => stream

/-- What the thread shows of it. -/
def events : Passage → List LobbyEvent
  | .spoiled descriptor stream => [.accepted descriptor stream, .spoiled descriptor stream]
  | .announced descriptor stream =>
      [.accepted descriptor stream, .parked descriptor stream none, .announced descriptor stream]

end Passage

namespace Errand

/-- What the thread has shown of the passage it is in. -/
def progress : Errand → List LobbyEvent
  | .holding descriptor stream => [.accepted descriptor stream]
  | .announcing descriptor stream =>
      [.accepted descriptor stream, .parked descriptor stream none]
  | _ => []

/-- The stream whose passage the thread is in. -/
def stream? : Errand → Option Nat
  | .holding _ stream => some stream
  | .announcing _ stream => some stream
  | _ => none

end Errand

namespace Lobby

variable {terms : Terms} {lobby next : Lobby} {label : LobbyLabel} {events : List LobbyEvent}

/-! ## Passages -/

/-- The accepting thread has shown whole passages and the one it is in, of streams numbered in their
order. -/
def Passes (events : List LobbyEvent) (lobby : Lobby) : Prop :=
  ∃ passages : List Passage,
    ofThread events = passages.flatMap Passage.events ++ lobby.errand.progress ∧
      passages.map Passage.stream ++ lobby.errand.stream?.toList = List.range lobby.accepted

theorem Passes.quiet {more : List LobbyEvent} (passes : Passes events lobby)
    (nothing : ofThread more = []) (progress : next.errand.progress = lobby.errand.progress)
    (stream : next.errand.stream? = lobby.errand.stream?)
    (accepted : next.accepted = lobby.accepted) : Passes (events ++ more) next := by
  obtain ⟨passages, shows, numbered⟩ := passes
  refine ⟨passages, ?_, ?_⟩
  · rw [ofThread_append, nothing, List.append_nil, progress, shows]
  · rw [stream, accepted, numbered]

/-- The thread ends the passage it is in. -/
theorem Passes.finish {more : List LobbyEvent} (passage : Passage) (passes : Passes events lobby)
    (whole : lobby.errand.progress ++ ofThread more = passage.events)
    (stream : lobby.errand.stream? = some passage.stream) (none : next.errand.progress = [])
    (none' : next.errand.stream? = .none) (accepted : next.accepted = lobby.accepted) :
    Passes (events ++ more) next := by
  obtain ⟨passages, shows, numbered⟩ := passes
  refine ⟨passages ++ [passage], ?_, ?_⟩
  · rw [ofThread_append, shows, List.append_assoc, whole, none, List.flatMap_append,
      List.flatMap_singleton, List.append_nil]
  · rw [none', accepted, ← numbered, stream, List.map_append, List.append_assoc]
    rfl

theorem Step.passes {more : List LobbyEvent} (step : Step terms lobby label more next)
    (sound : Sound terms lobby) (passes : Passes events lobby) : Passes (events ++ more) next := by
  cases step with
  | look here =>
      refine passes.quiet rfl ?_ ?_ rfl <;> rw [here] <;> cases lobby.isWanted <;> rfl
  | miss here | resume here | withdraw here =>
      refine passes.quiet rfl ?_ ?_ rfl <;> rw [here] <;> rfl
  | accept here =>
      obtain ⟨passages, shows, numbered⟩ := passes
      rw [here] at shows numbered
      refine ⟨passages, ?_, ?_⟩
      · rw [ofThread_append, shows, List.append_assoc]
        rfl
      · rw [List.range_succ, ← numbered, List.append_assoc]
        rfl
  | spoil here =>
      exact passes.finish (.spoiled _ _) (by rw [here]; rfl) (by rw [here]; rfl) rfl rfl rfl
  | park here =>
      obtain ⟨passages, shows, numbered⟩ := passes
      rw [here] at shows numbered
      refine ⟨passages, ?_, numbered⟩
      have inPlaceOfNothing := sound.find?_of_holding here
      rw [ofThread_append, shows, List.append_assoc, Parked.park, inPlaceOfNothing]
      rfl
  | announce here =>
      exact passes.finish (.announced _ _) (by rw [here]; rfl) (by rw [here]; rfl) rfl rfl rfl
  | orphan here gone => cases here.symm.trans (sound.ended_of_stopped (sound.gone gone).1)
  | fetch | hush | vanish => exact passes.quiet rfl rfl rfl rfl
  | @turn label shown server attends allowed step =>
      have nothing : ofThread (.turned label shown ::
          (noteAll { lobby with server } shown).2) = [] := by
        refine List.filter_eq_nil_iff.2 fun event member => ?_
        rcases List.mem_cons.1 member with rfl | noted
        · nofun
        · obtain ⟨_, _, rfl⟩ := looked_of_mem_noteAll noted
          nofun
      obtain ⟨_, _, effect, noted, admitted⟩ := sound.exists_effect allowed step
      rw [noted] at nothing ⊢
      cases effect with
      | listened own stopped =>
          have here := sound.ended_of_stopped stopped
          refine passes.quiet nothing ?_ ?_ rfl <;> rw [here] <;> rfl
      | refused =>
          obtain ⟨found, here⟩ := errand_of_refused (admitted _ (List.mem_singleton_self _))
          refine passes.quiet nothing ?_ ?_ rfl <;> rw [here] <;> rfl
      | _ => exact passes.quiet nothing rfl rfl rfl

/-- Every accepted stream was made ready, parked in place of nothing and then announced, or was closed
because it could not be made ready. -/
theorem Run.passes (run : Run terms events lobby) : Passes events lobby := by
  induction run with
  | new => exact ⟨[], rfl, rfl⟩
  | turn before step inductionHypothesis => exact step.passes before.sound inductionHypothesis

/-! ## Lookups -/

/-- The stream that is parked under a descriptor since the server was told of it. -/
def waiting (descriptor : Descriptor) (lobby : Lobby) : Option Nat :=
  if lobby.errand.unannounced? = some descriptor then none else lobby.parked.find? descriptor

/-- The streams that were announced are those that were looked up, and the one that waits. -/
def Matches (descriptor : Descriptor) (before after : Lobby) (events : List LobbyEvent) : Prop :=
  ((before.waiting descriptor).toList ++ announcements descriptor events).map some =
    lookups descriptor events ++ (after.waiting descriptor).toList.map some

theorem Matches.quiet {descriptor : Descriptor} (told : announcements descriptor events = [])
    (looked : lookups descriptor events = [])
    (same : next.waiting descriptor = lobby.waiting descriptor) :
    Matches descriptor lobby next events := by
  rw [Matches, told, looked, same, List.append_nil, List.nil_append]

theorem Matches.append {descriptor : Descriptor} {middle : Lobby} {more : List LobbyEvent}
    (front : Matches descriptor lobby middle events) (back : Matches descriptor middle next more) :
    Matches descriptor lobby next (events ++ more) := by
  rw [Matches, List.map_append] at front back ⊢
  rw [announcements_append, lookups_append, List.map_append, ← List.append_assoc, front,
    List.append_assoc, back, List.append_assoc]

/-- Whoever takes out what is in flight finds what was announced. -/
theorem Sound.matches_take {taken : Descriptor} {stream : Nat} (purpose : Purpose)
    (sound : Sound terms lobby) (inFlight : taken ∈ lobby.server.inFlight)
    (found : lobby.parked.find? taken = some stream)
    (parked : next.parked = (lobby.parked.take taken).2)
    (thread : next.errand.unannounced? = lobby.errand.unannounced?) (descriptor : Descriptor) :
    Matches descriptor lobby next [.looked purpose taken (lobby.parked.take taken).1] := by
  have rest := lobby.parked.find?_without taken descriptor
  have told : lobby.errand.unannounced? ≠ some taken := by
    intro untold
    have atMost := sound.count_inFlight_le taken
    have positive := List.count_pos_iff.2 inFlight
    rw [untold, Option.toList_some, List.count_singleton_self] at atMost
    omega
  have answer : (lobby.parked.take taken).1 = some stream := found
  by_cases same : taken = descriptor
  · subst same
    have before : lobby.waiting taken = some stream := by rw [waiting, if_neg told, found]
    have after : next.waiting taken = none := by
      rw [waiting, thread, if_neg told, parked]
      exact rest.trans (if_pos rfl)
    rw [Matches, before, after, answer]
    simp [announcements, lookups, LobbyEvent.announcement?, LobbyEvent.lookup?]
  · have unchanged : next.waiting descriptor = lobby.waiting descriptor := by
      rw [waiting, waiting, thread, parked]
      rw [if_neg (Ne.symm same)] at rest
      rw [← rest]
      rfl
    refine .quiet rfl ?_ unchanged
    simp [lookups, LobbyEvent.lookup?, same]

theorem Step.matches (step : Step terms lobby label events next) (sound : Sound terms lobby)
    (descriptor : Descriptor) : Matches descriptor lobby next events := by
  cases step with
  | look here =>
      refine .quiet rfl rfl ?_
      rw [waiting, waiting, here]
      cases lobby.isWanted <;> rfl
  | miss here | accept here | spoil here | resume here =>
      refine .quiet rfl rfl ?_
      rw [waiting, waiting, here]
      rfl
  | @park parked stream here =>
      refine .quiet rfl rfl ?_
      have new := sound.find?_of_holding here
      rw [waiting, waiting, here, Parked.find?_park]
      by_cases same : descriptor = parked
      · subst same
        simp [Errand.unannounced?, new]
      · simp [Errand.unannounced?, same, Ne.symm same]
  | @announce told stream here =>
      have found := sound.announcing told stream here
      rw [Matches, waiting, waiting, here]
      by_cases same : told = descriptor
      · subst same
        simp [Errand.unannounced?, found, announcements, lookups, List.filterMap_cons,
          LobbyEvent.announcement?, LobbyEvent.lookup?]
      · simp [Errand.unannounced?, same, announcements, lookups, List.filterMap_cons,
          LobbyEvent.announcement?, LobbyEvent.lookup?]
  | orphan here gone => cases here.symm.trans (sound.ended_of_stopped (sound.gone gone).1)
  | withdraw here waits =>
      obtain ⟨stream, found⟩ := sound.find?_of_calling here waits
      exact sound.matches_take .refuse (Server.mem_inFlight_of_refusal waits) found rfl
        (by rw [here]; rfl) descriptor
  | @fetch id _ took new =>
      obtain ⟨stream, found⟩ := sound.find?_of_took took new
      have inFlight := Server.mem_inFlight_of_took took
      refine sound.matches_take (.serve id) inFlight found ?_ ?_ descriptor <;> rfl
  | hush | vanish => exact .quiet rfl rfl rfl
  | @turn label shown server attends allowed step =>
      obtain ⟨_, _, effect, noted, admitted⟩ := sound.exists_effect allowed step
      rw [noted]
      cases effect with
      | listened own stopped =>
          refine .quiet rfl rfl ?_
          have here := sound.ended_of_stopped stopped
          rw [waiting, waiting, here]
          rfl
      | refused =>
          obtain ⟨found, here⟩ := errand_of_refused (admitted _ (List.mem_singleton_self _))
          refine .quiet rfl rfl ?_
          rw [waiting, waiting, here]
          rfl
      | discarded waits =>
          obtain ⟨stream, found⟩ := sound.find?_of_waits waits
          have inFlight := Server.mem_inFlight_of_waits waits
          refine sound.matches_take .discard inFlight found ?_ ?_ descriptor <;> rfl
      | _ => exact .quiet rfl rfl rfl

/-- Under every descriptor the server finds the streams of which it was told, in that order. -/
theorem Run.matches (run : Run terms events lobby) (descriptor : Descriptor) :
    Matches descriptor {} lobby events := by
  induction run with
  | new => exact .quiet rfl rfl rfl
  | turn before step inductionHypothesis =>
      exact inductionHypothesis.append (step.matches before.sound descriptor)

end Lobby

end ConnectionPool
