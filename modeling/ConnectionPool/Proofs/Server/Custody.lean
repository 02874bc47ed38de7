import ConnectionPool.Proofs.Server.Hands

/-!
Contract: every connection that arrived is consumed once, by the hook that its answer promised.

A connection that arrived is in flight until a hook consumes it: a worker exchanges its descriptor,
or it is refused, or it is closed. In flight it waits for its decision, in the queue, in the hands
of a worker, for a refusal, to be closed at once, or for a stop to close it. For each of these
places what goes in is what comes out and what is still there.

Owns:
- `Server.inFlight` and the accounts of its places;
- `Server.Accounts` and its proof for every run.

Does not own: the order within a place.
-/

namespace ConnectionPool

/-! ## What was shown -/

namespace Event

def decides (descriptor : Descriptor) : Event → Bool
  | .decided other _ => other = descriptor
  | _ => false

/-- A decision that hands a connection to a worker at once. -/
def direct? : Event → Option (WorkerId × Descriptor)
  | .decided descriptor (.reused id) => some (id, descriptor)
  | .decided descriptor (.spawned id) => some (id, descriptor)
  | _ => none

/-- A hook took the connection for good. -/
def consumes (descriptor : Descriptor) : Event → Bool
  | .exchanged _ other _ => other = descriptor
  | .refused other => other = descriptor
  | .discarded other => other = descriptor
  | _ => false

end Event

/-- What decisions handed to workers at once, in the order of the decisions. -/
def directs (events : List Event) : List (WorkerId × Descriptor) :=
  events.filterMap Event.direct?

@[simp] theorem directs_append (front back : List Event) :
    directs (front ++ back) = directs front ++ directs back :=
  List.filterMap_append

/-- Every decision is of one of four kinds. -/
theorem countP_decides (events : List Event) (descriptor : Descriptor) :
    events.countP (Event.decides descriptor) =
      ((directs events).map Prod.snd).count descriptor +
        events.count (.decided descriptor .queued) + events.count (.decided descriptor .busy) +
        events.count (.decided descriptor .dropped) := by
  induction events with
  | nil => rfl
  | cons event events inductionHypothesis =>
      rw [List.countP_cons, inductionHypothesis]
      simp only [directs, List.filterMap_cons, List.count_cons]
      cases event with
      | decided other outcome =>
          cases outcome <;> simp [Event.decides, Event.direct?, List.count_cons] <;> omega
      | _ => simp [Event.decides, Event.direct?]

theorem countP_consumes (events : List Event) (descriptor : Descriptor) :
    events.countP (Event.consumes descriptor) =
      ((exchanges events).map Prod.snd).count descriptor + events.count (.refused descriptor) +
        events.count (.discarded descriptor) := by
  induction events with
  | nil => rfl
  | cons event events inductionHypothesis =>
      rw [List.countP_cons, inductionHypothesis]
      simp only [exchanges, List.filterMap_cons, List.count_cons]
      cases event <;> simp [Event.consumes, Event.exchange?, List.count_cons] <;> omega

namespace Label

def isReport : Label → Bool
  | .report .. => true
  | _ => false

def isClear : Label → Bool
  | .clear _ => true
  | _ => false

def isDismiss : Label → Bool
  | .dismiss _ => true
  | _ => false

end Label

/-- What turns of some kind showed. -/
def shownBy (kind : Label → Bool) (turns : List Turn) : List Event :=
  shown (turns.filter fun turn => kind turn.label)

theorem shownBy_append_singleton (kind : Label → Bool) (turns : List Turn) (turn : Turn) :
    shownBy kind (turns ++ [turn]) =
      shownBy kind turns ++ if kind turn.label then turn.events else [] := by
  rw [shownBy, List.filter_append, shown_append, shownBy]
  cases counts : kind turn.label <;> simp [counts]

namespace Server

/-- The connections that a stop has taken from the queue and that are still to be closed. -/
def drained (server : Server) : List Descriptor :=
  server.clearances.flatMap Clearance.left

/-- The connections that arrived and that no hook has consumed. -/
def inFlight (server : Server) : List Descriptor :=
  server.arrivals ++ server.pool.queue ++ server.pool.hands ++ server.refusals ++
    server.dismissals ++ server.drained

variable {terms : Terms} {server next : Server} {label : Label} {events : List Event}

theorem count_erase_add {items : List Descriptor} {item : Descriptor} (member : item ∈ items)
    (descriptor : Descriptor) :
    (items.erase item).count descriptor + [item].count descriptor = items.count descriptor := by
  rw [(List.perm_cons_erase member).count_eq descriptor, ← List.count_append]
  exact (List.perm_append_singleton item (items.erase item)).count_eq descriptor

/-! ## One turn, place by place -/

theorem Step.arrivals (step : Step terms server label events next) (sound : Sound terms server)
    (descriptor : Descriptor) :
    events.count (.arrived descriptor) + server.arrivals.count descriptor =
      events.countP (Event.decides descriptor) +
        next.arrivals.count descriptor := by
  cases step with
  | started stopped | cannotListen stopped =>
      have empty : server.pool.queue = [] := sound.roster.stopped_queue stopped
      rw [count_startEvents empty (.arrived descriptor) rfl,
        countP_startEvents empty _ fun event => by cases event <;> simp [ofStart, Event.decides]]
  | arrive => simp [Event.decides, List.count_cons, Nat.add_comm]
  | dropped waits | reused waits | unusable waits | misplaced waits | spawned waits
  | unspawned waits | queued waits | busy waits =>
      have erased := count_erase_add waits descriptor
      simp [Event.decides, List.countP_cons, List.count_cons] at erased ⊢
      omega
  | _ => simp [Event.decides]

theorem Step.refusals (step : Step terms server label events next) (sound : Sound terms server)
    (descriptor : Descriptor) :
    events.count (.decided descriptor .busy) + server.refusals.count descriptor =
      events.count (.refused descriptor) + next.refusals.count descriptor := by
  cases step with
  | started stopped | cannotListen stopped =>
      have empty : server.pool.queue = [] := sound.roster.stopped_queue stopped
      rw [count_startEvents empty (.decided descriptor .busy) rfl,
        count_startEvents empty (.refused descriptor) rfl]
  | busy => simp [List.count_cons, Nat.add_comm]
  | refuse waits =>
      have erased := count_erase_add waits descriptor
      simp [List.count_cons] at erased ⊢
      omega
  | _ => simp

theorem Step.dismissals (step : Step terms server label events next) (sound : Sound terms server)
    (descriptor : Descriptor) :
    events.count (.decided descriptor .dropped) + server.dismissals.count descriptor =
      (if label.isDismiss then events else []).count (.discarded descriptor) +
        next.dismissals.count descriptor := by
  cases step with
  | started stopped | cannotListen stopped =>
      have empty : server.pool.queue = [] := sound.roster.stopped_queue stopped
      rw [count_startEvents empty (.decided descriptor .dropped) rfl]
      rfl
  | dropped | unusable | misplaced | unspawned =>
      simp [Label.isDismiss, List.count_cons, Nat.add_comm]
  | dismiss waits =>
      have erased := count_erase_add waits descriptor
      simp [Label.isDismiss, List.count_cons] at erased ⊢
      omega
  | _ => simp [Label.isDismiss]

/-- A connection that was made to wait is handed to a worker that reports, or closed by a stop, or
it waits in the queue or for that stop. -/
theorem Step.waiting (step : Step terms server label events next) (sound : Sound terms server)
    (descriptor : Descriptor) :
    events.count (.decided descriptor .queued) + server.pool.queue.count descriptor +
        server.drained.count descriptor =
      ((handings (if label.isReport then events else [])).map Prod.snd).count descriptor +
        (if label.isClear then events else []).count (.discarded descriptor) +
        next.pool.queue.count descriptor + next.drained.count descriptor := by
  cases step with
  | started stopped | cannotListen stopped =>
      have empty : server.pool.queue = [] := sound.roster.stopped_queue stopped
      have still : (floored terms server.pool).queue = [] := by simp [floored, Pool.fillFloor]
      rw [count_startEvents empty (.decided descriptor .queued) rfl]
      simp [Label.isReport, Label.isClear, drained, handings, empty, still]
  | settle =>
      simp [Label.isReport, Label.isClear, handings, drained, settled]
      omega
  | @clear position caller closed left found =>
      have counted := count_flatMap_set Clearance.left found ⟨caller, left⟩ descriptor
      simp [Label.isReport, Label.isClear, handings, drained, List.count_cons] at counted ⊢
      omega
  | endStop found =>
      have counted := count_flatMap_eraseIdx Clearance.left found descriptor
      simp [Label.isReport, Label.isClear, handings, drained] at counted ⊢
      omega
  | queued =>
      simp [Label.isReport, Label.isClear, handings, drained, List.count_cons]
      omega
  | handOver found stage running member first =>
      simp [Label.isReport, Label.isClear, handings, drained, List.filterMap_cons, Event.handing?,
        List.count_cons, first]
      omega
  | _ =>
      simp [Label.isReport, Label.isClear, handings, drained, List.filterMap_cons, Event.handing?]

/-- A connection is handed to a worker by the decision about it, or when that worker reports. -/
theorem Step.handings_eq (step : Step terms server label events next) (sound : Sound terms server) :
    handings events = directs events ++ handings (if label.isReport then events else []) := by
  cases step with
  | started stopped | cannotListen stopped =>
      have empty : server.pool.queue = [] := sound.roster.stopped_queue stopped
      rw [handings_startEvents empty, directs, filterMap_startEvents empty _ fun event => by
        cases event <;> simp [ofStart, Event.direct?]]
      rfl
  | _ =>
      simp [Label.isReport, handings, directs, List.filterMap_cons, Event.handing?, Event.direct?]

theorem Step.discards (step : Step terms server label events next) (sound : Sound terms server)
    (descriptor : Descriptor) :
    events.count (.discarded descriptor) =
      (if label.isClear then events else []).count (.discarded descriptor) +
        (if label.isDismiss then events else []).count (.discarded descriptor) := by
  cases step with
  | started stopped | cannotListen stopped =>
      have empty : server.pool.queue = [] := sound.roster.stopped_queue stopped
      rw [count_startEvents empty (.discarded descriptor) rfl]
      rfl
  | _ => simp [Label.isClear, Label.isDismiss]

/-! ## A whole run, place by place -/

section Runs
variable {turns : List Turn}

theorem Run.decided (run : Run terms turns server) (descriptor : Descriptor) :
    (shown turns).count (.arrived descriptor) =
      (shown turns).countP (Event.decides descriptor) + server.arrivals.count descriptor := by
  induction run with
  | refl => rfl
  | turn before step inductionHypothesis =>
      have turned := step.arrivals (Run.sound before) descriptor
      simp only [shown_append, shown_singleton, List.count_append, List.countP_append]
      omega

theorem Run.busy (run : Run terms turns server) (descriptor : Descriptor) :
    (shown turns).count (.decided descriptor .busy) =
      (shown turns).count (.refused descriptor) + server.refusals.count descriptor := by
  induction run with
  | refl => rfl
  | turn before step inductionHypothesis =>
      have turned := step.refusals (Run.sound before) descriptor
      simp only [shown_append, shown_singleton, List.count_append]
      omega

theorem Run.dropped (run : Run terms turns server) (descriptor : Descriptor) :
    (shown turns).count (.decided descriptor .dropped) =
      (shownBy Label.isDismiss turns).count (.discarded descriptor) +
        server.dismissals.count descriptor := by
  induction run with
  | refl => rfl
  | turn before step inductionHypothesis =>
      have turned := step.dismissals (Run.sound before) descriptor
      simp only [shown_append, shown_singleton, shownBy_append_singleton, List.count_append]
      omega

theorem Run.queued (run : Run terms turns server) (descriptor : Descriptor) :
    (shown turns).count (.decided descriptor .queued) =
      ((handings (shownBy Label.isReport turns)).map Prod.snd).count descriptor +
        (shownBy Label.isClear turns).count (.discarded descriptor) +
        server.pool.queue.count descriptor + server.drained.count descriptor := by
  induction run with
  | refl => rfl
  | turn before step inductionHypothesis =>
      have turned := step.waiting (Run.sound before) descriptor
      simp only [shown_append, shown_singleton, shownBy_append_singleton, handings_append,
        List.map_append, List.count_append]
      omega

theorem Run.discards (run : Run terms turns server) (descriptor : Descriptor) :
    (shown turns).count (.discarded descriptor) =
      (shownBy Label.isClear turns).count (.discarded descriptor) +
        (shownBy Label.isDismiss turns).count (.discarded descriptor) := by
  induction run with
  | refl => rfl
  | turn before step inductionHypothesis =>
      have turned := step.discards (Run.sound before) descriptor
      simp only [shown_append, shown_singleton, shownBy_append_singleton, List.count_append]
      omega

theorem Run.perm_handings (run : Run terms turns server) :
    (handings (shown turns)).Perm
      (directs (shown turns) ++ handings (shownBy Label.isReport turns)) := by
  induction run with
  | refl => exact .nil
  | turn before step inductionHypothesis =>
      refine List.perm_iff_count.2 fun entry => ?_
      have counted := inductionHypothesis.count_eq entry
      have turned := congrArg (List.count entry) (step.handings_eq (Run.sound before))
      rw [List.count_append] at counted turned
      simp only [shown_append, shown_singleton, shownBy_append_singleton, handings_append,
        directs_append, List.count_append]
      omega

end Runs

/-! ## All together -/

/-- The accounts of a server: what went into each place is what came out of it and what is there. -/
structure Accounts (turns : List Turn) (server : Server) (descriptor : Descriptor) : Prop where
  /-- Every connection that arrived was consumed by a hook, or is in flight. -/
  whole : (shown turns).count (.arrived descriptor) =
    (shown turns).countP (Event.consumes descriptor) + server.inFlight.count descriptor
  /-- Every connection that arrived was decided about, or waits for that. -/
  decided : (shown turns).count (.arrived descriptor) =
    (shown turns).countP (Event.decides descriptor) + server.arrivals.count descriptor
  /-- What a worker was to take, at once or when it reported, that worker has exchanged or has in
  hands. -/
  direct : ∀ id, (ofWorker id (directs (shown turns))).count descriptor +
      (ofWorker id (handings (shownBy Label.isReport turns))).count descriptor =
    (ofWorker id (exchanges (shown turns))).count descriptor +
      (server.pool.inHands id).count descriptor
  /-- Each worker exchanges what it was handed in the order in which it got it. -/
  inTurn : ∀ id, ofWorker id (handings (shown turns)) =
    ofWorker id (exchanges (shown turns)) ++ server.pool.inHands id
  /-- What was made to wait was handed to a worker that reported, or closed by a stop, or still
  waits. -/
  queued : (shown turns).count (.decided descriptor .queued) =
    ((handings (shownBy Label.isReport turns)).map Prod.snd).count descriptor +
      (shownBy Label.isClear turns).count (.discarded descriptor) +
      server.pool.queue.count descriptor + server.drained.count descriptor
  /-- What found everybody busy was refused, or is about to be. -/
  busy : (shown turns).count (.decided descriptor .busy) =
    (shown turns).count (.refused descriptor) + server.refusals.count descriptor
  /-- What nobody takes was closed, or is about to be. -/
  dropped : (shown turns).count (.decided descriptor .dropped) =
    (shownBy Label.isDismiss turns).count (.discarded descriptor) +
      server.dismissals.count descriptor

theorem accounts_of_run {turns : List Turn} (run : Run terms turns server)
    (descriptor : Descriptor) : Accounts turns server descriptor := by
  have handed := Run.perm_handings run
  have decided := Run.decided run descriptor
  have queued := Run.queued run descriptor
  have busy := Run.busy run descriptor
  have dropped := Run.dropped run descriptor
  refine ⟨?_, decided, fun id => ?_, Run.handings_eq run, queued, busy, dropped⟩
  · -- Added up over the places, every hand-over from one place to the next cancels out.
    have taken := Run.count_handings run descriptor
    have outcomes := countP_decides (shown turns) descriptor
    have hooks := countP_consumes (shown turns) descriptor
    have discards := Run.discards run descriptor
    have all := (handed.map Prod.snd).count_eq descriptor
    rw [List.map_append, List.count_append] at all
    simp only [inFlight, List.count_append]
    omega
  · have own := (handed.filter fun entry => entry.1 = id).map Prod.snd |>.count_eq descriptor
    have taken := Run.handings_eq run id
    rw [List.filter_append, List.map_append, List.count_append] at own
    simp only [ofWorker] at taken ⊢
    rw [← own, taken, List.count_append]

/-- With one worker and room for one connection that waits: the first of three connections was
exchanged, the second waits, and the third was refused. -/
theorem accounts_of_three_connections :
    ∃ turns server,
      Run { options := { maxWorkers := 1, maxPending := 1 } } turns server ∧
      shown turns = [.listened true, .startAnswered .started, .arrived ⟨.network, 7⟩,
        .decided ⟨.network, 7⟩ (.spawned 1), .hired 1, .assigned 1 ⟨.network, 7⟩,
        .exchanged 1 ⟨.network, 7⟩ true, .arrived ⟨.network, 8⟩, .decided ⟨.network, 8⟩ .queued,
        .arrived ⟨.network, 9⟩, .decided ⟨.network, 9⟩ .busy, .refused ⟨.network, 9⟩] ∧
      server.inFlight = [⟨.network, 8⟩] ∧ Accounts turns server ⟨.network, 8⟩ := by
  obtain ⟨turns, run, _, shows⟩ := path_iff_run?.2
    (show run? { options := { maxWorkers := 1, maxPending := 1 } } {}
      [.start true, .arrive ⟨.network, 7⟩, .decide ⟨.network, 7⟩ true, .take 1, .exchange 1 true,
        .arrive ⟨.network, 8⟩, .decide ⟨.network, 8⟩ true, .arrive ⟨.network, 9⟩,
        .decide ⟨.network, 9⟩ true, .refuse ⟨.network, 9⟩] = some (_, _) from rfl)
  exact ⟨turns, _, run, shows, rfl, accounts_of_run run _⟩

end Server

end ConnectionPool
