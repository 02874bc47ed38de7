import ConnectionPool.Proofs.Server.Sound

/-!
Contract: a worker exchanges the connections that it was handed, each once and in the order in which
it got them.

A connection is in the hands of a worker from the assignment until its descriptor was exchanged for
a channel: first in the slot, then with the thread. What one turn adds to the hands of a worker and
takes out of them is what that turn shows.

Owns:
- the readers `handings` and `exchanges` of what was shown;
- `Worker.hands`, `Pool.inHands` and `Pool.hands`, and what every turn makes of them.

Does not own: how a connection comes to be handed to a worker.
-/

namespace ConnectionPool

/-! ## What was shown -/

namespace Event

def handing? : Event → Option (WorkerId × Descriptor)
  | .assigned id descriptor => some (id, descriptor)
  | _ => none

/-- A worker exchanged a descriptor, whether or not there was a channel for it. -/
def exchange? : Event → Option (WorkerId × Descriptor)
  | .exchanged id descriptor _ => some (id, descriptor)
  | _ => none

end Event

/-- What workers were handed, in the order of the assignments. -/
def handings (events : List Event) : List (WorkerId × Descriptor) :=
  events.filterMap Event.handing?

/-- What workers exchanged, in the order of the exchanges. -/
def exchanges (events : List Event) : List (WorkerId × Descriptor) :=
  events.filterMap Event.exchange?

def ofWorker (id : WorkerId) (entries : List (WorkerId × Descriptor)) : List Descriptor :=
  (entries.filter fun entry => entry.1 = id).map Prod.snd

@[simp] theorem handings_append (front back : List Event) :
    handings (front ++ back) = handings front ++ handings back :=
  List.filterMap_append

@[simp] theorem exchanges_append (front back : List Event) :
    exchanges (front ++ back) = exchanges front ++ exchanges back :=
  List.filterMap_append

@[simp] theorem ofWorker_append (id : WorkerId) (front back : List (WorkerId × Descriptor)) :
    ofWorker id (front ++ back) = ofWorker id front ++ ofWorker id back := by
  simp [ofWorker]

theorem ofWorker_of_own {id : WorkerId} {entries : List (WorkerId × Descriptor)}
    (own : ∀ entry ∈ entries, entry.1 = id) : ofWorker id entries = entries.map Prod.snd := by
  rw [ofWorker, List.filter_eq_self.2 (by simpa using own)]

theorem ofWorker_of_other {id other : WorkerId} {entries : List (WorkerId × Descriptor)}
    (own : ∀ entry ∈ entries, entry.1 = id) (different : other ≠ id) :
    ofWorker other entries = [] := by
  rw [ofWorker, List.map_eq_nil_iff, List.filter_eq_nil_iff]
  intro entry member same
  exact different ((of_decide_eq_true same).symm.trans (own entry member))

/-! ## Parts of a list -/

section Parts
variable {α : Type} {items : List α} {position : Nat} {item : α}

/-- Replacing an item replaces its part. -/
theorem count_flatMap_set (parts : α → List Descriptor) (found : items[position]? = some item)
    (changed : α) (descriptor : Descriptor) :
    ((items.set position changed).flatMap parts).count descriptor + (parts item).count descriptor =
      (items.flatMap parts).count descriptor + (parts changed).count descriptor := by
  obtain ⟨inside, here⟩ := List.getElem?_eq_some_iff.1 found
  have split : items = items.take position ++ item :: items.drop (position + 1) := by
    rw [← here, ← List.drop_eq_getElem_cons inside, List.take_append_drop]
  rw [List.set_eq_take_append_cons_drop, if_pos inside]
  conv => rhs; rw [split]
  simp only [List.flatMap_append, List.flatMap_cons, List.count_append]
  omega

theorem count_flatMap_eraseIdx (parts : α → List Descriptor) (found : items[position]? = some item)
    (descriptor : Descriptor) :
    ((items.eraseIdx position).flatMap parts).count descriptor + (parts item).count descriptor =
      (items.flatMap parts).count descriptor := by
  obtain ⟨inside, here⟩ := List.getElem?_eq_some_iff.1 found
  have split : items = items.take position ++ item :: items.drop (position + 1) := by
    rw [← here, ← List.drop_eq_getElem_cons inside, List.take_append_drop]
  rw [List.eraseIdx_eq_take_drop_succ]
  conv => rhs; rw [split]
  simp only [List.flatMap_append, List.flatMap_cons, List.count_append]
  omega

end Parts

/-! ## Hands -/

/-- The connections that the worker was handed and has not exchanged, the older one in front. -/
def Worker.hands (worker : Worker) : List Descriptor :=
  (match worker.stage with
    | .exchanging descriptor => [descriptor]
    | _ => []) ++ worker.assignment.toList

namespace Pool

/-- The connections in the hands of the worker of a number. -/
def inHands (pool : Pool) (id : WorkerId) : List Descriptor :=
  match pool.worker? id with
  | none => []
  | some worker => worker.hands

def hands (pool : Pool) : List Descriptor :=
  pool.workers.flatMap Worker.hands

variable {pool base : Pool} {worker changed : Worker} {id other : WorkerId}

theorem inHands_of_worker? (found : pool.worker? id = some worker) :
    pool.inHands id = worker.hands := by
  rw [inHands, found]

theorem inHands_of_workers (same : base.workers = pool.workers) (id : WorkerId) :
    base.inHands id = pool.inHands id := by
  rw [inHands, inHands, worker?_of_workers same]

theorem inHands_hire (terms : Terms) (pool : Pool) (id : WorkerId) :
    (pool.hire terms).inHands id = pool.inHands id := by
  by_cases same : id = pool.nextId
  · subst same
    rw [inHands, inHands, worker?_hire, if_pos rfl, worker?_nextId]
    rfl
  · rw [inHands, inHands, worker?_hire, if_neg same]

theorem hands_hire (terms : Terms) (pool : Pool) : (pool.hire terms).hands = pool.hands := by
  rw [hands, hire, List.flatMap_append]
  exact List.append_nil _

theorem inHands_hireFree (terms : Terms) (count : Nat) (pool : Pool) (id : WorkerId) :
    (hireFree terms count pool).inHands id = pool.inHands id := by
  induction count generalizing pool with
  | zero => rfl
  | succ count inductionHypothesis =>
      exact (inductionHypothesis _).trans (inHands_hire terms pool id)

theorem hands_hireFree (terms : Terms) (count : Nat) (pool : Pool) :
    (hireFree terms count pool).hands = pool.hands := by
  induction count generalizing pool with
  | zero => rfl
  | succ count inductionHypothesis => exact (inductionHypothesis _).trans (hands_hire terms pool)

theorem count_hands_setWorker (found : pool.worker? id = some worker) (changed : Worker)
    (descriptor : Descriptor) :
    (pool.setWorker changed id).hands.count descriptor + worker.hands.count descriptor =
      pool.hands.count descriptor + changed.hands.count descriptor := by
  cases id with
  | zero => cases found
  | succ position => exact count_flatMap_set Worker.hands found changed descriptor

end Pool

/-! ## One turn -/

/-- What is added to the hands of workers and taken out of them is what these events show. -/
structure Carried (before after : Pool) (events : List Event) : Prop where
  /-- Each worker exchanges what it was handed, in that order. -/
  each : ∀ id, before.inHands id ++ ofWorker id (handings events) =
    ofWorker id (exchanges events) ++ after.inHands id
  all : ∀ descriptor, before.hands.count descriptor +
      ((handings events).map Prod.snd).count descriptor =
    ((exchanges events).map Prod.snd).count descriptor + after.hands.count descriptor

namespace Carried

variable {before after base : Pool} {events : List Event} {worker changed : Worker} {id : WorkerId}

theorem of_quiet (noHanding : handings events = []) (noExchange : exchanges events = [])
    (same : ∀ id, after.inHands id = before.inHands id) (all : after.hands = before.hands) :
    Carried before after events where
  each := fun id => by simp [noHanding, noExchange, same, ofWorker]
  all := fun descriptor => by simp [noHanding, noExchange, all]

theorem of_workers (noHanding : handings events = []) (noExchange : exchanges events = [])
    (same : after.workers = before.workers) : Carried before after events :=
  of_quiet noHanding noExchange (Pool.inHands_of_workers same) (by rw [Pool.hands, same]; rfl)

/-- Only one worker moves. -/
theorem setWorker (found : before.worker? id = some worker)
    (workers : base.workers = before.workers) (handedOwn : ∀ entry ∈ handings events, entry.1 = id)
    (exchangedOwn : ∀ entry ∈ exchanges events, entry.1 = id)
    (carried : worker.hands ++ (handings events).map Prod.snd =
      (exchanges events).map Prod.snd ++ changed.hands) :
    Carried before (base.setWorker changed id) events where
  each := fun other => by
    by_cases same : other = id
    · subst same
      rw [ofWorker_of_own handedOwn, ofWorker_of_own exchangedOwn, Pool.inHands_of_worker? found,
        Pool.inHands_of_worker? (Pool.worker?_setWorker_self changed found workers), carried]
    · rw [ofWorker_of_other handedOwn same, ofWorker_of_other exchangedOwn same, List.append_nil,
        List.nil_append, Pool.inHands, Pool.inHands, Pool.worker?_setWorker, if_neg same,
        Pool.worker?_of_workers workers]
  all := fun descriptor => by
    have present : base.worker? id = some worker :=
      (Pool.worker?_of_workers workers id).trans found
    have counted := Pool.count_hands_setWorker present changed descriptor
    have moved := congrArg (List.count descriptor) carried
    have same : base.hands = before.hands := by
      rw [Pool.hands, workers]
      rfl
    rw [same] at counted
    rw [List.count_append, List.count_append] at moved
    omega

/-- A worker moves, and nothing is handed out or exchanged. -/
theorem setWorker_of_quiet (found : before.worker? id = some worker)
    (workers : base.workers = before.workers) (noHanding : handings events = [])
    (noExchange : exchanges events = []) (same : changed.hands = worker.hands) :
    Carried before (base.setWorker changed id) events :=
  setWorker found workers (by simp [noHanding]) (by simp [noExchange])
    (by simp [noHanding, noExchange, same])

/-- Whoever was just hired has empty hands. -/
theorem of_hire (terms : Terms) (carried : Carried (before.hire terms) after events) :
    Carried before after events where
  each := fun id => by
    have each := carried.each id
    rwa [Pool.inHands_hire] at each
  all := fun descriptor => by
    have all := carried.all descriptor
    rwa [Pool.hands_hire] at all

end Carried

namespace Server

variable {terms : Terms} {server next : Server} {label : Label} {events : List Event}

theorem carried_floored {pool after : Pool} (noHanding : handings events = [])
    (noExchange : exchanges events = []) (workers : after.workers = (floored terms pool).workers) :
    Carried pool after events := by
  refine .of_quiet noHanding noExchange (fun id => ?_) ?_
  · exact (Pool.inHands_of_workers workers id).trans (Pool.inHands_hireFree terms _ _ id)
  · rw [Pool.hands, workers]
    exact Pool.hands_hireFree terms _ _

theorem handings_startEvents {pool : Pool} {listens : Bool} {answer : StartAnswer}
    (empty : pool.queue = []) :
    handings (startEvents terms pool listens ++ [.startAnswered answer]) = [] :=
  filterMap_startEvents empty _ fun event => by cases event <;> simp [ofStart, Event.handing?]

theorem exchanges_startEvents {pool : Pool} {listens : Bool} {answer : StartAnswer}
    (empty : pool.queue = []) :
    exchanges (startEvents terms pool listens ++ [.startAnswered answer]) = [] :=
  filterMap_startEvents empty _ fun event => by cases event <;> simp [ofStart, Event.exchange?]

/-- A worker that nobody has handed a connection has empty hands while it is not engaged. -/
theorem hands_eq_nil {worker : Worker} (empty : worker.assignment = none)
    (idle : ∀ descriptor, worker.stage ≠ .exchanging descriptor) : worker.hands = [] := by
  unfold Worker.hands
  rw [empty]
  split
  · next descriptor stage => exact absurd stage (idle descriptor)
  · rfl

theorem hands_assign {worker : Worker} (descriptor : Descriptor)
    (idle : ∀ descriptor, worker.stage ≠ .exchanging descriptor) :
    (worker.assign descriptor).hands = [descriptor] := by
  unfold Worker.hands
  rw [Worker.assign_assignment, Worker.assign_stage]
  split
  · next taken stage =>
      split at stage
      · cases stage
      · exact absurd stage (idle taken)
  · rfl

/-- Every turn shows what it adds to the hands of workers and takes out of them. -/
theorem Step.carried (step : Step terms server label events next) (sound : Sound terms server) :
    Carried server.pool next.pool events := by
  cases step with
  | started stopped | cannotListen stopped =>
      have empty : server.pool.queue = [] := sound.roster.stopped_queue stopped
      exact carried_floored (handings_startEvents empty) (exchanges_startEvents empty) rfl
  | @signal id closing =>
      show Carried server.pool (server.pool.updateWorker id (Worker.signal closing.mode)) []
      unfold Pool.updateWorker
      split
      · exact .of_workers rfl rfl rfl
      · next worker found =>
          refine .setWorker_of_quiet found rfl rfl rfl ?_
          rw [Worker.hands, Worker.signal_stage, Worker.signal_assignment]
          rfl
  | claim _ _ found | sweepClaim _ _ _ found => exact .setWorker_of_quiet found rfl rfl rfl rfl
  | @reused descriptor starts id free worker waits running top member found =>
      have idle := (sound.duty id worker found).idle (by rw [top]; exact List.mem_cons_self)
      have notTaken : ∀ taken, worker.stage ≠ .exchanging taken := by
        intro taken stage
        rw [stage] at idle
        cases idle.2
      refine .setWorker found rfl (by simp [handings, List.filterMap_cons, Event.handing?])
        (by simp [exchanges, List.filterMap_cons, Event.exchange?]) ?_
      rw [hands_eq_nil idle.1 notTaken, hands_assign descriptor notTaken]
      rfl
  | @spawned descriptor waits running none room =>
      have found := Pool.worker?_hire terms server.pool server.pool.nextId
      rw [if_pos rfl] at found
      refine .of_hire terms ?_
      refine .setWorker found rfl (by simp [handings, List.filterMap_cons, Event.handing?])
        (by simp [exchanges, List.filterMap_cons, Event.exchange?]) ?_
      rw [hands_assign descriptor (by simp [Pool.newcomer])]
      rfl
  | unspawned => exact .of_hire terms (.of_workers rfl rfl rfl)
  | take found stage full =>
      exact .setWorker_of_quiet found rfl rfl rfl (by simp [Worker.hands, stage, full])
  | leave found stage | expire found stage | retire found stage | stay found stage
  | beginSession found stage | skipSession found stage | finish found stage
  | becomeFree found stage | comeBack found stage =>
      exact .setWorker_of_quiet found rfl rfl rfl (by simp [Worker.hands, stage])
  | @exchange id worker descriptor granted found stage =>
      refine .setWorker found rfl (by simp [handings, Event.handing?])
        (by simp [exchanges, Event.exchange?]) ?_
      cases granted <;>
        simp [Worker.hands, stage, handings, exchanges, Event.handing?, Event.exchange?]
  | @handOver id worker descriptor queue starts found stage running member first =>
      have empty := (sound.duty id worker found).empty_of_stage (by simp [stage]) (by simp [stage])
      refine .setWorker found rfl (by simp [handings, List.filterMap_cons, Event.handing?])
        (by simp [exchanges, List.filterMap_cons, Event.exchange?]) ?_
      rw [hands_eq_nil empty (by simp [stage])]
      rfl
  | _ => exact .of_workers rfl rfl rfl

/-! ## A whole run -/

/-- Each worker has exchanged what it was handed, in that order, but for what is in its hands. -/
theorem Run.handings_eq {turns : List Turn} (run : Run terms turns server) (id : WorkerId) :
    ofWorker id (handings (shown turns)) =
      ofWorker id (exchanges (shown turns)) ++ server.pool.inHands id := by
  induction run with
  | refl => cases id <;> rfl
  | @turn turns server next label events before step inductionHypothesis =>
      have carried := (step.carried (Run.sound before)).each id
      simp only [shown_append, shown_singleton, handings_append, exchanges_append, ofWorker_append]
      rw [inductionHypothesis, List.append_assoc, carried, List.append_assoc]

theorem Run.count_handings {turns : List Turn} (run : Run terms turns server)
    (descriptor : Descriptor) :
    ((handings (shown turns)).map Prod.snd).count descriptor =
      ((exchanges (shown turns)).map Prod.snd).count descriptor +
        server.pool.hands.count descriptor := by
  induction run with
  | refl => rfl
  | @turn turns server next label events before step inductionHypothesis =>
      have carried := (step.carried (Run.sound before)).all descriptor
      simp only [shown_append, shown_singleton, handings_append, exchanges_append, List.map_append,
        List.count_append]
      omega

end Server

end ConnectionPool
