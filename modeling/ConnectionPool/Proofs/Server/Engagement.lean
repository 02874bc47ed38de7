import ConnectionPool.Proofs.Server.Closing
import ConnectionPool.Proofs.Server.Custody

/-!
Contract: what one turn of a server means for those around it.

A transport sees a turn by what it is asked to do: to listen or not, to exchange a descriptor, to refuse
or to close a connection, to let go of a channel. A turn asks for one such thing at most. Between two
of them a worker that has taken a connection stays where it is, and the connections in flight stay in
flight.

Owns:
- `Server.Effect`, what a turn asks of those around the server;
- `Step.custody`, `Step.took` and `Step.hasChannel`, what stays as it is otherwise.

Does not own: the transport, its table and its accepting thread.
-/

namespace ConnectionPool

/-! ## What was shown -/

/-- The transport is asked for something by which its table, its streams or its accepting thread
change. -/
def Event.isEffect : Event → Bool
  | .listened succeeded => succeeded
  | .unlistened => true
  | .exchanged .. => true
  | .skipped .. => true
  | .ended .. => true
  | .refused _ => true
  | .discarded _ => true
  | _ => false

/-! ## Where a worker stands -/

namespace Pool

/-- The worker of a number stands at this stage. -/
def InStage (pool : Pool) (id : WorkerId) (stage : Stage) : Prop :=
  pool.Has id fun worker => worker.stage = stage

/-- The worker of a number has a channel for the connection. -/
def HasChannel (pool : Pool) (id : WorkerId) (descriptor : Descriptor) : Prop :=
  pool.InStage id (.opened descriptor) ∨ pool.InStage id (.serving descriptor)

variable {pool : Pool} {id other : WorkerId} {stage : Stage} {descriptor : Descriptor}

theorem InStage.unique {stage' : Stage} (here : pool.InStage id stage)
    (there : pool.InStage id stage') : stage = stage' := by
  obtain ⟨worker, found, rfl⟩ := here
  obtain ⟨_, found', rfl⟩ := there
  cases found.symm.trans found'
  rfl

theorem mem_of_worker? {worker : Worker} (found : pool.worker? id = some worker) :
    worker ∈ pool.workers := by
  cases id with
  | zero => cases found
  | succ position => exact List.mem_of_getElem? found

theorem mem_hands_of_took {worker : Worker} (stage : worker.stage = .exchanging descriptor) :
    descriptor ∈ worker.hands := by
  rw [Worker.hands, stage]
  exact List.mem_append_left _ (List.mem_singleton_self _)

theorem Took.mem_hands (took : pool.Took id descriptor) : descriptor ∈ pool.hands := by
  obtain ⟨worker, found, stage⟩ := took
  exact List.mem_flatMap.2 ⟨worker, mem_of_worker? found, mem_hands_of_took stage⟩

theorem Took.unique {descriptor' : Descriptor} (took : pool.Took id descriptor)
    (took' : pool.Took id descriptor') : descriptor = descriptor' :=
  Stage.exchanging.inj (InStage.unique took took')

/-- Two workers that took the same connection have it twice in their hands. -/
theorem Took.two_le_count_hands (took : pool.Took id descriptor)
    (took' : pool.Took other descriptor) (different : id ≠ other) :
    2 ≤ pool.hands.count descriptor := by
  obtain ⟨worker, found, stage⟩ := took
  let idle : Worker := { worker with assignment := none, stage := .waiting }
  have emptied := count_hands_setWorker found idle descriptor
  have own : 0 < worker.hands.count descriptor :=
    List.count_pos_iff.2 (mem_hands_of_took stage)
  have still : (pool.setWorker idle id).Took other descriptor :=
    Has.setWorker took' found rfl fun _ same => absurd same different
  have others : 0 < (pool.setWorker idle id).hands.count descriptor :=
    List.count_pos_iff.2 still.mem_hands
  have none : idle.hands.count descriptor = 0 := rfl
  omega

end Pool

namespace Server

variable {terms : Terms} {server next : Server} {label : Label} {events : List Event}
  {id : WorkerId} {descriptor : Descriptor} {stage : Stage}

theorem mem_inFlight_of_took (took : server.pool.Took id descriptor) :
    descriptor ∈ server.inFlight := by
  have inHands := took.mem_hands
  simp [inFlight, inHands]

theorem mem_inFlight_of_refusal (waits : descriptor ∈ server.refusals) :
    descriptor ∈ server.inFlight := by
  simp [inFlight, waits]

theorem mem_inFlight_of_waits (waits : descriptor ∈ server.dismissals ∨ descriptor ∈ server.drained) :
    descriptor ∈ server.inFlight := by
  rcases waits with dismissed | left
  · simp [inFlight, dismissed]
  · simp [inFlight, left]

/-- A worker that has taken a connection stays where it is until its own thread moves it. -/
theorem Step.inStage (step : Step terms server label events next)
    (here : server.pool.InStage id stage) (engaged : stage.isEngaged = true) :
    next.pool.InStage id stage ∨ label.thread? = some id := by
  cases step with
  | started => exact .inl (here.floored.of_workers rfl)
  | cannotListen => exact .inl here.floored
  | signal => exact .inl (here.updateWorker fun worker stands => by rwa [Worker.signal_stage])
  | claim _ _ found | sweepClaim _ _ _ found =>
      exact .inl (here.setWorker found rfl fun stands _ => stands)
  | reused waits running top member found =>
      refine .inl (here.setWorker found rfl fun stands _ => ?_)
      subst stands
      rw [Worker.assign_stage, if_neg]
      intro unstarted
      rw [unstarted] at engaged
      cases engaged
  | spawned =>
      exact .inl (here.of_worker? (by rw [Pool.worker?_employ, if_neg here.ne_nextId]))
  | unspawned => exact .inl (here.hire terms)
  | @take other _ _ found | @leave other _ found | @expire other _ found | @retire other _ found
  | @stay other _ found | @exchange other _ _ _ found | @beginSession other _ _ found
  | @skipSession other _ _ found | @finish other _ _ _ found | @handOver other _ _ _ _ found
  | @becomeFree other _ _ found | @comeBack other _ _ found =>
      by_cases same : other = id
      · exact .inr (congrArg some same)
      · exact .inl (here.setWorker found rfl fun _ same' => absurd same' same)
  | _ => exact .inl (here.of_workers rfl)

/-- The own turn of a worker that has taken a connection moves that connection on. -/
theorem Step.own (step : Step terms server label events next)
    (here : server.pool.InStage id stage) (own : label.thread? = some id) :
    (∀ descriptor, stage = .exchanging descriptor →
      ∃ granted, events = [.exchanged id descriptor granted]) ∧
    (∀ descriptor, stage = .opened descriptor →
      next.pool.InStage id (.serving descriptor) ∨ events = [.skipped id descriptor]) ∧
    ∀ descriptor, stage = .serving descriptor → ∃ ending, events = [.ended id descriptor ending] := by
  obtain ⟨worker, present, rfl⟩ := here
  cases step with
  | take found stands | leave found stands | expire found stands | retire found stands
  | stay found stands | handOver found stands | becomeFree found stands
  | comeBack found stands =>
      cases own
      cases found.symm.trans present
      simp [stands]
  | exchange found stands | skipSession found stands | finish found stands =>
      cases own
      cases found.symm.trans present
      simp [stands]
  | beginSession found stands =>
      cases own
      cases found.symm.trans present
      refine ⟨by simp [stands], fun descriptor same => .inl ?_, by simp [stands]⟩
      obtain rfl : _ = descriptor := Stage.opened.inj (stands.symm.trans same)
      exact ⟨_, Pool.worker?_setWorker_self _ found rfl, rfl⟩
  | _ => cases own

/-- A worker that took a connection exchanges it, and does nothing before that. -/
theorem Step.took (step : Step terms server label events next)
    (took : server.pool.Took id descriptor) :
    next.pool.Took id descriptor ∨ ∃ granted, events = [.exchanged id descriptor granted] := by
  rcases step.inStage took rfl with still | own
  · exact .inl still
  · exact .inr ((step.own took own).1 descriptor rfl)

/-- A worker has a channel until it lets go of it. -/
theorem Step.hasChannel (step : Step terms server label events next)
    (has : server.pool.HasChannel id descriptor) :
    next.pool.HasChannel id descriptor ∨ events = [.skipped id descriptor] ∨
      ∃ ending, events = [.ended id descriptor ending] := by
  rcases has with opened | serving
  · rcases step.inStage opened rfl with still | own
    · exact .inl (.inl still)
    · rcases (step.own opened own).2.1 descriptor rfl with began | skipped
      · exact .inl (.inr began)
      · exact .inr (.inl skipped)
  · rcases step.inStage serving rfl with still | own
    · exact .inl (.inr still)
    · exact .inr (.inr ((step.own serving own).2.2 descriptor rfl))

/-! ## Connections in flight -/

/-- A turn adds the connections that arrive to those in flight, and takes out those that a hook
consumes. -/
theorem Step.custody (step : Step terms server label events next) (sound : Sound terms server)
    (descriptor : Descriptor) :
    events.count (.arrived descriptor) + server.inFlight.count descriptor =
      events.countP (Event.consumes descriptor) + next.inFlight.count descriptor := by
  have arrivals := step.arrivals sound descriptor
  have refusals := step.refusals sound descriptor
  have dismissals := step.dismissals sound descriptor
  have waiting := step.waiting sound descriptor
  have discards := step.discards sound descriptor
  have carried := (step.carried sound).all descriptor
  have outcomes := countP_decides events descriptor
  have hooks := countP_consumes events descriptor
  have handed := congrArg (fun entries => (entries.map Prod.snd).count descriptor)
    (step.handings_eq sound)
  simp only [List.map_append, List.count_append] at handed
  simp only [inFlight, List.count_append]
  omega

/-- The connections that are with the threads which told of them. -/
def entrusted (server : Server) : List Descriptor :=
  server.arrivals ++ server.refusals ++ server.dismissals

theorem mem_entrusted : descriptor ∈ server.entrusted ↔
    descriptor ∈ server.arrivals ∨ descriptor ∈ server.refusals ∨
      descriptor ∈ server.dismissals := by
  rw [entrusted, List.mem_append, List.mem_append, or_assoc]

/-- Nobody has a connection in hands while the server is stopped, and none waits. -/
theorem Sound.count_inFlight_of_stopped (sound : Sound terms server)
    (stopped : server.pool.lifecycle = .stopped) (descriptor : Descriptor) :
    server.inFlight.count descriptor =
      server.entrusted.count descriptor + server.drained.count descriptor := by
  have noHands : server.pool.hands = [] := by
    refine List.flatMap_eq_nil_iff.2 fun worker member => ?_
    obtain ⟨position, here⟩ := List.mem_iff_getElem?.1 member
    have found : server.pool.worker? (position + 1) = some worker := here
    obtain ⟨empty, inactive⟩ := sound.resting stopped found
    refine hands_eq_nil empty fun descriptor stage => ?_
    rw [stage] at inactive
    cases inactive
  have noQueue := sound.roster.stopped_queue stopped
  simp only [inFlight, entrusted, noHands, noQueue, List.count_append, List.count_nil]
  omega

/-- Only an arrival entrusts a connection to a thread. -/
theorem Step.entrusted_subset (step : Step terms server label events next)
    (other : ∀ descriptor, label ≠ .arrive descriptor) : next.entrusted ⊆ server.entrusted := by
  intro descriptor member
  rw [mem_entrusted] at member ⊢
  cases step with
  | arrive => exact absurd rfl (other _)
  | refuse => exact member.imp_right (.imp_left List.mem_of_mem_erase)
  | dismiss => exact member.imp_right (.imp_right List.mem_of_mem_erase)
  | reused | spawned | queued => exact member.imp_left List.mem_of_mem_erase
  | busy waits =>
      rcases member with arrived | refused | dismissed
      · exact .inl (List.mem_of_mem_erase arrived)
      · rcases List.mem_append.1 refused with before | now
        · exact .inr (.inl before)
        · exact .inl (List.mem_singleton.1 now ▸ waits)
      · exact .inr (.inr dismissed)
  | dropped waits | unusable waits | misplaced waits | unspawned waits =>
      rcases member with arrived | refused | dismissed
      · exact .inl (List.mem_of_mem_erase arrived)
      · exact .inr (.inl refused)
      · rcases List.mem_append.1 dismissed with before | now
        · exact .inr (.inr before)
        · exact .inl (List.mem_singleton.1 now ▸ waits)
  | _ => exact member

/-- A connection stays to be refused until it is. -/
theorem Step.mem_refusals (step : Step terms server label events next)
    (waits : descriptor ∈ server.refusals) (other : label ≠ .refuse descriptor) :
    descriptor ∈ next.refusals := by
  cases step with
  | busy => exact List.mem_append_left _ waits
  | refuse =>
      refine (List.mem_erase_of_ne ?_).2 waits
      rintro rfl
      exact other rfl
  | _ => exact waits

/-! ## Listening -/

/-- The transport listens: the server runs, or the stop that ends the run has not come to that yet. -/
def Listens (server : Server) : Prop :=
  server.pool.lifecycle = .running ∨
    ∃ closing, server.closing = some closing ∧ closing.stage = .unlistening

theorem Sound.not_listens (sound : Sound terms server)
    (stopped : server.pool.lifecycle = .stopped) : ¬ server.Listens := by
  rintro (running | ⟨closing, active, _⟩)
  · cases running.symm.trans stopped
  · cases (sound.stopping_of_closing active).symm.trans stopped

theorem Sound.not_listens_of_stage {closing : Closing} (sound : Sound terms server)
    (active : server.closing = some closing) (other : closing.stage ≠ .unlistening) :
    ¬ server.Listens := by
  rintro (running | ⟨closing', active', stage⟩)
  · cases running.symm.trans (sound.stopping_of_closing active)
  · cases active.symm.trans active'
    exact other stage

/-- The transport listens until the stop has told it not to. -/
theorem Step.listens (step : Step terms server label events next) (sound : Sound terms server)
    (listens : server.Listens) (other : label ≠ .unlisten) : next.Listens := by
  cases step with
  | started => exact .inl rfl
  | cannotListen stopped => exact absurd listens (sound.not_listens stopped)
  | beginStop => exact .inr ⟨_, rfl, rfl⟩
  | unlisten => exact absurd rfl other
  | collect active stage | signal active stage | claim active stage | joined active stage
  | settle active stage =>
      exact absurd listens (sound.not_listens_of_stage active (by rw [stage]; nofun))
  | _ => simpa [Listens] using listens

/-! ## What a turn asks for -/

def effects (events : List Event) : List Event :=
  events.filter Event.isEffect

/-- What a turn may ask for, and when. -/
inductive Effect (server next : Server) (label : Label) : List Event → Prop where
  | none : Effect server next label []
  | listened (own : label = .start true) (stopped : server.pool.lifecycle = .stopped)
      (running : next.pool.lifecycle = .running) : Effect server next label [.listened true]
  | unlistened (own : label = .unlisten) : Effect server next label [.unlistened]
  | exchanged {id : WorkerId} {descriptor : Descriptor} {granted : Bool}
      (took : server.pool.Took id descriptor)
      (opened : granted = true → next.pool.HasChannel id descriptor) :
      Effect server next label [.exchanged id descriptor granted]
  | skipped {id : WorkerId} {descriptor : Descriptor} :
      Effect server next label [.skipped id descriptor]
  | ended {id : WorkerId} {descriptor : Descriptor} {ending : SessionEnd} :
      Effect server next label [.ended id descriptor ending]
  | refused {descriptor : Descriptor} (own : label = .refuse descriptor) :
      Effect server next label [.refused descriptor]
  | discarded {descriptor : Descriptor}
      (waits : descriptor ∈ server.dismissals ∨ descriptor ∈ server.drained) :
      Effect server next label [.discarded descriptor]

theorem effects_startEvents {pool : Pool} {listens : Bool} {answer : StartAnswer}
    (empty : pool.queue = []) :
    effects (startEvents terms pool listens ++ [.startAnswered answer]) =
      if listens then [.listened true] else [] := by
  have hired : (hiredEvents { pool with queue := [] } (floored terms pool)).filter
      Event.isEffect = [] := by
    refine List.filter_eq_nil_iff.2 fun event member => ?_
    obtain ⟨_, _, rfl⟩ := List.mem_map.1 member
    nofun
  cases listens <;> simp [effects, startEvents, empty, hired, List.filter_cons, Event.isEffect]

/-- A turn asks for one thing at most. -/
theorem Step.effect (step : Step terms server label events next) (sound : Sound terms server) :
    Effect server next label (effects events) := by
  cases step with
  | started stopped =>
      rw [effects_startEvents (sound.roster.stopped_queue stopped)]
      exact .listened rfl stopped rfl
  | cannotListen stopped =>
      rw [effects_startEvents (sound.roster.stopped_queue stopped)]
      exact .none
  | unlisten => exact .unlistened rfl
  | exchange found stage =>
      refine .exchanged ⟨_, found, stage⟩ fun granted => ?_
      exact .inl ⟨_, Pool.worker?_setWorker_self _ found rfl, by simp [granted]⟩
  | skipSession => exact .skipped
  | finish => exact .ended
  | refuse => exact .refused rfl
  | dismiss waits => exact .discarded (.inl waits)
  | clear found =>
      refine .discarded (.inr (List.mem_flatMap.2 ⟨_, List.mem_of_getElem? found, ?_⟩))
      exact List.mem_cons_self
  | _ => exact .none

theorem Step.effects_refuse (step : Step terms server (.refuse descriptor) events next) :
    effects events = [.refused descriptor] := by
  cases step
  rfl

theorem Step.effects_unlisten (step : Step terms server .unlisten events next) :
    effects events = [.unlistened] := by
  cases step
  rfl

theorem countP_consumes_effects (events : List Event) (descriptor : Descriptor) :
    (effects events).countP (Event.consumes descriptor) =
      events.countP (Event.consumes descriptor) := by
  rw [effects, List.countP_filter]
  refine List.countP_congr fun event _ => ?_
  cases event <;> simp [Event.consumes, Event.isEffect]

end Server

end ConnectionPool
