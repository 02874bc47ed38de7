import ConnectionPool.Proofs.Lookup
import ConnectionPool.Proofs.Server.Collections
import ConnectionPool.Proofs.Server.Closing
import ConnectionPool.Proofs.Server.Hiring
import Mathlib.Algebra.GroupWithZero.Nat
import Mathlib.Data.List.Perm.Basic

/-!
Contract: every worker that was ever hired is in one place.

On a system that starts threads, a worker stays in service until it retires or a stop lets it go. A
retired worker stays with the pool until a sweep takes it over or a stop lets it go, whichever comes
first. What the sweeps and the stops took is no part of the server any more once they have answered;
the trail of a run, which keeps the server before every turn, still tells it.

Owns:
- the `trail` of a run, and what sweeps and stops took according to it;
- `Server.AccountedFor` and its proof for every run.

Does not own: what becomes of the connections; see `Server.Accounts`.
-/

namespace ConnectionPool

/-! ## What was shown -/

namespace Event

/-- The worker that was allowed to retire. -/
def retired? : Event → Option WorkerId
  | .retirementAsked id true => some id
  | _ => none

/-- What a sweep answers. -/
def swept? : Event → Option Nat
  | .sweepAnswered _ count => some count
  | _ => none

/-- The worker that an event is about. -/
def worker? : Event → Option WorkerId
  | .decided _ (.reused id) => some id
  | .decided _ (.spawned id) => some id
  | .hired id => some id
  | .assigned id _ => some id
  | .exchanged id _ _ => some id
  | .began id _ _ => some id
  | .ended id _ _ => some id
  | .skipped id _ => some id
  | .reported id => some id
  | .freed id => some id
  | .retirementAsked id _ => some id
  | .left id => some id
  | _ => none

end Event

/-- The workers that retired, in the order in which they did. -/
def retirements (events : List Event) : List WorkerId :=
  events.filterMap Event.retired?

/-- What the sweeps answered, in the order of the answers. -/
def sweepAnswers (events : List Event) : List Nat :=
  events.filterMap Event.swept?

@[simp] theorem retirements_append (front back : List Event) :
    retirements (front ++ back) = retirements front ++ retirements back :=
  List.filterMap_append ..

@[simp] theorem sweepAnswers_append (front back : List Event) :
    sweepAnswers (front ++ back) = sweepAnswers front ++ sweepAnswers back :=
  List.filterMap_append ..

/-! ## What was taken -/

/-- A turn and the server that it was taken on. -/
abbrev Occasion := Server × Label

/-- Turns taken one after another, each with the server before it, up to the first that cannot be
taken. -/
def trail (terms : Terms) : Server → List Label → List Occasion
  | _, [] => []
  | server, label :: labels =>
      (server, label) ::
        match server.step? terms label with
        | none => []
        | some (next, _) => trail terms next labels

namespace Occasion

/-- The workers that a sweep had taken over, where this turn ends it. -/
def swept? : Occasion → Option (List WorkerId)
  | (server, .endSweep position) => server.sweeps[position]?.map Sweep.held
  | _ => none

/-- The workers in service that a stop lets go in this turn. -/
def dismissed : Occasion → List WorkerId
  | (server, .settle) => server.pool.staff
  | _ => []

/-- The retired workers that a stop lets go in this turn. -/
def cleared : Occasion → List WorkerId
  | (server, .settle) => server.pool.retired
  | _ => []

end Occasion

/-- For every sweep that has answered, the workers that it had taken over. -/
def sweptAlong (occasions : List Occasion) : List (List WorkerId) :=
  occasions.filterMap Occasion.swept?

theorem sweptAlong_append_singleton (occasions : List Occasion) (occasion : Occasion) :
    sweptAlong (occasions ++ [occasion]) = sweptAlong occasions ++ occasion.swept?.toList := by
  rw [sweptAlong, List.filterMap_append]
  cases swept : occasion.swept? <;> simp [sweptAlong, swept]

def dismissedAlong (occasions : List Occasion) : List WorkerId :=
  occasions.flatMap Occasion.dismissed

def clearedAlong (occasions : List Occasion) : List WorkerId :=
  occasions.flatMap Occasion.cleared

namespace Server

variable {terms : Terms} {server next first last : Server} {label : Label} {events : List Event}
  {turns : List Turn} {occasions : List Occasion} {id : WorkerId}

theorem trail_append {front back : List Label} {shows : List Event}
    (ran : first.run? terms front = some (last, shows)) :
    trail terms first (front ++ back) = trail terms first front ++ trail terms last back := by
  induction front generalizing first shows with
  | nil =>
      cases ran
      rfl
  | cons label front inductionHypothesis =>
      simp only [run?] at ran
      split at ran
      · cases ran
      · next next events taken =>
          obtain ⟨⟨_, rest⟩, ranOn, whole⟩ := Option.map_eq_some_iff.1 ran
          cases whole
          simp only [List.cons_append, trail, taken, inductionHypothesis ranOn]

/-- The trail of a path grows with it. -/
theorem Path.trail_turn (path : Path terms first turns last)
    (step : Step terms last label events next) :
    trail terms first ((turns ++ [(⟨label, events⟩ : Turn)]).map Turn.label) =
      trail terms first (turns.map Turn.label) ++ [(last, label)] := by
  have ran : first.run? terms (turns.map Turn.label) = some (last, shown turns) :=
    path_iff_run?.1 ⟨turns, path, rfl, rfl⟩
  rw [List.map_append, trail_append ran]
  simp [trail, step.step?]

/-! ## One turn -/

@[simp] theorem hireFree_retired (count : Nat) (pool : Pool) :
    (Pool.hireFree terms count pool).retired = pool.retired := by
  induction count generalizing pool with
  | zero => rfl
  | succ count inductionHypothesis => exact inductionHypothesis _

theorem hireFree_staff (count : Nat) (pool : Pool) :
    (Pool.hireFree terms count pool).staff =
      pool.staff ++ List.range' pool.nextId count := by
  induction count generalizing pool with
  | zero => simp [Pool.hireFree]
  | succ count inductionHypothesis =>
      rw [Pool.hireFree, inductionHypothesis, List.range'_succ]
      simp [Pool.recruit, Pool.nextId, Pool.hire]

theorem hireFree_free (count : Nat) (pool : Pool) :
    (Pool.hireFree terms count pool).free =
      (List.range' pool.nextId count).reverse ++ pool.free := by
  induction count generalizing pool with
  | zero => simp [Pool.hireFree]
  | succ count inductionHypothesis =>
      rw [Pool.hireFree, inductionHypothesis, List.range'_succ]
      simp [Pool.recruit, Pool.nextId, Pool.hire]

theorem floored_staff (pool : Pool) : (floored terms pool).staff = pool.staff ++
    List.range' pool.nextId (terms.options.minWorkers - pool.free.length) :=
  hireFree_staff ..

theorem floored_free (pool : Pool) : (floored terms pool).free =
    (List.range' pool.nextId (terms.options.minWorkers - pool.free.length)).reverse ++ pool.free :=
  hireFree_free ..

theorem retirements_startEvents {pool : Pool} {listens : Bool} {answer : StartAnswer}
    (empty : pool.queue = []) :
    retirements (startEvents terms pool listens ++ [.startAnswered answer]) = [] :=
  filterMap_startEvents empty _ fun event => by cases event <;> simp [ofStart, Event.retired?]

/-- Whoever was in service or is hired is in service, has retired, or was let go. -/
theorem Step.inService (step : Step terms server label events next) (sound : Sound terms server)
    (starts : label.startsThread = true) :
    (next.pool.staff ++ Occasion.dismissed (server, label) ++ retirements events).Perm
      (server.pool.staff ++ hires events) := by
  have still (staff : next.pool.staff = server.pool.staff)
      (nobodyLeaves : Occasion.dismissed (server, label) = [])
      (nobodyRetires : retirements events = []) (nobodyComes : hires events = []) :
      (next.pool.staff ++ Occasion.dismissed (server, label) ++ retirements events).Perm
        (server.pool.staff ++ hires events) := by
    rw [staff, nobodyLeaves, nobodyRetires, nobodyComes, List.append_nil]
  cases step with
  | started stopped | cannotListen stopped =>
      rw [hires_startEvents, retirements_startEvents (sound.roster.stopped_queue stopped),
        ← floored_staff]
      simp [Occasion.dismissed]
  | settle => simp [settled, Occasion.dismissed, retirements, hires]
  | @unusable descriptor starts id free waits running top member thread =>
      obtain ⟨worker, found⟩ := (sound.roster.staff_known id member).exists_worker
      cases (thread worker found).2.symm.trans starts
  | unspawned => cases starts
  | spawned =>
      rw [Pool.setWorker_staff]
      show (_ ++ [] ++ []).Perm _
      rw [List.append_nil, List.append_nil]
      exact .refl _
  | @retire id worker found stage may =>
      have member : id ∈ server.pool.staff := sound.roster.free_subset may.2.2
      rw [Pool.setWorker_staff]
      show (server.pool.staff.erase id ++ [] ++ [id]).Perm (server.pool.staff ++ [])
      rw [List.append_nil, List.append_nil]
      exact (List.perm_append_singleton _ _).trans (List.perm_cons_erase member).symm
  | signal => exact still (Pool.updateWorker_staff ..) rfl rfl rfl
  | claim | sweepClaim | take | leave | expire | stay | exchange | beginSession
  | skipSession | finish | handOver | becomeFree | comeBack | reused =>
      exact still (Pool.setWorker_staff ..) rfl rfl rfl
  | _ => exact still rfl rfl rfl rfl

/-- Whoever had retired or retires is still with the pool, was taken over, or was let go. -/
theorem Step.outOfService (step : Step terms server label events next)
    (sound : Sound terms server) :
    (next.pool.retired ++ ((Occasion.swept? (server, label)).toList ++
        next.sweeps.map Sweep.held).flatten ++ Occasion.cleared (server, label)).Perm
      (server.pool.retired ++ (server.sweeps.map Sweep.held).flatten ++ retirements events) := by
  have still (retired : next.pool.retired = server.pool.retired)
      (sweeps : next.sweeps.map Sweep.held = server.sweeps.map Sweep.held)
      (noSweep : Occasion.swept? (server, label) = none)
      (nobodyLeaves : Occasion.cleared (server, label) = [])
      (nobodyRetires : retirements events = []) :
      (next.pool.retired ++ ((Occasion.swept? (server, label)).toList ++
        next.sweeps.map Sweep.held).flatten ++ Occasion.cleared (server, label)).Perm
      (server.pool.retired ++ (server.sweeps.map Sweep.held).flatten ++ retirements events) := by
    rw [retired, sweeps, noSweep, nobodyLeaves, nobodyRetires]
    exact .refl _
  cases step with
  | started stopped | cannotListen stopped =>
      exact still (hireFree_retired ..) rfl rfl rfl
        (retirements_startEvents (sound.roster.stopped_queue stopped))
  | settle =>
      show ([] ++ ([] ++ server.sweeps.map Sweep.held).flatten ++ server.pool.retired).Perm
        (server.pool.retired ++ (server.sweeps.map Sweep.held).flatten ++ [])
      rw [List.nil_append, List.nil_append, List.append_nil]
      exact List.perm_append_comm
  | beginSweep =>
      show ([] ++ ([] ++ (server.sweeps ++ [_]).map Sweep.held).flatten ++ []).Perm
        (server.pool.retired ++ (server.sweeps.map Sweep.held).flatten ++ [])
      simp
      exact List.perm_append_comm
  | sweepClaim found => exact still (Pool.setWorker_retired ..) (map_set_of_eq found rfl) rfl rfl rfl
  | sweepJoined found => exact still rfl (map_set_of_eq found rfl) rfl rfl rfl
  | @endSweep position sweep found =>
      have answers : Occasion.swept? (server, .endSweep position) = some sweep.held := by
        rw [Occasion.swept?, found, Option.map_some]
      obtain ⟨inside, rfl⟩ := List.getElem?_eq_some_iff.1 found
      have together := (List.getElem_cons_eraseIdx_perm inside).map Sweep.held
      rw [answers]
      show (_ ++ (_ :: (server.sweeps.eraseIdx position).map Sweep.held).flatten ++ []).Perm (_ ++ [])
      rw [List.append_nil, List.append_nil]
      exact together.flatten.append_left _
  | @retire id worker found stage may =>
      have member : id ∈ server.pool.staff := sound.roster.free_subset may.2.2
      rw [Pool.setWorker_retired]
      show ((if id ∈ server.pool.staff then server.pool.retired ++ [id] else server.pool.retired) ++
        (server.sweeps.map Sweep.held).flatten ++ []).Perm
          (server.pool.retired ++ (server.sweeps.map Sweep.held).flatten ++ [id])
      rw [if_pos member, List.append_nil, List.append_assoc, List.append_assoc]
      exact List.perm_append_comm.append_left _
  | signal => exact still (Pool.updateWorker_retired ..) rfl rfl rfl rfl
  | claim | take | leave | expire | stay | exchange | beginSession
  | skipSession | finish | handOver | becomeFree | comeBack | reused | spawned =>
      exact still (Pool.setWorker_retired ..) rfl rfl rfl rfl
  | _ => exact still rfl rfl rfl rfl rfl

/-! ## A run -/

/-- The workers that sweeps have taken over, those that have answered and those under way. -/
def takenOver (occasions : List Occasion) (server : Server) : List (List WorkerId) :=
  sweptAlong occasions ++ server.sweeps.map Sweep.held

/-- The places of the workers in service, those that retired and those that a stop let go. -/
structure Placed (occasions : List Occasion) (shows : List Event) (server : Server) : Prop where
  inService : (server.pool.staff ++ dismissedAlong occasions ++ retirements shows).Perm (hires shows)
  outOfService : (server.pool.retired ++ (takenOver occasions server).flatten ++
    clearedAlong occasions).Perm (retirements shows)
  answered : sweepAnswers shows = (sweptAlong occasions).map List.length

theorem Step.answered (step : Step terms server label events next) (sound : Sound terms server) :
    sweepAnswers events = (Occasion.swept? (server, label)).toList.map List.length := by
  cases step with
  | started stopped | cannotListen stopped =>
      exact filterMap_startEvents (sound.roster.stopped_queue stopped) _ fun event => by
        cases event <;> simp [ofStart, Event.swept?]
  | endSweep found => simp [sweepAnswers, Event.swept?, Occasion.swept?, found]
  | _ => rfl

theorem Placed.step {shows : List Event} (placed : Placed occasions shows server)
    (step : Step terms server label events next) (sound : Sound terms server)
    (starts : label.startsThread = true) :
    Placed (occasions ++ [(server, label)]) (shows ++ events) next where
  inService := by
    have before := placed.inService
    have service := step.inService sound starts
    simp only [List.perm_iff_count, List.count_append, dismissedAlong, List.flatMap_append,
      List.flatMap_singleton, retirements_append, hires_append] at before service ⊢
    intro id
    have := before id
    have := service id
    omega
  outOfService := by
    have before := placed.outOfService
    have outside := step.outOfService sound
    simp only [List.perm_iff_count, List.count_append, clearedAlong, List.flatMap_append,
      List.flatMap_singleton, takenOver, sweptAlong_append_singleton, List.flatten_append,
      retirements_append] at before outside ⊢
    intro id
    have := before id
    have := outside id
    omega
  answered := by
    rw [sweepAnswers_append, placed.answered, step.answered sound, sweptAlong_append_singleton,
      List.map_append]

theorem Run.placed (run : Run terms turns server)
    (starts : ∀ label ∈ turns.map Turn.label, label.startsThread = true) :
    Placed (trail terms {} (turns.map Turn.label)) (shown turns) server := by
  induction run with
  | refl => exact ⟨.refl _, .refl _, rfl⟩
  | turn before step inductionHypothesis =>
      rw [List.map_append, List.forall_mem_append] at starts
      rw [before.trail_turn step, shown_append, shown_singleton]
      exact (inductionHypothesis starts.1).step step (Run.sound before) (starts.2 _ List.mem_cons_self)

/-! ## Retirement -/

/-- A worker goes from the free workers, and from those in service, to those that retired; nothing
else about the collections or the calls under way changes, nor any other worker. -/
structure Retires (terms : Terms) (server : Server) (id : WorkerId) (next : Server) : Prop where
  running : server.pool.lifecycle = .running
  aboveFloor : terms.options.minWorkers < server.pool.staff.length
  wasFree : id ∈ server.pool.free
  wasInService : id ∈ server.pool.staff
  free : next.pool.free = server.pool.free.erase id
  staff : next.pool.staff = server.pool.staff.erase id
  retired : next.pool.retired = server.pool.retired ++ [id]
  notFree : id ∉ next.pool.free
  notInService : id ∉ next.pool.staff
  lifecycle : next.pool.lifecycle = server.pool.lifecycle
  queue : next.pool.queue = server.pool.queue
  nobodyHired : next.pool.workers.length = server.pool.workers.length
  others : ∀ other, other ≠ id → next.pool.worker? other = server.pool.worker? other
  calls : next = { server with pool := next.pool }

theorem Retires.gone (retires : Retires terms server id next) (sound : Sound terms server) :
    next.pool.Gone id := by
  refine ⟨?_, retires.notInService⟩
  rw [Pool.Knows, Pool.nextId, retires.nobodyHired]
  exact sound.roster.staff_known id retires.wasInService

/-- A worker that is allowed to retire does so in that turn. -/
theorem Step.retires (step : Step terms server label events next) (sound : Sound terms server)
    (granted : .retirementAsked id true ∈ events) :
    label = .askRetirement id ∧ events = [.retirementAsked id true, .left id] ∧
      Retires terms server id next := by
  cases step with
  | started stopped | cannotListen stopped =>
      have none := ofStart_of_mem (sound.roster.stopped_queue stopped) granted
      cases none
  | @retire other worker found stage may =>
      obtain rfl : id = other := by simpa using granted
      have member : id ∈ server.pool.staff := sound.roster.free_subset may.2.2
      refine ⟨rfl, rfl, ?_⟩
      constructor
      case running => exact may.1
      case aboveFloor => exact may.2.1
      case wasFree => exact may.2.2
      case wasInService => exact member
      case notFree =>
        rw [Pool.setWorker_free, sound.roster.free_nodup.mem_erase_iff]
        exact fun still => still.1 rfl
      case notInService =>
        rw [Pool.setWorker_staff, sound.roster.staff_nodup.mem_erase_iff]
        exact fun still => still.1 rfl
      case retired =>
        rw [Pool.setWorker_retired]
        exact if_pos member
      case others =>
        intro other different
        rw [Pool.worker?_setWorker, if_neg different]
        exact Pool.worker?_of_workers rfl other
      case calls => rfl
      all_goals simp
  | _ => simp at granted

/-- Nothing is about a worker that is out of service. -/
theorem Step.not_about (step : Step terms server label events next) (sound : Sound terms server)
    (gone : server.pool.Gone id) : ∀ event ∈ events, event.worker? ≠ some id := by
  have inRound {other : WorkerId} {worker : Worker}
      (found : server.pool.worker? other = some worker) (active : worker.stage.isActive = true) :
      other ≠ id := by
    rintro rfl
    cases active.symm.trans (sound.inactive_of_gone gone found)
  cases step with
  | started stopped | cannotListen stopped =>
      intro event member about
      have ofStart := ofStart_of_mem (sound.roster.stopped_queue stopped) member
      have hired : event = .hired id := by
        revert about ofStart
        cases event <;> simp [ofStart, Event.worker?]
      have given : id ∈ hires (startEvents terms server.pool _ ++ [.startAnswered _]) :=
        List.mem_filterMap.2 ⟨event, member, by rw [hired]; rfl⟩
      rw [hires_startEvents, List.mem_range'_1] at given
      exact absurd gone.1.2 (Nat.not_lt.2 given.1)
  | @reused _ _ other _ _ _ _ _ inService =>
      have different : other ≠ id := by
        rintro rfl
        exact gone.2 inService
      simp [Event.worker?, different]
  | spawned | unspawned =>
      have different : server.pool.nextId ≠ id := by
        rintro rfl
        exact Pool.not_knows_nextId gone.1
      simp [Event.worker?, different]
  | leave found stage | retire found stage | stay found stage | exchange found stage
  | beginSession found stage | skipSession found stage | finish found stage
  | handOver found stage | becomeFree found stage | comeBack found stage =>
      have different := inRound found (by rw [stage]; rfl)
      simp [Event.worker?, different]
  | _ => simp [Event.worker?]

theorem Run.gone_of_retired (run : Run terms turns server)
    (granted : .retirementAsked id true ∈ shown turns) : server.pool.Gone id := by
  induction run with
  | refl => cases granted
  | turn before step inductionHypothesis =>
      rw [shown_append, shown_singleton, List.mem_append] at granted
      rcases granted with earlier | now
      · exact step.gone (inductionHypothesis earlier)
      · have sound := Run.sound before
        obtain ⟨_, _, retires⟩ := step.retires sound now
        exact retires.gone sound

private theorem inLast (more : List Event) {back : List Event} (step : Step terms server label events next)
    (sound : Sound terms server) (now : events = more ++ .retirementAsked id true :: back) :
    ∀ event ∈ back, event.worker? = some id → event = .left id := by
  have granted : .retirementAsked id true ∈ events := by rw [now]; simp
  obtain ⟨_, shows, _⟩ := step.retires sound granted
  rw [shows] at now
  rcases more with _ | ⟨first, _ | ⟨second, more⟩⟩
  · cases now
    exact fun event member _ => List.mem_singleton.1 member
  · simp at now
  · simp at now

/-- Once it was allowed to retire, a worker is only seen to leave its round. -/
theorem Run.silent_behind_retirement (run : Run terms turns server) {front back : List Event}
    (granted : shown turns = front ++ .retirementAsked id true :: back) :
    ∀ event ∈ back, event.worker? = some id → event = .left id := by
  induction run generalizing back with
  | refl => simp at granted
  | turn before step inductionHypothesis =>
      have sound := Run.sound before
      rw [shown_append, shown_singleton] at granted
      -- The answer was given in the last turn, or before it.
      rcases List.append_eq_append_iff.1 granted with ⟨more, _, now⟩ | ⟨rest, earlier, split⟩
      · exact inLast _ step sound now
      · rcases rest with _ | ⟨answer, rest⟩
        · exact inLast [] step sound split.symm
        · cases split
          have gone : _ ∧ id ∉ _ := Run.gone_of_retired before (by rw [earlier]; simp)
          intro event member about
          rcases List.mem_append.1 member with old | new
          · exact inductionHypothesis earlier event old about
          · exact absurd about (step.not_about sound gone event new)

/-! ## All together -/

/-- What is known about the workers of a server after some turns on a system that starts threads. -/
structure AccountedFor (terms : Terms) (turns : List Turn) (server : Server) : Prop where
  /-- No number was given twice. -/
  hiredOnce : (hires (shown turns)).Nodup
  /-- Every worker ever hired is in service, has retired and waits for a sweep, was taken over by a
  sweep, or was let go by a stop; and it is in one of these places only. -/
  everyone : (server.pool.staff ++ server.pool.retired ++
    (takenOver (trail terms {} (turns.map Turn.label)) server).flatten ++
    (dismissedAlong (trail terms {} (turns.map Turn.label)) ++
      clearedAlong (trail terms {} (turns.map Turn.label)))).Perm (hires (shown turns))
  /-- No worker was taken over by two sweeps. -/
  takenOnce : (takenOver (trail terms {} (turns.map Turn.label)) server).flatten.Nodup
  /-- A sweep answers how many workers it took over. -/
  answered : sweepAnswers (shown turns) =
    (sweptAlong (trail terms {} (turns.map Turn.label))).map List.length
  /-- What the sweeps answered and what those under way hold are the retirements, except for those
  that still wait for a sweep and those that a stop let go. -/
  counted : (sweepAnswers (shown turns)).sum +
      (server.sweeps.map fun sweep => sweep.held.length).sum +
      server.pool.retired.length + (clearedAlong (trail terms {} (turns.map Turn.label))).length =
    (retirements (shown turns)).length
  /-- A worker that is allowed to retire is moved at once, and nobody else is. -/
  retires : ∀ label events next id, Step terms server label events next →
    .retirementAsked id true ∈ events → label = .askRetirement id ∧ Retires terms server id next
  /-- From then on it makes no report, asks nothing, and is given no connection. -/
  silent : ∀ front back id, shown turns = front ++ .retirementAsked id true :: back →
    ∀ event ∈ back, event.worker? = some id → event = .left id

theorem accountedFor_of_run (run : Run terms turns server)
    (starts : ∀ label ∈ turns.map Turn.label, label.startsThread = true) :
    AccountedFor terms turns server := by
  have placed := Run.placed run starts
  have numbered := Run.numbered run
  have everyone : (server.pool.staff ++ server.pool.retired ++
    (takenOver (trail terms {} (turns.map Turn.label)) server).flatten ++
    (dismissedAlong (trail terms {} (turns.map Turn.label)) ++
      clearedAlong (trail terms {} (turns.map Turn.label)))).Perm (hires (shown turns)) := by
    have inService := placed.inService
    have outOfService := placed.outOfService
    simp only [List.perm_iff_count, List.count_append] at inService outOfService ⊢
    intro id
    have := inService id
    have := outOfService id
    omega
  have hiredOnce : (hires (shown turns)).Nodup := by
    rw [numbered]
    exact List.nodup_range'
  constructor
  case hiredOnce => exact hiredOnce
  case everyone => exact everyone
  case takenOnce =>
    have once := everyone.nodup_iff.2 hiredOnce
    exact (List.nodup_append.1 (List.nodup_append.1 once).1).2.1
  case answered => exact placed.answered
  case counted =>
    have lengths := placed.outOfService.length_eq
    rw [placed.answered, ← lengths]
    simp only [takenOver, List.flatten_append, List.length_append, List.length_flatten,
      List.map_map, Function.comp_def]
    omega
  case retires =>
    intro label events next id step granted
    obtain ⟨asked, _, retires⟩ := step.retires (Run.sound run) granted
    exact ⟨asked, retires⟩
  case silent => exact fun front back id granted => Run.silent_behind_retirement run granted

/-- Two workers have retired one after the other: one sweep has answered for the first, and another
one waits for the second. -/
theorem accountedFor_of_two_sweeps :
    ∃ turns server, Run {} turns server ∧ retirements (shown turns) = [1, 2] ∧
      sweepAnswers (shown turns) = [1] ∧ server.sweeps.map Sweep.held = [[2]] ∧
      AccountedFor {} turns server := by
  let labels : List Label := [.start true, .arrive ⟨.network, 7⟩, .decide ⟨.network, 7⟩ true,
    .arrive ⟨.network, 8⟩, .decide ⟨.network, 8⟩ true, .take 1, .exchange 1 false, .report 1 true,
    .expire 1, .askRetirement 1, .beginSweep 5, .sweepClaim 0, .take 2, .exchange 2 false,
    .report 2 true, .expire 2, .askRetirement 2, .beginSweep 6, .sweepClaim 1, .sweepJoined 0,
    .endSweep 0]
  obtain ⟨turns, run, labelled, shows⟩ := path_iff_run?.2
    (show run? {} {} labels = some (_, _) from rfl)
  have starts : ∀ label ∈ turns.map Turn.label, label.startsThread = true := by
    rw [labelled]
    decide
  refine ⟨turns, _, run, ?_, ?_, rfl, accountedFor_of_run run starts⟩
  · rw [shows]
    rfl
  · rw [shows]
    rfl

end Server

end ConnectionPool
