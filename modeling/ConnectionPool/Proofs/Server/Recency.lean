import ConnectionPool.Proofs.Server.Whereabouts
import Mathlib.Logic.Function.Basic

/-!
Contract: of the free workers the one that became free last is reused first.

A worker becomes free when a start hires it for the floor, and when it reports while nobody waits.
These moments are numbered through a whole history. The free workers are a stack: whoever becomes
free goes on top, a connection takes the worker on top, and whoever retires is taken out wherever it
lies. So from the top down the moments at which the workers last became free only get earlier.

Owns:
- the readers `idlings` and `freeSince` of a history;
- `Server.MostRecentFirst` and its proof for every run.

Does not own: when a worker may retire, and how a connection is decided about.
-/

namespace ConnectionPool

/-! ## Moments -/

/-- For every worker the number of its last moment, where the moments of all workers are numbered from
one; zero for a worker that has none. -/
def lastMoments (moments : List WorkerId) : WorkerId → Nat :=
  (moments.zipIdx 1).foldl (fun last moment => Function.update last moment.1 moment.2) fun _ => 0

theorem lastMoments_snoc (moments : List WorkerId) (id : WorkerId) :
    lastMoments (moments ++ [id]) =
      Function.update (lastMoments moments) id (moments.length + 1) := by
  rw [lastMoments, List.zipIdx_append, List.foldl_append, Nat.add_comm]
  rfl

theorem lastMoments_snoc_of_ne {moments : List WorkerId} {id other : WorkerId}
    (different : other ≠ id) : lastMoments (moments ++ [id]) other = lastMoments moments other := by
  rw [lastMoments_snoc, Function.update_of_ne different]

theorem lastMoments_le (moments : List WorkerId) (id : WorkerId) :
    lastMoments moments id ≤ moments.length := by
  induction moments using List.reverseRecOn with
  | nil => exact Nat.zero_le _
  | append_singleton moments last inductionHypothesis =>
      rw [List.length_append, List.length_singleton]
      by_cases same : id = last
      · rw [same, lastMoments_snoc, Function.update_self]
      · rw [lastMoments_snoc_of_ne same]
        omega

/-- Every worker of a stack has had a moment, and from the top down their last moments get earlier. -/
structure NewestFirst (moments stack : List WorkerId) : Prop where
  dated : ∀ id ∈ stack, 0 < lastMoments moments id
  falling : stack.Pairwise fun upper lower => lastMoments moments lower < lastMoments moments upper

namespace NewestFirst

variable {moments stack : List WorkerId} {id : WorkerId}

theorem sublist {rest : List WorkerId} (newest : NewestFirst moments stack)
    (part : rest.Sublist stack) : NewestFirst moments rest where
  dated := fun id member => newest.dated id (part.subset member)
  falling := newest.falling.sublist part

/-- Whoever has the next moment belongs on top. -/
theorem push (newest : NewestFirst moments stack) (new : id ∉ stack) :
    NewestFirst (moments ++ [id]) (id :: stack) := by
  have top : lastMoments (moments ++ [id]) id = moments.length + 1 := by
    rw [lastMoments_snoc, Function.update_self]
  have below (other : WorkerId) (member : other ∈ stack) :
      lastMoments (moments ++ [id]) other = lastMoments moments other := by
    apply lastMoments_snoc_of_ne
    rintro rfl
    exact new member
  constructor
  · intro other member
    rcases List.mem_cons.1 member with rfl | inside
    · rw [top]
      omega
    · rw [below other inside]
      exact newest.dated other inside
  · apply List.pairwise_cons.2
    constructor
    · intro other member
      rw [below other member, top]
      exact Nat.lt_succ_of_le (lastMoments_le moments other)
    · apply newest.falling.imp_of_mem
      intro upper lower upperInside lowerInside earlier
      rwa [below upper upperInside, below lower lowerInside]

/-- Workers that have the next moments one after the other end up on top in reverse. -/
theorem pushAll {ids : List WorkerId} (newest : NewestFirst moments stack) (once : ids.Nodup)
    (apart : ∀ id ∈ ids, id ∉ stack) :
    NewestFirst (moments ++ ids) (ids.reverse ++ stack) := by
  induction ids generalizing moments stack with
  | nil =>
      rw [List.append_nil]
      exact newest
  | cons id ids inductionHypothesis =>
      obtain ⟨new, onceBehind⟩ := List.nodup_cons.1 once
      obtain ⟨outside, apartBehind⟩ := List.forall_mem_cons.1 apart
      have pushed : NewestFirst (moments ++ [id] ++ ids) (ids.reverse ++ id :: stack) := by
        apply inductionHypothesis (newest.push outside) onceBehind
        intro other member
        apply List.not_mem_cons_of_ne_of_not_mem
        · rintro rfl
          exact new member
        · exact apartBehind other member
      simpa using pushed

end NewestFirst

/-! ## What was shown -/

namespace Event

/-- The worker that became free. -/
def freed? : Event → Option WorkerId
  | .freed id => some id
  | _ => none

end Event

/-- The workers that became free in a turn, in their order. Those that a start hires are free at once. -/
def Turn.idled (turn : Turn) : List WorkerId :=
  match turn.label with
  | .start _ => hires turn.events
  | _ => turn.events.filterMap Event.freed?

/-- The moments of a history at which a worker became free, in their order. -/
def idlings (turns : List Turn) : List WorkerId :=
  turns.flatMap Turn.idled

/-- The number of the moment at which a worker last became free; zero for one that never did. -/
def freeSince (turns : List Turn) : WorkerId → Nat :=
  lastMoments (idlings turns)

theorem idlings_snoc (turns : List Turn) (turn : Turn) :
    idlings (turns ++ [turn]) = idlings turns ++ turn.idled := by
  simp [idlings]

namespace Server

variable {terms : Terms} {server next : Server} {label : Label} {events : List Event}
  {turns : List Turn} {id : WorkerId}

/-! ## One turn -/

/-- Some workers that were not free went on top of the free ones, of which some may be gone. -/
structure Restacks (server next : Server) (idled : List WorkerId) : Prop where
  once : idled.Nodup
  apart : ∀ id ∈ idled, id ∉ server.pool.free
  stacked : ∃ kept, kept.Sublist server.pool.free ∧ next.pool.free = idled.reverse ++ kept

theorem Restacks.of_sublist (kept : next.pool.free.Sublist server.pool.free) :
    Restacks server next [] where
  once := List.nodup_nil
  apart := nofun
  stacked := ⟨_, kept, rfl⟩

theorem Restacks.of_eq (same : next.pool.free = server.pool.free) : Restacks server next [] :=
  .of_sublist (same ▸ List.Sublist.refl _)

/-- A start hires workers that nobody knows. -/
theorem Sound.restacks_floored {listens : Bool} {answer : StartAnswer} (sound : Sound terms server)
    (filled : next.pool.free = (Server.floored terms server.pool).free) :
    Restacks server next
      (Turn.idled ⟨.start listens, startEvents terms server.pool listens ++ [.startAnswered answer]⟩) := by
  rw [Turn.idled, hires_startEvents]
  constructor
  · exact List.nodup_range'
  · intro id member isFree
    have known : server.pool.Knows id :=
      sound.roster.staff_known id (sound.roster.free_subset isFree)
    have new : server.pool.nextId ≤ id := (List.mem_range'_1.1 member).1
    exact absurd known.2 (Nat.not_lt.2 new)
  · exact ⟨server.pool.free, .refl _, filled.trans (floored_free _)⟩

/-- In every turn whoever becomes free goes on top, and nobody is moved. -/
theorem Step.restacks (step : Step terms server label events next) (sound : Sound terms server) :
    Restacks server next (Turn.idled ⟨label, events⟩) := by
  cases step with
  | started | cannotListen => exact sound.restacks_floored rfl
  | reused waits running top =>
      apply Restacks.of_sublist
      rw [Pool.setWorker_free, top]
      exact List.sublist_cons_self _ _
  | unusable waits running top | misplaced waits running top =>
      apply Restacks.of_sublist
      rw [top]
      exact List.sublist_cons_self _ _
  | retire found stage may =>
      apply Restacks.of_sublist
      rw [Pool.setWorker_free]
      exact List.erase_sublist
  | settle => exact .of_sublist (List.nil_sublist _)
  | @becomeFree id worker starts found stage =>
      have notFree : id ∉ server.pool.free :=
        (sound.duty id worker found).not_free_of_isEngaged (by rw [stage]; rfl)
      constructor
      · exact List.nodup_singleton id
      · intro other member
        rwa [List.mem_singleton.1 member]
      · exact ⟨server.pool.free, .refl _, Pool.setWorker_free _ _ _⟩
  | signal => exact .of_eq (Pool.updateWorker_free _ _ _)
  | claim | sweepClaim | take | leave | expire | stay | exchange | beginSession | skipSession
  | finish | handOver | comeBack | spawned => exact .of_eq (Pool.setWorker_free _ _ _)
  | _ => exact .of_eq rfl

/-- A turn in which workers became free is one behind which they are free and before which they were
not. -/
theorem Restacks.mem_iff {idled : List WorkerId} (restacks : Restacks server next idled) :
    id ∈ idled ↔ id ∈ next.pool.free ∧ id ∉ server.pool.free := by
  obtain ⟨kept, part, stacked⟩ := restacks.stacked
  rw [stacked, List.mem_append, List.mem_reverse]
  constructor
  · exact fun member => ⟨.inl member, restacks.apart id member⟩
  · rintro ⟨idledNow | stayed, wasNot⟩
    · exact idledNow
    · exact absurd (part.subset stayed) wasNot

theorem Restacks.newestFirst {turn : Turn} (restacks : Restacks server next turn.idled)
    (newest : NewestFirst (idlings turns) server.pool.free) :
    NewestFirst (idlings (turns ++ [turn])) next.pool.free := by
  obtain ⟨kept, part, stacked⟩ := restacks.stacked
  rw [idlings_snoc, stacked]
  apply (newest.sublist part).pushAll restacks.once
  exact fun id member stayed => restacks.apart id member (part.subset stayed)

/-! ## A run -/

theorem Run.newestFirst (run : Run terms turns server) :
    NewestFirst (idlings turns) server.pool.free := by
  induction run with
  | refl => exact ⟨nofun, .nil⟩
  | turn before step inductionHypothesis =>
      exact (step.restacks (Run.sound before)).newestFirst inductionHypothesis

/-- A reused worker was on top of the free ones. -/
theorem Step.top_of_reused {descriptor : Descriptor} (step : Step terms server label events next)
    (sound : Sound terms server) (reused : .decided descriptor (.reused id) ∈ events) :
    server.pool.free = id :: next.pool.free := by
  cases step with
  | started stopped | cannotListen stopped =>
      cases ofStart_of_mem (sound.roster.stopped_queue stopped) reused
  | reused waits running top =>
      obtain ⟨rfl, rfl⟩ : descriptor = _ ∧ id = _ := by simpa using reused
      rw [Pool.setWorker_free, top]
  | _ => simp at reused

/-- How the free workers of a server lie after some turns. -/
structure MostRecentFirst (terms : Terms) (turns : List Turn) (server : Server) : Prop where
  /-- Every free worker has become free, and from the top down they did so earlier and earlier. -/
  ordered : NewestFirst (idlings turns) server.pool.free
  /-- A worker becomes free in a turn where it is free behind the turn and was not before it. -/
  becomesFree : ∀ label events next, Step terms server label events next → ∀ id,
    id ∈ Turn.idled ⟨label, events⟩ ↔ id ∈ next.pool.free ∧ id ∉ server.pool.free
  /-- The floor of a start becomes free as it is hired, in the order of the numbers. -/
  floor : ∀ listens events next, Step terms server (.start listens) events next →
    Turn.idled ⟨.start listens, events⟩ = hires events ∧ (hires events).Pairwise (· < ·) ∧
      next.pool.free = (hires events).reverse ++ server.pool.free
  /-- A connection for a free worker takes the one that became free last. -/
  reuse : ∀ label events next, Step terms server label events next → ∀ descriptor id,
    .decided descriptor (.reused id) ∈ events →
      server.pool.free = id :: next.pool.free ∧
        ∀ other ∈ next.pool.free, freeSince turns other < freeSince turns id
  /-- A worker that retires is taken out from among the others, which stay as they lie. -/
  retirement : ∀ label events next, Step terms server label events next → ∀ id,
    .retirementAsked id true ∈ events → ∃ above below,
      server.pool.free = above ++ id :: below ∧ next.pool.free = above ++ below

theorem mostRecentFirst_of_run (run : Run terms turns server) :
    MostRecentFirst terms turns server := by
  have sound := Run.sound run
  have newest := Run.newestFirst run
  constructor
  case ordered => exact newest
  case becomesFree => exact fun label events next step id => (step.restacks sound).mem_iff
  case floor =>
    intro listens events next step
    cases step with
    | alreadyRunning | stillStopping => exact ⟨rfl, .nil, rfl⟩
    | started | cannotListen =>
        refine ⟨rfl, ?_, ?_⟩
        · rw [hires_startEvents]
          exact List.pairwise_lt_range'
        · rw [hires_startEvents]
          exact floored_free _
  case reuse =>
    intro label events next step descriptor id reused
    have top := step.top_of_reused sound reused
    have falling := newest.falling
    rw [top] at falling
    exact ⟨top, (List.pairwise_cons.1 falling).1⟩
  case retirement =>
    intro label events next step id granted
    obtain ⟨_, _, retires⟩ := step.retires sound granted
    obtain ⟨above, below, _, whole, rest⟩ := List.exists_erase_eq retires.wasFree
    exact ⟨above, below, whole, retires.free.trans rest⟩

/-- A floor of one worker and two that were spawned: they became free in the order two, three, one, and
the third, which lay between the others, has retired. -/
theorem mostRecentFirst_of_retirement :
    ∃ turns server, Run { options := { minWorkers := 1 } } turns server ∧
      server.pool.lifecycle = .running ∧ server.pool.free = [1, 2] ∧
      MostRecentFirst { options := { minWorkers := 1 } } turns server := by
  let labels : List Label := [.start true, .arrive ⟨.network, 7⟩, .decide ⟨.network, 7⟩ true,
    .arrive ⟨.network, 8⟩, .decide ⟨.network, 8⟩ true, .arrive ⟨.network, 9⟩,
    .decide ⟨.network, 9⟩ true, .take 1, .take 2, .take 3, .exchange 1 false, .exchange 2 false,
    .exchange 3 false, .report 2 true, .report 3 true, .report 1 true, .expire 3, .askRetirement 3]
  obtain ⟨turns, run, _⟩ := path_iff_run?.2
    (show run? { options := { minWorkers := 1 } } {} labels = some (_, _) from rfl)
  exact ⟨turns, _, run, rfl, rfl, mostRecentFirst_of_run run⟩

end Server

end ConnectionPool
