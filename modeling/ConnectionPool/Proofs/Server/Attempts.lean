import ConnectionPool.Proofs.Server.Custody
import ConnectionPool.Proofs.Server.Restart
import ConnectionPool.Proofs.Server.Whereabouts

/-!
Contract: attempts to start a server leave one floor of workers behind, however many of them fail.

The first attempt after a stop hires the workers of the floor. If the transport does not listen they
stay, free and without a thread, and the next attempt finds the floor full. So the start that succeeds
in the end runs with the workers of the first attempt, and nobody else was hired. Connections, stops
and sweeps in between change nothing.

Owns:
- `Server.Outset`, where attempts begin;
- `Server.AttemptsKept` and its proof for all turns since then.

Does not own: what the workers do once a start has succeeded.
-/

namespace ConnectionPool

/-! ## What was shown -/

/-- The caller of a sweep and what it was answered. -/
def Event.sweepReport? : Event → Option (Nat × Nat)
  | .sweepAnswered caller count => some (caller, count)
  | _ => none

def sweepReports (events : List Event) : List (Nat × Nat) :=
  events.filterMap Event.sweepReport?

@[simp] theorem sweepReports_append (front back : List Event) :
    sweepReports (front ++ back) = sweepReports front ++ sweepReports back :=
  List.filterMap_append ..

/-- The caller of a sweep and what it is going to be answered. -/
def Sweep.report (sweep : Sweep) : Nat × Nat :=
  (sweep.caller, sweep.held.length)

namespace Turn

/-- The caller of the sweep that a turn begins. -/
def sweepCaller? (turn : Turn) : Option Nat :=
  match turn.label with
  | .beginSweep caller => some caller
  | _ => none

/-- What a server shows that does not run and cannot listen: a start fails, a stop finds nothing to
stop, and nobody takes a connection. -/
def Rebuffed (turn : Turn) : Prop :=
  match turn.label with
  | .start _ => answers turn.events = [.startAnswered .cannotListen] ∧
      transportCalls turn.events = [.listen false]
  | .beginStop caller _ => turn.events = [.stopAnswered caller false]
  | .decide descriptor _ => turn.events = [.decided descriptor .dropped]
  | .dismiss descriptor => turn.events = [.discarded descriptor]
  | _ => True

end Turn

/-- The callers of the sweeps that were begun, in the order of their beginnings. -/
def sweepCallers (turns : List Turn) : List Nat :=
  turns.filterMap Turn.sweepCaller?

theorem sweepCallers_snoc (turns : List Turn) (turn : Turn) :
    sweepCallers (turns ++ [turn]) = sweepCallers turns ++ turn.sweepCaller?.toList := by
  rw [sweepCallers, List.filterMap_append]
  cases begun : turn.sweepCaller? <;> simp [sweepCallers, begun]

/-- Somebody tried to start the server. -/
def Tried (turns : List Turn) : Prop :=
  ∃ turn ∈ turns, ∃ listens, turn.label = .start listens

theorem tried_snoc_start (turns : List Turn) (listens : Bool) (events : List Event) :
    Tried (turns ++ [⟨.start listens, events⟩]) :=
  ⟨_, List.mem_append_right _ (List.mem_singleton_self _), listens, rfl⟩

theorem tried_snoc_iff {turns : List Turn} {turn : Turn}
    (other : ∀ listens, turn.label ≠ .start listens) : Tried (turns ++ [turn]) ↔ Tried turns := by
  constructor
  · rintro ⟨tried, member, listens, isStart⟩
    rcases List.mem_append.1 member with before | now
    · exact ⟨tried, before, listens, isStart⟩
    · rw [List.mem_singleton.1 now] at isStart
      exact absurd isStart (other listens)
  · rintro ⟨tried, member, listens, isStart⟩
    exact ⟨tried, List.mem_append_left _ member, listens, isStart⟩

/-! ## The floor -/

/-- The workers of these numbers are all that were hired since an earlier time and all that are in
service. They are free, the last one on top, and none has a thread. Where the protocol makes instances,
one was made for each of them. -/
structure Pool.Idles (terms : Terms) (pool earlier : Pool) (ids : List WorkerId) : Prop where
  staff : pool.staff = ids
  free : pool.free = ids.reverse
  unstarted : ∀ id ∈ ids, ∃ worker, pool.worker? id = some worker ∧ worker.stage = .unstarted ∧
    worker.hasHandle = false
  created : pool.workers.length = earlier.workers.length + ids.length
  instances : pool.forked = earlier.forked + if terms.forks then ids.length else 0

theorem Pool.Idles.run {terms : Terms} {pool earlier : Pool} {ids : List WorkerId}
    (idles : pool.Idles terms earlier ids) :
    Pool.Idles terms { pool with lifecycle := .running } earlier ids where
  staff := idles.staff
  free := idles.free
  unstarted := fun id member => by
    rw [Pool.worker?_of_workers rfl]
    exact idles.unstarted id member
  created := idles.created
  instances := idles.instances

namespace Server

variable {terms : Terms} {server next outset : Server} {label : Label} {events : List Event}
  {turns : List Turn}

theorem floored_of_full {pool : Pool} (empty : pool.queue = [])
    (full : terms.options.minWorkers ≤ pool.free.length) : floored terms pool = pool := by
  have same : { pool with queue := [] } = pool := by rw [← empty]
  rw [floored, same, Pool.fillFloor, Nat.sub_eq_zero_of_le full]
  rfl

/-- A start of a server where nobody waits answers once. -/
theorem answers_startEvents {pool : Pool} {listens : Bool} {answer : StartAnswer}
    (empty : pool.queue = []) :
    answers (startEvents terms pool listens ++ [.startAnswered answer]) =
      [.startAnswered answer] := by
  simp [answers, startEvents, hiredEvents, empty, Event.isAnswer, List.filter_map, List.filter_cons,
    Function.comp_def]

/-- A start of a server where nobody waits asks the transport for nothing but to listen. -/
theorem transportCalls_startEvents {pool : Pool} {listens : Bool} {answer : StartAnswer}
    (empty : pool.queue = []) :
    transportCalls (startEvents terms pool listens ++ [.startAnswered answer]) =
      [.listen listens] := by
  simp [transportCalls, startEvents, hiredEvents, empty, Event.transportCall?, List.filterMap_cons,
    Function.comp_def]

/-- After some turns that began without workers: nobody is in service before the first attempt, and
behind it the floor is full. -/
structure Floor (terms : Terms) (turns : List Turn) (pool : Pool) : Prop where
  stopped : pool.lifecycle = .stopped
  staff : pool.staff = hires (shown turns)
  free : pool.free = (hires (shown turns)).reverse
  untried : ¬ Tried turns → hires (shown turns) = []
  tried : Tried turns → (hires (shown turns)).length = terms.options.minWorkers

namespace Floor

theorem vacant {pool : Pool} (vacant : pool.Vacant) : Floor terms [] pool where
  stopped := vacant.stopped
  staff := vacant.staff
  free := vacant.free
  untried := fun _ => rfl
  tried := by
    rintro ⟨_, member, _⟩
    cases member

theorem length_le {pool : Pool} (floor : Floor terms turns pool) :
    (hires (shown turns)).length ≤ terms.options.minWorkers := by
  by_cases tried : Tried turns
  · exact Nat.le_of_eq (floor.tried tried)
  · rw [floor.untried tried]
    exact Nat.zero_le _

theorem length_filled {pool : Pool} (floor : Floor terms turns pool) :
    (hires (shown turns) ++ List.range' pool.nextId
      (terms.options.minWorkers - pool.free.length)).length = terms.options.minWorkers := by
  have within := floor.length_le
  rw [List.length_append, List.length_range', floor.free, List.length_reverse]
  omega

/-- A failing attempt hires whoever is missing. -/
theorem attempt {pool : Pool} (floor : Floor terms turns pool) :
    Floor terms (turns ++ [⟨.start false,
      startEvents terms pool false ++ [.startAnswered .cannotListen]⟩]) (floored terms pool) := by
  constructor
  case stopped => exact floored_lifecycle floor.stopped
  case untried => exact fun untried => absurd (tried_snoc_start ..) untried
  all_goals rw [shown_append, shown_singleton, hires_append, hires_startEvents]
  case staff => rw [floored_staff, floor.staff]
  case free => rw [floored_free, List.reverse_append, ← floor.free]
  case tried => exact fun _ => floor.length_filled

end Floor

/-- A stopped server that nobody tries to start hires nobody, and its workers stay as they are. -/
theorem Step.still (step : Step terms server label events next) (sound : Sound terms server)
    (stopped : server.pool.lifecycle = .stopped) (other : ∀ listens, label ≠ .start listens) :
    next.pool.lifecycle = .stopped ∧ next.pool.staff = server.pool.staff ∧
      next.pool.free = server.pool.free ∧ hires events = [] := by
  have notRunning : server.pool.lifecycle ≠ .running := by
    rw [stopped]
    nofun
  have unsettled : label ≠ .settle := by
    rintro rfl
    cases step with
    | settle active => cases stopped.symm.trans (sound.stopping_of_closing active)
  have unmoved := step.unmoved notRunning (fun _ => other) unsettled
  have nobody : hires events = [] := by
    apply List.filterMap_eq_nil_iff.2
    intro event member
    cases event with
    | hired id => exact absurd member (step.not_hired notRunning (fun _ => other) id)
    | _ => rfl
  exact ⟨unmoved.lifecycle.trans stopped, unmoved.staff, unmoved.free, nobody⟩

theorem Step.floor (step : Step terms server label events next) (sound : Sound terms server)
    (floor : Floor terms turns server.pool) (fails : .startAnswered .started ∉ events) :
    Floor terms (turns ++ [⟨label, events⟩]) next.pool := by
  by_cases attempt : ∃ listens, label = .start listens
  · obtain ⟨listens, rfl⟩ := attempt
    cases step with
    | alreadyRunning running => cases floor.stopped.symm.trans running
    | stillStopping stopping => cases floor.stopped.symm.trans stopping
    | started => simp at fails
    | cannotListen => exact floor.attempt
  · have other (listens : Bool) : label ≠ .start listens := fun same => attempt ⟨listens, same⟩
    obtain ⟨stopped, staff, free, nobody⟩ := step.still sound floor.stopped other
    have same : hires (shown (turns ++ [⟨label, events⟩])) = hires (shown turns) := by
      rw [shown_append, shown_singleton, hires_append, nobody, List.append_nil]
    constructor
    case stopped => exact stopped
    case staff => rw [staff, same, floor.staff]
    case free => rw [free, same, floor.free]
    case untried =>
      rw [tried_snoc_iff other, same]
      exact floor.untried
    case tried =>
      rw [tried_snoc_iff other, same]
      exact floor.tried

/-! ## Calls -/

theorem Step.rebuffed (step : Step terms server label events next) (sound : Sound terms server)
    (stopped : server.pool.lifecycle = .stopped) (fails : .startAnswered .started ∉ events) :
    Turn.Rebuffed ⟨label, events⟩ := by
  cases step with
  | started => simp at fails
  | cannotListen =>
      have empty : server.pool.queue = [] := sound.roster.stopped_queue stopped
      exact ⟨answers_startEvents empty, transportCalls_startEvents empty⟩
  | alreadyRunning running | beginStop running | reused _ running | unusable _ running
  | misplaced _ running | spawned _ running | unspawned _ running | queued _ running
  | busy _ running => cases stopped.symm.trans running
  | stillStopping stopping => cases stopped.symm.trans stopping
  | notRunning | dropped | dismiss => exact rfl
  | _ => trivial

/-- While the server is stopped a sweep finds nobody, and those that found somebody before keep them. -/
theorem Step.reports (step : Step terms server label events next) (sound : Sound terms server)
    (stopped : server.pool.lifecycle = .stopped) :
    (sweepReports events ++ next.sweeps.map Sweep.report).Perm
      (server.sweeps.map Sweep.report ++ (Turn.sweepCaller? ⟨label, events⟩).toList.map (·, 0)) := by
  have still (silent : sweepReports events = [])
      (same : next.sweeps.map Sweep.report = server.sweeps.map Sweep.report)
      (noSweep : Turn.sweepCaller? ⟨label, events⟩ = none) :
      (sweepReports events ++ next.sweeps.map Sweep.report).Perm
        (server.sweeps.map Sweep.report ++
          (Turn.sweepCaller? ⟨label, events⟩).toList.map (·, 0)) := by
    rw [silent, same, noSweep]
    simp
  cases step with
  | started | cannotListen =>
      exact still (filterMap_startEvents (sound.roster.stopped_queue stopped) _ fun event => by
        cases event <;> simp [ofStart, Event.sweepReport?]) rfl rfl
  | beginSweep =>
      simp [sweepReports, Sweep.report, Turn.sweepCaller?, sound.roster.stopped_retired stopped]
  | sweepClaim found | sweepJoined found => exact still rfl (map_set_of_eq found rfl) rfl
  | endSweep found =>
      obtain ⟨inside, rfl⟩ := List.getElem?_eq_some_iff.1 found
      have together := (List.getElem_cons_eraseIdx_perm inside).map Sweep.report
      simpa [sweepReports, Event.sweepReport?, Sweep.report, Turn.sweepCaller?] using together
  | _ => exact still rfl rfl rfl

/-! ## All turns since the outset -/

/-- Where attempts to start a server begin: with a new server, with one whose run has just been ended,
or with one whose stop has answered before anybody tried to start it again. -/
inductive Outset (terms : Terms) : Server → Prop where
  | new : Outset terms {}
  | ended {turns : List Turn} {server ended : Server} (run : Run terms turns server)
      (settles : Step terms server .settle [] ended) : Outset terms ended
  | answered {mode : StopMode} (call : StopCall terms mode) (untried : ¬ Tried call.later) :
      Outset terms call.last

namespace Outset

theorem exists_run (origin : Outset terms outset) : ∃ before, Run terms before outset := by
  cases origin with
  | new => exact ⟨[], .refl⟩
  | ended run settles => exact ⟨_, run.turn settles⟩
  | answered call => exact ⟨_, (call.run_latest.turn call.settles).append call.goesOn⟩

theorem vacant (origin : Outset terms outset) : outset.pool.Vacant := by
  cases origin with
  | new => exact ⟨rfl, rfl, rfl, rfl, rfl⟩
  | ended run settles => exact settles.vacant_of_settle
  | answered call untried =>
      apply call.goesOn.vacant call.settles.vacant_of_settle
      exact fun turn member reopens => untried ⟨turn, member, reopens.exists_start⟩

end Outset

/-- What every turn keeps, as long as no start succeeds. -/
structure Withstood (terms : Terms) (outset : Server) (turns : List Turn) (server : Server) :
    Prop where
  floor : Floor terms turns server.pool
  /-- Every start failed, every stop found nothing to stop, and every connection was dropped. -/
  rebuffed : ∀ turn ∈ turns, turn.Rebuffed
  /-- Of the sweeps that were under way at the outset or were begun since, those have answered that are
  not under way any more, and every sweep that was begun since answers zero. -/
  swept : (sweepReports (shown turns) ++ server.sweeps.map Sweep.report).Perm
    (outset.sweeps.map Sweep.report ++ (sweepCallers turns).map (·, 0))
  /-- Every connection that was dropped was discarded for that, or is about to be. -/
  dropped : ∀ descriptor, (shown turns).count (.decided descriptor .dropped) +
      outset.dismissals.count descriptor =
    (shownBy Label.isDismiss turns).count (.discarded descriptor) +
      server.dismissals.count descriptor

theorem Withstood.step (withstood : Withstood terms outset turns server)
    (step : Step terms server label events next) (sound : Sound terms server)
    (fails : .startAnswered .started ∉ events) :
    Withstood terms outset (turns ++ [⟨label, events⟩]) next where
  floor := step.floor sound withstood.floor fails
  rebuffed := by
    intro turn member
    rcases List.mem_append.1 member with before | now
    · exact withstood.rebuffed turn before
    · rw [List.mem_singleton.1 now]
      exact step.rebuffed sound withstood.floor.stopped fails
  swept := by
    have before := withstood.swept
    have turned := step.reports sound withstood.floor.stopped
    simp only [List.perm_iff_count, List.count_append, shown_append, shown_singleton,
      sweepReports_append, sweepCallers_snoc, List.map_append] at before turned ⊢
    intro report
    have := before report
    have := turned report
    omega
  dropped := by
    intro descriptor
    have before := withstood.dropped descriptor
    have turned := step.dismissals sound descriptor
    simp only [shown_append, shown_singleton, shownBy_append_singleton, List.count_append]
    omega

theorem Path.withstood (path : Path terms outset turns server) (sound : Sound terms outset)
    (vacant : outset.pool.Vacant) (failed : .startAnswered .started ∉ shown turns) :
    Withstood terms outset turns server := by
  induction path with
  | refl =>
      constructor
      case floor => exact .vacant vacant
      case rebuffed => nofun
      case swept => simp [sweepReports, sweepCallers]
      case dropped => exact fun _ => rfl
  | turn before step inductionHypothesis =>
      rw [shown_append, shown_singleton, List.mem_append, not_or] at failed
      exact (inductionHypothesis failed.1).step step (before.sound sound) failed.2

/-- The floor of a stopped server is all that was hired since the outset. -/
theorem Floor.idles (floor : Floor terms turns server.pool) (path : Path terms outset turns server)
    (sound : Sound terms server) (outsetEquipped : outset.pool.Equipped terms)
    (equipped : server.pool.Equipped terms) :
    server.pool.Idles terms outset.pool (hires (shown turns)) := by
  have created : server.pool.workers.length =
      outset.pool.workers.length + (hires (shown turns)).length := by
    simpa using congrArg List.length path.numbered
  constructor
  case staff => exact floor.staff
  case free => exact floor.free
  case unstarted =>
    intro id member
    rw [← floor.staff] at member
    obtain ⟨worker, found⟩ := (sound.roster.staff_known id member).exists_worker
    have fits := sound.duty id worker found
    have unstarted := fits.unused floor.stopped member
    exact ⟨worker, found, unstarted, fits.noHandle unstarted⟩
  case created => exact created
  case instances =>
    rw [equipped.made, outsetEquipped.made, created]
    split <;> rfl

/-- What comes of one more attempt to start the server. -/
structure Attempted (terms : Terms) (outset : Server) (turns : List Turn) (server : Server)
    (listens : Bool) (events : List Event) (next : Server) : Prop where
  answer : answers events = [.startAnswered (if listens then .started else .cannotListen)]
  asked : transportCalls events = [.listen listens]
  lifecycle : next.pool.lifecycle = if listens then .running else .stopped
  /-- The workers hired since the outset are those in service. They are free, without a thread. -/
  idles : next.pool.Idles terms outset.pool (hires (shown turns ++ events))
  enough : (hires (shown turns ++ events)).length = terms.options.minWorkers
  /-- Behind an attempt that failed nothing changes but, if this one succeeds, the lifecycle. -/
  again : Tried turns → hires events = [] ∧
    next = { server with pool := { server.pool with lifecycle := next.pool.lifecycle } }

/-- How a server stands after some turns in which nobody succeeded to start it. -/
structure AttemptsKept (terms : Terms) (outset : Server) (turns : List Turn) (server : Server) :
    Prop extends Withstood terms outset turns server where
  /-- The workers hired since the outset are those in service. They are free, without a thread. -/
  idles : server.pool.Idles terms outset.pool (hires (shown turns))
  attempt : ∀ listens, ∃ next events, server.step? terms (.start listens) = some (next, events) ∧
    Attempted terms outset turns server listens events next
  /-- A connection that arrived can be dropped, and the pool stays as it is. -/
  connection : ∀ descriptor ∈ server.arrivals, ∀ starts,
    server.step? terms (.decide descriptor starts) = some
      ({ server with
          arrivals := server.arrivals.erase descriptor
          dismissals := server.dismissals ++ [descriptor] }, [.decided descriptor .dropped])
  /-- A connection that was dropped can be discarded, and the pool stays as it is. -/
  discard : ∀ descriptor ∈ server.dismissals, server.step? terms (.dismiss descriptor) = some
    ({ server with dismissals := server.dismissals.erase descriptor }, [.discarded descriptor])
  stop : ∀ caller mode, server.step? terms (.beginStop caller mode) =
    some (server, [.stopAnswered caller false])
  /-- A sweep finds nobody, and the pool stays as it is. -/
  sweep : ∀ caller, server.step? terms (.beginSweep caller) = some
    ({ server with sweeps := server.sweeps ++ [{ caller, held := [], left := [] }] }, [])
  reap : ∀ position caller, server.sweeps[position]? = some { caller, held := [], left := [] } →
    server.step? terms (.endSweep position) = some
      ({ server with sweeps := server.sweeps.eraseIdx position }, [.sweepAnswered caller 0])

theorem Step.hires_start {listens : Bool} (step : Step terms server (.start listens) events next)
    (stopped : server.pool.lifecycle = .stopped) : hires events =
      List.range' server.pool.nextId (terms.options.minWorkers - server.pool.free.length) := by
  cases step with
  | alreadyRunning running => cases stopped.symm.trans running
  | stillStopping stopping => cases stopped.symm.trans stopping
  | started | cannotListen => exact hires_startEvents

theorem Step.attempted {listens : Bool} (step : Step terms server (.start listens) events next)
    (sound : Sound terms server) (floor : Floor terms turns server.pool)
    (filled : Pool.Idles terms (floored terms server.pool) outset.pool
      (hires (shown turns ++ events))) :
    Attempted terms outset turns server listens events next := by
  have hired := step.hires_start floor.stopped
  have empty : server.pool.queue = [] := sound.roster.stopped_queue floor.stopped
  have enough : (hires (shown turns ++ events)).length = terms.options.minWorkers := by
    rw [hires_append, hired]
    exact floor.length_filled
  have full (tried : Tried turns) : terms.options.minWorkers ≤ server.pool.free.length := by
    rw [floor.free, List.length_reverse, floor.tried tried]
  have nobody (tried : Tried turns) : hires events = [] := by
    rw [hired, Nat.sub_eq_zero_of_le (full tried)]
    rfl
  have same (tried : Tried turns) : floored terms server.pool = server.pool :=
    floored_of_full empty (full tried)
  cases step with
  | alreadyRunning running => cases floor.stopped.symm.trans running
  | stillStopping stopping => cases floor.stopped.symm.trans stopping
  | started =>
      exact ⟨answers_startEvents empty, transportCalls_startEvents empty, rfl, filled.run, enough,
        fun tried => ⟨nobody tried, by rw [same tried]⟩⟩
  | cannotListen stopped =>
      exact ⟨answers_startEvents empty, transportCalls_startEvents empty,
        floored_lifecycle stopped, filled, enough, fun tried => ⟨nobody tried, by rw [same tried]⟩⟩

/-- Whatever happens from the outset on, it stays so until a start succeeds. -/
theorem attemptsKept_of_outset (origin : Outset terms outset)
    (path : Path terms outset turns server) (failed : .startAnswered .started ∉ shown turns) :
    AttemptsKept terms outset turns server := by
  obtain ⟨before, run⟩ := origin.exists_run
  have sound : Sound terms server := path.sound (Run.sound run)
  have withstood := path.withstood (Run.sound run) origin.vacant failed
  have stopped := withstood.floor.stopped
  have other : server.pool.lifecycle ≠ .running := by
    rw [stopped]
    nofun
  have idles {more : List Turn} {later : Server} (path : Path terms outset more later)
      (floor : Floor terms more later.pool) :
      later.pool.Idles terms outset.pool (hires (shown more)) :=
    floor.idles path (path.sound (Run.sound run)) run.equipped (Run.equipped (run.append path))
  constructor
  case toWithstood => exact withstood
  case idles => exact idles path withstood.floor
  case attempt =>
    intro listens
    have step := start_step terms listens server
    -- The workers are hired before the transport is asked, so failing shows whom any attempt hires.
    have filled := idles (path.turn (.cannotListen stopped)) withstood.floor.attempt
    rw [shown_append, shown_singleton, hires_append, hires_startEvents, ← step.hires_start stopped,
      ← hires_append] at filled
    exact ⟨_, _, step.step?, step.attempted sound withstood.floor filled⟩
  case connection => exact fun descriptor waits starts => (Step.dropped waits other).step?
  case discard => exact fun descriptor waits => (Step.dismiss waits).step?
  case stop => exact fun caller mode => (Step.notRunning other).step?
  case sweep =>
    intro caller
    have nobody : server.pool.retired = [] := sound.roster.stopped_retired stopped
    have same : { server.pool with retired := [] } = server.pool := by rw [← nobody]
    have step : Step terms server (.beginSweep caller) _ _ := .beginSweep
    rw [nobody, same] at step
    exact step.step?
  case reap => exact fun position caller found => (Step.endSweep found rfl rfl).step?

/-- Attempts behind the first run of a server, from what the turns come to. -/
theorem exists_attempts {found server : Server} {more shows : List Event}
    (before attempts : List Label) (ran : run? terms {} before = some (found, more))
    (settled : found.step? terms .settle = some (outset, []))
    (attempted : outset.run? terms attempts = some (server, shows)) :
    ∃ turns, Outset terms outset ∧ Path terms outset turns server ∧ shown turns = shows := by
  obtain ⟨earlier, run, _, _⟩ := path_iff_run?.2 ran
  obtain ⟨turns, path, _, shown⟩ := path_iff_run?.2 attempted
  exact ⟨turns, .ended run (.of_step? settled), path, shown⟩

/-- A run in which one of two workers served a connection has just been ended. The first attempt after
it hires two workers, who are still all behind the second attempt; a connection, a stop and a sweep
came in between. -/
theorem attemptsKept_of_second_run :
    ∃ outset turns server,
      Outset { options := { minWorkers := 2, maxWorkers := 3 }, forks := true } outset ∧
      Path { options := { minWorkers := 2, maxWorkers := 3 }, forks := true } outset turns server ∧
      .startAnswered .started ∉ shown turns ∧ Tried turns ∧
      shown turns = [.stopAnswered 1 true, .hired 3, .hired 4, .listened false,
        .startAnswered .cannotListen, .arrived ⟨.network, 8⟩, .decided ⟨.network, 8⟩ .dropped,
        .stopAnswered 2 false, .discarded ⟨.network, 8⟩, .sweepAnswered 3 0, .listened false,
        .startAnswered .cannotListen] ∧
      server.pool.staff = [3, 4] ∧
      AttemptsKept { options := { minWorkers := 2, maxWorkers := 3 }, forks := true } outset turns
        server := by
  obtain ⟨turns, origin, path, shows⟩ := exists_attempts
    [.start true, .arrive ⟨.network, 7⟩, .decide ⟨.network, 7⟩ true, .take 2, .exchange 2 false,
      .report 2 true, .beginStop 1 .waitClients, .unlisten, .collect, .signal 1, .signal 2,
      .claim 1, .claim 2, .leave 2, .joined]
    [.endStop 0, .start false, .arrive ⟨.network, 8⟩, .decide ⟨.network, 8⟩ true,
      .beginStop 2 .interruptClients, .beginSweep 3, .dismiss ⟨.network, 8⟩, .endSweep 0,
      .start false]
    (show run? { options := { minWorkers := 2, maxWorkers := 3 }, forks := true } {} _ =
      some (_, _) from rfl) rfl rfl
  have failed : .startAnswered .started ∉ shown turns := by
    rw [shows]
    decide
  have kept := attemptsKept_of_outset origin path failed
  have tried : Tried turns := by
    by_contra untried
    have nobody := kept.floor.untried untried
    rw [shows] at nobody
    cases nobody
  exact ⟨_, turns, _, origin, path, failed, tried, shows, rfl, kept⟩

end Server

end ConnectionPool
