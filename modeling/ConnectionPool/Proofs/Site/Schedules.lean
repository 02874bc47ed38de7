import ConnectionPool.Proofs.Site.Arising
import Mathlib.Data.Finset.Card

/-!
Contract: stops of several servers in any schedule.

A stop takes its turns one by one, and between any two of them every thread at the site may go on, at the
server that is being stopped and at all others; so may threads between two stops. Whatever the schedule, the
first stop of a server that runs ends its run and leaves nobody in it, and a thread of a stopped server has no
turn to take, so every further stop finds what the first one has left.

Owns:
- `Site.StopsBy` and `Site.StopsAllBy`, a stop and several stops, one after the other, in any schedule;
- `Site.StopsAnyhow`, what those come to.

Does not own: that a stop comes to its answer; sessions can hold it up for as long as they like.
-/

namespace ConnectionPool

/-! ## One server -/

namespace Server

variable {terms : Terms} {server next first last : Server} {label : Label} {events : List Event}
  {turns : List Turn}

/-- The only stop under way, which has still to end the run, or to close what it found waiting when it did. -/
inductive Ending (caller : Nat) (server : Server) : Prop where
  | waits {closing : Closing} (active : server.closing = some closing) (called : closing.caller = caller)
      (unanswered : server.clearances = [])
  | clears {left : List Descriptor} (isOver : server.closing = none) (vacant : server.pool.Vacant)
      (clearance : server.clearances = [⟨caller, left⟩])

theorem Ending.not_unstopped {caller : Nat} (ending : server.Ending caller) : ¬ server.Unstopped := by
  rintro ⟨closing, clearances⟩
  cases ending with
  | waits active => cases closing.symm.trans active
  | clears _ _ clearance => cases clearances.symm.trans clearance

theorem Step.ending_of_stop {caller : Nat} (step : Step terms server label events next)
    (ending : server.Ending caller) (ofStop : label.isOfStop = true) : next.Ending caller := by
  cases step with
  | unlisten active | collect active | signal active | claim active | joined active =>
      cases ending with
      | waits present called unanswered =>
          cases active.symm.trans present
          exact .waits rfl called unanswered
      | clears isOver => cases active.symm.trans isOver
  | settle active =>
      cases ending with
      | waits present called unanswered =>
          cases active.symm.trans present
          exact .clears rfl ⟨rfl, rfl, rfl, rfl, rfl⟩ (by rw [unanswered, called, List.nil_append])
      | clears isOver => cases active.symm.trans isOver
  | @clear position _ _ _ found =>
      cases ending with
      | waits _ _ unanswered =>
          rw [unanswered] at found
          cases found
      | clears isOver vacant clearance =>
          rw [clearance] at found ⊢
          cases position with
          | zero =>
              cases found
              exact .clears isOver vacant rfl
          | succ => cases found
  | _ => cases ofStop

/-- A thread leaves the stop to itself. -/
theorem Step.ending (step : Step terms server label events next) {caller : Nat}
    (ending : server.Ending caller) (own : (label.thread?.isSome || label.isOfStop) = true) :
    next.Ending caller := by
  rw [Bool.or_eq_true] at own
  rcases own with thread | ofStop
  · have same := step.goesOn_of_ordinary (Label.isOrdinary_of_thread thread)
    cases ending with
    | waits active called unanswered =>
        exact .waits (same.closing.trans active) called (same.clearances.trans unanswered)
    | clears isOver vacant clearance =>
        refine .clears (same.closing.trans isOver) (step.vacant vacant fun reopens => ?_)
          (same.clearances.trans clearance)
        obtain ⟨listens, rfl⟩ := reopens.exists_start
        cases thread
  · exact step.ending_of_stop ending ofStop

theorem Path.ending {caller : Nat} (path : Path terms first turns last) (ending : first.Ending caller)
    (own : ∀ turn ∈ turns, (turn.label.thread?.isSome || turn.label.isOfStop) = true) :
    last.Ending caller :=
  path.keeps (motive := Ending caller) ending fun taken ending step => step.ending ending (own _ taken)

/-- The stop answers when it has closed everything, and nothing of it is left. -/
theorem Step.answered_of_ending {caller position : Nat}
    (step : Step terms server (.endStop position) events next) (ending : server.Ending caller) :
    events = [.stopAnswered caller true] ∧ next.pool.Vacant ∧ next.Unstopped := by
  cases step with
  | endStop found =>
      cases ending with
      | waits _ _ unanswered =>
          rw [unanswered] at found
          cases found
      | clears isOver vacant clearance =>
          rw [clearance] at found ⊢
          cases position with
          | zero =>
              cases found
              exact ⟨rfl, vacant, isOver, rfl⟩
          | succ => cases found

/-- A thread that takes a turn is in its round, and nobody is in a stopped server. -/
theorem Step.not_thread_of_stopped (step : Step terms server label events next)
    (sound : Sound terms server) (stopped : server.pool.lifecycle = .stopped) : label.thread? = none := by
  have inactive {id : WorkerId} {worker : Worker} (found : server.pool.worker? id = some worker)
      (active : worker.stage.isActive = true) : False := by
    cases (sound.resting stopped found).2.symm.trans active
  cases step with
  | take found stage | leave found stage | expire found stage | retire found stage | stay found stage
  | exchange found stage | beginSession found stage | skipSession found stage | finish found stage
  | handOver found stage | becomeFree found stage | comeBack found stage =>
      exact (inactive found (by rw [stage]; rfl)).elim
  | _ => rfl

theorem Path.eq_of_stopped (path : Path terms first turns last) (sound : Sound terms first)
    (stopped : first.pool.lifecycle = .stopped)
    (threads : ∀ turn ∈ turns, turn.label.thread?.isSome = true) : last = first :=
  path.keeps (motive := fun server => server = first) rfl fun taken same step => by
    subst same
    have thread := threads _ taken
    rw [step.not_thread_of_stopped sound stopped] at thread
    cases thread

/-- What the stops of a server have left of it, the first of which found it like this. -/
structure AfterStop (server later : Server) : Prop where
  stopped : later.pool.lifecycle = .stopped
  closing : later.closing = none
  clearances : later.clearances = []
  vacant : server.pool.lifecycle = .running → later.pool.Vacant
  unchanged : server.pool.lifecycle ≠ .running → later = server

theorem AfterStop.unstopped {later : Server} (behind : server.AfterStop later) : later.Unstopped :=
  ⟨behind.closing, behind.clearances⟩

/-- A stop changes nothing where the server does not run and is not being stopped. -/
theorem afterStop_self (sound : Sound terms server) (unstopped : server.Unstopped)
    (other : server.pool.lifecycle ≠ .running) : server.AfterStop server where
  stopped := by
    have notStopping : server.pool.lifecycle ≠ .stopping := fun stopping => by
      have active := sound.closes.2 stopping
      rw [unstopped.closing] at active
      cases active
    cases lifecycle : server.pool.lifecycle with
    | stopped => rfl
    | running => exact absurd lifecycle other
    | stopping => exact absurd lifecycle notStopping
  closing := unstopped.closing
  clearances := unstopped.clearances
  vacant := fun running => absurd running other
  unchanged := fun _ => rfl

end Server

namespace Site

variable {site before now after : Site} {position other : Nat} {live : LiveServer} {mode : StopMode}

/-! ## One stop -/

theorem Stopping.goesBy (stopping : Stopping position before after) (posted : before.Posted) :
    GoesBy (fun label => label.thread?.isSome || label.isOfStop) position before after := by
  cases stopping with
  | labours labours =>
      exact (labours.leftAlone posted position).mono fun label thread => by rw [thread]; rfl
  | turn label ofStop =>
      obtain ⟨turns, turned, isLabel⟩ := exists_advances_turn posted position label
      exact turned.goesBy (fun turn member => by rw [isLabel turn member, ofStop, Bool.or_true]) position

theorem Stopping.leftAlone (stopping : Stopping position before after) (posted : before.Posted)
    (different : other ≠ position) : LeftAlone other before after := by
  cases stopping with
  | labours labours => exact labours.leftAlone posted other
  | turn label =>
      obtain ⟨turns, turned, -⟩ := exists_advances_turn posted position label
      exact .of_eq (turned.others other different)

/-- While a server is being stopped, the threads go on and the stop does; all others are left alone. -/
theorem WhileStopping.goesBy (goesOn : WhileStopping position before after) (posted : before.Posted) :
    GoesBy (fun label => label.thread?.isSome || label.isOfStop) position before after ∧
      ∀ other, other ≠ position → LeftAlone other before after := by
  induction goesOn with
  | refl => exact ⟨.refl position before, fun other _ => .refl other before⟩
  | tail earlier stopping inductionHypothesis =>
      have posted := ((WhileStopping.stirs earlier).preserves posted).posted
      obtain ⟨here, others⟩ := inductionHypothesis
      exact ⟨here.trans (stopping.goesBy posted),
        fun other different => (others other different).trans (stopping.leftAlone posted different)⟩

/-- A stop of the server at a position, from its call to its answer, in any schedule. -/
inductive StopsBy (mode : StopMode) (position : Nat) (before : Site) : Bool → Site → Prop where
  /-- It answers at once that the server was not running. -/
  | refused {after : Site} (answers :
      before.turn position (.beginStop caller mode) = ([.stopAnswered caller false], after)) :
      StopsBy mode position before false after
  /-- It finds the server running, and goes on until it answers so. -/
  | ends {number : Nat} {began ended after : Site}
      (begins : before.turn position (.beginStop caller mode) = ([], began))
      (goesOn : WhileStopping position began ended)
      (answers : ended.turn position (.endStop number) = ([.stopAnswered caller true], after)) :
      StopsBy mode position before true after

namespace StopsBy

variable {answered : Bool}

theorem stirs (stop : before.StopsBy mode position answered after) : before.Stirs after := by
  have begun : before.Stirs (before.turn position (.beginStop caller mode)).2 := .single (.turn _ _)
  cases stop with
  | refused answers =>
      rw [answers] at begun
      exact begun
  | @ends number _ ended _ begins goesOn answers =>
      rw [begins] at begun
      have last : ended.Stirs (ended.turn position (.endStop number)).2 := .single (.turn _ _)
      rw [answers] at last
      exact (begun.trans (WhileStopping.stirs goesOn)).trans last

theorem leftAlone (stop : before.StopsBy mode position answered after) (posted : before.Posted)
    (different : other ≠ position) : LeftAlone other before after := by
  have ownTurn {site : Site} (posted : site.Posted) (label : Label) :
      (site.turn position label).2.servers[other]? = site.servers[other]? := by
    obtain ⟨turns, turned, -⟩ := exists_advances_turn posted position label
    exact turned.others other different
  have begun := ownTurn posted (.beginStop caller mode)
  cases stop with
  | refused answers =>
      rw [answers] at begun
      exact .of_eq begun
  | @ends number began ended _ begins goesOn answers =>
      obtain ⟨turns, first, -⟩ := exists_advances_turn posted position (.beginStop caller mode)
      rw [begins] at begun first
      have last := ownTurn ((WhileStopping.stirs goesOn).preserves first.posted).posted (.endStop number)
      rw [answers] at last
      have same : LeftAlone other before began := .of_eq begun
      exact (same.trans ((WhileStopping.goesBy goesOn first.posted).2 other different)).trans (.of_eq last)

theorem eq_of_not_running (stop : before.StopsBy mode position answered after)
    (found : before.servers[position]? = some live) (rests : live.server.pool.lifecycle ≠ .running) :
    answered = false ∧ after = before := by
  have refuses : before.turn position (.beginStop caller mode) = ([.stopAnswered caller false], before) :=
    turn_eq_of_not_running found rests
  cases stop with
  | refused answers =>
      cases answers.symm.trans refuses
      exact ⟨rfl, rfl⟩
  | ends begins => cases begins.symm.trans refuses

end StopsBy

/-- A stop that finds its server running has begun, and has to come to its end. -/
theorem ending_of_running (mode : StopMode) (posted : before.Posted)
    (found : before.servers[position]? = some live) (running : live.server.pool.lifecycle = .running)
    (unanswered : live.server.clearances = []) :
    (before.turn position (.beginStop caller mode)).1 = [] ∧ ∀ ended,
      WhileStopping position (before.turn position (.beginStop caller mode)).2 ended →
        ended.Posted ∧ ∃ later, ended.servers[position]? = some later ∧ live.Kin later ∧
          later.server.Ending caller := by
  have step : Server.Step live.terms live.server (.beginStop caller mode) [] _ := .beginStop running
  have begun := advances_turn posted found step
  obtain ⟨first, foundFirst, kin, isFirst⟩ := begun.stands found (.turn .refl step)
  refine ⟨by rw [turn_eq_of_step found step], fun ended goesOn => ?_⟩
  obtain ⟨later, turns, foundLater, kinLater, path, own⟩ :=
    (WhileStopping.goesBy goesOn begun.posted).1 first foundFirst
  have ending : first.server.Ending caller := by
    rw [isFirst]
    exact .waits rfl rfl unanswered
  exact ⟨((WhileStopping.stirs goesOn).preserves begun.posted).posted, later, foundLater,
    kin.trans kinLater, path.ending ending own⟩

/-- A stop that finds its server running leaves nobody in it. -/
theorem StopsBy.vacates {answered : Bool} (stop : before.StopsBy mode position answered after)
    (posted : before.Posted) (found : before.servers[position]? = some live)
    (running : live.server.pool.lifecycle = .running) (unanswered : live.server.clearances = []) :
    answered = true ∧ ∃ later, after.servers[position]? = some later ∧ live.Kin later ∧
      live.server.AfterStop later.server := by
  obtain ⟨silent, goesOn⟩ := ending_of_running mode posted found running unanswered
  cases stop with
  | refused answers =>
      rw [answers] at silent
      cases silent
  | @ends number began ended _ begins goes answers =>
      rw [begins] at goesOn
      obtain ⟨postedThen, middle, foundThen, kin, ending⟩ := goesOn ended goes
      cases taken : middle.server.step? middle.terms (.endStop number) with
      | none =>
          rw [turn_eq_of_none foundThen taken] at answers
          cases answers
      | some answer =>
          have step : Server.Step middle.terms middle.server (.endStop number) answer.2 answer.1 :=
            .of_step? taken
          have turned := advances_turn postedThen foundThen step
          obtain ⟨later, foundLater, kinLater, isLater⟩ := turned.stands foundThen (.turn .refl step)
          obtain ⟨-, vacant, unstopped⟩ := step.answered_of_ending ending
          rw [answers] at foundLater
          rw [← isLater] at vacant unstopped
          exact ⟨rfl, later, foundLater, kin.trans kinLater, vacant.stopped, unstopped.closing,
            unstopped.clearances, fun _ => vacant, fun rests => absurd running rests⟩

/-- A stop in the one schedule that a site computes. -/
theorem stopsBy_stopNow (mode : StopMode) (posted : site.Posted)
    (found : site.servers[position]? = some live) (sound : Server.Sound live.terms live.server)
    (running : live.server.pool.lifecycle = .running) (unanswered : live.server.clearances = []) :
    site.StopsBy mode position true (site.stopNow position mode).2 := by
  obtain ⟨silent, goesOn⟩ := ending_of_running mode posted found running unanswered
  obtain ⟨ended, goes, isLast⟩ := site.stopNow_eq position mode silent
  obtain ⟨-, middle, foundThen, -, ending⟩ := goesOn ended goes
  have begins : site.turn position (.beginStop caller mode) =
      ([], (site.turn position (.beginStop caller mode)).2) := Prod.ext silent rfl
  refine .ends begins goes (Prod.ext ?_ isLast.symm)
  cases taken : middle.server.step? middle.terms (.endStop 0) with
  | none =>
      -- Without its last turn the stop would still be in progress.
      obtain ⟨-, turns, last, advances, path, halts⟩ :=
        stopNow_of_running mode posted found sound running unanswered
      obtain ⟨later, foundLater, -, isLater⟩ := advances.stands found path
      rw [isLast, turn_eq_of_none foundThen taken] at foundLater
      cases foundThen.symm.trans foundLater
      rw [isLater] at ending
      exact absurd ⟨(path.sound sound).closing_eq_none (by rw [halts.stopped]; nofun), halts.answered⟩
        ending.not_unstopped
  | some answer =>
      have step : Server.Step middle.terms middle.server (.endStop 0) answer.2 answer.1 := .of_step? taken
      rw [turn_eq_of_step foundThen step]
      exact (step.answered_of_ending ending).1

/-- A stopped server that is left alone stands still. -/
theorem GoesBy.stands (alone : LeftAlone position now after) (found : now.servers[position]? = some live)
    (sound : Server.Sound live.terms live.server) (stopped : live.server.pool.lifecycle = .stopped) :
    ∃ later, after.servers[position]? = some later ∧ live.Kin later ∧ later.server = live.server := by
  obtain ⟨later, turns, foundLater, kin, path, threads⟩ := alone live found
  exact ⟨later, foundLater, kin, path.eq_of_stopped sound stopped threads⟩

/-! ## Several stops -/

/-- Stops of some servers, one after the other, in any schedule, with how many of them found their server
running. -/
inductive StopsAllBy (mode : StopMode) (before : Site) : List Nat → Nat → Site → Prop where
  | begins {now : Site} (meanwhile : before.Labour now) : StopsAllBy mode before [] 0 now
  | next {positions : List Nat} {count position : Nat} {answered : Bool} {now ended after : Site}
      (earlier : StopsAllBy mode before positions count now)
      (stop : now.StopsBy mode position answered ended) (meanwhile : ended.Labour after) :
      StopsAllBy mode before (positions ++ [position]) (if answered then count + 1 else count) after

/-- What the stops of some servers have come to in some schedule. -/
structure StopsAnyhow (positions : List Nat) (before : Site) (count : Nat) (after : Site) : Prop where
  /-- The distinct servers count that were running. -/
  counted : count = (positions.toFinset.filter fun position => before.isRunning position).card
  stopped : ∀ position ∈ positions, ∀ live : LiveServer, before.servers[position]? = some live →
    ∃ later, after.servers[position]? = some later ∧ live.Kin later ∧ live.server.AfterStop later.server
  others : ∀ position ∉ positions, LeftAlone position before after
  directory : after.directory = before.directory

theorem StopsAllBy.stirs {positions : List Nat} {count : Nat}
    (stops : StopsAllBy mode before positions count after) : before.Stirs after := by
  induction stops with
  | begins meanwhile => exact Labour.stirs meanwhile
  | next _ stop meanwhile inductionHypothesis =>
      exact (inductionHypothesis.trans stop.stirs).trans (Labour.stirs meanwhile)

theorem toFinset_snoc (positions : List Nat) (position : Nat) :
    (positions ++ [position]).toFinset = insert position positions.toFinset := by
  ext other
  simp

/-- How many distinct servers were running grows by one where one more is named that was. -/
theorem card_running_snoc (positions : List Nat) (position : Nat) (site : Site) :
    ((positions ++ [position]).toFinset.filter fun position => site.isRunning position).card =
      (positions.toFinset.filter fun position => site.isRunning position).card +
        if position ∉ positions ∧ site.isRunning position = true then 1 else 0 := by
  rw [toFinset_snoc, Finset.filter_insert]
  by_cases runs : site.isRunning position = true
  · by_cases member : position ∈ positions
    · rw [if_pos runs, Finset.insert_eq_self.2 (by simp [member, runs])]
      simp [member]
    · rw [if_pos runs, Finset.card_insert_of_notMem (by simp [member])]
      simp [member, runs]
  · simp [runs]

namespace StopsAnyhow

variable {positions : List Nat} {count : Nat} {answered : Bool}

/-- No stop is in progress between two of these. -/
theorem unstopped {resident : LiveServer} (stops : StopsAnyhow positions before count now)
    (found : before.servers[position]? = some live) (unstopped : live.server.Unstopped)
    (foundNow : now.servers[position]? = some resident) : resident.server.Unstopped := by
  by_cases member : position ∈ positions
  · obtain ⟨later, foundLater, -, behind⟩ := stops.stopped position member live found
    cases foundNow.symm.trans foundLater
    exact behind.unstopped
  · obtain ⟨later, turns, foundLater, -, path, threads⟩ := stops.others position member live found
    cases foundNow.symm.trans foundLater
    have same := path.goesOn_of_ordinary fun turn member =>
      Label.isOrdinary_of_thread (threads turn member)
    exact ⟨same.closing.trans unstopped.closing, same.clearances.trans unstopped.clearances⟩

/-- What a server was left like is left when it is left alone. -/
theorem keeps (stops : StopsAnyhow positions before count now) (sane : now.Sane)
    (member : position ∈ positions) (alone : LeftAlone position now after)
    (found : before.servers[position]? = some live) : ∃ later, after.servers[position]? = some later ∧
      live.Kin later ∧ live.server.AfterStop later.server := by
  obtain ⟨middle, foundNow, kin, behind⟩ := stops.stopped position member live found
  obtain ⟨later, foundLater, kinLater, same⟩ :=
    alone.stands foundNow (sane.sound position middle foundNow) behind.stopped
  exact ⟨later, foundLater, kin.trans kinLater, same ▸ behind⟩

theorem labour (stops : StopsAnyhow positions before count now) (sane : now.Sane)
    (labour : now.Labour after) : StopsAnyhow positions before count after where
  counted := stops.counted
  stopped := fun _ member _ found =>
    stops.keeps sane member (Labour.leftAlone labour sane.posted _) found
  others := fun position outside =>
    (stops.others position outside).trans (Labour.leftAlone labour sane.posted position)
  directory := ((Labour.stirs labour).preserves sane.posted).directory.trans stops.directory

/-- A further stop of a server finds what the first one has left. -/
theorem again (stops : StopsAnyhow positions before count now) (member : position ∈ positions)
    (found : before.servers[position]? = some live) (stop : now.StopsBy mode position answered after) :
    StopsAnyhow (positions ++ [position]) before (if answered then count + 1 else count) after := by
  obtain ⟨later, foundLater, -, behind⟩ := stops.stopped position member live found
  obtain ⟨rfl, rfl⟩ := stop.eq_of_not_running foundLater (by rw [behind.stopped]; nofun)
  constructor
  case counted => simpa [card_running_snoc, member] using stops.counted
  case stopped =>
    intro other named
    refine stops.stopped other ((List.mem_append.1 named).elim id fun last => ?_)
    rwa [List.mem_singleton.1 last]
  case others =>
    exact fun other outside => stops.others other fun named => outside (List.mem_append_left _ named)
  case directory => exact stops.directory

/-- The first stop of a server ends its run, or finds that there is none. -/
theorem once (stops : StopsAnyhow positions before count now) (sane : now.Sane)
    (outside : position ∉ positions) (found : before.servers[position]? = some live)
    (sound : Server.Sound live.terms live.server) (unstopped : live.server.Unstopped)
    (stop : now.StopsBy mode position answered after) :
    StopsAnyhow (positions ++ [position]) before (if answered then count + 1 else count) after := by
  have alone := stops.others position outside
  have ofOthers (other : Nat) (different : other ≠ position) : LeftAlone other now after :=
    stop.leftAlone sane.posted different
  -- What the stop does is decided by whether the server was running before all stops.
  obtain ⟨isAnswer, later, foundLater, kin, behind⟩ : answered = before.isRunning position ∧ ∃ later,
      after.servers[position]? = some later ∧ live.Kin later ∧ live.server.AfterStop later.server := by
    by_cases running : live.server.pool.lifecycle = .running
    · obtain ⟨middle, turns, foundNow, kin, path, threads⟩ := alone live found
      have same := path.goesOn_of_ordinary fun turn member =>
        Label.isOrdinary_of_thread (threads turn member)
      have runs := same.lifecycle.trans running
      obtain ⟨rfl, later, foundLater, kinLater, behind⟩ :=
        stop.vacates sane.posted foundNow runs (same.clearances.trans unstopped.clearances)
      exact ⟨(isRunning_eq_true_iff.2 ⟨live, found, running⟩).symm, later, foundLater,
        kin.trans kinLater, behind.stopped, behind.closing, behind.clearances,
        fun _ => behind.vacant runs, fun rests => absurd running rests⟩
    · have behind := Server.afterStop_self sound unstopped running
      obtain ⟨later, foundNow, kin, same⟩ := alone.stands found sound behind.stopped
      obtain ⟨rfl, rfl⟩ := stop.eq_of_not_running foundNow (by rwa [same])
      exact ⟨by simp [isRunning, found, running], later, foundNow, kin, by rwa [same]⟩
  constructor
  case counted =>
    rw [card_running_snoc, ← stops.counted, isAnswer]
    cases before.isRunning position <;> simp [outside]
  case stopped =>
    intro other named resident isResident
    rcases List.mem_append.1 named with earlier | last
    · exact stops.keeps sane earlier (ofOthers other fun same => outside (same ▸ earlier)) isResident
    · obtain rfl := List.mem_singleton.1 last
      cases found.symm.trans isResident
      exact ⟨later, foundLater, kin, behind⟩
  case others =>
    intro other outsideAll
    obtain ⟨notEarlier, different⟩ : other ∉ positions ∧ other ≠ position := by simpa using outsideAll
    exact (stops.others other notEarlier).trans (ofOthers other different)
  case directory => exact (stop.stirs.preserves sane.posted).directory.trans stops.directory

end StopsAnyhow

/-- Stops of some servers that there are, none of which is being stopped already. -/
theorem StopsAllBy.stopsAnyhow {positions : List Nat} {count : Nat}
    (stops : StopsAllBy mode before positions count after) (sane : before.Sane)
    (known : ∀ position ∈ positions, position < before.servers.length)
    (unstopped : ∀ position ∈ positions, ∀ live : LiveServer, before.servers[position]? = some live →
      live.server.Unstopped) : StopsAnyhow positions before count after := by
  induction stops with
  | begins meanwhile =>
      exact ⟨rfl, nofun, fun position _ => Labour.leftAlone meanwhile sane.posted position,
        ((Labour.stirs meanwhile).preserves sane.posted).directory⟩
  | @next positions count position answered now ended after earlier stop meanwhile inductionHypothesis =>
      have stopped := inductionHypothesis
        (fun other member => known other (List.mem_append_left _ member))
        fun other member => unstopped other (List.mem_append_left _ member)
      have saneNow := sane.preserved (earlier.stirs.preserves sane.posted)
      have here : position ∈ positions ++ [position] := by simp
      have found : before.servers[position]? = some _ := List.getElem?_eq_getElem (known position here)
      have further : StopsAnyhow (positions ++ [position]) before
          (if answered then count + 1 else count) ended := by
        by_cases member : position ∈ positions
        · exact stopped.again member found stop
        · exact stopped.once saneNow member found (sane.sound position _ found)
            (unstopped position here _ found) stop
      exact further.labour (saneNow.preserved (stop.stirs.preserves saneNow.posted)) meanwhile

end Site

end ConnectionPool
