import ConnectionPool.Proofs.Lookup
import ConnectionPool.Proofs.Server.Engagement
import ConnectionPool.Proofs.Server.StopCall
import Mathlib.Data.List.InsertIdx
import Mathlib.Data.List.Perm.Basic

/-!
Contract: the lifecycle of a server under any number of concurrent starts and stops.

A run begins with a start whose transport listens. One stop takes the server out of service, tells
the transport not to listen and ends the run; every other stop answers at once and changes nothing.
Runs and the stops that found the server running are numbered alike, each in the order in which they
began, and stop number `n` ends run number `n`. Stops that have ended their run may answer in any
order, because the next run may begin while an earlier stop still closes what was waiting.

Owns:
- `StopRegister`, what a history tells about the stops that found the server running;
- `Server.Milestone`, the turns that matter to the lifecycle;
- `Server.LifecycleKept` and its proof for every run.

Does not own: what the workers and the waiting connections go through meanwhile.
-/

namespace ConnectionPool

/-! ## What was shown -/

namespace Event

/-- The transport begins to listen, or ceases to. -/
def switch? : Event → Option Bool
  | .listened true => some true
  | .unlistened => some false
  | _ => none

/-- The caller of a stop that answers that the server was running. -/
def stopped? : Event → Option Nat
  | .stopAnswered caller true => some caller
  | _ => none

end Event

def switches (events : List Event) : List Bool :=
  events.filterMap Event.switch?

def stopAnswers (events : List Event) : List Nat :=
  events.filterMap Event.stopped?

/-- The starts that succeeded. -/
def startCount (events : List Event) : Nat :=
  events.count (.startAnswered .started)

@[simp] theorem switches_append (front back : List Event) :
    switches (front ++ back) = switches front ++ switches back :=
  List.filterMap_append

@[simp] theorem stopAnswers_append (front back : List Event) :
    stopAnswers (front ++ back) = stopAnswers front ++ stopAnswers back :=
  List.filterMap_append

@[simp] theorem startCount_append (front back : List Event) :
    startCount (front ++ back) = startCount front + startCount back :=
  List.count_append

/-- Behind these events the transport listens. -/
def LeftListening (events : List Event) : Prop :=
  (switches events).getLast? = some true

/-- Listening was begun and ceased in turns, and begun first. -/
def Alternates (switches : List Bool) : Prop :=
  switches.IsChain (· ≠ ·) ∧ switches.head? ≠ some false

theorem Alternates.snoc {front : List Bool} {last : Bool} (alternates : Alternates front)
    (turns : front.getLast? = some true ↔ last = false) : Alternates (front ++ [last]) := by
  obtain ⟨chain, first⟩ := alternates
  constructor
  · refine List.isChain_append.2 ⟨chain, List.isChain_singleton _, ?_⟩
    intro before isLast after isNext
    obtain rfl : last = after := by simpa using isNext
    cases before with
    | true => simp [turns.1 isLast]
    | false =>
        intro same
        subst same
        have differs := turns.2 rfl
        rw [Option.mem_def.1 isLast] at differs
        cases differs
  · cases front with
    | nil =>
        intro begins
        obtain rfl : last = false := by simpa using begins
        cases turns.2 rfl
    | cons head tail => exact first

/-! ## The stops of a history -/

/-- The stops of a history that found the server running, numbered from zero in the order of their
calls. -/
structure StopRegister where
  /-- Who made the call of each number. -/
  callers : List Nat := []
  /-- How many of them have ended their run. -/
  ended : Nat := 0
  /-- Those that have ended their run and still close what was waiting, in the order of the server's
  clearances. -/
  clearing : List Nat := []
  /-- Those that have answered, in the order of the answers. -/
  answered : List Nat := []
deriving DecidableEq, Repr

namespace StopRegister

/-- A stop that answers at once is not taken in. -/
def note (register : StopRegister) (turn : Turn) : StopRegister :=
  match turn.label with
  | .beginStop caller _ =>
      if turn.events = [] then { register with callers := register.callers ++ [caller] }
      else register
  | .settle =>
      { register with
        ended := register.ended + 1
        clearing := register.clearing ++ [register.ended] }
  | .endStop position =>
      { register with
        clearing := register.clearing.eraseIdx position
        answered := register.answered ++ register.clearing[position]?.toList }
  | _ => register

def ofTurns (turns : List Turn) : StopRegister :=
  turns.foldl note {}

@[simp] theorem ofTurns_snoc (turns : List Turn) (turn : Turn) :
    ofTurns (turns ++ [turn]) = (ofTurns turns).note turn := by
  simp [ofTurns]

/-- The caller of the stop of a number. -/
def caller? (register : StopRegister) (number : Nat) : Option Nat :=
  register.callers[number]?

end StopRegister

namespace Server

variable {terms : Terms} {server next : Server} {label : Label} {events : List Event}
  {turns : List Turn}

/-! ## Turns that matter to the lifecycle -/

/-- The turn is none of the lifecycle's: it neither moves the server on nor switches the transport,
and no stop that found the server running comes any further in it. -/
structure Uneventful (server : Server) (label : Label) (events : List Event) (next : Server) :
    Prop where
  lifecycle : next.pool.lifecycle = server.pool.lifecycle
  call : next.closing.map Closing.call = server.closing.map Closing.call
  listens : next.Listens ↔ server.Listens
  clearances : next.clearances.map Clearance.caller = server.clearances.map Clearance.caller
  switches : switches events = []
  startCount : startCount events = 0
  stopAnswers : stopAnswers events = []
  note : ∀ register : StopRegister, register.note ⟨label, events⟩ = register

/-- The turns that matter to the lifecycle, with all others in one. -/
inductive Milestone (terms : Terms) (server : Server) : Label → List Event → Server → Prop where
  | started (stopped : server.pool.lifecycle = .stopped) :
      Milestone terms server (.start true)
        (startEvents terms server.pool true ++ [.startAnswered .started])
        { server with pool := { floored terms server.pool with lifecycle := .running } }
  | beginStop {caller : Nat} {mode : StopMode} (running : server.pool.lifecycle = .running) :
      Milestone terms server (.beginStop caller mode) []
        { server with
          pool := { server.pool with lifecycle := .stopping }
          closing := some { caller, mode } }
  | unlisten {closing : Closing} (active : server.closing = some closing)
      (stage : closing.stage = .unlistening) :
      Milestone terms server .unlisten [.unlistened]
        { server with closing := some { closing with stage := .collecting } }
  | settle {closing : Closing} {held : List WorkerId} (active : server.closing = some closing)
      (stage : closing.stage = .joining held [] none) :
      Milestone terms server .settle []
        { server with
          pool := settled server.pool
          closing := none
          clearances := server.clearances ++ [⟨closing.caller, server.pool.queue⟩] }
  | endStop {position caller : Nat} (found : server.clearances[position]? = some ⟨caller, []⟩) :
      Milestone terms server (.endStop position) [.stopAnswered caller true]
        { server with clearances := server.clearances.eraseIdx position }
  | uneventful {label : Label} {events : List Event} {next : Server}
      (uneventful : Uneventful server label events next) : Milestone terms server label events next

/-- Only the answers of a start show anything of the lifecycle. -/
theorem switches_startEvents {pool : Pool} {listens : Bool} {answer : StartAnswer}
    (empty : pool.queue = []) :
    switches (startEvents terms pool listens ++ [.startAnswered answer]) =
      if listens then [true] else [] := by
  have hires : (hiredEvents { pool with queue := [] } (floored terms pool)).filterMap
      Event.switch? = [] := by
    apply List.filterMap_eq_nil_iff.2
    intro event member
    obtain ⟨_, _, rfl⟩ := List.mem_map.1 member
    rfl
  cases listens <;>
    simp [switches, startEvents, empty, hires, List.filterMap_cons, Event.switch?]

theorem stopAnswers_startEvents {pool : Pool} {listens : Bool} {answer : StartAnswer}
    (empty : pool.queue = []) :
    stopAnswers (startEvents terms pool listens ++ [.startAnswered answer]) = [] := by
  apply filterMap_startEvents empty
  intro event shown
  cases event <;> first | rfl | cases shown

theorem startCount_startEvents {pool : Pool} {listens : Bool} {answer : StartAnswer}
    (empty : pool.queue = []) :
    startCount (startEvents terms pool listens ++ [.startAnswered answer]) =
      if answer = .started then 1 else 0 := by
  have hires : (hiredEvents { pool with queue := [] } (floored terms pool)).count
      (.startAnswered .started) = 0 := by
    apply List.count_eq_zero.2
    intro member
    obtain ⟨_, _, same⟩ := List.mem_map.1 member
    cases same
  cases answer <;> simp [startCount, startEvents, empty, hires]

/-- A turn of the stop under way that neither tells the transport nor ends the run. -/
theorem Sound.uneventful_of_closing {closing : Closing} {pool : Pool} (sound : Sound terms server)
    (active : server.closing = some closing) (told : closing.stage ≠ .unlistening)
    (stage : ClosingStage) (toldStill : stage ≠ .unlistening)
    (lifecycle : pool.lifecycle = server.pool.lifecycle)
    (note : ∀ register : StopRegister, register.note ⟨label, []⟩ = register) :
    Uneventful server label []
      { server with pool, closing := some { closing with stage } } where
  lifecycle := lifecycle
  call := by rw [active]; rfl
  listens := by
    have stopping := sound.stopping_of_closing active
    have before := sound.not_listens_of_stage active told
    have after : ¬ Listens { server with pool, closing := some { closing with stage } } := by
      rintro (running | ⟨_, same, still⟩)
      · cases running.symm.trans (lifecycle.trans stopping)
      · cases same
        exact toldStill still
    simp only [before, after]
  clearances := rfl
  switches := rfl
  startCount := rfl
  stopAnswers := rfl
  note := note

theorem signalStage_ne_unlistening (held left : List WorkerId) :
    signalStage held left ≠ .unlistening := by
  unfold signalStage
  split <;> nofun

/-- Whatever a turn does, it is one of these to the lifecycle. -/
theorem Step.milestone (step : Step terms server label events next) (sound : Sound terms server) :
    Milestone terms server label events next := by
  cases step with
  | started stopped => exact .started stopped
  | beginStop running => exact .beginStop running
  | unlisten active stage => exact .unlisten active stage
  | settle active stage => exact .settle active stage
  | endStop found => exact .endStop found
  | cannotListen stopped =>
      have empty := sound.roster.stopped_queue stopped
      have still : (floored terms _).lifecycle = .stopped := floored_lifecycle stopped
      refine .uneventful ⟨still.trans stopped.symm, rfl, ?_, rfl, ?_, ?_, ?_, fun _ => rfl⟩
      · simp only [Listens, still, stopped]
      · exact switches_startEvents empty
      · exact startCount_startEvents empty
      · exact stopAnswers_startEvents empty
  | collect active stage =>
      exact .uneventful (sound.uneventful_of_closing active (by simp [stage]) _
        (signalStage_ne_unlistening _ _) rfl fun _ => rfl)
  | signal active stage =>
      exact .uneventful (sound.uneventful_of_closing active (by simp [stage]) _
        (signalStage_ne_unlistening _ _) (Pool.updateWorker_lifecycle _ _ _) fun _ => rfl)
  | claim active stage =>
      exact .uneventful (sound.uneventful_of_closing active (by simp [stage]) _ (by simp)
        (Pool.setWorker_lifecycle _ _ _) fun _ => rfl)
  | joined active stage =>
      exact .uneventful (sound.uneventful_of_closing active (by simp [stage]) _ (by simp) rfl
        fun _ => rfl)
  | clear found =>
      exact .uneventful ⟨rfl, rfl, .rfl, map_set_of_eq found rfl, rfl, rfl, rfl, fun _ => rfl⟩
  | notRunning other =>
      exact .uneventful ⟨rfl, rfl, .rfl, rfl, rfl, rfl, rfl, fun _ => rfl⟩
  | _ =>
      refine .uneventful ⟨?_, rfl, ?_, rfl, rfl, rfl, rfl, fun _ => rfl⟩
      all_goals simp [Listens]

/-! ## Listening -/

/-- The transport was left listening exactly when the server believes so, and it was never told
twice the same. -/
structure Switched (events : List Event) (server : Server) : Prop where
  listens : LeftListening events ↔ server.Listens
  alternates : Alternates (switches events)

theorem Milestone.switched {shows : List Event} (milestone : Milestone terms server label events next)
    (sound : Sound terms server) (switched : Switched shows server) :
    Switched (shows ++ events) next := by
  obtain ⟨listens, alternates⟩ := switched
  cases milestone with
  | started stopped =>
      have news : switches (startEvents terms server.pool true ++ [.startAnswered .started]) =
          [true] := switches_startEvents (sound.roster.stopped_queue stopped)
      have silent : ¬ LeftListening shows := fun left =>
        sound.not_listens stopped (listens.1 left)
      constructor
      · simp [LeftListening, news, Listens]
      · rw [switches_append, news]
        apply alternates.snoc
        exact ⟨fun left => absurd left silent, fun same => by cases same⟩
  | beginStop running =>
      constructor
      · rw [List.append_nil, listens]
        exact iff_of_true (.inl running) (.inr ⟨_, rfl, rfl⟩)
      · rwa [List.append_nil]
  | unlisten active stage =>
      have news : switches [.unlistened] = [false] := rfl
      constructor
      · have after := sound.stopping_of_closing active
        simp [LeftListening, news, Listens, after]
      · rw [switches_append, news]
        apply alternates.snoc
        exact ⟨fun _ => rfl, fun _ => listens.2 (.inr ⟨_, active, stage⟩)⟩
  | settle active stage =>
      have before := sound.not_listens_of_stage active (by simp [stage])
      constructor
      · rw [List.append_nil, listens]
        refine iff_of_false before ?_
        rintro (running | ⟨_, present, _⟩)
        · cases running
        · cases present
      · rwa [List.append_nil]
  | @endStop position caller =>
      have quiet : switches (shows ++ [.stopAnswered caller true]) = switches shows := by
        rw [switches_append]
        exact List.append_nil _
      exact ⟨by rw [LeftListening, quiet]; exact listens, by rwa [quiet]⟩
  | uneventful same =>
      have quiet : switches (shows ++ events) = switches shows := by
        rw [switches_append, same.switches, List.append_nil]
      exact ⟨by rw [LeftListening, quiet, same.listens]; exact listens, by rwa [quiet]⟩

/-! ## Stops by number -/

/-- The register of a history agrees with the server that the history has led to. -/
structure Registered (register : StopRegister) (events : List Event) (server : Server) : Prop where
  /-- A stop that found the server running has ended its run, or it is the one under way. -/
  callers : register.callers.length = register.ended + server.closing.toList.length
  /-- The stop under way is the one that is to end the run that is on. -/
  current : ∀ closing, server.closing = some closing →
    register.caller? register.ended = some closing.caller
  /-- A run that began has ended, or it is the one that is on. -/
  runs : startCount events =
    register.ended + if server.pool.lifecycle = .stopped then 0 else 1
  /-- The clearances are those of stops that have ended their run. -/
  clearing : register.clearing.map register.caller? =
    server.clearances.map fun clearance => some clearance.caller
  /-- Whoever was told that the server was running made the call of a stop that has answered. -/
  answers : (stopAnswers events).map some = register.answered.map register.caller?
  /-- Of the stops that have ended a run, each has answered once or is still to answer. -/
  once : (register.answered ++ register.clearing).Perm (List.range register.ended)

theorem Registered.lt_ended {register : StopRegister} {shows : List Event}
    (registered : Registered register shows server) {number : Nat}
    (member : number ∈ register.answered ++ register.clearing) : number < register.ended :=
  List.mem_range.1 (registered.once.mem_iff.1 member)

/-- A call that is taken in leaves the numbers of earlier calls as they were. -/
theorem Registered.caller?_snoc {register : StopRegister} {shows : List Event}
    (registered : Registered register shows server) (caller : Nat) {numbers : List Nat}
    (earlier : numbers ⊆ register.answered ++ register.clearing) :
    numbers.map (StopRegister.caller? { register with callers := register.callers ++ [caller] }) =
      numbers.map register.caller? := by
  apply List.map_congr_left
  intro number member
  apply List.getElem?_append_left
  have below := registered.lt_ended (earlier member)
  have enough := registered.callers
  omega

section

variable {register : StopRegister} {shows : List Event}

/-- A stop that takes the server out of service is the next one to end a run. -/
theorem Registered.beginStop (registered : Registered register shows server)
    (sound : Sound terms server) (running : server.pool.lifecycle = .running) (caller : Nat)
    (mode : StopMode) :
    Registered { register with callers := register.callers ++ [caller] } shows
      { server with
        pool := { server.pool with lifecycle := .stopping }
        closing := some { caller, mode } } := by
  have free : server.closing = none := sound.closing_eq_none (by rw [running]; nofun)
  have enough : register.callers.length = register.ended := by
    have callers := registered.callers
    rw [free] at callers
    exact callers
  constructor
  · simp only [List.length_append, List.length_singleton, enough]
    rfl
  · intro closing active
    cases active
    exact (List.getElem?_append_right (Nat.le_of_eq enough)).trans (by simp [enough])
  · rw [registered.runs, if_neg (by rw [running]; nofun)]
    rfl
  · exact (registered.caller?_snoc caller (List.subset_append_right _ _)).trans registered.clearing
  · rw [registered.answers]
    exact (registered.caller?_snoc caller (List.subset_append_left _ _)).symm
  · exact registered.once

/-- The stop that ends the run is from then on among those that are to answer. -/
theorem Registered.settle (registered : Registered register shows server)
    (sound : Sound terms server) {closing : Closing} (active : server.closing = some closing) :
    Registered
      { register with
        ended := register.ended + 1
        clearing := register.clearing ++ [register.ended] }
      shows
      { server with
        pool := settled server.pool
        closing := none
        clearances := server.clearances ++ [⟨closing.caller, server.pool.queue⟩] } := by
  have callers := registered.callers
  have stopping := sound.stopping_of_closing active
  rw [active] at callers
  constructor
  · exact callers
  · nofun
  · rw [registered.runs, if_neg (by rw [stopping]; nofun)]
    rfl
  · show (register.clearing ++ [register.ended]).map register.caller? = _
    rw [List.map_append, registered.clearing, List.map_append, List.map_singleton,
      registered.current closing active]
    rfl
  · exact registered.answers
  · show (register.answered ++ (register.clearing ++ [register.ended])).Perm _
    rw [← List.append_assoc]
    exact (registered.once.append_right _).trans (.of_eq List.range_succ.symm)

/-- The stop that answers is the one whose clearance has come to its end. -/
theorem Registered.endStop (registered : Registered register shows server) {position caller : Nat}
    {left : List Descriptor} (found : server.clearances[position]? = some ⟨caller, left⟩) :
    Registered
      { register with
        clearing := register.clearing.eraseIdx position
        answered := register.answered ++ register.clearing[position]?.toList }
      (shows ++ [.stopAnswered caller true])
      { server with clearances := server.clearances.eraseIdx position } := by
  obtain ⟨number, here, called⟩ : ∃ number, register.clearing[position]? = some number ∧
      register.caller? number = some caller := by
    have same := congrArg (fun entries => entries[position]?) registered.clearing
    simp only [List.getElem?_map, found, Option.map_some, Option.map_eq_some_iff] at same
    exact same
  rw [here]
  constructor
  · exact registered.callers
  · exact registered.current
  · rw [startCount_append, registered.runs]
    rfl
  · show (register.clearing.eraseIdx position).map register.caller? = _
    rw [← List.eraseIdx_map, registered.clearing, List.eraseIdx_map]
  · show (stopAnswers (shows ++ [.stopAnswered caller true])).map some =
      (register.answered ++ [number]).map register.caller?
    rw [stopAnswers_append, List.map_append, registered.answers, List.map_append]
    simp [stopAnswers, Event.stopped?, called]
  · show ((register.answered ++ [number]) ++ register.clearing.eraseIdx position).Perm _
    obtain ⟨inside, isNumber⟩ := List.getElem?_eq_some_iff.1 here
    rw [List.append_assoc]
    refine (List.Perm.append_left _ ?_).trans registered.once
    rw [← isNumber]
    exact List.getElem_cons_eraseIdx_perm inside

theorem Registered.uneventful (registered : Registered register shows server)
    (same : Uneventful server label events next) : Registered register (shows ++ events) next := by
  constructor
  · have sameLength := congrArg (fun call => call.toList.length) same.call
    simp only [Option.toList_map, List.length_map] at sameLength
    rw [sameLength]
    exact registered.callers
  · intro closing active
    have call := same.call
    rw [active, Option.map_some, eq_comm] at call
    obtain ⟨earlier, present, isCall⟩ := Option.map_eq_some_iff.1 call
    rw [registered.current earlier present]
    exact congrArg (fun call => some call.1) isCall
  · rw [startCount_append, same.startCount, registered.runs, same.lifecycle]
    rfl
  · rw [registered.clearing]
    have callers := congrArg (List.map some) same.clearances
    rw [List.map_map, List.map_map] at callers
    exact callers.symm
  · rw [stopAnswers_append, same.stopAnswers, List.append_nil]
    exact registered.answers
  · exact registered.once

theorem Milestone.registered (milestone : Milestone terms server label events next)
    (sound : Sound terms server) (registered : Registered register shows server) :
    Registered (register.note ⟨label, events⟩) (shows ++ events) next := by
  cases milestone with
  | started stopped =>
      have empty := sound.roster.stopped_queue stopped
      have begins : startCount (startEvents terms server.pool true ++ [.startAnswered .started]) =
          1 := startCount_startEvents empty
      have nobody : stopAnswers (startEvents terms server.pool true ++ [.startAnswered .started]) =
          [] := stopAnswers_startEvents empty
      exact { registered with
        runs := by
          rw [startCount_append, begins, registered.runs, if_pos stopped]
          rfl
        answers := by
          rw [stopAnswers_append, nobody, List.append_nil]
          exact registered.answers }
  | beginStop running =>
      rw [List.append_nil]
      exact registered.beginStop sound running _ _
  | unlisten active =>
      have callers := registered.callers
      rw [active] at callers
      exact { registered with
        callers := callers
        current := fun closing same => by
          cases same
          have called := registered.current _ active
          exact called
        runs := by
          rw [startCount_append, registered.runs]
          rfl
        answers := by
          rw [stopAnswers_append]
          exact (congrArg _ (List.append_nil _)).trans registered.answers }
  | settle active =>
      rw [List.append_nil]
      exact registered.settle sound active
  | endStop found => exact registered.endStop found
  | uneventful same =>
      rw [same.note]
      exact registered.uneventful same

end

/-! ## A run -/

theorem Run.switched (run : Run terms turns server) : Switched (shown turns) server := by
  induction run with
  | refl =>
      refine ⟨⟨nofun, ?_⟩, List.isChain_nil, nofun⟩
      rintro (running | ⟨_, active, _⟩)
      · cases running
      · cases active
  | turn before step inductionHypothesis =>
      rw [shown_append, shown_singleton]
      have sound := Run.sound before
      exact (step.milestone sound).switched sound inductionHypothesis

theorem Run.registered (run : Run terms turns server) :
    Registered (.ofTurns turns) (shown turns) server := by
  induction run with
  | refl => exact ⟨rfl, nofun, rfl, rfl, rfl, .refl _⟩
  | turn before step inductionHypothesis =>
      rw [shown_append, shown_singleton, StopRegister.ofTurns_snoc]
      have sound := Run.sound before
      exact (step.milestone sound).registered sound inductionHypothesis

/-! ## All together -/

/-- How the lifecycle goes on in a turn behind a history: it stays as it is, or it moves in one of
three ways. -/
inductive MovesOn (terms : Terms) (turns : List Turn) (server : Server) :
    Label → List Event → Server → Prop where
  | stays {label : Label} {events : List Event} {next : Server}
      (same : next.pool.lifecycle = server.pool.lifecycle) :
      MovesOn terms turns server label events next
  | starts {events : List Event} {next : Server} (stopped : server.pool.lifecycle = .stopped)
      (running : next.pool.lifecycle = .running) (listened : .listened true ∈ events)
      (answered : .startAnswered .started ∈ events) :
      MovesOn terms turns server (.start true) events next
  | stops {caller : Nat} {mode : StopMode} {next : Server}
      (running : server.pool.lifecycle = .running) (stopping : next.pool.lifecycle = .stopping)
      (called : next.closing = some { caller, mode }) :
      MovesOn terms turns server (.beginStop caller mode) [] next
  /-- The stop that ends the run is the one that took the server out of service, and it leaves
  nobody behind. -/
  | ends {mode : StopMode} {next : Server} (stop : StopUnderWay terms mode)
      (history : stop.history = turns) (latest : stop.latest = server)
      (stopping : server.pool.lifecycle = .stopping) (stopped : next.pool.lifecycle = .stopped)
      (clears : next.clearances = server.clearances ++ [⟨stop.caller, server.pool.queue⟩])
      (staff : next.pool.staff = []) (free : next.pool.free = []) (retired : next.pool.retired = [])
      (queue : next.pool.queue = []) : MovesOn terms turns server .settle [] next

/-- What the lifecycle of a server keeps to. -/
structure LifecycleKept (terms : Terms) (turns : List Turn) (server : Server) : Prop where
  movesOn : ∀ label events next, Step terms server label events next →
    MovesOn terms turns server label events next
  /-- A start that finds the server running or stopping says so and does nothing. -/
  startsOnce : ∀ listens events next, Step terms server (.start listens) events next →
    (server.pool.lifecycle = .running →
      events = [.startAnswered .alreadyRunning] ∧ next = server) ∧
    (server.pool.lifecycle = .stopping →
      events = [.startAnswered .stopping] ∧ next = server)
  /-- A stop that does not find the server running says so and does nothing. -/
  stopsOnce : ∀ caller mode events next, Step terms server (.beginStop caller mode) events next →
    server.pool.lifecycle ≠ .running → events = [.stopAnswered caller false] ∧ next = server
  /-- Every run is ended by the stop of its number, and only that one answers that the server was
  running, once. -/
  registered : Registered (.ofTurns turns) (shown turns) server
  /-- Between a start that succeeds and the next one the transport is told once not to listen. -/
  alternates : Alternates (switches (shown turns))
  /-- The transport is asked to listen only while it does not, and not to listen only while it
  does. -/
  asked : ∀ label events next, Step terms server label events next →
    (∀ succeeded, .listened succeeded ∈ events → ¬ LeftListening (shown turns)) ∧
      (.unlistened ∈ events → LeftListening (shown turns))
  /-- While no start is under way, the transport of a stopped server does not listen. -/
  silent : server.pool.lifecycle = .stopped → ¬ LeftListening (shown turns)

theorem Run.movesOn (run : Run terms turns server) (step : Step terms server label events next) :
    MovesOn terms turns server label events next := by
  have sound := Run.sound run
  cases step.milestone sound with
  | started stopped =>
      refine .starts stopped rfl ?_ ?_ <;> simp [startEvents]
  | beginStop running => exact .stops running rfl rfl
  | @settle closing held active stage =>
      obtain ⟨stop, called, latest, history⟩ := (Run.origins run).closing closing active
      refine .ends stop history latest (sound.stopping_of_closing active) rfl ?_ rfl rfl rfl rfl
      rw [called]
  | unlisten | endStop => exact .stays rfl
  | uneventful same => exact .stays same.lifecycle

theorem Run.asked (run : Run terms turns server) (step : Step terms server label events next) :
    (∀ succeeded, .listened succeeded ∈ events → ¬ LeftListening (shown turns)) ∧
      (.unlistened ∈ events → LeftListening (shown turns)) := by
  have sound := Run.sound run
  have listens := (Run.switched run).listens
  constructor
  · intro succeeded asks left
    have stopped : server.pool.lifecycle = .stopped := by
      cases step with
      | started stopped | cannotListen stopped => exact stopped
      | _ => simp at asks
    exact sound.not_listens stopped (listens.1 left)
  · intro ceases
    cases step with
    | started stopped | cannotListen stopped =>
        simp [startEvents, sound.roster.stopped_queue stopped, hiredEvents] at ceases
    | unlisten active stage => exact listens.2 (.inr ⟨_, active, stage⟩)
    | _ => simp at ceases

/-- Every run of a server keeps to it, whatever starts, stops and other turns are mixed in it. -/
theorem lifecycleKept_of_run (run : Run terms turns server) :
    LifecycleKept terms turns server where
  movesOn := fun label events next step => run.movesOn step
  startsOnce := fun listens events next step => by
    cases step with
    | alreadyRunning running => exact ⟨fun _ => ⟨rfl, rfl⟩, fun stopping => by simp_all⟩
    | stillStopping stopping => exact ⟨fun running => by simp_all, fun _ => ⟨rfl, rfl⟩⟩
    | started stopped | cannotListen stopped =>
        exact ⟨fun running => by simp_all, fun stopping => by simp_all⟩
  stopsOnce := fun caller mode events next step other => by
    cases step with
    | beginStop running => exact absurd running other
    | notRunning => exact ⟨rfl, rfl⟩
  registered := Run.registered run
  alternates := (Run.switched run).alternates
  asked := fun label events next step => run.asked step
  silent := fun stopped left =>
    (Run.sound run).not_listens stopped ((Run.switched run).listens.1 left)

/-- Two runs: while the stop of the first still closes what was waiting, a start fails, the next one
succeeds, and the stop of the second run overtakes the first in answering. A second stop and a
start come while the first stop is under way. -/
theorem lifecycleKept_of_two_runs :
    ∃ turns server, Run {} turns server ∧
      turns.map Turn.label = [.start true, .beginStop 1 .waitClients, .beginStop 2 .interruptClients,
        .start true, .unlisten, .collect, .settle, .start false, .start true, .start true,
        .beginStop 3 .interruptClients, .unlisten, .collect, .settle, .endStop 1, .endStop 0] ∧
      switches (shown turns) = [true, false, true, false] ∧ stopAnswers (shown turns) = [3, 1] ∧
      server.pool.lifecycle = .stopped ∧ LifecycleKept {} turns server := by
  obtain ⟨turns, run, labelled, shows⟩ := path_iff_run?.2
    (show run? {} {} [.start true, .beginStop 1 .waitClients, .beginStop 2 .interruptClients,
        .start true, .unlisten, .collect, .settle, .start false, .start true, .start true,
        .beginStop 3 .interruptClients, .unlisten, .collect, .settle, .endStop 1, .endStop 0] =
      some (_, _) from rfl)
  refine ⟨turns, _, run, labelled, ?_, ?_, rfl, lifecycleKept_of_run run⟩
  · rw [shows]
    rfl
  · rw [shows]
    rfl

end Server

end ConnectionPool
