import ConnectionPool.Proofs.Server.Token

/-!
Contract: one stop from its call to its answer, among everything else that happens.

A stop that finds the server running takes it out of service, waits until the workers have left
their rounds, ends the run, and closes what was waiting before it answers. A `Server.StopCall` is
the history of one such stop, with what happened before the call, until the run was over and after
that. Every answer that a server was running belongs to one.

Owns:
- the type `Server.StopCall` and what all stops have in common;
- the part of a history since the last start.

Does not own: what becomes of sessions; that depends on how the stop treats clients.
-/

namespace ConnectionPool

namespace Server

variable {terms : Terms} {server next first last : Server} {label : Label} {events : List Event}
  {turns : List Turn} {id : WorkerId}

/-! ## Since the last start -/

theorem not_started_sinceStart (turns : List Turn) :
    .startAnswered .started ∉ shown (sinceStart turns) := by
  intro opens
  obtain ⟨turn, member, opens⟩ := List.mem_flatMap.1 opens
  have silent := List.mem_rtakeWhile_imp member
  exact of_decide_eq_true silent opens

/-- A run that goes on began with a start; no worker was in a round then. -/
theorem Run.opening (run : Run terms turns server) (begun : server.pool.lifecycle ≠ .stopped) :
    ∃ earlier first, turns = earlier ++ sinceStart turns ∧ Run terms earlier first ∧
      Path terms first (sinceStart turns) server ∧ first.pool.lifecycle = .running ∧
      ∀ id, first.pool.progress id = [] := by
  induction run with
  | refl => exact absurd rfl begun
  | @turn turns server next label events before step inductionHypothesis =>
      have sound := Run.sound before
      by_cases stopped : server.pool.lifecycle = .stopped
      · have opens := (step.begins stopped begun).1
        have running : next.pool.lifecycle = .running := by
          cases step with
          | started => rfl
          | cannotListen => exact absurd (floored_lifecycle stopped) begun
          | _ => simp at opens
        rw [sinceStart, List.rtakeWhile_concat_neg _ _ _ (by simpa using opens)]
        refine ⟨_, next, (List.append_nil _).symm, before.turn step, .refl, running, fun id => ?_⟩
        -- The start shows nothing of a round, and there was none before.
        obtain ⟨rounds, whole⟩ := step.serviced sound id
        have silent : service id events = [] := step.silent sound (fun worker found =>
          not_isEngaged_of_not_isActive (sound.resting stopped found).2)
          fun running => by cases stopped.symm.trans running
        rw [sound.progress_eq_nil stopped, silent] at whole
        exact (List.append_eq_nil_iff.1 whole.symm).2
      · have within : .startAnswered .started ∉ events := step.goesOn stopped
        obtain ⟨earlier, first, whole, opening, path, running, fresh⟩ := inductionHypothesis stopped
        rw [sinceStart, List.rtakeWhile_concat_pos _ _ _ (by simpa using within), ← sinceStart]
        refine ⟨earlier, first, ?_, opening, path.turn step, running, fresh⟩
        rw [← List.append_assoc, ← whole]

/-! ## A stop under way -/

/-- A stop that found the server running and has not ended the run yet, with everything that
happened before the call and since. -/
structure StopUnderWay (terms : Terms) (mode : StopMode) where
  caller : Nat
  earlier : List Turn
  /-- The server that the call found. -/
  found : Server
  run : Run terms earlier found
  opened : Server
  opens : Step terms found (.beginStop caller mode) [] opened
  during : List Turn
  /-- The server that the stop has come to. -/
  latest : Server
  drains : Path terms opened during latest
  unsettled : ∀ turn ∈ during, turn.label ≠ .settle

namespace StopUnderWay

variable {mode : StopMode} (stop : StopUnderWay terms mode)

/-- Everything that happened. -/
def history : List Turn :=
  stop.earlier ++ ⟨.beginStop stop.caller mode, []⟩ :: stop.during

/-- What happened in the run that the stop ends. -/
def period : List Turn :=
  sinceStart stop.history

theorem running : stop.found.pool.lifecycle = .running := by
  generalize opened : stop.opened = opened
  have opens := stop.opens
  rw [opened] at opens
  cases opens with
  | beginStop running => exact running

theorem opened_eq : stop.opened = { stop.found with
    pool := { stop.found.pool with lifecycle := .stopping }
    closing := some { caller := stop.caller, mode } } := by
  have taken := stop.opens.step?
  rw [step?, if_pos stop.running] at taken
  exact (congrArg Prod.fst (Option.some.inj taken)).symm

theorem run_opened : Run terms (stop.earlier ++ [⟨.beginStop stop.caller mode, []⟩]) stop.opened :=
  stop.run.turn stop.opens

theorem run_latest : Run terms stop.history stop.latest := by
  have opening : Path terms stop.found [⟨.beginStop stop.caller mode, []⟩] stop.opened :=
    .turn .refl stop.opens
  exact stop.run.append (opening.append stop.drains)

theorem sound_opened : Sound terms stop.opened :=
  Run.sound stop.run_opened

theorem sound_latest : Sound terms stop.latest :=
  Run.sound stop.run_latest

theorem stopping_opened : stop.opened.pool.lifecycle = .stopping := by
  rw [stop.opened_eq]

theorem staff_opened : stop.opened.pool.staff = stop.found.pool.staff := by
  rw [stop.opened_eq]

theorem frozen : Frozen stop.opened stop.latest :=
  stop.drains.frozen stop.stopping_opened stop.unsettled

theorem begun_latest : stop.latest.pool.lifecycle ≠ .stopped := by
  rw [stop.frozen.stopping]
  nofun

/-- What waited when the server went out of service still waits. -/
theorem queue_latest : stop.latest.pool.queue = stop.found.pool.queue := by
  rw [stop.frozen.queue, stop.opened_eq]

theorem call_latest : stop.latest.closing.map Closing.call = some (stop.caller, mode) := by
  rw [stop.frozen.call, stop.opened_eq]
  rfl

/-- Any part of a stop is a stop under way. -/
def upTo {front back : List Turn} {middle : Server} (whole : stop.during = front ++ back)
    (path : Path terms stop.opened front middle) : StopUnderWay terms mode :=
  { stop with
    during := front
    latest := middle
    drains := path
    unsettled := fun turn member => stop.unsettled turn (by
      rw [whole]
      exact List.mem_append_left _ member) }

/-- What the workers were handed in the run, and then what waits, is what was accepted in it. -/
theorem accepted :
    assignments (shown stop.period) ++ stop.found.pool.queue = acceptances (shown stop.period) := by
  rw [← stop.queue_latest]
  exact Run.order stop.run_latest stop.begun_latest

/-- The run began with workers that were in no round. -/
theorem opening : ∃ earlier first, stop.history = earlier ++ stop.period ∧
    Run terms earlier first ∧ Path terms first stop.period stop.latest ∧
    first.pool.lifecycle = .running ∧ ∀ id, first.pool.progress id = [] :=
  Run.opening stop.run_latest stop.begun_latest

/-- Only a stop that interrupts clients tells workers to, and no other is under way in the run. -/
theorem mode_of_interrupting {front back : List Turn} {middle : Server}
    (path : Path terms middle back stop.latest) (sound : Sound terms middle)
    (whole : stop.period = front ++ back) (interrupting : Interrupting middle.closing) :
    mode = .interruptClients := by
  obtain ⟨closing, active, told⟩ := interrupting
  have noStart : .startAnswered .started ∉ shown back := fun opens => by
    refine not_started_sinceStart stop.history ?_
    rw [← period, whole, shown_append]
    exact List.mem_append_right _ opens
  have unsettled := path.unsettled sound stop.begun_latest noStart
  have same := (path.frozen (sound.stopping_of_closing active) unsettled).call
  rw [stop.call_latest, active] at same
  exact (congrArg Prod.snd (Option.some.inj same)).trans told

/-- Before an interrupting stop waits for anybody it has told everybody in service. -/
theorem told_of_joining (stop : StopUnderWay terms .interruptClients) {closing : Closing}
    {held left : List WorkerId} {current : Option WorkerId}
    (active : stop.latest.closing = some closing) (stage : closing.stage = .joining held left current)
    (member : id ∈ stop.found.pool.staff) : stop.latest.pool.Interrupted id := by
  have same := stop.call_latest
  rw [active] at same
  have mode : closing.mode = .interruptClients := congrArg Prod.snd (Option.some.inj same)
  have told := (Run.signals stop.run_latest).told closing active mode
  rw [stage] at told
  refine told id ?_
  rw [stop.frozen.staff, stop.staff_opened]
  exact member

end StopUnderWay

/-! ## A stop that is over -/

/-- A stop that found the server running and has answered, with everything that happened before the
call, until the run was over, and after that. -/
structure StopCall (terms : Terms) (mode : StopMode) extends StopUnderWay terms mode where
  settled : Server
  /-- All threads have ended, and so has the run. -/
  settles : Step terms latest .settle [] settled
  later : List Turn
  last : Server
  goesOn : Path terms settled later last
  /-- The call has closed what it found waiting, and is over. -/
  answered : (later.foldl follow ([], some latest.clearances.length)).2 = none

namespace StopCall

variable {mode : StopMode} (call : StopCall terms mode)

/-- What the call has closed. -/
def closed : List Descriptor :=
  (call.later.foldl follow ([], some call.latest.clearances.length)).1

theorem sound_settled : Sound terms call.settled :=
  call.settles.sound call.sound_latest

/-- The stop has waited for everybody, and ends the run. -/
theorem settled_eq : ∃ closing held, call.latest.closing = some closing ∧
    closing.stage = .joining held [] none ∧ closing.mode = mode ∧
    call.settled = { call.latest with
      pool := Server.settled call.latest.pool
      closing := none
      clearances := call.latest.clearances ++ [⟨call.caller, call.latest.pool.queue⟩] } := by
  have same := call.call_latest
  generalize result : call.settled = settled
  have settles := call.settles
  rw [result] at settles
  cases settles with
  | @settle closing held active stage =>
      rw [active] at same
      have caller : closing.caller = call.caller := congrArg Prod.fst (Option.some.inj same)
      refine ⟨closing, held, active, stage, congrArg Prod.snd (Option.some.inj same), ?_⟩
      rw [caller]

theorem stopped_settled : call.settled.pool.lifecycle = .stopped := by
  obtain ⟨_, _, _, _, _, result⟩ := call.settled_eq
  rw [result]
  rfl

/-- Nobody stays in service. -/
theorem gone_of_knows (known : call.settled.pool.Knows id) : call.settled.pool.Gone id := by
  refine ⟨known, ?_⟩
  obtain ⟨_, _, _, _, _, result⟩ := call.settled_eq
  rw [result]
  exact List.not_mem_nil

theorem clearance_settled : call.settled.clearances[call.latest.clearances.length]? =
    some ⟨call.caller, call.latest.pool.queue⟩ := by
  obtain ⟨_, _, _, _, _, result⟩ := call.settled_eq
  rw [result, List.getElem?_append_right (Nat.le_refl _), Nat.sub_self]
  rfl

/-- The call closes what waited when the server went out of service, in that order. -/
theorem closed_eq : call.closed = call.found.pool.queue := by
  have clears := call.goesOn.clears call.clearance_settled
  have ended : call.later.foldl follow ([], some call.latest.clearances.length) =
      (call.closed, none) := Prod.ext rfl call.answered
  rw [ended, call.queue_latest] at clears
  exact clears

/-- When the run is over, every worker has done what it was handed in the run. -/
theorem rounds_of_period (id : WorkerId) : ∃ rounds : List Round,
    service id (shown call.period) = rounds.flatMap (Round.events id) ∧
      rounds.map Round.descriptor = ofWorker id (handings (shown call.period)) ∧
        rounds.map Round.descriptor = ofWorker id (exchanges (shown call.period)) := by
  obtain ⟨earlier, first, _, opening, path, _, fresh⟩ := call.opening
  have whole := (path.turn call.settles).serviced (Run.sound opening) id
  rw [fresh, call.sound_settled.progress_eq_nil call.stopped_settled, shown_append, shown_singleton,
    List.append_nil] at whole
  obtain ⟨rounds, served⟩ := whole
  rw [List.nil_append, List.append_nil] at served
  refine ⟨rounds, served, ?_, ?_⟩
  · rw [← Round.map_handings_flatMap_events id, ← served, map_handings_service]
  · rw [← Round.map_exchanges_flatMap_events id, ← served, map_exchanges_service]

end StopCall

/-! ## Answers -/

/-- A clearance that is over has answered. -/
theorem Path.stopAnswered {clearance : Clearance} {position : Nat}
    (path : Path terms first turns last) (present : first.clearances[position]? = some clearance)
    (ended : (turns.foldl follow ([], some position)).2 = none) :
    .stopAnswered clearance.caller true ∈ shown turns := by
  induction path with
  | refl => cases ended
  | @turn turns server next label events before step inductionHypothesis =>
      rw [shown_append, shown_singleton, List.mem_append]
      rw [List.foldl_append] at ended
      have clears := before.clears present
      revert ended clears inductionHypothesis
      generalize turns.foldl follow ([], some position) = followed
      intro inductionHypothesis ended clears
      obtain ⟨closed, _ | place⟩ := followed
      · exact .inl (inductionHypothesis rfl)
      · obtain ⟨rest, _, here⟩ := clears
        right
        cases step with
        | @endStop other caller found =>
            by_cases same : other = place
            · subst same
              cases found.symm.trans here
              exact List.mem_singleton_self _
            · simp only [List.foldl_cons, List.foldl_nil, follow, if_neg same] at ended
              split at ended <;> cases ended
        | @clear other caller descriptor left found =>
            simp only [List.foldl_cons, List.foldl_nil, follow] at ended
            split at ended <;> cases ended
        | _ => cases ended

theorem StopCall.stopAnswered {mode : StopMode} (call : StopCall terms mode) :
    .stopAnswered call.caller true ∈ shown call.later :=
  call.goesOn.stopAnswered call.clearance_settled call.answered

/-- The clearance at a position is that of a stop which has ended its run. -/
def ClearsFor (terms : Terms) (turns : List Turn) (server : Server) (position caller : Nat) : Prop :=
  ∃ mode, ∃ stop : StopUnderWay terms mode, ∃ settled later, stop.caller = caller ∧
    Step terms stop.latest .settle [] settled ∧ Path terms settled later server ∧
    turns = stop.history ++ ⟨.settle, []⟩ :: later ∧
    (later.foldl follow ([], some stop.latest.clearances.length)).2 = some position

/-- Every stop that has not answered yet goes back to a call that found the server running. -/
structure Origins (terms : Terms) (turns : List Turn) (server : Server) : Prop where
  closing : ∀ closing, server.closing = some closing → ∃ stop : StopUnderWay terms closing.mode,
    stop.caller = closing.caller ∧ stop.latest = server ∧ stop.history = turns
  clearances : ∀ position clearance, server.clearances[position]? = some clearance →
    ClearsFor terms turns server position clearance.caller

theorem ClearsFor.step {place position caller : Nat}
    (clears : ClearsFor terms turns server place caller) (step : Step terms server label events next)
    (followed : ∀ closed, (follow (closed, some place) ⟨label, events⟩).2 = some position) :
    ClearsFor terms (turns ++ [⟨label, events⟩]) next position caller := by
  obtain ⟨mode, stop, settled, later, called, settles, path, rfl, here⟩ := clears
  refine ⟨mode, stop, settled, later ++ [⟨label, events⟩], called, settles, path.turn step, ?_, ?_⟩
  · rw [List.append_assoc, List.cons_append]
  · have state : later.foldl follow ([], some stop.latest.clearances.length) = (_, some place) :=
      Prod.ext rfl here
    rw [List.foldl_append, state]
    exact followed _

private theorem Step.closing_origin (step : Step terms server label events next)
    (before : Run terms turns server) (origins : Origins terms turns server) {closing : Closing}
    (active : next.closing = some closing) : ∃ stop : StopUnderWay terms closing.mode,
      stop.caller = closing.caller ∧ stop.latest = next ∧
        stop.history = turns ++ [⟨label, events⟩] := by
  -- A stop that was under way already goes on.
  have goesOn (earlier : Closing) (present : server.closing = some earlier)
      (unsettled : label ≠ .settle) : ∃ stop : StopUnderWay terms closing.mode,
        stop.caller = closing.caller ∧ stop.latest = next ∧
          stop.history = turns ++ [⟨label, events⟩] := by
    have sound := Run.sound before
    have same := (step.frozen (sound.stopping_of_closing present) unsettled).call
    rw [present, active] at same
    have caller : closing.caller = earlier.caller := congrArg Prod.fst (Option.some.inj same)
    have mode : closing.mode = earlier.mode := congrArg Prod.snd (Option.some.inj same)
    obtain ⟨stop, called, rfl, rfl⟩ := origins.closing earlier present
    rw [mode, caller, ← called]
    let further : StopUnderWay terms earlier.mode :=
      { stop with
        during := stop.during ++ [⟨label, events⟩]
        latest := next
        drains := stop.drains.turn step
        unsettled := fun turn member => by
          rcases List.mem_append.1 member with old | new
          · exact stop.unsettled turn old
          · rw [List.mem_singleton.1 new]
            exact unsettled }
    refine ⟨further, rfl, rfl, ?_⟩
    show stop.earlier ++ _ :: (stop.during ++ [⟨label, events⟩]) = stop.history ++ _
    rw [StopUnderWay.history, List.append_assoc, List.cons_append]
  cases step with
  | @beginStop caller mode running =>
      cases active
      exact ⟨⟨caller, turns, server, before, _, .beginStop running, [], _, .refl, nofun⟩, rfl, rfl, rfl⟩
  | settle => cases active
  | unlisten present | collect present | signal present | claim present | joined present =>
      exact goesOn _ present nofun
  | _ => exact goesOn _ active nofun

private theorem Step.clearance_origin (step : Step terms server label events next)
    (origins : Origins terms turns server) {position : Nat} {clearance : Clearance}
    (present : next.clearances[position]? = some clearance) :
    ClearsFor terms (turns ++ [⟨label, events⟩]) next position clearance.caller := by
  have whole := step
  cases step with
  | @settle closing held active stage =>
      rcases Nat.lt_or_ge position server.clearances.length with earlier | new
      · rw [List.getElem?_append_left earlier] at present
        exact (origins.clearances position clearance present).step whole fun _ => rfl
      · rw [List.getElem?_append_right new] at present
        obtain ⟨rfl, rfl⟩ : clearance = _ ∧ position = server.clearances.length := by
          obtain ⟨inside, here⟩ := List.getElem?_eq_some_iff.1 present
          rw [List.length_singleton] at inside
          simp only [show position - server.clearances.length = 0 by omega,
            List.getElem_cons_zero] at here
          exact ⟨here.symm, by omega⟩
        obtain ⟨stop, called, rfl, rfl⟩ := origins.closing closing active
        exact ⟨_, stop, _, [], called, whole, .refl, rfl, rfl⟩
  | @clear other caller descriptor left found =>
      by_cases same : other = position
      · subst same
        have inside := (List.getElem?_eq_some_iff.1 found).1
        rw [List.getElem?_set_self inside] at present
        cases present
        exact (origins.clearances other _ found).step whole fun _ => by simp [follow]
      · rw [List.getElem?_set_ne same] at present
        refine (origins.clearances position clearance present).step whole fun _ => ?_
        simp [follow, same]
  | @endStop other caller found =>
      rcases Nat.lt_or_ge position other with earlier | later
      · rw [List.getElem?_eraseIdx_of_lt earlier] at present
        refine (origins.clearances position clearance present).step whole fun _ => ?_
        simp only [follow, if_neg (show ¬ other = position by omega),
          if_neg (show ¬ other < position by omega)]
      · rw [List.getElem?_eraseIdx_of_ge later] at present
        refine (origins.clearances (position + 1) clearance present).step whole fun _ => ?_
        simp only [follow, if_neg (show ¬ other = position + 1 by omega),
          if_pos (show other < position + 1 by omega), Nat.add_sub_cancel]
  | _ => exact (origins.clearances position clearance present).step whole fun _ => rfl

theorem Run.origins (run : Run terms turns server) : Origins terms turns server := by
  induction run with
  | refl => exact ⟨nofun, nofun⟩
  | turn before step inductionHypothesis =>
      exact {
        closing := fun _ => step.closing_origin before inductionHypothesis
        clearances := fun _ _ => step.clearance_origin inductionHypothesis }

/-- Whatever stop answers that the server was running, the whole of it is such a call. -/
theorem Run.exists_stopCall {caller : Nat} (run : Run terms turns server)
    (step : Step terms server label events next) (answered : .stopAnswered caller true ∈ events) :
    ∃ mode, ∃ call : StopCall terms mode, call.caller = caller ∧ call.last = next ∧
      call.history ++ ⟨.settle, []⟩ :: call.later = turns ++ [⟨label, events⟩] := by
  have sound := run.sound
  have whole := step
  cases step with
  | started stopped | cannotListen stopped =>
      have empty : server.pool.queue = [] := sound.roster.stopped_queue stopped
      simp [startEvents, empty, hiredEvents] at answered
  | @endStop position other found =>
      obtain rfl : caller = other := by simpa using answered
      obtain ⟨mode, stop, settled, later, rfl, settles, path, rfl, here⟩ :=
        (Run.origins run).clearances position _ found
      have state : later.foldl follow ([], some stop.latest.clearances.length) =
          (_, some position) := Prod.ext rfl here
      let call : StopCall terms mode :=
        { stop with
          settled, settles
          later := later ++ [⟨.endStop position, [.stopAnswered stop.caller true]⟩]
          last := _
          goesOn := path.turn whole
          answered := by
            rw [List.foldl_append, state]
            simp [follow] }
      refine ⟨mode, call, rfl, rfl, ?_⟩
      rw [List.append_assoc, List.cons_append]
  | _ => simp at answered

/-! ## Stops that come to an answer -/

/-- A clearance that nobody disturbs closes what it holds, and answers. -/
theorem exists_answer {position caller : Nat} {left : List Descriptor} (closed : List Descriptor)
    (present : server.clearances[position]? = some ⟨caller, left⟩) :
    ∃ turns last, Path terms server turns last ∧
      (turns.foldl follow (closed, some position)).2 = none := by
  induction left generalizing server closed with
  | nil => exact ⟨_, _, .turn .refl (.endStop present), by simp [follow]⟩
  | cons descriptor left inductionHypothesis =>
      let shorter : Server :=
        { server with clearances := server.clearances.set position ⟨caller, left⟩ }
      have clear : Step terms server (.clear position) [.discarded descriptor] shorter :=
        .clear present
      have still : shorter.clearances[position]? = some ⟨caller, left⟩ :=
        List.getElem?_set_self (List.getElem?_eq_some_iff.1 present).1
      obtain ⟨turns, last, path, ended⟩ := inductionHypothesis (closed ++ [descriptor]) still
      refine ⟨_, last, (Path.turn .refl clear).append path, ?_⟩
      simpa [follow, List.filterMap_cons, Event.discard?] using ended

/-- Once all threads have ended, a stop can come to its answer. -/
theorem StopUnderWay.exists_stopCall {mode : StopMode} (stop : StopUnderWay terms mode)
    {closing : Closing} {held : List WorkerId} (active : stop.latest.closing = some closing)
    (ended : closing.stage = .joining held [] none) :
    ∃ call : StopCall terms mode, call.toStopUnderWay = stop := by
  let settled : Server := { stop.latest with
    pool := Server.settled stop.latest.pool
    closing := none
    clearances := stop.latest.clearances ++ [⟨closing.caller, stop.latest.pool.queue⟩] }
  have settles : Step terms stop.latest .settle [] settled := .settle active ended
  have present : settled.clearances[stop.latest.clearances.length]? =
      some ⟨closing.caller, stop.latest.pool.queue⟩ := by
    rw [List.getElem?_append_right (Nat.le_refl _), Nat.sub_self]
    rfl
  obtain ⟨later, last, goesOn, answered⟩ :
      ∃ later last, Path terms settled later last ∧
        (later.foldl follow ([], some stop.latest.clearances.length)).2 = none :=
    exists_answer [] present
  exact ⟨{ stop with settled, settles, later, last, goesOn, answered }, rfl⟩

/-- A stop under way from turns that can be taken. -/
theorem exists_stopUnderWay {found latest : Server} {shows more : List Event} (caller : Nat)
    (mode : StopMode) (before during : List Label)
    (ran : run? terms {} before = some (found, shows)) (running : found.pool.lifecycle = .running)
    (drained : run? terms { found with
        pool := { found.pool with lifecycle := .stopping }
        closing := some { caller, mode } } during = some (latest, more))
    (unsettled : .settle ∉ during) : ∃ stop : StopUnderWay terms mode,
      stop.found = found ∧ stop.latest = latest ∧ shown stop.during = more := by
  obtain ⟨earlier, run, _, _⟩ := path_iff_run?.2 ran
  obtain ⟨turns, drains, labelled, rfl⟩ := path_iff_run?.2 drained
  have noneSettles : ∀ turn ∈ turns, turn.label ≠ .settle := fun turn member settles => by
    rw [← labelled, ← settles] at unsettled
    exact unsettled (List.mem_map_of_mem member)
  exact ⟨⟨caller, earlier, found, run, _, .beginStop running, turns, latest, drains, noneSettles⟩,
    rfl, rfl, rfl⟩

end Server

end ConnectionPool
