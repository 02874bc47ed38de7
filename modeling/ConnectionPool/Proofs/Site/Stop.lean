import ConnectionPool.Proofs.Server.Calls
import ConnectionPool.Proofs.Site.Threads

/-!
Contract: a stop on a site comes to its answer, whatever the sessions do.

A stop that finds its server running tells every worker in service or retired. Those that hold no session
leave their rounds. If some hold sessions that do not end, the far ends hang up, and then nobody is left. So
the stop can wait for everybody, end the run and close what waited.

Owns:
- `Site.stopNow_of_running`, what such a stop does in all its turns;
- `Site.stopNow_eq_of_not_running`, the stop of a server that does not run.

Does not own: how sessions end before the far ends hang up.
-/

namespace ConnectionPool

/-- The worker has left its round, or has never been in one, and who waits for its thread will not wait. -/
structure Worker.Ended (worker : Worker) : Prop where
  inactive : worker.stage.isActive = false
  handle : worker.hasHandle = true → worker.stage = .exited

theorem Server.Sound.ended {terms : Terms} {server : Server} {id : WorkerId} {worker : Worker}
    (sound : Sound terms server) (found : server.pool.worker? id = some worker)
    (inactive : worker.stage.isActive = false) : worker.Ended where
  inactive := inactive
  handle := fun handle => by
    cases stage : worker.stage with
    | exited => rfl
    | unstarted =>
        rw [(sound.duty id worker found).noHandle stage] at handle
        cases handle
    | _ =>
        rw [stage] at inactive
        cases inactive

namespace Site

variable {site : Site} {position : Nat} {live : LiveServer} {mode : StopMode} {held left : List WorkerId}
  {closing : Closing}

theorem turns_append (site : Site) (position : Nat) (labels more : List Label) :
    site.turns position (labels ++ more) = (site.turns position labels).turns position more :=
  List.foldl_append

/-! ## Telling -/

theorem heldByStop_of_signalStage (found : site.servers[position]? = some live)
    (active : live.server.closing = some closing)
    (stage : closing.stage = Server.signalStage held left) : site.heldByStop position = held := by
  obtain ⟨caller, mode, other⟩ := closing
  dsimp only at stage
  subst stage
  unfold heldByStop
  rw [found, Option.bind_some, active]
  unfold Server.signalStage
  cases left <;> rfl

/-- The turns in which a stop begins and tells the workers that it holds. -/
def tellingTurns (mode : StopMode) (held : List WorkerId) : List Turn :=
  [⟨.beginStop caller mode, []⟩, ⟨.unlisten, [.unlistened]⟩, ⟨.collect, []⟩] ++
    held.map fun id => ⟨.signal id, []⟩

/-- A server whose stop has told everybody and has not begun to wait. -/
def told (mode : StopMode) (held : List WorkerId) (server : Server) : Server :=
  { server.begun caller mode (.joining held held none) with
    pool := Server.signalled mode held { server.pool with lifecycle := .stopping } }

theorem path_telling {terms : Terms} {server : Server} (running : server.pool.lifecycle = .running)
    (mode : StopMode) (whole : held = server.pool.staff ++ server.pool.retired) :
    Server.Path terms server (tellingTurns mode held) (told mode held server) := by
  subst whole
  let all := server.pool.staff ++ server.pool.retired
  exact (Server.path_beginStop running caller mode).append
    (@Server.path_signals _ _ { caller, mode, stage := Server.signalStage all all } all all rfl rfl)

/-- A stop tells whom it holds, lets everybody rest, and waits if it may. -/
theorem stop_eq (posted : site.Posted) (found : site.servers[position]? = some live)
    (running : live.server.pool.lifecycle = .running)
    (whole : held = live.server.pool.staff ++ live.server.pool.retired) :
    site.stop position mode =
      let rested := (site.turns position ((tellingTurns mode held).map Turn.label)).rest position
      if rested.canFinishStop position then (some true, rested.finishStop position)
      else (none, rested) := by
  have silent : (site.turn position (.beginStop caller mode)).1 = [] := by
    rw [turn_eq_of_step found (.beginStop running)]
  have begun := advances_turns posted found (Server.path_beginStop running caller mode)
  obtain ⟨later, foundLater, -, isLater⟩ :=
    begun.stands found (Server.path_beginStop running caller mode)
  have holds : (site.turns position [.beginStop caller mode, .unlisten, .collect]).heldByStop position =
      held := by
    rw [whole]
    exact heldByStop_of_signalStage foundLater (by rw [isLater]; rfl) rfl
  have labels : (tellingTurns mode held).map Turn.label =
      [.beginStop caller mode, .unlisten, .collect] ++ held.map Label.signal := by
    simp [tellingTurns, Function.comp_def]
  have opened : (site.turn position (.beginStop caller mode)).2.turns position [.unlisten, .collect] =
      site.turns position [.beginStop caller mode, .unlisten, .collect] := rfl
  rw [labels, turns_append]
  simp only [stop, silent, List.isEmpty_nil, if_true, opened, holds]

/-! ## Waiting -/

/-- Nobody with one of these numbers has to be waited for. -/
def AllEnded (ids : List WorkerId) (pool : Pool) : Prop :=
  ∀ id ∈ ids, ∃ worker, pool.worker? id = some worker ∧ worker.Ended

theorem AllEnded.claimed {ids : List WorkerId} {pool : Pool} {id : WorkerId} {worker : Worker}
    (ended : AllEnded (id :: ids) pool) (present : pool.worker? id = some worker) :
    AllEnded ids (pool.setWorker { worker with hasHandle := false } id) := by
  intro other member
  rw [Pool.worker?_setWorker]
  split
  · obtain ⟨worker', present', ended'⟩ := ended id List.mem_cons_self
    cases present.symm.trans present'
    refine ⟨{ worker with hasHandle := false }, by rw [present]; rfl, ended'.inactive, fun handle => ?_⟩
    cases handle
  · exact ended other (List.mem_cons_of_mem _ member)

/-- A turn of a stop that waits shows nothing. -/
def IsWaiting (turn : Turn) : Prop :=
  turn.events = [] ∧ turn.stopCall? = none

/-- The stop waits for one worker, or finds that somebody else does. -/
theorem join_of_ended {ids : List WorkerId} {id : WorkerId} {worker : Worker} (posted : site.Posted)
    (found : site.servers[position]? = some live) (active : live.server.closing = some closing)
    (stage : closing.stage = .joining held (id :: ids) none)
    (present : live.server.pool.worker? id = some worker) (ended : worker.Ended) :
    ∃ turns, Advances position turns site (site.turns position [.claim id, .joined]) ∧
      Server.Path live.terms live.server turns (live.server.joined closing held ids id worker) ∧
      ∀ turn ∈ turns, IsWaiting turn := by
  cases handle : worker.hasHandle with
  | true =>
      have path := @Server.path_join live.terms _ _ _ _ _ _ active stage present (ended.handle handle) handle
      exact ⟨_, advances_turns posted found path, path, by simp [IsWaiting, Turn.stopCall?]⟩
  | false =>
      obtain ⟨path, idle⟩ := @Server.path_skip live.terms _ _ _ _ _ _ active stage present handle
      have claims : Advances position _ site (site.turns position [.claim id]) :=
        advances_turns posted found path
      obtain ⟨later, foundLater, kin, isLater⟩ := claims.stands found path
      have nothing : ((site.turns position [.claim id]).turn position .joined).2 =
          site.turns position [.claim id] := by
        rw [turn_eq_of_none foundLater (by rw [isLater, kin.terms]; exact idle)]
      have same : site.turns position [.claim id, .joined] = site.turns position [.claim id] :=
        nothing
      rw [same]
      exact ⟨_, claims, path, by simp [IsWaiting, Turn.stopCall?]⟩

theorem joins_of_ended (ids : List WorkerId) (posted : site.Posted)
    (found : site.servers[position]? = some live) (active : live.server.closing = some closing)
    (stage : closing.stage = .joining held ids none) (ended : AllEnded ids live.server.pool) :
    ∃ turns workers,
      Advances position turns site
        (ids.foldl (fun site id => site.turns position [.claim id, .joined]) site) ∧
      Server.Path live.terms live.server turns { live.server with
        pool := { live.server.pool with workers }
        closing := some { closing with stage := .joining held [] none } } ∧
      ∀ turn ∈ turns, IsWaiting turn := by
  induction ids generalizing site live closing with
  | nil =>
      refine ⟨[], live.server.pool.workers, .refl position posted, ?_, nofun⟩
      rw [← stage, ← active]
      exact .refl
  | cons id ids inductionHypothesis =>
      obtain ⟨worker, present, endedHere⟩ := ended id List.mem_cons_self
      obtain ⟨turns, joins, path, silent⟩ := join_of_ended posted found active stage present endedHere
      obtain ⟨later, foundLater, kin, isLater⟩ := joins.stands found path
      let waiting : Closing := { closing with stage := .joining held ids none }
      have activeLater : later.server.closing = some waiting := by rw [isLater]; rfl
      have endedLater : AllEnded ids later.server.pool := by
        rw [isLater]
        exact ended.claimed present
      obtain ⟨more, workers, joinsThen, pathThen, silentThen⟩ :=
        inductionHypothesis joins.posted foundLater activeLater rfl endedLater
      refine ⟨turns ++ more, workers, joins.append joinsThen, ?_, fun turn member => ?_⟩
      · rw [kin.terms, isLater] at pathThen
        have whole : ({ (live.server.joined closing held ids id worker).pool with workers } : Pool) =
            { live.server.pool with workers } := by
          cases id <;> rfl
        rw [whole] at pathThen
        exact path.append pathThen
      · exact (List.mem_append.1 member).elim (silent turn) (silentThen turn)

/-! ## Ending -/

/-- A server behind a stop that nobody disturbed. -/
def halted (server : Server) (workers : List Worker) : Server :=
  { server with
    pool := Server.settled { server.pool with workers }
    closing := none
    clearances := [] }

/-- The turns in which a stop ends the run, closes what waited and answers. -/
def endingTurns (queue : List Descriptor) : List Turn :=
  ⟨.settle, []⟩ :: (queue.map (fun descriptor => ⟨.clear 0, [.discarded descriptor]⟩) ++
    [⟨.endStop 0, [.stopAnswered caller true]⟩])

theorem labels_endingTurns (queue : List Descriptor) :
    (endingTurns queue).map Turn.label =
      .settle :: List.replicate queue.length (.clear 0) ++ [.endStop 0] := by
  simp [endingTurns, Function.comp_def]

theorem calls_endingTurns (queue : List Descriptor) : stopCalls (endingTurns queue) = [] := by
  refine List.filterMap_eq_nil_iff.2 fun turn member => ?_
  simp only [endingTurns, List.mem_cons, List.mem_append, List.mem_map, List.not_mem_nil,
    or_false] at member
  rcases member with rfl | ⟨_, _, rfl⟩ | rfl <;> rfl

theorem answers_endingTurns (queue : List Descriptor) :
    stopAnswers (shown (endingTurns queue)) = [caller] := by
  have cleared : (shown (queue.map fun descriptor =>
      (⟨.clear 0, [.discarded descriptor]⟩ : Turn))).filterMap Event.stopped? = [] := by
    refine List.filterMap_eq_nil_iff.2 fun event member => ?_
    obtain ⟨turn, isTurn, isEvent⟩ := List.mem_flatMap.1 member
    obtain ⟨descriptor, -, rfl⟩ := List.mem_map.1 isTurn
    rw [List.mem_singleton.1 isEvent]
    rfl
  have whole : endingTurns queue = [⟨.settle, []⟩] ++
      queue.map (fun descriptor => ⟨.clear 0, [.discarded descriptor]⟩) ++
        [⟨.endStop 0, [.stopAnswered caller true]⟩] := rfl
  rw [whole, shown_append, shown_append, stopAnswers_append, stopAnswers_append]
  simp only [stopAnswers, cleared]
  rfl

theorem path_ending {terms : Terms} {server : Server} (active : server.closing = some closing)
    (stage : closing.stage = .joining held [] none) (called : closing.caller = caller)
    (unanswered : server.clearances = []) :
    Server.Path terms server (endingTurns server.pool.queue) (halted server server.pool.workers) := by
  have settles : Server.Step terms server .settle [] _ := .settle active stage
  rw [unanswered, called] at settles
  exact (Server.Path.turn .refl settles).append (Server.path_clear rfl)

theorem finishStop_of_ended (posted : site.Posted) (found : site.servers[position]? = some live)
    (active : live.server.closing = some { caller, mode, stage := .joining held held none })
    (unanswered : live.server.clearances = []) (ended : AllEnded held live.server.pool) :
    ∃ turns workers, Advances position turns site (site.finishStop position) ∧
      Server.Path live.terms live.server turns (halted live.server workers) ∧
      stopCalls turns = [] ∧ stopAnswers (shown turns) = [caller] := by
  obtain ⟨turns, workers, joins, path, silent⟩ := joins_of_ended held posted found active rfl ended
  obtain ⟨later, foundLater, kin, isLater⟩ := joins.stands found path
  have holds : site.heldByStop position = held :=
    @heldByStop_of_signalStage site position live held [] _ found active rfl
  have ending := @path_ending held { caller, mode, stage := .joining held [] none } later.terms
    later.server (by rw [isLater]) rfl rfl (by rw [isLater]; exact unanswered)
  refine ⟨turns ++ endingTurns later.server.pool.queue, workers, ?_, ?_, ?_, ?_⟩
  · have ends := joins.append (advances_turns joins.posted foundLater ending)
    have queue : later.server.pool.queue = live.server.pool.queue := by rw [isLater]
    rw [labels_endingTurns] at ends
    simpa only [finishStop, holds, found, queue] using ends
  · rw [kin.terms] at ending
    rw [isLater] at ending ⊢
    exact path.append ending
  · rw [stopCalls_append, calls_endingTurns, List.append_nil]
    exact List.filterMap_eq_nil_iff.2 fun turn member => (silent turn member).2
  · rw [shown_append, stopAnswers_append, answers_endingTurns]
    have nothing : shown turns = [] := List.flatMap_eq_nil_iff.2 fun turn member => (silent turn member).1
    rw [nothing]
    rfl

/-! ## The whole stop -/

/-- A server whose stop has told everybody and has not begun to wait, with its workers. -/
def drained (mode : StopMode) (held : List WorkerId) (server : Server) (workers : List Worker) :
    Server :=
  { told mode held server with pool := { (told mode held server).pool with workers } }

/-- A stop that has told everybody and has not begun to wait, some turns of threads later. -/
structure Draining (position : Nat) (mode : StopMode) (held : List WorkerId) (turns : List Turn)
    (workers : List Worker) (before now : Site) (live : LiveServer) : Prop where
  advances : Advances position (tellingTurns mode held ++ turns) before now
  path : Server.Path live.terms live.server (tellingTurns mode held ++ turns)
    (drained mode held live.server workers)
  threads : ∀ turn ∈ turns, turn.label.thread?.isSome
  known : workers.length = live.server.pool.workers.length
  told : AllTold (drained mode held live.server workers).pool

/-- When the far ends of a server's connections hang up, nothing else changes. -/
theorem hangUpAll_spec (position : Nat) (posted : site.Posted) :
    Moves position [] [] site (site.hangUpAll position) ∧ (site.hangUpAll position).Posted ∧
      (site.hangUpAll position).HungUp position := by
  let hangUp (line : Line) : Line :=
    if line.server = position ∧ line.isOpen then line.receive .hangUp else line
  have lasts (line : Line) : line.Lasts (hangUp line) := by
    dsimp only [hangUp]
    split
    · exact line.receive_lasts .hangUp
    · exact .refl line
  have lines (number : Nat) : (site.hangUpAll position).lines[number]? =
      (site.lines[number]?).map hangUp := List.getElem?_map
  refine ⟨?_, fun other live found => ?_, fun number line here server isOpen => ?_⟩
  · refine ⟨fun live found => ⟨live, found, .refl live, .refl⟩, fun _ _ => rfl, rfl, rfl,
      (List.append_nil _).symm, fun number line here => ?_, fun _ => by simp [Site.hangUpAll], id⟩
    exact ⟨hangUp line, by rw [lines, here]; rfl, (lasts line).kept position⟩
  · refine (posted other live found).keep rfl (fun _ _ there _ => there) ?_
    intro number line here server isOpen
    exact ⟨hangUp line, by rw [lines, here]; rfl, (lasts line).server.trans server,
      (lasts line).isOpen.trans isOpen⟩
  · rw [lines] at here
    obtain ⟨earlier, -, rfl⟩ := Option.map_eq_some_iff.1 here
    rw [(lasts earlier).server] at server
    rw [(lasts earlier).isOpen] at isOpen
    simp [hangUp, server, isOpen, Line.receive]

section Draining

variable {before now : Site} {turns : List Turn} {workers : List Worker}

/-- Whoever the stop has not told is out of service. -/
theorem draining_of_running (mode : StopMode) (posted : site.Posted)
    (found : site.servers[position]? = some live)
    (sound : Server.Sound live.terms live.server) (running : live.server.pool.lifecycle = .running)
    (whole : held = live.server.pool.staff ++ live.server.pool.retired) :
    Draining position mode held [] (told mode held live.server).pool.workers site
      (site.turns position ((tellingTurns mode held).map Turn.label)) live := by
  have path : Server.Path live.terms live.server (tellingTurns mode held) (told mode held live.server) :=
    path_telling running mode whole
  refine ⟨?_, ?_, nofun, ?_, ?_⟩
  · rw [List.append_nil]
    exact advances_turns posted found path
  · rw [List.append_nil]
    exact path
  · simp [told]
  · intro id worker present
    obtain ⟨earlier, was, stage, -, -, isTold⟩ := Server.worker?_signalled present
    by_cases member : id ∈ held
    · exact .inl (isTold (.inl member))
    · right
      rw [stage]
      have wasKnown : live.server.pool.worker? id = some earlier := by
        rwa [Pool.worker?_of_workers rfl] at was
      refine ((sound.duty id earlier wasKnown).outside fun hired => member ?_).2
      rw [whole]
      exact List.mem_append_left _ hired

namespace Draining

theorem stands (draining : Draining position mode held turns workers before now live)
    (found : before.servers[position]? = some live) :
    ∃ later, now.servers[position]? = some later ∧ live.Kin later ∧
      later.server = drained mode held live.server workers :=
  draining.advances.stands found draining.path

/-- Everybody rests. -/
theorem rest (draining : Draining position mode held turns workers before now live)
    (found : before.servers[position]? = some live) :
    ∃ more rested,
      Draining position mode held (turns ++ more) rested before (now.rest position) live ∧
      ∀ id worker, (drained mode held live.server rested).pool.worker? id = some worker →
        worker.stage.isActive = false ∨ (∃ descriptor, worker.stage = .serving descriptor) ∧
          ¬ (AllNear (drained mode held live.server workers).pool ∧ now.HungUp position) := by
  obtain ⟨later, foundLater, kin, isLater⟩ := draining.stands found
  have stopping : later.server.pool.lifecycle ≠ .running := by
    rw [isLater]
    simp [drained, Site.told]
  obtain ⟨more, rested, leaves, rests⟩ :=
    rest_of_told draining.advances.posted foundLater stopping (by rw [isLater]; exact draining.told)
  obtain ⟨advances, path, threads, known, isTold, -⟩ := leaves
  rw [kin.terms] at path
  simp only [isLater] at path known isTold rests
  refine ⟨more, rested, ⟨?_, ?_, ?_, known.trans draining.known, isTold⟩, rests⟩
  · rw [← List.append_assoc]
    exact draining.advances.append advances
  · rw [← List.append_assoc]
    exact draining.path.append path
  · intro turn member
    exact (List.mem_append.1 member).elim (draining.threads turn) (threads turn)

/-- Who holds a session has nothing else to do. -/
theorem near (draining : Draining position mode held turns workers before now live)
    (sound : Server.Sound live.terms live.server)
    (rests : ∀ id worker, (drained mode held live.server workers).pool.worker? id = some worker →
      worker.stage.isActive = false ∨ ∃ descriptor, worker.stage = .serving descriptor) :
    AllNear (drained mode held live.server workers).pool := by
  have soundNow := draining.path.sound sound
  intro id worker present
  have fits := soundNow.duty id worker present
  have few : worker.stage.distance ≤ 3 ∧ worker.assignment = none := by
    rcases rests id worker present with inactive | ⟨descriptor, stage⟩
    · refine ⟨?_, fits.empty_of_stage ?_ ?_⟩
      · cases stage : worker.stage <;> simp_all [Stage.isActive, Stage.distance]
      all_goals
        intro stage
        rw [stage] at inactive
        cases inactive
    · exact ⟨by simp [stage, Stage.distance], fits.empty_of_stage (by simp [stage]) (by simp [stage])⟩
  simpa [Worker.distance, few.2] using few.1

/-- The far ends hang up. -/
theorem hangUpAll (draining : Draining position mode held turns workers before now live) :
    Draining position mode held turns workers before (now.hangUpAll position) live ∧
      (now.hangUpAll position).HungUp position := by
  obtain ⟨moves, stays, hungUp⟩ := hangUpAll_spec position draining.advances.posted
  refine ⟨{ draining with advances := ?_ }, hungUp⟩
  have both := draining.advances.append (⟨moves, stays⟩ : Advances position [] now _)
  rwa [List.append_nil] at both

theorem heldByStop_eq (draining : Draining position mode held turns workers before now live)
    (found : before.servers[position]? = some live) : now.heldByStop position = held := by
  obtain ⟨later, foundLater, -, isLater⟩ := draining.stands found
  exact @heldByStop_of_signalStage now position later held [] _ foundLater (by rw [isLater]; rfl) rfl

theorem ended_of_canFinishStop (draining : Draining position mode held turns workers before now live)
    (found : before.servers[position]? = some live) (mayFinish : now.canFinishStop position = true) :
    ∀ id ∈ held, ∀ worker,
      (drained mode held live.server workers).pool.worker? id = some worker →
        worker.stage.isActive = false := by
  obtain ⟨later, foundLater, -, isLater⟩ := draining.stands found
  intro id member worker present
  rw [canFinishStop, draining.heldByStop_eq found, List.all_eq_true] at mayFinish
  have ended := mayFinish id member
  simp only [foundLater, Option.bind_some, isLater, present, decide_eq_true_eq] at ended
  rcases ended with stage | stage <;> rw [stage] <;> rfl

/-- Once nobody is in a round any more, the stop may wait, and comes to its end. -/
theorem finish (draining : Draining position mode held turns workers before now live)
    (found : before.servers[position]? = some live) (sound : Server.Sound live.terms live.server)
    (whole : held = live.server.pool.staff ++ live.server.pool.retired)
    (unanswered : live.server.clearances = [])
    (ended : ∀ id ∈ held, ∀ worker,
      (drained mode held live.server workers).pool.worker? id = some worker →
        worker.stage.isActive = false) :
    ∃ more last, Advances position (tellingTurns mode held ++ turns ++ more) before
        (now.finishStop position) ∧
      Server.Path live.terms live.server (tellingTurns mode held ++ turns ++ more)
        (halted (drained mode held live.server workers) last) ∧
      stopCalls more = [] ∧ stopAnswers (shown more) = [caller] := by
  obtain ⟨later, foundLater, kin, isLater⟩ := draining.stands found
  have soundNow := draining.path.sound sound
  have allEnded : AllEnded held later.server.pool := by
    intro id member
    have known : live.server.pool.Knows id := by
      rw [whole] at member
      exact (List.mem_append.1 member).elim (sound.roster.staff_known id)
        (sound.roster.retired_known id)
    have isSome : ((drained mode held live.server workers).pool.worker? id).isSome := by
      refine (Pool.worker?_isSome_iff _ id).2 ⟨known.1, ?_⟩
      have below := known.2
      unfold Pool.nextId at below ⊢
      rwa [show (drained mode held live.server workers).pool.workers = workers from rfl,
        draining.known]
    obtain ⟨worker, present⟩ := Option.isSome_iff_exists.1 isSome
    rw [isLater]
    exact ⟨worker, present, soundNow.ended present (ended id member worker present)⟩
  obtain ⟨more, last, finishes, path, calls, answers⟩ :=
    @finishStop_of_ended now position later mode held draining.advances.posted foundLater
      (by rw [isLater]; rfl) (by rw [isLater]; exact unanswered) allEnded
  refine ⟨more, last, draining.advances.append finishes, ?_, calls, answers⟩
  rw [kin.terms, isLater] at path
  exact draining.path.append path

end Draining

/-- What a stop has done that found its server running. -/
structure Halts (mode : StopMode) (turns : List Turn) (server : Server) : Prop where
  stopped : server.pool.lifecycle = .stopped
  /-- Nobody is in service or retired, and nobody waits. -/
  settled : server.pool = Server.settled server.pool
  answered : server.clearances = []
  /-- The stop was called once, and no other stop was. -/
  calls : stopCalls turns = [(mode, true)]
  /-- It has answered once that the server was running. -/
  answers : stopAnswers (shown turns) = [caller]
  /-- The transport was asked to listen no more. -/
  unlistened : .unlistened ∈ shown turns

theorem halts_of_draining (draining : Draining position mode held turns workers before now live)
    {more : List Turn} {last : List Worker} (calls : stopCalls more = [])
    (answers : stopAnswers (shown more) = [caller]) :
    Halts mode (tellingTurns mode held ++ turns ++ more)
      (halted (drained mode held live.server workers) last) := by
  obtain ⟨_, -, threads⟩ := draining.path.split
  have quiet := threads.goesOn_of_ordinary fun turn member =>
    Label.isOrdinary_of_thread (draining.threads turn member)
  have silent : shown (held.map fun id => (⟨.signal id, []⟩ : Turn)) = [] := by
    simp [shown, List.flatMap_map]
  have telling : shown (tellingTurns mode held) = [.unlistened] := by
    rw [tellingTurns, shown_append, silent]
    rfl
  have called : stopCalls (tellingTurns mode held) = [(mode, true)] := by
    have others : stopCalls (held.map fun id => (⟨.signal id, []⟩ : Turn)) = [] := by
      simp [stopCalls, List.filterMap_map, Function.comp_def, Turn.stopCall?]
    rw [tellingTurns, stopCalls_append, others]
    rfl
  constructor
  case stopped => rfl
  case settled => rfl
  case answered => rfl
  case calls => rw [stopCalls_append, stopCalls_append, called, quiet.calls, calls]; rfl
  case answers =>
    rw [shown_append, shown_append, stopAnswers_append, stopAnswers_append, telling, quiet.answers,
      answers]
    rfl
  case unlistened =>
    rw [shown_append, shown_append, telling]
    simp

/-- A stop that finds its server running comes to its answer, in turns that call no other stop. -/
theorem stopNow_of_running (mode : StopMode) (posted : site.Posted)
    (found : site.servers[position]? = some live) (sound : Server.Sound live.terms live.server)
    (running : live.server.pool.lifecycle = .running) (unanswered : live.server.clearances = []) :
    (site.stopNow position mode).1 = true ∧ ∃ turns last,
      Advances position turns site (site.stopNow position mode).2 ∧
      Server.Path live.terms live.server turns last ∧ Halts mode turns last := by
  obtain ⟨held, whole⟩ : ∃ held, held = live.server.pool.staff ++ live.server.pool.retired :=
    ⟨_, rfl⟩
  have begun := draining_of_running mode posted found sound running whole
  obtain ⟨turns, rested, draining, rests⟩ := begun.rest found
  rw [List.nil_append] at draining
  rw [stopNow, stop_eq posted found running whole]
  dsimp only
  generalize (site.turns position ((tellingTurns mode held).map Turn.label)).rest position = resting
    at draining rests
  have conclude {now : Site} {more : List Turn} {workers : List Worker}
      (draining : Draining position mode held more workers site now live)
      (ended : ∀ id ∈ held, ∀ worker,
        (drained mode held live.server workers).pool.worker? id = some worker →
          worker.stage.isActive = false) : ∃ turns last,
      Advances position turns site (now.finishStop position) ∧
      Server.Path live.terms live.server turns last ∧ Halts mode turns last := by
    obtain ⟨more, last, advances, path, calls, answers⟩ :=
      draining.finish found sound whole unanswered ended
    exact ⟨_, _, advances, path, halts_of_draining draining calls answers⟩
  cases mayFinish : resting.canFinishStop position with
  | true =>
      simp only [if_true]
      exact ⟨trivial, conclude draining (draining.ended_of_canFinishStop found mayFinish)⟩
  | false =>
      -- Behind the first rest nobody is about to open a channel, so the second one lets everybody leave.
      obtain ⟨hanging, hungUp⟩ := draining.hangUpAll
      obtain ⟨more, last, released, leaves⟩ := hanging.rest found
      have near := draining.near sound fun id worker present => (rests id worker present).imp_right And.left
      simp only [Bool.false_eq_true, if_false]
      refine ⟨trivial, conclude released fun id _ worker present => ?_⟩
      exact (leaves id worker present).resolve_right fun serves => serves.2 ⟨near, hungUp⟩

end Draining

theorem turn_eq_of_not_running (found : site.servers[position]? = some live)
    (other : live.server.pool.lifecycle ≠ .running) :
    site.turn position (.beginStop caller mode) = ([.stopAnswered caller false], site) := by
  have answers : Server.Step live.terms live.server (.beginStop caller mode)
      [.stopAnswered caller false] live.server := .notRunning other
  rw [turn_eq_of_silent found answers (by simp [observe]), replaceServer_self found]

/-- A stop that finds its server not running answers so, and changes nothing. -/
theorem stopNow_eq_of_not_running (found : site.servers[position]? = some live)
    (other : live.server.pool.lifecycle ≠ .running) :
    site.stopNow position mode = (false, site) := by
  simp [stopNow, stop, turn_eq_of_not_running found other]

theorem stopNow_of_not_running (mode : StopMode) (posted : site.Posted)
    (found : site.servers[position]? = some live)
    (other : live.server.pool.lifecycle ≠ .running) :
    (site.stopNow position mode).1 = false ∧
      Advances position [⟨.beginStop caller mode, [.stopAnswered caller false]⟩] site
        (site.stopNow position mode).2 ∧
      Server.Path live.terms live.server [⟨.beginStop caller mode, [.stopAnswered caller false]⟩]
        live.server := by
  have answers : Server.Step live.terms live.server (.beginStop caller mode)
      [.stopAnswered caller false] live.server := .notRunning other
  have turned := advances_turn posted found answers
  rw [turn_eq_of_not_running found other] at turned
  rw [stopNow_eq_of_not_running found other]
  exact ⟨rfl, turned, .turn .refl answers⟩

end Site

end ConnectionPool
