import ConnectionPool.Proofs.Server.Subsiding
import ConnectionPool.Proofs.Site.Moves

/-!
Contract: how the workers of a site come to rest once their server is out of service.

A site lets each worker go on until it waits. A worker that was told to leave then has left its round, or it
holds a session whose far end is still there; when the far ends have hung up, it has left its round.

Owns:
- `Site.Advances`, turns of one server that leave all workers at their posts;
- `Site.converse_advances`, a session that goes on;
- `Site.rest_of_told`, what the workers of a server out of service come to.

Does not own: who tells the workers.
-/

namespace ConnectionPool

theorem Server.Path.unique {terms : Terms} {first last other : Server} {turns : List Turn}
    (path : Path terms first turns last) (path' : Path terms first turns other) : last = other := by
  have ran := path_iff_run?.1 ⟨turns, path, rfl, rfl⟩
  have ran' := path_iff_run?.1 ⟨turns, path', rfl, rfl⟩
  rw [ran] at ran'
  exact congrArg Prod.fst (Option.some.inj ran')

namespace Site

variable {site before middle after : Site} {position : Nat} {turns more : List Turn}
  {live : LiveServer} {next : Server} {label : Label} {events : List Event} {id : WorkerId}
  {worker : Worker}

/-- The server at a position took some turns, and all workers are at their posts. -/
structure Advances (position : Nat) (turns : List Turn) (before after : Site) : Prop extends
    Moves position turns (hooks turns) before after where
  posted : after.Posted

namespace Advances

theorem refl (position : Nat) (posted : site.Posted) : Advances position [] site site :=
  ⟨.refl position site, posted⟩

theorem append (earlier : Advances position turns before middle)
    (later : Advances position more middle after) : Advances position (turns ++ more) before after where
  toMoves := by
    rw [hooks_append]
    exact earlier.toMoves.append later.toMoves
  posted := later.posted

/-- The server stands where its turns lead. -/
theorem stands (advances : Advances position turns before after)
    (found : before.servers[position]? = some live)
    (path : Server.Path live.terms live.server turns next) :
    ∃ later, after.servers[position]? = some later ∧ live.Kin later ∧ later.server = next := by
  obtain ⟨later, foundLater, kin, path'⟩ := advances.server live found
  exact ⟨later, foundLater, kin, path'.unique path⟩

end Advances

theorem advances_turn (posted : site.Posted) (found : site.servers[position]? = some live)
    (step : Server.Step live.terms live.server label events next) :
    Advances position [⟨label, events⟩] site (site.turn position label).2 := by
  obtain ⟨moves, stays⟩ := turn_of_step posted found step
  exact ⟨by simpa [hooks] using moves, stays⟩

/-- A call on a site that takes the turns of a path. -/
theorem advances_turns (posted : site.Posted) (found : site.servers[position]? = some live)
    (path : Server.Path live.terms live.server turns next) :
    Advances position turns site (site.turns position (turns.map Turn.label)) := by
  induction path with
  | refl => exact .refl position posted
  | @turn turns last next label events before step inductionHypothesis =>
      obtain ⟨between, foundThen, kin, rfl⟩ := inductionHypothesis.stands found before
      rw [← kin.terms] at step
      rw [List.map_append, Site.turns, List.foldl_append]
      exact inductionHypothesis.append (advances_turn inductionHypothesis.posted foundThen step)

/-! ## Sessions that go on -/

/-- All far ends of open connections of a server have hung up. -/
def HungUp (position : Nat) (site : Site) : Prop :=
  ∀ (number : Nat) (line : Line), site.lines[number]? = some line → line.server = position →
    line.isOpen = true → .hangUp ∈ line.inbound

theorem Moves.hungUp {asked : List Hook} (moves : Moves position turns asked before after)
    (none : ∀ descriptor, .create descriptor ∉ asked) (hungUp : before.HungUp position) :
    after.HungUp position := by
  intro number line here server isOpen
  have inside := (List.getElem?_eq_some_iff.1 here).1
  rw [moves.count none] at inside
  obtain ⟨line', here', kept⟩ := moves.lines number _ (List.getElem?_eq_getElem inside)
  cases here.symm.trans here'
  exact kept.hungUp (hungUp number _ (List.getElem?_eq_getElem inside) (kept.server.symm.trans server)
    (kept.closed isOpen))

/-- Workers stay at their posts when something happens on a line that stays open. -/
theorem Posted.modifyLine {number : Nat} {change : Line → Line} (posted : site.Posted)
    (lasts : ∀ line : Line, site.lines[number]? = some line → line.Lasts (change line)) :
    (site.modifyLine number change).Posted := by
  intro position live found
  refine (posted position live found).keep rfl (fun _ _ there _ => there) ?_
  intro other line here server isOpen
  rw [Site.modifyLine, List.getElem?_modify, here]
  by_cases same : number = other
  · subst same
    have kept := lasts line here
    exact ⟨change line, by simp, kept.server.trans server, kept.isOpen.trans isOpen⟩
  · exact ⟨line, by simp [same], server, isOpen⟩

/-- Letting a session go on reads and writes on its line, and leaves everybody where they are. It ends, or
it waits for a far end that has not hung up. -/
theorem converse_spec (posted : site.Posted) (found : site.servers[position]? = some live)
    (id : WorkerId) (mayContinue : Bool) :
    Advances position [] site (site.converse position id mayContinue).2 ∧
      ∀ line dialogue, live.engagements.lookup id = some ⟨line, some dialogue⟩ →
        (site.converse position id mayContinue).1 = none → ¬ site.HungUp position := by
  have own := posted position live found
  simp only [converse, found]
  split
  · next number dialogue has =>
      obtain ⟨line, here, server, isOpen⟩ := own.owned id _ has
      have lasts := line.converse_lasts mayContinue dialogue
      have goesOn := line.converse_ends_or_waits mayContinue dialogue
      have staysEcho (state : Echo) (isEcho : dialogue = .echo state) (later : Dialogue)
          (waits : (line.converse mayContinue dialogue).1 = .blocked later) :
          ∃ state, later = .echo state := by
        subst isEcho
        exact line.converseFor_echo mayContinue _ state waits
      simp only [here]
      revert lasts goesOn staysEcho
      rcases line.converse mayContinue dialogue with ⟨pause, after⟩
      intro lasts goesOn staysEcho
      have lastsHere : ∀ other, site.lines[number]? = some other → other.Lasts after := by
        intro other isOther
        cases here.symm.trans isOther
        exact lasts
      have read : Moves position [] [] site (site.modifyLine number fun _ => after) :=
        modifyLine_moves fun other isOther => (lastsHere other isOther).kept position
      have postedThen : (site.modifyLine number fun _ => after).Posted := posted.modifyLine lastsHere
      rcases goesOn with ⟨ending, isEnded⟩ | ⟨⟨later, waits⟩, present⟩
      · dsimp only at isEnded
        subst isEnded
        exact ⟨⟨read, postedThen⟩, fun _ _ _ isNone => by cases isNone⟩
      · dsimp only at waits staysEcho
        subst waits
        have kept : Moves position [] [] (site.modifyLine number fun _ => after)
            ((site.modifyLine number fun _ => after).modifyServer position fun live =>
              { live with engagements := assigned id ⟨number, some later⟩ live.engagements }) := by
          refine modifyServer_moves (fun _ => ⟨rfl, rfl, rfl, rfl⟩) (fun _ _ => .refl)
            fun other isOther echoes => echoes.assign rfl rfl fun spoken begun => ?_
          cases (show site.servers[position]? = some other from isOther).symm.trans found
          obtain ⟨state, isEcho⟩ := echoes.speaks id _ dialogue has rfl
          cases begun
          exact staysEcho state isEcho later rfl
        refine ⟨⟨read.append kept, kept.posted postedThen ?_⟩, fun _ _ _ _ hungUp => ?_⟩
        · intro first last isFirst isLast postedFirst
          have same : first = live := Option.some.inj (isFirst.symm.trans found)
          subst same
          rw [getElem?_modifyServer, isFirst] at isLast
          simp only [Option.map_some, if_true] at isLast
          cases isLast
          exact postedFirst.converse has rfl (fun _ _ _ there _ => there)
            fun _ line here server isOpen => ⟨line, here, server, isOpen⟩
        · exact present (hungUp number line here server isOpen)
  · next noSession =>
      exact ⟨.refl position posted, fun line dialogue has _ => absurd has (noSession line _)⟩

/-! ## Threads out of service -/

/-- What the thread of a worker does next that was told to leave. -/
inductive NextOfTold (position : Nat) (id : WorkerId) (site : Site) (live : LiveServer)
    (worker : Worker) : Option Label → Prop where
  /-- It does nothing any more. -/
  | inactive (inactive : worker.stage.isActive = false) : NextOfTold position id site live worker none
  /-- It holds a session whose far end is still there. -/
  | waits (descriptor : Descriptor) (stage : worker.stage = .serving descriptor)
      (present : ¬ site.HungUp position) : NextOfTold position id site live worker none
  | turn (label : Label) (thread : label.thread? = some id) (accepting : worker.accepting = false)
      (events : List Event) (next : Server)
      (step : Server.Step live.terms live.server label events next) :
      NextOfTold position id site live worker (some label)

theorem nextTurn_of_told (posted : site.Posted) (found : site.servers[position]? = some live)
    (present : live.server.pool.worker? id = some worker)
    (other : live.server.pool.lifecycle ≠ .running) (told : worker.Told) :
    Advances position [] site (site.nextTurn position id worker).2 ∧
      NextOfTold position id site live worker (site.nextTurn position id worker).1 := by
  have still : Advances position [] site site := .refl position posted
  have leaves (active : worker.stage.isActive = true) : worker.accepting = false :=
    told.resolve_right (by simp [active])
  unfold nextTurn
  cases stage : worker.stage with
  | unstarted | exited => exact ⟨still, .inactive (by rw [stage]; rfl)⟩
  | waiting =>
      have accepting := leaves (by rw [stage]; rfl)
      cases slot : worker.assignment with
      | some descriptor => exact ⟨still, .turn _ rfl accepting _ _ (.take present stage slot)⟩
      | none =>
          simp only [accepting]
          exact ⟨still, .turn _ rfl accepting _ _ (.leave present stage slot accepting)⟩
  | expired =>
      exact ⟨still, .turn _ rfl (leaves (by rw [stage]; rfl)) _ _
        (.stay present stage fun may => other may.1)⟩
  | exchanging descriptor =>
      exact ⟨still, .turn _ rfl (leaves (by rw [stage]; rfl)) _ _ (.exchange present stage)⟩
  | opened descriptor =>
      have accepting := leaves (by rw [stage]; rfl)
      cases token : worker.interrupted with
      | true => exact ⟨still, .turn _ rfl accepting _ _ (.skipSession present stage token)⟩
      | false => exact ⟨still, .turn _ rfl accepting _ _ (.beginSession present stage token)⟩
  | serving descriptor =>
      obtain ⟨goesOn, waits⟩ := converse_spec posted found id worker.mayContinue
      refine ⟨goesOn, ?_⟩
      dsimp only
      cases isEnding : (site.converse position id worker.mayContinue).1 with
      | some ending =>
          exact .turn _ rfl (leaves (by rw [stage]; rfl)) _ _ (.finish present stage)
      | none =>
          obtain ⟨line, dialogue, has⟩ := (posted position live found).serving id descriptor
            ⟨worker, present, stage⟩
          exact .waits descriptor stage (waits line dialogue has isEnding)
  | returning =>
      exact ⟨still, .turn _ rfl (leaves (by rw [stage]; rfl)) _ _
        (.comeBack present stage fun outside => other outside.1)⟩

/-- What becomes of the worker of a number when its thread goes on in a server out of service. -/
structure Leaves (position : Nat) (id : WorkerId) (before after : Site) (live : LiveServer)
    (worker : Worker) : Prop where
  path : ∃ turns moved, Advances position turns before after ∧
    Server.Path live.terms live.server turns
      { live.server with pool := live.server.pool.setWorker moved id } ∧
    (∀ turn ∈ turns, turn.label.thread? = some id) ∧ moved.Told ∧
    moved.distance ≤ worker.distance ∧
    (moved.stage.isActive = false ∨ (∃ descriptor, moved.stage = .serving descriptor) ∧
      ¬ (worker.distance ≤ 3 ∧ before.HungUp position))
  hungUp : worker.distance ≤ 3 → before.HungUp position → after.HungUp position

theorem not_create_of_thread (step : Server.Step live.terms live.server label events next)
    (thread : label.thread? = some id) (noExchange : ∀ granted, label ≠ .exchange id granted)
    (descriptor : Descriptor) : .create descriptor ∉ hooks [⟨label, events⟩] := by
  rw [hooks, shown_singleton]
  cases step with
  | exchange =>
      cases thread
      exact absurd rfl (noExchange _)
  | take | leave | expire | retire | stay | beginSession | skipSession | finish | handOver | becomeFree
  | comeBack => simp [Event.hook?]
  | _ => cases thread

theorem setWorker_self {pool : Pool} (present : pool.worker? id = some worker) :
    pool.setWorker worker id = pool := by
  cases id with
  | zero => rfl
  | succ place =>
      have same : pool.workers.set place worker = pool.workers := by
        obtain ⟨inside, rfl⟩ := List.getElem?_eq_some_iff.1 present
        exact List.set_getElem_self inside
      rw [Pool.setWorker, same]

theorem runWorkerFor_of_told {fuel : Nat} (posted : site.Posted)
    (found : site.servers[position]? = some live)
    (present : live.server.pool.worker? id = some worker)
    (other : live.server.pool.lifecycle ≠ .running) (told : worker.Told)
    (enough : worker.distance < fuel) :
    Leaves position id site (site.runWorkerFor position id fuel) live worker := by
  induction fuel generalizing site live worker with
  | zero => omega
  | succ fuel inductionHypothesis =>
      obtain ⟨goesOn, next⟩ := nextTurn_of_told posted found present other told
      have hungUpThen := goesOn.toMoves.hungUp (by simp)
      unfold runWorkerFor
      simp only [found, Option.bind_some, present]
      revert goesOn next hungUpThen
      rcases site.nextTurn position id worker with ⟨label, between⟩
      intro goesOn next hungUpThen
      dsimp only at goesOn next hungUpThen
      have same : live.server =
          { live.server with pool := live.server.pool.setWorker worker id } := by
        rw [setWorker_self present]
      cases next with
      | inactive inactive =>
          refine ⟨⟨[], worker, goesOn, ?_, nofun, told, Nat.le_refl _, .inl inactive⟩,
            fun _ => hungUpThen⟩
          rw [← same]
          exact .refl
      | waits descriptor stage waits =>
          refine ⟨⟨[], worker, goesOn, ?_, nofun, told, Nat.le_refl _,
            .inr ⟨⟨descriptor, stage⟩, fun both => waits both.2⟩⟩, fun _ => hungUpThen⟩
          rw [← same]
          exact .refl
      | turn label thread accepting events next step =>
          obtain ⟨now, foundNow, kin, sameServer⟩ := goesOn.stands found .refl
          have taken := step
          rw [← kin.terms, ← sameServer] at step
          have turned := advances_turn goesOn.posted foundNow step
          obtain ⟨moved, isNext, accepting, nearer, noExchange⟩ :=
            taken.nearer thread other present accepting
          obtain ⟨later, foundLater, kinLater, isLater⟩ := turned.stands foundNow (.turn .refl step)
          have presentLater : later.server.pool.worker? id = some moved := by
            rw [isLater, isNext]
            exact Pool.worker?_setWorker_self moved present rfl
          have otherLater : later.server.pool.lifecycle ≠ .running := by
            rw [isLater, isNext]
            simpa using other
          obtain ⟨⟨turns, last, advances, path, threads, toldLast, fewer, rests⟩, keeps⟩ :=
            inductionHypothesis turned.posted foundLater presentLater otherLater (.inl accepting)
              (by omega)
          have hungUpLater (near : worker.distance ≤ 3) (hungUp : site.HungUp position) :
              (between.turn position label).2.HungUp position :=
            turned.toMoves.hungUp (not_create_of_thread step thread (noExchange near))
              (hungUpThen hungUp)
          refine ⟨⟨⟨label, events⟩ :: turns, last, (goesOn.append turned).append advances, ?_, ?_,
            toldLast, by omega, rests.imp_right fun serves => ⟨serves.1, fun both => ?_⟩⟩,
            fun near hungUp => ?_⟩
          · rw [kinLater.terms, kin.terms, isLater, isNext] at path
            rw [isNext] at taken
            have whole := (Server.Path.refl.turn taken).append path
            simpa only [Pool.setWorker_setWorker, List.nil_append, List.singleton_append] using whole
          · rintro turn (_ | ⟨_, member⟩)
            · exact thread
            · exact threads turn member
          · exact serves.2 ⟨by omega, hungUpLater both.1 both.2⟩
          · exact keeps (by omega) (hungUpLater near hungUp)

/-! ## All workers of a server -/

/-- Every worker of a pool was told to leave, or has nothing to leave. -/
def AllTold (pool : Pool) : Prop :=
  ∀ id worker, pool.worker? id = some worker → worker.Told

/-- Every thread of a pool is about to leave its round, or holds a session and has an empty slot. -/
def AllNear (pool : Pool) : Prop :=
  ∀ id worker, pool.worker? id = some worker → worker.distance ≤ 3

/-- What becomes of the workers with these numbers when their threads go on in a server out of service. -/
structure AllLeave (position : Nat) (ids : List WorkerId) (before after : Site) (live : LiveServer)
    (turns : List Turn) (workers : List Worker) : Prop where
  advances : Advances position turns before after
  path : Server.Path live.terms live.server turns
    { live.server with pool := { live.server.pool with workers } }
  threads : ∀ turn ∈ turns, turn.label.thread?.isSome
  known : workers.length = live.server.pool.workers.length
  told : AllTold { live.server.pool with workers }
  near : AllNear live.server.pool → AllNear { live.server.pool with workers }
  hungUp : AllNear live.server.pool → before.HungUp position → after.HungUp position
  rest : ∀ id ∈ ids, ∀ worker, Pool.worker? { live.server.pool with workers } id = some worker →
    worker.stage.isActive = false ∨ (∃ descriptor, worker.stage = .serving descriptor) ∧
      ¬ (AllNear live.server.pool ∧ before.HungUp position)
  others : ∀ id, id ∉ ids →
    Pool.worker? { live.server.pool with workers } id = live.server.pool.worker? id

theorem setWorker_workers (pool : Pool) (workers : List Worker) (moved : Worker) (id : WorkerId) :
    ({ pool with workers := (Pool.setWorker { pool with workers } moved id).workers } : Pool) =
      Pool.setWorker { pool with workers } moved id := by
  cases id <;> rfl

/-- Whoever is found behind the move of one worker is that worker, or was there before. -/
theorem moved_or_of_worker? {pool : Pool} {moved found : Worker} {other : WorkerId}
    (present : pool.worker? id = some worker)
    (isFound : (pool.setWorker moved id).worker? other = some found) :
    (other = id ∧ found = moved) ∨ other ≠ id ∧ pool.worker? other = some found := by
  rw [Pool.worker?_setWorker] at isFound
  split at isFound
  · next same =>
      rw [present] at isFound
      cases isFound
      exact .inl ⟨same, rfl⟩
  · next different => exact .inr ⟨different, isFound⟩

/-- One more worker goes on. -/
theorem AllLeave.snoc {ids : List WorkerId} {workers : List Worker} {later : LiveServer}
    (leaves : AllLeave position ids before middle live turns workers) (kin : live.Kin later)
    (isLater : later.server = { live.server with pool := { live.server.pool with workers } })
    (present : Pool.worker? { live.server.pool with workers } id = some worker)
    (left : Leaves position id middle after later worker) :
    ∃ turns workers, AllLeave position (ids ++ [id]) before after live turns workers := by
  obtain ⟨more, moved, advances, path, threads, told, nearer, rests⟩ := left.path
  refine ⟨turns ++ more, (Pool.setWorker { live.server.pool with workers } moved id).workers, ?_⟩
  constructor
  case advances => exact leaves.advances.append advances
  case path =>
    rw [kin.terms, isLater] at path
    rw [setWorker_workers]
    exact leaves.path.append path
  case threads =>
    intro turn member
    rcases List.mem_append.1 member with old | new
    · exact leaves.threads turn old
    · rw [threads turn new]
      rfl
  case known =>
    rw [Pool.length_setWorker]
    exact leaves.known
  case told =>
    intro other found isFound
    rw [setWorker_workers] at isFound
    rcases moved_or_of_worker? present isFound with ⟨-, rfl⟩ | ⟨-, before⟩
    · exact told
    · exact leaves.told other found before
  case near =>
    intro near other found isFound
    rw [setWorker_workers] at isFound
    rcases moved_or_of_worker? present isFound with ⟨-, rfl⟩ | ⟨-, before⟩
    · exact Nat.le_trans nearer (leaves.near near id worker present)
    · exact leaves.near near other found before
  case hungUp =>
    intro near allHungUp
    exact left.hungUp (leaves.near near id worker present) (leaves.hungUp near allHungUp)
  case rest =>
    intro other member found isFound
    rw [setWorker_workers] at isFound
    rcases moved_or_of_worker? present isFound with ⟨-, rfl⟩ | ⟨different, before⟩
    · refine rests.imp_right fun serves => ⟨serves.1, fun both => serves.2 ⟨?_, ?_⟩⟩
      · exact leaves.near both.1 id worker present
      · exact leaves.hungUp both.1 both.2
    · refine leaves.rest other ?_ found before
      exact (List.mem_append.1 member).resolve_right fun last => different (List.mem_singleton.1 last)
  case others =>
    intro other outside
    have different : other ≠ id := fun same => outside (by simp [same])
    rw [setWorker_workers, Pool.worker?_setWorker, if_neg different]
    exact leaves.others other fun member => outside (List.mem_append_left _ member)

theorem runWorkers_of_told (ids : List WorkerId) (posted : site.Posted)
    (found : site.servers[position]? = some live)
    (other : live.server.pool.lifecycle ≠ .running) (told : AllTold live.server.pool) :
    ∃ turns workers, AllLeave position ids site (ids.foldl (runWorker position) site) live turns
      workers := by
  induction ids using List.reverseRecOn with
  | nil =>
      exact ⟨[], live.server.pool.workers, .refl position posted, .refl, nofun, rfl, told, id,
        fun _ => id, nofun, fun _ _ => rfl⟩
  | append_singleton ids id inductionHypothesis =>
      obtain ⟨turns, workers, leaves⟩ := inductionHypothesis
      obtain ⟨later, foundLater, kin, isLater⟩ := leaves.advances.stands found leaves.path
      rw [List.foldl_append, List.foldl_cons, List.foldl_nil, runWorker]
      simp only [foundLater]
      have pool : later.server.pool = { live.server.pool with workers } := by rw [isLater]
      cases present : Pool.worker? { live.server.pool with workers } id with
      | none =>
          refine ⟨turns, workers, ?_⟩
          have idle (fuel : Nat) (site : Site) (stands : site.servers[position]? = some later) :
              site.runWorkerFor position id fuel = site := by
            cases fuel with
            | zero => rfl
            | succ fuel => simp [runWorkerFor, stands, pool, present]
          rw [idle _ _ foundLater]
          refine { leaves with
            rest := fun other member found isFound => ?_
            others := fun other outside => ?_ }
          · refine leaves.rest other ((List.mem_append.1 member).resolve_right fun last => ?_) found isFound
            rw [List.mem_singleton.1 last, present] at isFound
            cases isFound
          · exact leaves.others other fun member => outside (List.mem_append_left _ member)
      | some worker =>
          have enough : worker.distance < 8 * (later.server.pool.queue.length + 3) := by
            have few := worker.distance_lt
            omega
          exact leaves.snoc kin isLater present
            (runWorkerFor_of_told leaves.advances.posted foundLater (by rw [pool]; exact present)
              (by rw [pool]; exact other) (leaves.told id worker present) enough)

theorem mem_range'_of_worker? {pool : Pool} (present : pool.worker? id = some worker) :
    id ∈ List.range' 1 pool.workers.length := by
  obtain ⟨positive, known⟩ : 0 < id ∧ id < pool.workers.length + 1 :=
    Pool.knows_of_worker? present
  exact List.mem_range'_1.2 ⟨positive, by rwa [Nat.add_comm 1]⟩

/-- Once everybody was told, each worker of a server out of service leaves its round, or it holds a session
whose far end is still there. It holds none if nobody was about to open a channel and all far ends had hung
up. -/
theorem rest_of_told (posted : site.Posted) (found : site.servers[position]? = some live)
    (other : live.server.pool.lifecycle ≠ .running) (told : AllTold live.server.pool) :
    ∃ turns workers,
      AllLeave position (List.range' 1 live.server.pool.workers.length) site (site.rest position)
        live turns workers ∧
      ∀ id worker, Pool.worker? { live.server.pool with workers } id = some worker →
        worker.stage.isActive = false ∨ (∃ descriptor, worker.stage = .serving descriptor) ∧
          ¬ (AllNear live.server.pool ∧ site.HungUp position) := by
  obtain ⟨turns, workers, leaves⟩ :=
    runWorkers_of_told (List.range' 1 live.server.pool.workers.length) posted found other told
  refine ⟨turns, workers, ?_, fun id worker present => leaves.rest id ?_ worker present⟩
  · simpa only [rest, found] using leaves
  · rw [← leaves.known]
    exact mem_range'_of_worker? present

end Site

end ConnectionPool
