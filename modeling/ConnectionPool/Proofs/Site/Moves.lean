import ConnectionPool.Proofs.Line
import ConnectionPool.Proofs.Lookup
import ConnectionPool.Proofs.Server.Engagement
import ConnectionPool.Site

/-!
Contract: what happens to a site while one of its servers takes turns.

A turn of a server changes that server, the lines that its workers have opened, and the journal. The
other servers, their lines and the directory stay as they are. Whatever turns a server takes, its
workers stay at their posts: a worker that has opened a connection knows its line, the line is open and
belongs to the server, and no two workers have the same one. A server that speaks the echo protocol goes on
speaking it.

Owns:
- `Site.Moves`, some turns of one server as a change of the site;
- the invariants `Site.Posted`, `Site.Echoes` and both together, `Site.Manned`, kept by every turn and by
  every session that goes on.

Does not own: which turns are taken.
-/

namespace ConnectionPool

/-- What an event asks of the transport. -/
def Event.hook? : Event → Option Hook
  | .listened _ => some .listen
  | .unlistened => some .unlisten
  | .discarded descriptor => some (.discard descriptor)
  | .refused descriptor => some (.create descriptor)
  | .exchanged _ descriptor _ => some (.create descriptor)
  | _ => none

/-- What some turns asked of the transport. -/
def hooks (turns : List Turn) : List Hook :=
  (shown turns).filterMap Event.hook?

@[simp] theorem hooks_nil : hooks [] = [] :=
  rfl

@[simp] theorem hooks_append (front back : List Turn) :
    hooks (front ++ back) = hooks front ++ hooks back := by
  rw [hooks, shown_append, List.filterMap_append, hooks, hooks]

/-- A server is still of the same kind, and the host has it as before. -/
structure LiveServer.Kin (before after : LiveServer) : Prop where
  terms : after.terms = before.terms
  protocol : after.protocol = before.protocol
  isHeld : after.isHeld = before.isHeld
  isGone : after.isGone = before.isGone

theorem LiveServer.Kin.refl (live : LiveServer) : live.Kin live :=
  ⟨rfl, rfl, rfl, rfl⟩

theorem LiveServer.Kin.trans {first second third : LiveServer} (earlier : first.Kin second)
    (later : second.Kin third) : first.Kin third :=
  ⟨later.terms.trans earlier.terms, later.protocol.trans earlier.protocol,
    later.isHeld.trans earlier.isHeld, later.isGone.trans earlier.isGone⟩

section Lookup
variable {Key Value : Type} [DecidableEq Key]

theorem lookup_assigned (key other : Key) (value : Value) (entries : List (Key × Value)) :
    (assigned key value entries).lookup other =
      if other = key then some value else entries.lookup other := by
  rw [assigned, List.lookup_cons, lookup_filter_ne]
  by_cases same : other = key
  · simp [same]
  · simp [same, beq_false_of_ne same]

end Lookup

/-! ## The echo protocol -/

/-- A server speaks the echo protocol. -/
structure LiveServer.Echoes (live : LiveServer) : Prop where
  protocol : live.protocol = .echo
  speaks : ∀ id engagement dialogue, live.engagements.lookup id = some engagement →
    engagement.dialogue = some dialogue → ∃ state, dialogue = .echo state

namespace LiveServer.Echoes

variable {live later : LiveServer} {id : WorkerId}

theorem of_eq (echoes : live.Echoes) (protocol : later.protocol = live.protocol)
    (engagements : later.engagements = live.engagements) : later.Echoes where
  protocol := protocol.trans echoes.protocol
  speaks := by
    rw [engagements]
    exact echoes.speaks

/-- A worker gets a line, or an echo session on it. -/
theorem assign {engagement : Engagement} (echoes : live.Echoes)
    (protocol : later.protocol = live.protocol)
    (engagements : later.engagements = assigned id engagement live.engagements)
    (speaks : ∀ dialogue, engagement.dialogue = some dialogue → ∃ state, dialogue = .echo state) :
    later.Echoes where
  protocol := protocol.trans echoes.protocol
  speaks := by
    intro other found dialogue isFound begun
    rw [engagements, lookup_assigned] at isFound
    split at isFound
    · cases isFound
      exact speaks dialogue begun
    · exact echoes.speaks other found dialogue isFound begun

/-- A worker lets go of its line. -/
theorem release (echoes : live.Echoes) (protocol : later.protocol = live.protocol)
    (engagements : later.engagements = live.engagements.filter fun entry => entry.1 ≠ id) :
    later.Echoes where
  protocol := protocol.trans echoes.protocol
  speaks := by
    intro other found dialogue isFound begun
    rw [engagements, lookup_filter_ne] at isFound
    split at isFound
    · cases isFound
    · exact echoes.speaks other found dialogue isFound begun

end LiveServer.Echoes

/-- Every server speaks the echo protocol. -/
def Site.Echoes (site : Site) : Prop :=
  ∀ (position : Nat) (live : LiveServer), site.servers[position]? = some live → live.Echoes

/-! ## Workers with an open line -/

/-- A worker at this stage has opened a connection. -/
def Stage.hasLine : Stage → Bool
  | .opened _ => true
  | .serving _ => true
  | _ => false

namespace Pool

variable {pool base : Pool} {changed : Worker} {id other : WorkerId} {stage : Stage}

theorem InStage.of_workers (here : base.InStage id stage) (workers : base.workers = pool.workers) :
    pool.InStage id stage := by
  obtain ⟨worker, found, isStage⟩ := here
  exact ⟨worker, by rwa [worker?_of_workers workers] at found, isStage⟩

/-- After one worker has changed, whoever stands at a stage is that worker or stood there before. -/
theorem InStage.of_setWorker (here : (base.setWorker changed id).InStage other stage)
    (workers : base.workers = pool.workers) :
    (other = id ∧ changed.stage = stage) ∨ pool.InStage other stage := by
  obtain ⟨worker, found, isStage⟩ := here
  rw [worker?_setWorker] at found
  split at found
  · next same =>
      obtain ⟨_, _, rfl⟩ := Option.map_eq_some_iff.1 found
      exact .inl ⟨same, isStage⟩
  · rw [worker?_of_workers workers] at found
    exact .inr ⟨worker, found, isStage⟩

theorem InStage.of_hire {terms : Terms} (here : (pool.hire terms).InStage id stage)
    (hasLine : stage.hasLine = true) : pool.InStage id stage := by
  obtain ⟨worker, found, rfl⟩ := here
  rw [worker?_hire] at found
  split at found
  · cases found
    cases hasLine
  · exact ⟨worker, found, rfl⟩

theorem InStage.of_hireFree {terms : Terms} {count : Nat}
    (here : (hireFree terms count pool).InStage id stage) (hasLine : stage.hasLine = true) :
    pool.InStage id stage := by
  induction count generalizing pool with
  | zero => exact here
  | succ count inductionHypothesis =>
      exact InStage.of_hire ((inductionHypothesis here).of_workers rfl) hasLine

end Pool

/-- Whoever has a line after a turn had it before, opened it in the turn, or began a session on it. -/
theorem Server.Step.hasLine {terms : Terms} {server next : Server} {label : Label}
    {events : List Event} {id : WorkerId} {stage : Stage}
    (step : Step terms server label events next) (here : next.pool.InStage id stage)
    (hasLine : stage.hasLine = true) :
    server.pool.InStage id stage ∨
      (∃ descriptor, stage = .opened descriptor ∧ events = [.exchanged id descriptor true]) ∨
      ∃ descriptor runsOn, stage = .serving descriptor ∧
        server.pool.InStage id (.opened descriptor) ∧ events = [.began id runsOn descriptor] := by
  cases step with
  | started | cannotListen =>
      exact .inl (((here.of_workers rfl).of_hireFree hasLine).of_workers rfl)
  | @signal other closing =>
      obtain ⟨worker, found, isStage⟩ := here
      rw [Pool.worker?_updateWorker] at found
      split at found
      · next same =>
          subst same
          obtain ⟨earlier, foundBefore, rfl⟩ := Option.map_eq_some_iff.1 found
          exact .inl ⟨earlier, foundBefore, by rwa [Worker.signal_stage] at isStage⟩
      · exact .inl ⟨worker, found, isStage⟩
  | claim _ _ found | sweepClaim _ _ _ found =>
      rcases here.of_setWorker rfl with ⟨rfl, same⟩ | before
      · exact .inl ⟨_, found, same⟩
      · exact .inl before
  | @reused _ _ other _ worker _ _ _ _ found =>
      rcases here.of_setWorker rfl with ⟨rfl, same⟩ | before
      · rw [Worker.assign_stage] at same
        split at same
        · subst same
          cases hasLine
        · exact .inl ⟨worker, found, same⟩
      · exact .inl before
  | spawned =>
      rcases here.of_setWorker rfl with ⟨rfl, rfl⟩ | before
      · cases hasLine
      · exact .inl (before.of_hire hasLine)
  | unspawned => exact .inl (here.of_hire hasLine)
  | @exchange other worker descriptor granted found =>
      rcases here.of_setWorker rfl with ⟨rfl, rfl⟩ | before
      · cases granted
        · cases hasLine
        · exact .inr (.inl ⟨descriptor, rfl, rfl⟩)
      · exact .inl before
  | @beginSession other worker descriptor found opened =>
      rcases here.of_setWorker rfl with ⟨rfl, rfl⟩ | before
      · exact .inr (.inr ⟨descriptor, worker.protocol, rfl, ⟨worker, found, opened⟩, rfl⟩)
      · exact .inl before
  | take | leave | expire | retire | stay | skipSession | finish | handOver | becomeFree
  | comeBack =>
      rcases here.of_setWorker rfl with ⟨rfl, rfl⟩ | before
      · cases hasLine
      · exact .inl before
  | _ => exact .inl (here.of_workers rfl)

/-- An event that leaves all lines, and who has them, as they are. -/
def Event.isQuiet : Event → Bool
  | .exchanged _ _ granted => !granted
  | .began .. => false
  | .ended .. => false
  | .skipped .. => false
  | .refused _ => false
  | _ => true

/-- A worker lets go of its line. -/
def Event.releases (id : WorkerId) : Event → Prop
  | .ended other _ _ => other = id
  | .skipped other _ => other = id
  | _ => False

/-- A turn shows at most one event that is not quiet. -/
theorem Server.Step.quiet_or {terms : Terms} {server next : Server} {label : Label}
    {events : List Event} (step : Step terms server label events next) :
    (∀ event ∈ events, event.isQuiet = true) ∨ (∃ descriptor, events = [.refused descriptor]) ∨
      (∃ id descriptor, events = [.exchanged id descriptor true] ∧
        next.pool.InStage id (.opened descriptor)) ∨
      (∃ id runsOn descriptor, events = [.began id runsOn descriptor] ∧
        server.pool.InStage id (.opened descriptor) ∧
        next.pool.InStage id (.serving descriptor)) ∨
      ∃ id event, events = [event] ∧ event.releases id ∧
        ∀ stage, next.pool.InStage id stage → stage.hasLine = false := by
  have returned {pool : Pool} {id : WorkerId} {worker : Worker} (found : pool.worker? id = some worker) :
      ∀ stage, (pool.setWorker { worker with stage := .returning } id).InStage id stage →
        stage.hasLine = false := by
    rintro stage ⟨other, present, rfl⟩
    rw [Pool.worker?_setWorker_self _ found rfl] at present
    cases present
    rfl
  cases step with
  | started | cannotListen =>
      left
      intro event member
      simp only [startEvents, hiredEvents, List.mem_append, List.mem_map, List.mem_singleton] at member
      rcases member with ((⟨_, _, rfl⟩ | ⟨_, _, rfl⟩) | rfl) | rfl <;> rfl
  | refuse => exact .inr (.inl ⟨_, rfl⟩)
  | @exchange id worker descriptor granted found =>
      cases granted
      · left
        simp [Event.isQuiet]
      · exact .inr (.inr (.inl ⟨id, descriptor, rfl, _, Pool.worker?_setWorker_self _ found rfl, rfl⟩))
  | beginSession found opened =>
      exact .inr (.inr (.inr (.inl ⟨_, _, _, rfl, ⟨_, found, opened⟩,
        ⟨_, Pool.worker?_setWorker_self _ found rfl, rfl⟩⟩)))
  | skipSession found | finish found =>
      exact .inr (.inr (.inr (.inr ⟨_, _, rfl, rfl, returned found⟩)))
  | _ =>
      left
      simp [Event.isQuiet]

namespace Site

/-! ## Changes -/

/-- The server at a position took some turns, and asked its transport for something. -/
structure Moves (position : Nat) (turns : List Turn) (asked : List Hook) (before after : Site) :
    Prop where
  server : ∀ live : LiveServer, before.servers[position]? = some live → ∃ later,
    after.servers[position]? = some later ∧ live.Kin later ∧
      Server.Path live.terms live.server turns later.server
  others : ∀ other, other ≠ position → after.servers[other]? = before.servers[other]?
  size : after.servers.length = before.servers.length
  directory : after.directory = before.directory
  journal : after.journal = before.journal ++ asked.map (Prod.mk position)
  lines : ∀ (number : Nat) (line : Line), before.lines[number]? = some line → ∃ later,
    after.lines[number]? = some later ∧ line.Kept position later
  /-- Only who exchanges a descriptor opens a line. -/
  count : (∀ descriptor, .create descriptor ∉ asked) → after.lines.length = before.lines.length
  echoes : before.Echoes → after.Echoes

namespace Moves

variable {position : Nat} {turns more : List Turn} {asked askedThen : List Hook}
  {before middle after : Site}

theorem refl (position : Nat) (site : Site) : Moves position [] [] site site where
  server := fun live found => ⟨live, found, .refl live, .refl⟩
  others := fun _ _ => rfl
  size := rfl
  directory := rfl
  journal := (List.append_nil _).symm
  lines := fun _ line here => ⟨line, here, .refl position line⟩
  count := fun _ => rfl
  echoes := id

theorem append (earlier : Moves position turns asked before middle)
    (later : Moves position more askedThen middle after) :
    Moves position (turns ++ more) (asked ++ askedThen) before after where
  server := fun live found => by
    obtain ⟨between, foundThen, kin, path⟩ := earlier.server live found
    obtain ⟨last, foundLast, kinThen, pathThen⟩ := later.server between foundThen
    rw [kin.terms] at pathThen
    exact ⟨last, foundLast, kin.trans kinThen, path.append pathThen⟩
  others := fun other different =>
    (later.others other different).trans (earlier.others other different)
  size := later.size.trans earlier.size
  directory := later.directory.trans earlier.directory
  journal := by rw [later.journal, earlier.journal, List.map_append, List.append_assoc]
  lines := fun number line here => by
    obtain ⟨between, hereThen, kept⟩ := earlier.lines number line here
    obtain ⟨last, hereLast, keptThen⟩ := later.lines number between hereThen
    exact ⟨last, hereLast, kept.trans keptThen⟩
  count := fun none =>
    (later.count fun descriptor asks => none descriptor (List.mem_append_right _ asks)).trans
      (earlier.count fun descriptor asks => none descriptor (List.mem_append_left _ asks))
  echoes := later.echoes ∘ earlier.echoes

end Moves

section

variable {site : Site} {position : Nat}

theorem getElem?_modifyServer (site : Site) (position other : Nat)
    (change : LiveServer → LiveServer) : (site.modifyServer position change).servers[other]? =
      (site.servers[other]?).map fun live => if position = other then change live else live := by
  rw [modifyServer, List.getElem?_modify]
  rfl

theorem Echoes.modifyServer {change : LiveServer → LiveServer} (echoes : site.Echoes)
    (keeps : ∀ live, site.servers[position]? = some live → live.Echoes → (change live).Echoes) :
    (site.modifyServer position change).Echoes := by
  intro other live found
  rw [getElem?_modifyServer] at found
  obtain ⟨earlier, here, rfl⟩ := Option.map_eq_some_iff.1 found
  split
  · next same =>
      subst same
      exact keeps earlier here (echoes position earlier here)
  · exact echoes other earlier here

theorem modifyServer_moves {change : LiveServer → LiveServer} {turns : List Turn}
    (kin : ∀ live : LiveServer, live.Kin (change live))
    (path : ∀ live, site.servers[position]? = some live →
      Server.Path live.terms live.server turns (change live).server)
    (echoes : ∀ live, site.servers[position]? = some live → live.Echoes → (change live).Echoes) :
    Moves position turns [] site (site.modifyServer position change) where
  server := fun live found => by
    refine ⟨change live, ?_, kin live, path live found⟩
    rw [getElem?_modifyServer, found]
    simp
  others := fun other different => by
    rw [getElem?_modifyServer]
    cases site.servers[other]? <;> simp [different.symm]
  size := by simp [modifyServer]
  directory := rfl
  journal := (List.append_nil _).symm
  lines := fun _ line here => ⟨line, here, .refl position line⟩
  count := fun _ => rfl
  echoes := fun all => all.modifyServer echoes

theorem modifyLine_moves {number : Nat} {change : Line → Line}
    (kept : ∀ line : Line, site.lines[number]? = some line → line.Kept position (change line)) :
    Moves position [] [] site (site.modifyLine number change) where
  server := fun live found => ⟨live, found, .refl live, .refl⟩
  others := fun _ _ => rfl
  size := rfl
  directory := rfl
  journal := (List.append_nil _).symm
  lines := fun other line here => by
    rw [modifyLine, List.getElem?_modify, here]
    by_cases same : number = other
    · subst same
      exact ⟨change line, by simp, kept line here⟩
    · exact ⟨line, by simp [same], .refl position line⟩
  count := fun _ => by simp [modifyLine]
  echoes := id

theorem log_moves (site : Site) (position : Nat) (hook : Hook) :
    Moves position [] [hook] site (site.log position hook) where
  server := fun live found => ⟨live, found, .refl live, .refl⟩
  others := fun _ _ => rfl
  size := rfl
  directory := rfl
  journal := rfl
  lines := fun _ line here => ⟨line, here, .refl position line⟩
  count := fun _ => rfl
  echoes := id

/-- A line is opened for a descriptor that was exchanged. -/
theorem openLine_moves (site : Site) (position : Nat) (descriptor : Descriptor) :
    Moves position [] [.create descriptor] site
      ((site.log position (.create descriptor)).openLine position descriptor) where
  server := fun live found => ⟨live, found, .refl live, .refl⟩
  others := fun _ _ => rfl
  size := rfl
  directory := rfl
  journal := rfl
  lines := fun number line here => by
    refine ⟨line, ?_, .refl position line⟩
    exact (List.getElem?_append_left (List.getElem?_eq_some_iff.1 here).1).trans here
  count := fun none => absurd (List.mem_singleton_self _) (none descriptor)
  echoes := id

/-! ## Quiet events -/

/-- Something was noted down, and nothing else has changed. -/
structure Notes (position : Nat) (asked : List Hook) (before after : Site) : Prop extends
    Moves position [] asked before after where
  sameLines : after.lines = before.lines
  engagements : ∀ live later, before.servers[position]? = some live →
    after.servers[position]? = some later → later.engagements = live.engagements

theorem Notes.refl (position : Nat) (site : Site) : Notes position [] site site :=
  { Moves.refl position site with
    sameLines := rfl
    engagements := fun live later found foundThen => by
      cases found.symm.trans foundThen
      rfl }

theorem Notes.append {asked askedThen : List Hook} {before middle after : Site}
    (earlier : Notes position asked before middle) (later : Notes position askedThen middle after) :
    Notes position (asked ++ askedThen) before after :=
  { earlier.toMoves.append later.toMoves with
    sameLines := later.sameLines.trans earlier.sameLines
    engagements := fun live last found foundLast => by
      obtain ⟨between, foundThen, -⟩ := earlier.server live found
      exact (later.engagements between last foundThen foundLast).trans
        (earlier.engagements live between found foundThen) }

theorem log_notes (site : Site) (position : Nat) (hook : Hook) :
    Notes position [hook] site (site.log position hook) :=
  { log_moves site position hook with
    sameLines := rfl
    engagements := (Notes.refl position site).engagements }

theorem stamp_notes (site : Site) (position : Nat) (id : WorkerId) :
    Notes position [] site (site.stamp position id) := by
  have moves : Moves position [] [] site (site.modifyServer position fun live =>
      { live with idleSince := assigned id ⟨site.clock, site.moments⟩ live.idleSince }) :=
    modifyServer_moves (fun live => ⟨rfl, rfl, rfl, rfl⟩) (fun live _ => .refl)
      fun _ _ echoes => echoes.of_eq rfl rfl
  constructor
  case toMoves =>
    exact ⟨moves.server, moves.others, moves.size, moves.directory, moves.journal, moves.lines,
      moves.count, moves.echoes⟩
  case sameLines => rfl
  case engagements =>
    intro live later found foundThen
    rw [stamp] at foundThen
    simp only [getElem?_modifyServer, found, Option.map_some, if_true] at foundThen
    cases foundThen
    rfl

theorem observe_notes (site : Site) (position : Nat) {event : Event} (quiet : event.isQuiet = true) :
    Notes position event.hook?.toList site (site.observe position event) := by
  cases event with
  | exchanged id descriptor granted =>
      cases granted
      · exact site.log_notes position _
      · cases quiet
  | began | ended | skipped | refused => cases quiet
  | listened | unlistened | discarded => exact site.log_notes position _
  | freed => exact site.stamp_notes position _
  | retirementAsked id granted =>
      cases granted
      · exact site.stamp_notes position id
      · exact .refl position site
  | _ => exact .refl position site

theorem observeAll_notes (position : Nat) {events : List Event}
    (quiet : ∀ event ∈ events, event.isQuiet = true) (site : Site) :
    Notes position (events.filterMap Event.hook?) site (events.foldl (observe position) site) := by
  induction events generalizing site with
  | nil => exact .refl position site
  | cons event events inductionHypothesis =>
      obtain ⟨here, behind⟩ := List.forall_mem_cons.1 quiet
      have both := (site.observe_notes position here).append (inductionHypothesis behind _)
      have asked : (event :: events).filterMap Event.hook? =
          event.hook?.toList ++ events.filterMap Event.hook? := by
        cases isHook : event.hook? <;> simp [isHook]
      rw [asked]
      exact both

end

end Site

/-! ## Workers at their posts -/

/-- The workers of a server know the lines they have opened. -/
structure LiveServer.Posted (position : Nat) (lines : List Line) (live : LiveServer) : Prop where
  opened : ∀ id descriptor, live.server.pool.InStage id (.opened descriptor) →
    ∃ engagement, live.engagements.lookup id = some engagement
  serving : ∀ id descriptor, live.server.pool.InStage id (.serving descriptor) →
    ∃ line dialogue, live.engagements.lookup id = some ⟨line, some dialogue⟩
  owned : ∀ id engagement, live.engagements.lookup id = some engagement →
    ∃ line, lines[engagement.line]? = some line ∧ line.server = position ∧ line.isOpen = true
  apart : ∀ id other engagement engagement', live.engagements.lookup id = some engagement →
    live.engagements.lookup other = some engagement' → engagement.line = engagement'.line →
      id = other

namespace LiveServer.Posted

variable {position : Nat} {lines after : List Line} {live later : LiveServer}

/-- Nobody works at a new server yet. -/
theorem of_new (server : live.server = {}) (engagements : live.engagements = []) (position : Nat)
    (lines : List Line) : live.Posted position lines := by
  have nobody (id : WorkerId) (stage : Stage) : ¬ live.server.pool.InStage id stage := by
    rw [server]
    rintro ⟨worker, isWorker, -⟩
    cases Pool.mem_of_worker? isWorker
  have nothing (id : WorkerId) (engagement : Engagement) :
      live.engagements.lookup id ≠ some engagement := by
    rw [engagements]
    nofun
  exact {
    opened := fun id descriptor stage => absurd stage (nobody id _)
    serving := fun id descriptor stage => absurd stage (nobody id _)
    owned := fun id engagement found => absurd found (nothing id engagement)
    apart := fun id _ engagement _ found => absurd found (nothing id engagement) }

/-- The workers stay at their posts where their lines stay open, and nobody gets to have a line without
one. -/
theorem keep (posted : live.Posted position lines)
    (engagements : later.engagements = live.engagements)
    (stages : ∀ id stage, later.server.pool.InStage id stage → stage.hasLine = true →
      live.server.pool.InStage id stage)
    (kept : ∀ (number : Nat) (line : Line), lines[number]? = some line → line.server = position →
      line.isOpen = true → ∃ line', after[number]? = some line' ∧ line'.server = position ∧
        line'.isOpen = true) : later.Posted position after where
  opened := fun id descriptor here => by
    rw [engagements]
    exact posted.opened id descriptor (stages id _ here rfl)
  serving := fun id descriptor here => by
    rw [engagements]
    exact posted.serving id descriptor (stages id _ here rfl)
  owned := fun id engagement found => by
    rw [engagements] at found
    obtain ⟨line, here, server, isOpen⟩ := posted.owned id engagement found
    exact kept _ line here server isOpen
  apart := by rw [engagements]; exact posted.apart

section
variable {id : WorkerId} {descriptor : Descriptor} {engagement : Engagement}

/-- A worker opens a line. -/
theorem exchange {line : Line} (posted : live.Posted position lines)
    (engagements : later.engagements =
      assigned id { line := lines.length } live.engagements)
    (here : later.server.pool.InStage id (.opened descriptor))
    (stages : ∀ other stage, other ≠ id → later.server.pool.InStage other stage →
      stage.hasLine = true → live.server.pool.InStage other stage)
    (isOwn : line.server = position) (isOpen : line.isOpen = true) :
    later.Posted position (lines ++ [line]) where
  opened := fun other descriptor there => by
    rw [engagements, lookup_assigned]
    split
    · exact ⟨_, rfl⟩
    · next different => exact posted.opened other descriptor (stages other _ different there rfl)
  serving := fun other descriptor there => by
    have different : other ≠ id := by
      rintro rfl
      cases here.unique there
    rw [engagements, lookup_assigned, if_neg different]
    exact posted.serving other descriptor (stages other _ different there rfl)
  owned := fun other engagement found => by
    rw [engagements, lookup_assigned] at found
    split at found
    · cases found
      exact ⟨line, by simp, isOwn, isOpen⟩
    · obtain ⟨line', present, server, stillOpen⟩ := posted.owned other engagement found
      have inside := (List.getElem?_eq_some_iff.1 present).1
      exact ⟨line', by rwa [List.getElem?_append_left inside], server, stillOpen⟩
  apart := by
    have old {other : WorkerId} {engagement : Engagement}
        (found : live.engagements.lookup other = some engagement) :
        engagement.line ≠ lines.length := by
      obtain ⟨line', present, -⟩ := posted.owned other engagement found
      exact Nat.ne_of_lt (List.getElem?_eq_some_iff.1 present).1
    intro other third engagement engagement' found found' same
    rw [engagements, lookup_assigned] at found found'
    split at found
    · next isId =>
        split at found'
        · next isIdToo => exact isId.trans isIdToo.symm
        · cases found
          exact absurd same.symm (old found')
    · split at found'
      · cases found'
        exact absurd same (old found)
      · exact posted.apart other third engagement engagement' found found' same

/-- A worker begins a session on the line that it has opened, or goes on with it. -/
theorem converse {dialogue : Dialogue} (posted : live.Posted position lines)
    (has : live.engagements.lookup id = some engagement)
    (engagements : later.engagements =
      assigned id { engagement with dialogue := some dialogue } live.engagements)
    (stages : ∀ other stage, other ≠ id → later.server.pool.InStage other stage →
      stage.hasLine = true → live.server.pool.InStage other stage)
    (kept : ∀ (number : Nat) (line : Line), lines[number]? = some line → line.server = position →
      line.isOpen = true → ∃ line', after[number]? = some line' ∧ line'.server = position ∧
        line'.isOpen = true) : later.Posted position after := by
  have sameLine {other : WorkerId} {found : Engagement}
      (isFound : later.engagements.lookup other = some found) :
      ∃ before, live.engagements.lookup other = some before ∧ before.line = found.line := by
    rw [engagements, lookup_assigned] at isFound
    split at isFound
    · next same =>
        cases isFound
        exact ⟨engagement, same ▸ has, rfl⟩
    · exact ⟨found, isFound, rfl⟩
  constructor
  case opened =>
    intro other descriptor there
    rw [engagements, lookup_assigned]
    split
    · exact ⟨_, rfl⟩
    · next different => exact posted.opened other descriptor (stages other _ different there rfl)
  case serving =>
    intro other descriptor there
    rw [engagements, lookup_assigned]
    split
    · exact ⟨engagement.line, dialogue, rfl⟩
    · next different => exact posted.serving other descriptor (stages other _ different there rfl)
  case owned =>
    intro other found isFound
    obtain ⟨before, wasFound, same⟩ := sameLine isFound
    obtain ⟨line, present, server, isOpen⟩ := posted.owned other before wasFound
    rw [← same]
    exact kept _ line present server isOpen
  case apart =>
    intro other third found found' isFound isFound' same
    obtain ⟨before, wasFound, sameBefore⟩ := sameLine isFound
    obtain ⟨before', wasFound', sameBefore'⟩ := sameLine isFound'
    exact posted.apart other third before before' wasFound wasFound'
      (sameBefore.trans (same.trans sameBefore'.symm))

/-- A worker lets go of its line. -/
theorem release (posted : live.Posted position lines)
    (has : live.engagements.lookup id = some engagement)
    (engagements : later.engagements = live.engagements.filter fun entry => entry.1 ≠ id)
    (noLine : ∀ stage, later.server.pool.InStage id stage → stage.hasLine = false)
    (stages : ∀ other stage, later.server.pool.InStage other stage →
      stage.hasLine = true → live.server.pool.InStage other stage)
    (kept : ∀ number, number ≠ engagement.line → after[number]? = lines[number]?) :
    later.Posted position after := by
  have lookup (other : WorkerId) : later.engagements.lookup other =
      if other = id then none else live.engagements.lookup other := by
    rw [engagements, lookup_filter_ne]
  have others {other : WorkerId} {found : Engagement}
      (isFound : later.engagements.lookup other = some found) :
      other ≠ id ∧ live.engagements.lookup other = some found := by
    rw [lookup] at isFound
    split at isFound
    · cases isFound
    · next different => exact ⟨different, isFound⟩
  have away {other : WorkerId} {stage : Stage} (there : later.server.pool.InStage other stage)
      (hasLine : stage.hasLine = true) : other ≠ id := by
    rintro rfl
    cases hasLine.symm.trans (noLine stage there)
  constructor
  case opened =>
    intro other descriptor there
    rw [lookup, if_neg (away there rfl)]
    exact posted.opened other descriptor (stages other _ there rfl)
  case serving =>
    intro other descriptor there
    rw [lookup, if_neg (away there rfl)]
    exact posted.serving other descriptor (stages other _ there rfl)
  case owned =>
    intro other found isFound
    obtain ⟨different, wasFound⟩ := others isFound
    have otherLine : found.line ≠ engagement.line := fun same =>
      different (posted.apart other id found engagement wasFound has same)
    rw [kept _ otherLine]
    exact posted.owned other found wasFound
  case apart =>
    intro other third found found' isFound isFound'
    exact posted.apart other third found found' (others isFound).2 (others isFound').2

end

end LiveServer.Posted

/-- The workers of a server that speaks the echo protocol know the lines they have opened. -/
structure LiveServer.Manned (position : Nat) (lines : List Line) (live : LiveServer) : Prop where
  echo : live.protocol = .echo
  opened : ∀ id descriptor, live.server.pool.InStage id (.opened descriptor) →
    ∃ engagement, live.engagements.lookup id = some engagement
  serving : ∀ id descriptor, live.server.pool.InStage id (.serving descriptor) →
    ∃ line state, live.engagements.lookup id = some ⟨line, some (.echo state)⟩
  owned : ∀ id engagement, live.engagements.lookup id = some engagement →
    ∃ line, lines[engagement.line]? = some line ∧ line.server = position ∧ line.isOpen = true
  speaks : ∀ id engagement dialogue, live.engagements.lookup id = some engagement →
    engagement.dialogue = some dialogue → ∃ state, dialogue = .echo state
  apart : ∀ id other engagement engagement', live.engagements.lookup id = some engagement →
    live.engagements.lookup other = some engagement' → engagement.line = engagement'.line →
      id = other

theorem LiveServer.manned_iff {position : Nat} {lines : List Line} {live : LiveServer} :
    live.Manned position lines ↔ live.Posted position lines ∧ live.Echoes := by
  constructor
  · intro manned
    refine ⟨⟨manned.opened, fun id descriptor here => ?_, manned.owned, manned.apart⟩,
      manned.echo, manned.speaks⟩
    obtain ⟨line, state, has⟩ := manned.serving id descriptor here
    exact ⟨line, _, has⟩
  · rintro ⟨posted, echoes⟩
    refine ⟨echoes.protocol, posted.opened, fun id descriptor here => ?_, posted.owned, echoes.speaks,
      posted.apart⟩
    obtain ⟨line, dialogue, has⟩ := posted.serving id descriptor here
    obtain ⟨state, rfl⟩ := echoes.speaks id _ dialogue has rfl
    exact ⟨line, state, has⟩

namespace Site

/-- The workers of every server are at their posts. -/
def Posted (site : Site) : Prop :=
  ∀ (position : Nat) (live : LiveServer), site.servers[position]? = some live →
    live.Posted position site.lines

/-- Every server is manned. -/
def Manned (site : Site) : Prop :=
  ∀ (position : Nat) (live : LiveServer), site.servers[position]? = some live →
    live.Manned position site.lines

theorem manned_iff {site : Site} : site.Manned ↔ site.Posted ∧ site.Echoes := by
  simp only [Manned, Posted, Echoes, LiveServer.manned_iff]
  exact ⟨fun both => ⟨fun position live found => (both position live found).1,
    fun position live found => (both position live found).2⟩,
    fun both position live found => ⟨both.1 position live found, both.2 position live found⟩⟩

theorem Manned.posted {site : Site} (manned : site.Manned) : site.Posted :=
  (manned_iff.1 manned).1

theorem Manned.echoes {site : Site} (manned : site.Manned) : site.Echoes :=
  (manned_iff.1 manned).2

variable {site before after : Site} {position : Nat} {turns : List Turn} {asked : List Hook}

/-- Workers stay at their posts when something else about a server changes. -/
theorem Posted.modifyServer {change : LiveServer → LiveServer} (posted : site.Posted) (position : Nat)
    (server : ∀ live, (change live).server = live.server)
    (engagements : ∀ live, (change live).engagements = live.engagements) :
    (site.modifyServer position change).Posted := by
  intro other live found
  rw [getElem?_modifyServer] at found
  obtain ⟨earlier, here, rfl⟩ := Option.map_eq_some_iff.1 found
  have own := posted other earlier here
  split
  · refine own.keep (engagements earlier) (fun id stage there _ => ?_)
      fun _ line here server isOpen => ⟨line, here, server, isOpen⟩
    rwa [server] at there
  · exact own

/-- Only the server that moves needs to be looked at. -/
theorem Moves.posted (moves : Moves position turns asked before after) (posted : before.Posted)
    (here : ∀ live later, before.servers[position]? = some live →
      after.servers[position]? = some later → live.Posted position before.lines →
        later.Posted position after.lines) : after.Posted := by
  intro other live found
  by_cases same : other = position
  · subst same
    obtain ⟨earlier, foundBefore⟩ : ∃ earlier, before.servers[other]? = some earlier := by
      have inside := (List.getElem?_eq_some_iff.1 found).1
      rw [moves.size] at inside
      exact ⟨_, List.getElem?_eq_getElem inside⟩
    exact here earlier live foundBefore found (posted other earlier foundBefore)
  · rw [moves.others other same] at found
    refine (posted other live found).keep rfl (fun _ _ stands _ => stands) ?_
    intro number line present server isOpen
    obtain ⟨line', presentThen, kept⟩ := moves.lines number line present
    exact ⟨line', presentThen, kept.server.trans server,
      (kept.isOpen (by rwa [server])).trans isOpen⟩

theorem turn_eq_of_step {live : LiveServer} {next : Server} {label : Label} {events : List Event}
    (found : site.servers[position]? = some live)
    (step : Server.Step live.terms live.server label events next) :
    site.turn position label = (events, events.foldl (observe position)
      (site.modifyServer position fun live => { live with server := next })) := by
  simp only [turn, found, step.step?]

theorem turn_eq_of_none {live : LiveServer} {label : Label}
    (found : site.servers[position]? = some live)
    (refused : live.server.step? live.terms label = none) :
    site.turn position label = ([], site) := by
  simp only [turn, found, refused]

/-- The server itself, before what it shows is done. -/
theorem modifyServer_turn_moves {live : LiveServer} {next : Server} {label : Label}
    {events : List Event} (found : site.servers[position]? = some live)
    (step : Server.Step live.terms live.server label events next) :
    Moves position [⟨label, events⟩] [] site
      (site.modifyServer position fun live => { live with server := next }) := by
  refine modifyServer_moves (fun live => ⟨rfl, rfl, rfl, rfl⟩) (fun other foundToo => ?_)
    fun _ _ echoes => echoes.of_eq rfl rfl
  cases found.symm.trans foundToo
  exact .turn .refl step

/-! ## Lines that are opened and closed -/

theorem openLine_lines (site : Site) (position : Nat) (descriptor : Descriptor) :
    ∃ line : Line, line.server = position ∧ line.isOpen = true ∧
      (site.openLine position descriptor).lines = site.lines ++ [line] :=
  ⟨_, rfl, rfl, rfl⟩

/-- A refusal opens a line of its own and closes it. -/
theorem refuseLine_moves (site : Site) (position : Nat) (descriptor : Descriptor) :
    Moves position [] [.create descriptor] site (site.refuseLine position descriptor) ∧
      (site.refuseLine position descriptor).servers = site.servers ∧
      ∀ number, number < site.lines.length →
        (site.refuseLine position descriptor).lines[number]? = site.lines[number]? := by
  have logged := site.log_moves position (.create descriptor)
  unfold refuseLine
  split
  · split
    · exact ⟨logged, rfl, fun _ _ => rfl⟩
    · next live found =>
        have opened := site.openLine_moves position descriptor
        refine ⟨opened.append (modifyLine_moves fun line here => ?_), rfl,
          fun number inside => ?_⟩
        · obtain ⟨fresh, isOwn, -, lines⟩ :=
            (site.log position (.create descriptor)).openLine_lines position descriptor
          rw [lines] at here
          obtain rfl : fresh = line := by simpa [log] using here
          exact Line.refuse_kept isOwn _
        · obtain ⟨fresh, -, -, lines⟩ :=
            (site.log position (.create descriptor)).openLine_lines position descriptor
          rw [modifyLine, List.getElem?_modify, lines]
          have notLast : site.lines.length ≠ number := Nat.ne_of_gt inside
          simp [log, List.getElem?_append_left inside, notLast]
  · exact ⟨logged, rfl, fun _ _ => rfl⟩

theorem exchange_moves (site : Site) (position : Nat) (id : WorkerId) (descriptor : Descriptor) :
    Moves position [] [.create descriptor] site
      (site.observe position (.exchanged id descriptor true)) :=
  (site.openLine_moves position descriptor).append
    (modifyServer_moves (fun _ => ⟨rfl, rfl, rfl, rfl⟩) (fun _ _ => .refl)
      fun _ _ echoes => echoes.assign rfl rfl nofun)

theorem engage_moves (site : Site) (position : Nat) (id : WorkerId) (runsOn : ProtocolInstance) :
    Moves position [] [] site (site.engage position id runsOn) := by
  refine modifyServer_moves (fun live => ?_) (fun live _ => ?_) fun live _ echoes => ?_
  · dsimp only
    split <;> exact ⟨rfl, rfl, rfl, rfl⟩
  · dsimp only
    split <;> exact .refl
  · dsimp only
    split
    · exact echoes
    · refine echoes.assign rfl rfl fun dialogue begun => ?_
      rw [echoes.protocol] at begun
      exact ⟨.asking, (Option.some.inj begun).symm⟩

theorem getElem?_exchange (site : Site) (position : Nat) (id : WorkerId) (descriptor : Descriptor) :
    (site.observe position (.exchanged id descriptor true)).servers[position]? =
      (site.servers[position]?).map fun live =>
        { live with engagements := assigned id { line := site.lines.length } live.engagements } := by
  show (Site.modifyServer _ position _).servers[position]? = _
  rw [getElem?_modifyServer]
  simp only [if_true]
  rfl

/-- A session that begins gets the dialogue with which its protocol begins. -/
theorem engage_server {now : LiveServer} {id : WorkerId} {engagement : Engagement}
    (runsOn : ProtocolInstance) (found : site.servers[position]? = some now)
    (has : now.engagements.lookup id = some engagement) :
    ∃ last number, (site.engage position id runsOn).servers[position]? = some last ∧
      last.server = now.server ∧
      last.engagements = assigned id
        { engagement with dialogue := some (now.protocol.begin runsOn number) } now.engagements := by
  rw [engage, getElem?_modifyServer, found]
  simp only [Option.map_some, if_true, has]
  exact ⟨_, _, rfl, rfl, rfl⟩

theorem getElem?_disengage {now : LiveServer} {id : WorkerId} {engagement : Engagement}
    (found : site.servers[position]? = some now) (has : now.engagements.lookup id = some engagement) :
    (site.disengage position id).servers[position]? = some
        { now with engagements := now.engagements.filter fun entry => entry.1 ≠ id } ∧
      ∀ number, number ≠ engagement.line →
        (site.disengage position id).lines[number]? = site.lines[number]? := by
  simp only [disengage, found, has]
  constructor
  · rw [getElem?_modifyServer]
    show Option.map _ site.servers[position]? = _
    rw [found]
    simp
  · intro number different
    show (site.modifyLine engagement.line Line.close).lines[number]? = _
    rw [modifyLine, List.getElem?_modify]
    simp [different.symm]

/-- Letting go of a line closes it, and the worker has none any more. -/
theorem disengage_moves (site : Site) (position : Nat) (id : WorkerId)
    (isOwn : ∀ live engagement line, site.servers[position]? = some live →
      live.engagements.lookup id = some engagement → site.lines[engagement.line]? = some line →
        line.server = position) :
    Moves position [] [] site (site.disengage position id) := by
  unfold disengage
  split
  · exact .refl position site
  · next live found =>
      split
      · exact .refl position site
      · next engagement has =>
          have closed : Moves position [] [] site (site.modifyLine engagement.line Line.close) :=
            modifyLine_moves fun line here => Line.close_kept (isOwn live engagement line found has here)
          exact closed.append
            (modifyServer_moves (fun _ => ⟨rfl, rfl, rfl, rfl⟩) (fun _ _ => .refl)
              fun _ _ echoes => echoes.release rfl rfl)

/-! ## Turns -/

/-- A server has taken a turn, and what it showed is not done yet. -/
structure Taken (position : Nat) (events : List Event) (site middle : Site) (live now : LiveServer) :
    Prop where
  own : live.Posted position site.lines
  found : middle.servers[position]? = some now
  engagements : now.engagements = live.engagements
  lines : middle.lines = site.lines
  stages : ∀ id stage, now.server.pool.InStage id stage → stage.hasLine = true →
    (∀ event ∈ events, (∀ descriptor, event ≠ .exchanged id descriptor true) ∧
      ∀ runsOn descriptor, event ≠ .began id runsOn descriptor) →
    live.server.pool.InStage id stage

namespace Taken

variable {live now last : LiveServer} {events : List Event} {middle : Site} {event : Event}
  {id : WorkerId} {descriptor : Descriptor} {runsOn : ProtocolInstance}

theorem quiet (taken : Taken position events site middle live now)
    (quiet : ∀ event ∈ events, event.isQuiet = true)
    (found : (events.foldl (observe position) middle).servers[position]? = some last) :
    last.Posted position (events.foldl (observe position) middle).lines := by
  have notes := observeAll_notes position quiet middle
  obtain ⟨last', foundLast, kin, path⟩ := notes.server now taken.found
  cases found.symm.trans foundLast
  have same : last.server = now.server := path.eq_of_nil
  refine taken.own.keep
    ((notes.engagements now last taken.found found).trans taken.engagements)
    (fun id stage there hasLine => ?_) fun number line here server isOpen =>
      ⟨line, by rw [notes.sameLines, taken.lines, here], server, isOpen⟩
  rw [same] at there
  refine taken.stages id stage there hasLine fun event member => ⟨?_, ?_⟩
  · rintro descriptor rfl
    cases quiet _ member
  · rintro runsOn descriptor rfl
    cases quiet _ member

theorem refused (taken : Taken position [.refused descriptor] site middle live now)
    (found : (middle.refuseLine position descriptor).servers[position]? = some last) :
    last.Posted position (middle.refuseLine position descriptor).lines := by
  obtain ⟨-, servers, lines⟩ := middle.refuseLine_moves position descriptor
  rw [servers, taken.found] at found
  cases found
  refine taken.own.keep taken.engagements
    (fun id stage there hasLine => taken.stages id stage there hasLine (by simp))
    fun number line here server isOpen => ⟨line, ?_, server, isOpen⟩
  rw [← taken.lines] at here
  exact (lines number (List.getElem?_eq_some_iff.1 here).1).trans here

theorem exchanged (taken : Taken position [.exchanged id descriptor true] site middle live now)
    (isOpened : now.server.pool.InStage id (.opened descriptor))
    (found : (middle.observe position (.exchanged id descriptor true)).servers[position]? =
      some last) :
    last.Posted position (middle.observe position (.exchanged id descriptor true)).lines := by
  obtain ⟨line, isOwn, isOpen, lines⟩ :=
    (middle.log position (.create descriptor)).openLine_lines position descriptor
  have isLast := middle.getElem?_exchange position id descriptor
  rw [taken.found] at isLast
  cases isLast.symm.trans found
  have whole : (middle.observe position (.exchanged id descriptor true)).lines =
      site.lines ++ [line] := by
    rw [← taken.lines]
    exact lines
  rw [whole]
  refine taken.own.exchange ?_ isOpened ?_ isOwn isOpen
  · rw [← taken.lines, ← taken.engagements]
  · intro other stage different there hasLine
    refine taken.stages other stage there hasLine fun event member => ?_
    rw [List.mem_singleton.1 member]
    simp [different.symm]

theorem began (taken : Taken position [.began id runsOn descriptor] site middle live now)
    (wasOpened : live.server.pool.InStage id (.opened descriptor))
    (found : (middle.engage position id runsOn).servers[position]? = some last) :
    last.Posted position (middle.engage position id runsOn).lines := by
  obtain ⟨engagement, has⟩ := taken.own.opened id descriptor wasOpened
  obtain ⟨last', number, isLast, server, engagements⟩ :=
    engage_server runsOn taken.found (taken.engagements ▸ has)
  cases isLast.symm.trans found
  rw [taken.engagements] at engagements
  refine taken.own.converse has engagements ?_
    fun number line here server isOpen => ⟨line, taken.lines ▸ here, server, isOpen⟩
  intro other stage different there hasLine
  rw [server] at there
  refine taken.stages other stage there hasLine fun event member => ?_
  rw [List.mem_singleton.1 member]
  simp [different.symm]

theorem released (taken : Taken position [event] site middle live now)
    (noLine : ∀ stage, now.server.pool.InStage id stage → stage.hasLine = false)
    (releases : event.releases id)
    (found : (middle.disengage position id).servers[position]? = some last) :
    last.Posted position (middle.disengage position id).lines := by
  have away (other : WorkerId) (stage : Stage) (there : now.server.pool.InStage other stage)
      (hasLine : stage.hasLine = true) : live.server.pool.InStage other stage := by
    refine taken.stages other stage there hasLine fun event' member => ?_
    rw [List.mem_singleton.1 member]
    cases event with
    | ended | skipped => exact ⟨nofun, nofun⟩
    | _ => cases releases
  cases has : now.engagements.lookup id with
  | none =>
      have same : middle.disengage position id = middle := by
        simp only [disengage, taken.found, has]
      rw [same] at found ⊢
      cases taken.found.symm.trans found
      exact taken.own.keep taken.engagements away
        fun number line here server isOpen => ⟨line, taken.lines ▸ here, server, isOpen⟩
  | some engagement =>
      obtain ⟨isLast, lines⟩ := getElem?_disengage taken.found has
      cases isLast.symm.trans found
      refine taken.own.release (taken.engagements ▸ has)
        (by rw [taken.engagements]) noLine away ?_
      rw [← taken.lines]
      exact lines

end Taken

/-- A turn moves the server that takes it, and keeps all workers at their posts. -/
theorem turn_of_step {live : LiveServer} {next : Server} {label : Label} {events : List Event}
    (posted : site.Posted) (found : site.servers[position]? = some live)
    (step : Server.Step live.terms live.server label events next) :
    Moves position [⟨label, events⟩] (events.filterMap Event.hook?) site
        (site.turn position label).2 ∧
      (site.turn position label).2.Posted := by
  have moved := modifyServer_turn_moves found step
  have taken : Taken position events site
      (site.modifyServer position fun live => { live with server := next }) live
      { live with server := next } := by
    refine ⟨posted position live found, ?_, rfl, rfl, fun id stage there hasLine others => ?_⟩
    · rw [getElem?_modifyServer, found]
      simp
    · rcases step.hasLine there hasLine with before | ⟨descriptor, -, rfl⟩ |
        ⟨descriptor, runsOn, -, -, rfl⟩
      · exact before
      · exact absurd rfl ((others _ (List.mem_singleton_self _)).1 descriptor)
      · exact absurd rfl ((others _ (List.mem_singleton_self _)).2 runsOn descriptor)
  rw [turn_eq_of_step found step]
  generalize site.modifyServer position (fun live => { live with server := next }) = middle
    at moved taken
  -- It is enough that what was shown moves nobody else and leaves the workers of the server itself
  -- at their posts.
  have whole {asked : List Hook} {after : Site} (moves : Moves position [] asked middle after)
      (own : ∀ last, after.servers[position]? = some last → last.Posted position after.lines) :
      Moves position [⟨label, events⟩] asked site after ∧ after.Posted := by
    have both := moved.append moves
    exact ⟨both, both.posted posted fun _ last _ foundLast _ => own last foundLast⟩
  rcases step.quiet_or with quiet | ⟨descriptor, rfl⟩ | ⟨id, descriptor, rfl, isOpened⟩ |
    ⟨id, runsOn, descriptor, rfl, wasOpened, serves⟩ | ⟨id, event, rfl, releases, noLine⟩
  · exact whole (observeAll_notes position quiet middle).toMoves fun last => taken.quiet quiet
  · exact whole (middle.refuseLine_moves position descriptor).1 fun last => taken.refused
  · exact whole (middle.exchange_moves position id descriptor) fun last => taken.exchanged isOpened
  · exact whole (middle.engage_moves position id runsOn) fun last => taken.began wasOpened
  · obtain ⟨isDisengage, silent⟩ : observe position middle event = middle.disengage position id ∧
        [event].filterMap Event.hook? = [] := by
      cases event with
      | ended other => cases releases; exact ⟨rfl, rfl⟩
      | skipped other => cases releases; exact ⟨rfl, rfl⟩
      | _ => cases releases
    rw [silent, List.foldl_cons, List.foldl_nil, isDisengage]
    refine whole (middle.disengage_moves position id ?_) fun last =>
      taken.released noLine releases
    intro first engagement line isNow has here
    cases taken.found.symm.trans isNow
    rw [taken.engagements] at has
    rw [taken.lines] at here
    obtain ⟨line', here', server, -⟩ := taken.own.owned id engagement has
    cases here.symm.trans here'
    exact server

/-! ## Turns that change the server alone -/

/-- The server at a position comes to another state. -/
def replaceServer (position : Nat) (server : Server) (site : Site) : Site :=
  site.modifyServer position fun live => { live with server }

theorem modifyServer_self {live : LiveServer} {change : LiveServer → LiveServer}
    (found : site.servers[position]? = some live) (same : change live = live) :
    site.modifyServer position change = site := by
  have servers : site.servers.modify position change = site.servers := by
    refine List.ext_getElem? fun other => ?_
    rw [List.getElem?_modify]
    split
    · next isHere =>
        subst isHere
        rw [found]
        exact congrArg some same
    · exact Option.map_id'
  rw [modifyServer, servers]

theorem replaceServer_self {live : LiveServer} (found : site.servers[position]? = some live) :
    site.replaceServer position live.server = site :=
  modifyServer_self found rfl

theorem getElem?_replaceServer {live : LiveServer} (found : site.servers[position]? = some live) (server : Server) :
    (site.replaceServer position server).servers[position]? = some { live with server } := by
  rw [replaceServer, getElem?_modifyServer, found]
  simp

theorem replaceServer_replaceServer (site : Site) (position : Nat) (server next : Server) :
    (site.replaceServer position server).replaceServer position next =
      site.replaceServer position next := by
  simp only [replaceServer, modifyServer, List.modify_modify_eq]
  rfl

/-- A turn whose events leave no trace. -/
theorem turn_eq_of_silent {live : LiveServer} {next : Server} {label : Label} {events : List Event}
    (found : site.servers[position]? = some live)
    (step : Server.Step live.terms live.server label events next)
    (silent : ∀ event ∈ events, ∀ site : Site, site.observe position event = site) :
    site.turn position label = (events, site.replaceServer position next) := by
  have still (site : Site) : events.foldl (observe position) site = site := by
    clear step
    induction events with
    | nil => rfl
    | cons event events inductionHypothesis =>
        obtain ⟨here, behind⟩ := List.forall_mem_cons.1 silent
        rw [List.foldl_cons, here site]
        exact inductionHypothesis behind
  rw [turn_eq_of_step found step, still]
  rfl

end Site

end ConnectionPool
