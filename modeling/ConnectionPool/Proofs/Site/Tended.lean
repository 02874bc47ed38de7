import ConnectionPool.Proofs.Site.Moves

/-!
Contract: no connection is left open behind the worker that had it.

An open line of a site is tended: a worker of its server has a channel, and knows the line. A turn of a
server that takes the channel from its worker closes the line too, and a line that is opened for no worker
is a refusal's, which closes it again. So a server none of whose workers has a channel has no open line.

Owns:
- the invariant `Site.Tended`, kept by every turn;
- `Site.Tended.closed`, the lines of a server that is stopped.

Does not own: whether a session ends.
-/

namespace ConnectionPool

/-- A worker of the server has a channel over the line of this number. -/
def LiveServer.Tends (number : Nat) (live : LiveServer) : Prop :=
  ∃ id descriptor engagement, live.server.pool.HasChannel id descriptor ∧
    live.engagements.lookup id = some engagement ∧ engagement.line = number

theorem Pool.HasChannel.exists_stage {pool : Pool} {id : WorkerId} {descriptor : Descriptor}
    (has : pool.HasChannel id descriptor) :
    ∃ stage : Stage, pool.InStage id stage ∧ stage.hasLine = true :=
  has.elim (fun opened => ⟨_, opened, rfl⟩) fun serving => ⟨_, serving, rfl⟩

/-- Only a worker that took a descriptor exchanges it. -/
theorem Server.Step.took_of_exchanged {terms : Terms} {server next : Server} {label : Label}
    {events : List Event} {id : WorkerId} {descriptor : Descriptor} {granted : Bool}
    (step : Step terms server label events next)
    (isShown : .exchanged id descriptor granted ∈ events) : server.pool.Took id descriptor := by
  cases step with
  | exchange found stage =>
      obtain ⟨rfl, rfl, rfl⟩ : id = _ ∧ descriptor = _ ∧ granted = _ := by simpa using isShown
      exact ⟨_, found, stage⟩
  | started | cannotListen =>
      simp [startEvents, hiredEvents] at isShown
  | _ => simp at isShown

/-- A worker has its channel until it lets go of its line. -/
theorem Server.Step.hasChannel_or_releases {terms : Terms} {server next : Server} {label : Label}
    {events : List Event} {id : WorkerId} {descriptor : Descriptor}
    (step : Step terms server label events next) (has : server.pool.HasChannel id descriptor) :
    next.pool.HasChannel id descriptor ∨ ∃ event, events = [event] ∧ event.releases id := by
  rcases step.hasChannel has with still | skipped | ⟨ending, ended⟩
  · exact .inl still
  · exact .inr ⟨_, skipped, rfl⟩
  · exact .inr ⟨_, ended, rfl⟩

namespace Site

/-- Every open line is tended. -/
def Tended (site : Site) : Prop :=
  ∀ (number : Nat) (line : Line), site.lines[number]? = some line → line.isOpen = true →
    ∃ live, site.servers[line.server]? = some live ∧ live.Tends number

variable {site middle after : Site} {position : Nat} {live now last : LiveServer}
  {events : List Event} {id : WorkerId} {descriptor : Descriptor} {runsOn : ProtocolInstance}

/-- The lines of a server that is stopped are closed. -/
theorem Tended.closed {terms : Terms} {number : Nat} {line : Line} (tended : site.Tended)
    (found : site.servers[line.server]? = some live) (sound : Server.Sound terms live.server)
    (stopped : live.server.pool.lifecycle = .stopped) (here : site.lines[number]? = some line) :
    line.isOpen = false := by
  refine Bool.eq_false_iff.2 fun isOpen => ?_
  obtain ⟨other, foundToo, id, descriptor, engagement, has, -⟩ := tended number line here isOpen
  cases found.symm.trans foundToo
  rcases has with ⟨worker, present, stage⟩ | ⟨worker, present, stage⟩
  all_goals
    have inactive := (sound.resting stopped present).2
    rw [stage] at inactive
    cases inactive

/-- Lines stay tended where those that are still open were open before, and whoever tended them goes on to. -/
theorem Tended.keep (tended : site.Tended)
    (lines : ∀ (number : Nat) (line : Line), after.lines[number]? = some line → line.isOpen = true →
      ∃ earlier, site.lines[number]? = some earlier ∧ earlier.server = line.server ∧
        earlier.isOpen = true)
    (servers : ∀ (position : Nat) (live : LiveServer), site.servers[position]? = some live →
      ∃ later, after.servers[position]? = some later ∧
        ∀ number, live.Tends number → later.Tends number) : after.Tended := by
  intro number line here isOpen
  obtain ⟨earlier, wasHere, sameServer, wasOpen⟩ := lines number line here isOpen
  obtain ⟨live, found, tends⟩ := tended number earlier wasHere wasOpen
  obtain ⟨later, foundThen, keeps⟩ := servers earlier.server live found
  exact ⟨later, sameServer ▸ foundThen, keeps number tends⟩

/-! ## Turns -/

/-- A refusal opens no line, or one that it closes again. -/
theorem refuseLine_lines (site : Site) (position : Nat) (descriptor : Descriptor) :
    (site.refuseLine position descriptor).lines = site.lines ∨
      ∃ line : Line, line.isOpen = false ∧
        (site.refuseLine position descriptor).lines = site.lines ++ [line] := by
  unfold refuseLine
  split
  · split
    · exact .inl rfl
    · next refuser _ =>
        obtain ⟨line, -, -, lines⟩ :=
          (site.log position (.create descriptor)).openLine_lines position descriptor
        refine .inr ⟨line.refuse refuser.message, rfl, ?_⟩
        rw [modifyLine, lines]
        exact List.modifyTailIdx_add _ 0 site.lines [line]
  · exact .inl rfl

/-- The line that a worker lets go of is closed. -/
theorem disengage_closes {engagement : Engagement} {line : Line}
    (found : site.servers[position]? = some now) (knows : now.engagements.lookup id = some engagement)
    (here : (site.disengage position id).lines[engagement.line]? = some line) :
    line.isOpen = false := by
  simp only [disengage, found, knows] at here
  change (site.modifyLine engagement.line Line.close).lines[engagement.line]? = some line at here
  rw [modifyLine, List.getElem?_modify] at here
  obtain ⟨earlier, -, rfl⟩ := Option.map_eq_some_iff.1 here
  simp [Line.close]

theorem disengage_others (site : Site) (position : Nat) (id : WorkerId) {other : Nat}
    (different : other ≠ position) :
    (site.disengage position id).servers[other]? = site.servers[other]? := by
  unfold disengage
  split
  · rfl
  · split
    · rfl
    · rw [getElem?_modifyServer]
      show Option.map _ site.servers[other]? = _
      cases site.servers[other]? <;> simp [different.symm]

/-- A server has taken a turn, and what it showed is not done yet. -/
structure Turned (position : Nat) (events : List Event) (site middle : Site) (live now : LiveServer) :
    Prop where
  tended : site.Tended
  own : live.Posted position site.lines
  was : site.servers[position]? = some live
  found : middle.servers[position]? = some now
  others : ∀ other, other ≠ position → middle.servers[other]? = site.servers[other]?
  engagements : now.engagements = live.engagements
  lines : middle.lines = site.lines
  keeps : ∀ id descriptor, live.server.pool.HasChannel id descriptor →
    now.server.pool.HasChannel id descriptor ∨ ∃ event, events = [event] ∧ event.releases id

namespace Turned

/-- A worker that did not let go of its line has its channel still. -/
theorem still {event : Event} (turned : Turned position [event] site middle live now)
    (has : live.server.pool.HasChannel id descriptor) (holds : ¬ event.releases id) :
    now.server.pool.HasChannel id descriptor := by
  refine (turned.keeps id descriptor has).resolve_right ?_
  rintro ⟨other, same, releases⟩
  obtain rfl := List.singleton_inj.1 same
  exact holds releases

/-- What was shown is done: it is enough to look at the open lines of the server itself. -/
theorem done (turned : Turned position events site middle live now)
    (others : ∀ other, other ≠ position → after.servers[other]? = middle.servers[other]?)
    (found : after.servers[position]? = some last)
    (old : ∀ (number : Nat) (line : Line), after.lines[number]? = some line → line.isOpen = true →
      number < site.lines.length → site.lines[number]? = some line)
    (keeps : ∀ id descriptor engagement (line : Line), live.server.pool.HasChannel id descriptor →
      live.engagements.lookup id = some engagement → after.lines[engagement.line]? = some line →
        line.isOpen = true → last.Tends engagement.line)
    (new : ∀ (number : Nat) (line : Line), after.lines[number]? = some line → line.isOpen = true →
      site.lines.length ≤ number → line.server = position ∧ last.Tends number) : after.Tended := by
  intro number line here isOpen
  rcases Nat.lt_or_ge number site.lines.length with inside | outside
  · obtain ⟨resident, wasFound, tends⟩ :=
      turned.tended number line (old number line here isOpen inside) isOpen
    by_cases isOwn : line.server = position
    · subst isOwn
      cases turned.was.symm.trans wasFound
      obtain ⟨id, descriptor, engagement, has, knows, rfl⟩ := tends
      exact ⟨last, found, keeps id descriptor engagement line has knows here isOpen⟩
    · refine ⟨resident, ?_, tends⟩
      rw [others line.server isOwn, turned.others line.server isOwn]
      exact wasFound
  · obtain ⟨rfl, tends⟩ := new number line here isOpen outside
    exact ⟨last, found, tends⟩

/-- The lines are as before. -/
theorem done_of_lines (turned : Turned position events site middle live now)
    (others : ∀ other, other ≠ position → after.servers[other]? = middle.servers[other]?)
    (found : after.servers[position]? = some last) (lines : after.lines = middle.lines)
    (keeps : ∀ id descriptor engagement, live.server.pool.HasChannel id descriptor →
      live.engagements.lookup id = some engagement → last.Tends engagement.line) : after.Tended := by
  have same : after.lines = site.lines := lines.trans turned.lines
  refine turned.done others found (fun number line here _ _ => same ▸ here)
    (fun id descriptor engagement _ has knows _ _ => keeps id descriptor engagement has knows)
    fun number line here _ outside => ?_
  rw [same] at here
  exact absurd (List.getElem?_eq_some_iff.1 here).1 (Nat.not_lt.2 outside)

theorem quiet (turned : Turned position events site middle live now)
    (quiet : ∀ event ∈ events, event.isQuiet = true) :
    (events.foldl (observe position) middle).Tended := by
  have notes := observeAll_notes position quiet middle
  obtain ⟨last, found, -, path⟩ := notes.server now turned.found
  have same : last.server = now.server := path.eq_of_nil
  refine turned.done_of_lines notes.others found notes.sameLines
    fun id descriptor engagement has knows => ⟨id, descriptor, engagement, ?_, ?_, rfl⟩
  · rw [same]
    refine (turned.keeps id descriptor has).resolve_right ?_
    rintro ⟨event, rfl, releases⟩
    have isQuiet := quiet event (List.mem_singleton_self _)
    cases event with
    | ended | skipped => cases isQuiet
    | _ => cases releases
  · rw [notes.engagements now last turned.found found, turned.engagements]
    exact knows

theorem refused (turned : Turned position [.refused descriptor] site middle live now) :
    (middle.refuseLine position descriptor).Tended := by
  obtain ⟨moves, servers, lines⟩ := middle.refuseLine_moves position descriptor
  have whole := middle.refuseLine_lines position descriptor
  rw [turned.lines] at lines whole
  refine turned.done moves.others (servers ▸ turned.found)
    (fun number line here _ inside => (lines number inside).symm.trans here)
    (fun id descriptor engagement _ has knows _ _ =>
      ⟨id, descriptor, engagement, turned.still has nofun, turned.engagements ▸ knows, rfl⟩)
    fun number line here isOpen outside => ?_
  rcases whole with same | ⟨told, isClosed, isWhole⟩
  · rw [same] at here
    exact absurd (List.getElem?_eq_some_iff.1 here).1 (Nat.not_lt.2 outside)
  · rw [isWhole, List.getElem?_append_right outside] at here
    obtain rfl := List.mem_singleton.1 (List.mem_of_getElem? here)
    cases isOpen.symm.trans isClosed

theorem exchanged (turned : Turned position [.exchanged id descriptor true] site middle live now)
    (took : live.server.pool.Took id descriptor)
    (isOpened : now.server.pool.InStage id (.opened descriptor)) :
    (middle.observe position (.exchanged id descriptor true)).Tended := by
  obtain ⟨line, isOwn, -, lines⟩ :=
    (middle.log position (.create descriptor)).openLine_lines position descriptor
  have whole : (middle.observe position (.exchanged id descriptor true)).lines =
      site.lines ++ [line] := by
    rw [← turned.lines]
    exact lines
  have found := middle.getElem?_exchange position id descriptor
  rw [turned.found] at found
  refine turned.done (middle.exchange_moves position id descriptor).others found ?_ ?_ ?_
  · intro number other here _ inside
    rw [whole, List.getElem?_append_left inside] at here
    exact here
  · intro tender tended engagement _ has knows _ _
    -- Who exchanges a descriptor had no channel yet, so this is somebody else.
    have different : tender ≠ id := by
      rintro rfl
      obtain ⟨stage, stands, hasLine⟩ := has.exists_stage
      obtain rfl := stands.unique took
      cases hasLine
    refine ⟨tender, tended, engagement, turned.still has nofun, ?_, rfl⟩
    show (assigned id _ now.engagements).lookup tender = _
    rw [lookup_assigned, if_neg different, turned.engagements]
    exact knows
  · intro number other here _ outside
    rw [whole, List.getElem?_append_right outside] at here
    obtain rfl := List.mem_singleton.1 (List.mem_of_getElem? here)
    have isLast : number - site.lines.length = 0 := by
      have inside := (List.getElem?_eq_some_iff.1 here).1
      simpa using inside
    refine ⟨isOwn, id, descriptor, { line := middle.lines.length }, .inl isOpened, ?_, ?_⟩
    · show (assigned id _ now.engagements).lookup id = _
      rw [lookup_assigned, if_pos rfl]
    · show middle.lines.length = number
      rw [turned.lines]
      omega

theorem began (turned : Turned position [.began id runsOn descriptor] site middle live now)
    (wasOpened : live.server.pool.InStage id (.opened descriptor)) :
    (middle.engage position id runsOn).Tended := by
  obtain ⟨engagement, has⟩ := turned.own.opened id descriptor wasOpened
  obtain ⟨last, number, isLast, server, engagements⟩ :=
    engage_server runsOn turned.found (turned.engagements ▸ has)
  refine turned.done_of_lines (middle.engage_moves position id runsOn).others isLast rfl ?_
  intro tender tended found channel knows
  have still : last.server.pool.HasChannel tender tended := by
    rw [server]
    exact turned.still channel nofun
  by_cases same : tender = id
  · subst same
    cases has.symm.trans knows
    exact ⟨tender, tended, { engagement with dialogue := some (now.protocol.begin runsOn number) },
      still, by rw [engagements, lookup_assigned, if_pos rfl], rfl⟩
  · refine ⟨tender, tended, found, still, ?_, rfl⟩
    rw [engagements, lookup_assigned, if_neg same, turned.engagements]
    exact knows

theorem released {event : Event} (turned : Turned position [event] site middle live now)
    (releases : event.releases id) : (middle.disengage position id).Tended := by
  have only (tender : WorkerId) (tended : Descriptor) (different : tender ≠ id)
      (has : live.server.pool.HasChannel tender tended) :
      now.server.pool.HasChannel tender tended := by
    refine turned.still has fun releasesToo => ?_
    cases event with
    | ended | skipped => exact different (releasesToo.symm.trans releases)
    | _ => cases releases
  cases knows : now.engagements.lookup id with
  | none =>
      have same : middle.disengage position id = middle := by
        simp only [disengage, turned.found, knows]
      rw [same]
      refine turned.done_of_lines (fun _ _ => rfl) turned.found rfl ?_
      intro tender tended engagement has knowsToo
      rw [← turned.engagements] at knowsToo
      have different : tender ≠ id := by
        rintro rfl
        cases knows.symm.trans knowsToo
      exact ⟨tender, tended, engagement, only tender tended different has, knowsToo, rfl⟩
  | some engagement =>
      obtain ⟨isLast, lines⟩ := getElem?_disengage turned.found knows
      have closes {line : Line} (here : (middle.disengage position id).lines[engagement.line]? = some line) :
          line.isOpen = false := disengage_closes turned.found knows here
      rw [turned.lines] at lines
      refine turned.done (fun _ => middle.disengage_others position id) isLast ?_ ?_ ?_
      · intro number line here isOpen _
        refine (lines number fun same => ?_).symm.trans here
        subst same
        cases isOpen.symm.trans (closes here)
      · intro tender tended found line has knowsToo here isOpen
        have different : tender ≠ id := by
          rintro rfl
          rw [← turned.engagements] at knowsToo
          cases knows.symm.trans knowsToo
          cases isOpen.symm.trans (closes here)
        refine ⟨tender, tended, found, only tender tended different has, ?_, rfl⟩
        show (now.engagements.filter _).lookup tender = _
        rw [lookup_filter_ne, if_neg different, turned.engagements]
        exact knowsToo
      · intro number line here isOpen outside
        by_cases same : number = engagement.line
        · subst same
          cases isOpen.symm.trans (closes here)
        · rw [lines number same] at here
          exact absurd (List.getElem?_eq_some_iff.1 here).1 (Nat.not_lt.2 outside)

end Turned

/-- A turn of any server leaves every open line tended. -/
theorem Tended.turn (tended : site.Tended) (posted : site.Posted) (position : Nat) (label : Label) :
    (site.turn position label).2.Tended := by
  cases found : site.servers[position]? with
  | none =>
      simp only [Site.turn, found]
      exact tended
  | some live =>
      cases taken : live.server.step? live.terms label with
      | none =>
          rw [turn_eq_of_none found taken]
          exact tended
      | some answer =>
          obtain ⟨next, events⟩ := answer
          have step := Server.Step.of_step? taken
          have turned : Turned position events site
              (site.modifyServer position fun live => { live with server := next }) live
              { live with server := next } := by
            refine ⟨tended, posted position live found, found, ?_, fun other different => ?_, rfl, rfl,
              fun id descriptor has => step.hasChannel_or_releases has⟩
            · rw [getElem?_modifyServer, found]
              simp
            · exact (modifyServer_turn_moves found step).others other different
          rw [turn_eq_of_step found step]
          rcases step.quiet_or with quiet | ⟨descriptor, rfl⟩ | ⟨id, descriptor, rfl, isOpened⟩ |
            ⟨id, runsOn, descriptor, rfl, wasOpened, -⟩ | ⟨id, event, rfl, releases, -⟩
          · exact turned.quiet quiet
          · exact turned.refused
          · exact turned.exchanged (step.took_of_exchanged (List.mem_singleton_self _)) isOpened
          · exact turned.began wasOpened
          · have isDisengage : observe position
                (site.modifyServer position fun live => { live with server := next }) event =
                  (site.modifyServer position fun live => { live with server := next }).disengage
                    position id := by
              cases event with
              | ended other => cases releases; rfl
              | skipped other => cases releases; rfl
              | _ => cases releases
            rw [List.foldl_cons, List.foldl_nil, isDisengage]
            exact turned.released releases

/-! ## Between turns -/

theorem Tended.modifyLine {number : Nat} {change : Line → Line} (tended : site.Tended)
    (lasts : ∀ line : Line, site.lines[number]? = some line → line.Lasts (change line)) :
    (site.modifyLine number change).Tended := by
  refine tended.keep (fun other line here isOpen => ?_) fun _ live found => ⟨live, found, fun _ => id⟩
  rw [Site.modifyLine, List.getElem?_modify] at here
  obtain ⟨earlier, wasHere, rfl⟩ := Option.map_eq_some_iff.1 here
  refine ⟨earlier, wasHere, ?_⟩
  by_cases same : number = other
  · subst same
    rw [if_pos rfl] at isOpen ⊢
    have kept := lasts earlier wasHere
    exact ⟨kept.server.symm, kept.isOpen.symm.trans isOpen⟩
  · rw [if_neg same] at isOpen ⊢
    exact ⟨rfl, isOpen⟩

/-- A change of servers that leaves their workers, and whom these have lines with, as they are. -/
theorem Tended.modifyServer {position : Nat} {change : LiveServer → LiveServer} (tended : site.Tended)
    (tends : ∀ (live : LiveServer) (number : Nat), site.servers[position]? = some live →
      live.Tends number → (change live).Tends number) : (site.modifyServer position change).Tended := by
  refine tended.keep (fun _ line here isOpen => ⟨line, here, rfl, isOpen⟩) fun other live found => ?_
  refine ⟨if position = other then change live else live, ?_, fun number holds => ?_⟩
  · rw [getElem?_modifyServer, found]
    rfl
  · split
    · next same => exact tends live number (same ▸ found) holds
    · exact holds

/-- A session that goes on stays on its line. -/
theorem Tended.converse (tended : site.Tended) (position : Nat) (id : WorkerId) (mayContinue : Bool) :
    (site.converse position id mayContinue).2.Tended := by
  unfold Site.converse
  split
  · exact tended
  · next live found =>
      split
      · next number dialogue knows =>
          split
          · exact tended
          · next line here =>
              have lasts := line.converse_lasts mayContinue dialogue
              have read : (site.modifyLine number fun _ => (line.converse mayContinue dialogue).2).Tended :=
                tended.modifyLine fun other isOther => by
                  cases here.symm.trans isOther
                  exact lasts
              dsimp only
              split
              · exact read
              · next later _ =>
                  refine read.modifyServer fun resident other isResident tends => ?_
                  obtain rfl : resident = live := Option.some.inj (isResident.symm.trans found)
                  obtain ⟨tender, descriptor, engagement, has, knowsToo, rfl⟩ := tends
                  by_cases same : tender = id
                  · subst same
                    cases knows.symm.trans knowsToo
                    exact ⟨tender, descriptor, ⟨number, some later⟩, has,
                      by rw [lookup_assigned, if_pos rfl], rfl⟩
                  · exact ⟨tender, descriptor, engagement, has,
                      by rw [lookup_assigned, if_neg same, knowsToo], rfl⟩
      · exact tended

theorem Tended.hangUpAll (tended : site.Tended) (position : Nat) :
    (site.hangUpAll position).Tended := by
  refine tended.keep (fun number line here isOpen => ?_) fun _ live found => ⟨live, found, fun _ => id⟩
  obtain ⟨earlier, wasHere, rfl⟩ : ∃ earlier, site.lines[number]? = some earlier ∧ _ = line :=
    Option.map_eq_some_iff.1 (List.getElem?_map.symm.trans here)
  refine ⟨earlier, wasHere, ?_⟩
  split at isOpen
  · next both =>
      rw [if_pos both]
      exact ⟨rfl, isOpen⟩
  · next neither =>
      rw [if_neg neither]
      exact ⟨rfl, isOpen⟩

end Site

end ConnectionPool
