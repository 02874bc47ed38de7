import ConnectionPool.Proofs.Server.Calls
import ConnectionPool.Proofs.Site.Threads
import Mathlib.Logic.Relation

/-!
Contract: what goes on at a site while its servers run.

Connections arrive, sessions go on, far ends send and hang up, threads and sweeps take their turns, time
passes: in any order and at all servers. None of it starts or stops a server, touches the directory, or asks
a transport to listen no more.

Owns:
- `Site.Happens` and `Site.Traffic`, one such thing and any number of them;
- `Site.Labours` and `Site.Labour`, the same where nobody calls: threads, sessions, far ends and time;
- `Site.Works`, what traffic leaves alone, and `Site.LeftAlone`, what labour does to a server;
- the calls of a site that are traffic.

Does not own: starts, stops and names.
-/

namespace ConnectionPool

namespace Site

/-- Something that happens while servers run. -/
inductive Happens (site : Site) : Site → Prop where
  /-- A server takes a turn that belongs to no start and no stop. -/
  | turn (position : Nat) (label : Label) (ordinary : label.isOrdinary = true) :
      Happens site (site.turn position label).2
  /-- The session of a worker goes on. -/
  | converse (position : Nat) (id : WorkerId) (mayContinue : Bool) :
      Happens site (site.converse position id mayContinue).2
  /-- Something happens at the far end of a line. -/
  | farEnd (number : Nat) (change : Line → Line) (lasts : ∀ line : Line, line.Lasts (change line)) :
      Happens site (site.modifyLine number change)
  /-- Time passes. -/
  | elapse (clock : Nat) : Happens site { site with clock }

/-- Whatever may go on while servers run. -/
abbrev Traffic : Site → Site → Prop :=
  Relation.ReflTransGen Happens

/-- Something that happens although nobody calls. -/
inductive Labours (site : Site) : Site → Prop where
  /-- The thread of a worker takes a turn. -/
  | thread (position : Nat) (label : Label) (own : label.thread?.isSome = true) :
      Labours site (site.turn position label).2
  | converse (position : Nat) (id : WorkerId) (mayContinue : Bool) :
      Labours site (site.converse position id mayContinue).2
  | farEnd (number : Nat) (change : Line → Line) (lasts : ∀ line : Line, line.Lasts (change line)) :
      Labours site (site.modifyLine number change)
  | elapse (clock : Nat) : Labours site { site with clock }

/-- Whatever may go on while nobody calls. -/
abbrev Labour : Site → Site → Prop :=
  Relation.ReflTransGen Labours

/-- The server at a position took turns of this kind only. -/
def GoesBy (kind : Label → Bool) (position : Nat) (before after : Site) : Prop :=
  ∀ live : LiveServer, before.servers[position]? = some live → ∃ later turns,
    after.servers[position]? = some later ∧ live.Kin later ∧
      Server.Path live.terms live.server turns later.server ∧
      ∀ turn ∈ turns, kind turn.label = true

/-- The server at a position took ordinary turns only. -/
abbrev Goes : Nat → Site → Site → Prop :=
  GoesBy Label.isOrdinary

/-- Only the threads of the server at a position took turns. -/
abbrev LeftAlone : Nat → Site → Site → Prop :=
  GoesBy fun label => label.thread?.isSome

/-- Every server went on as it was, and all workers are at their posts. -/
structure Works (before after : Site) : Prop where
  posted : after.Posted
  servers : ∀ position, Goes position before after
  size : after.servers.length = before.servers.length
  directory : after.directory = before.directory
  grows : before.journal <+: after.journal
  /-- No transport was asked to listen no more. -/
  journal : ∀ entry ∈ after.journal, entry ∈ before.journal ∨ entry.2 ≠ .unlisten
  echoes : before.Echoes → after.Echoes

variable {site before middle after : Site} {position : Nat} {turns : List Turn} {kind : Label → Bool}

namespace GoesBy

theorem refl (position : Nat) (site : Site) : GoesBy kind position site site :=
  fun live found => ⟨live, [], found, .refl live, .refl, nofun⟩

theorem trans (earlier : GoesBy kind position before middle) (later : GoesBy kind position middle after) :
    GoesBy kind position before after := by
  intro live found
  obtain ⟨between, turns, foundThen, kin, path, own⟩ := earlier live found
  obtain ⟨last, more, foundLast, kinThen, pathThen, ownThen⟩ := later between foundThen
  rw [kin.terms] at pathThen
  exact ⟨last, turns ++ more, foundLast, kin.trans kinThen, path.append pathThen,
    fun turn member => (List.mem_append.1 member).elim (own turn) (ownThen turn)⟩

theorem of_eq (same : after.servers[position]? = before.servers[position]?) :
    GoesBy kind position before after :=
  fun live found => ⟨live, [], by rw [same, found], .refl live, .refl, nofun⟩

theorem mono {more : Label → Bool} (goes : GoesBy kind position before after)
    (weaker : ∀ label, kind label = true → more label = true) : GoesBy more position before after := by
  intro live found
  obtain ⟨later, turns, foundLater, kin, path, own⟩ := goes live found
  exact ⟨later, turns, foundLater, kin, path, fun turn member => weaker _ (own turn member)⟩

end GoesBy

/-- The server that moves takes its turns, and the others none. -/
theorem Advances.goesBy (advances : Advances position turns before after)
    (own : ∀ turn ∈ turns, kind turn.label = true) (other : Nat) : GoesBy kind other before after := by
  by_cases same : other = position
  · subst same
    intro live found
    obtain ⟨later, foundLater, kin, path⟩ := advances.server live found
    exact ⟨later, turns, foundLater, kin, path, own⟩
  · exact .of_eq (advances.others other same)

/-- A turn that cannot be taken is no turn at all. -/
theorem exists_advances_turn (posted : site.Posted) (position : Nat) (label : Label) :
    ∃ turns, Advances position turns site (site.turn position label).2 ∧
      ∀ turn ∈ turns, turn.label = label := by
  cases found : site.servers[position]? with
  | none =>
      simp only [Site.turn, found]
      exact ⟨[], .refl position posted, List.forall_mem_nil _⟩
  | some live =>
      cases taken : live.server.step? live.terms label with
      | none =>
          rw [turn_eq_of_none found taken]
          exact ⟨[], .refl position posted, List.forall_mem_nil _⟩
      | some answer => exact ⟨_, advances_turn posted found (.of_step? taken), by simp⟩

theorem Works.refl (posted : site.Posted) : Works site site where
  posted := posted
  servers := fun position => .refl position site
  size := rfl
  directory := rfl
  grows := List.prefix_rfl
  journal := fun _ member => .inl member
  echoes := id

theorem Works.manned (works : Works before after) (manned : before.Manned) : after.Manned :=
  manned_iff.2 ⟨works.posted, works.echoes manned.echoes⟩

theorem Works.trans (earlier : Works before middle) (later : Works middle after) :
    Works before after where
  posted := later.posted
  servers := fun position => (earlier.servers position).trans (later.servers position)
  size := later.size.trans earlier.size
  directory := later.directory.trans earlier.directory
  grows := earlier.grows.trans later.grows
  journal := fun entry member => by
    rcases later.journal entry member with there | other
    · exact earlier.journal entry there
    · exact .inr other
  echoes := later.echoes ∘ earlier.echoes

theorem mem_hooks_unlisten : .unlisten ∈ hooks turns ↔ .unlistened ∈ shown turns := by
  rw [hooks, List.mem_filterMap]
  constructor
  · rintro ⟨event, isEvent, asks⟩
    cases event with
    | unlistened => exact isEvent
    | listened | discarded | refused | exchanged => cases Option.some.inj asks
    | _ => cases asks
  · exact fun isEvent => ⟨.unlistened, isEvent, rfl⟩

/-- Ordinary turns of one server are work. -/
theorem Advances.works {live : LiveServer} (advances : Advances position turns before after)
    (found : before.servers[position]? = some live)
    (ordinary : ∀ turn ∈ turns, turn.label.isOrdinary = true) : Works before after where
  posted := advances.posted
  servers := advances.goesBy ordinary
  size := advances.size
  directory := advances.directory
  grows := by
    rw [advances.journal]
    exact List.prefix_append ..
  journal := fun entry member => by
    rw [advances.journal, List.mem_append] at member
    refine member.imp_right fun new => ?_
    obtain ⟨hook, asks, rfl⟩ := List.mem_map.1 new
    rintro rfl
    obtain ⟨_, -, -, path⟩ := advances.server live found
    exact (path.goesOn_of_ordinary ordinary).listens (mem_hooks_unlisten.1 asks)
  echoes := advances.echoes

theorem Happens.works (happens : before.Happens after) (posted : before.Posted) :
    Works before after := by
  cases happens with
  | turn position label ordinary =>
      cases found : before.servers[position]? with
      | none =>
          have nothing : (before.turn position label).2 = before := by simp only [Site.turn, found]
          rw [nothing]
          exact .refl posted
      | some live =>
          obtain ⟨turns, turned, isLabel⟩ := exists_advances_turn posted position label
          exact turned.works found fun turn member => by rwa [isLabel turn member]
  | converse position id mayContinue =>
      cases found : before.servers[position]? with
      | none =>
          have nothing : (before.converse position id mayContinue).2 = before := by
            simp only [Site.converse, found]
          rw [nothing]
          exact .refl posted
      | some live =>
          exact (converse_spec posted found id mayContinue).1.works found (List.forall_mem_nil _)
  | farEnd number change lasts =>
      exact {
        posted := posted.modifyLine fun line _ => lasts line
        servers := (Works.refl posted).servers
        size := rfl
        directory := rfl
        grows := List.prefix_rfl
        journal := fun _ member => .inl member
        echoes := id }
  | elapse clock =>
      exact {
        posted := posted
        servers := (Works.refl posted).servers
        size := rfl
        directory := rfl
        grows := List.prefix_rfl
        journal := fun _ member => .inl member
        echoes := id }

theorem Traffic.works (traffic : before.Traffic after) (posted : before.Posted) :
    Works before after := by
  induction traffic with
  | refl => exact .refl posted
  | tail _ happens inductionHypothesis =>
      exact inductionHypothesis.trans (happens.works inductionHypothesis.posted)

/-! ## Labour -/

theorem Labours.happens (labours : before.Labours after) : before.Happens after := by
  cases labours with
  | thread position label own => exact .turn position label (Label.isOrdinary_of_thread own)
  | converse position id mayContinue => exact .converse position id mayContinue
  | farEnd number change lasts => exact .farEnd number change lasts
  | elapse clock => exact .elapse clock

theorem Labour.traffic (labour : before.Labour after) : before.Traffic after :=
  Relation.ReflTransGen.mono (fun _ _ => Labours.happens) _ _ labour

theorem Labours.leftAlone (labours : before.Labours after) (posted : before.Posted) (position : Nat) :
    LeftAlone position before after := by
  cases labours with
  | thread other label own =>
      obtain ⟨turns, turned, isLabel⟩ := exists_advances_turn posted other label
      exact turned.goesBy (fun turn member => by rwa [isLabel turn member]) position
  | converse other id mayContinue =>
      cases found : before.servers[other]? with
      | none =>
          have nothing : (before.converse other id mayContinue).2 = before := by
            simp only [Site.converse, found]
          rw [nothing]
          exact .refl position before
      | some live =>
          exact (converse_spec posted found id mayContinue).1.goesBy (List.forall_mem_nil _) position
  | farEnd | elapse => exact .of_eq rfl

theorem Labour.leftAlone (labour : before.Labour after) (posted : before.Posted) (position : Nat) :
    LeftAlone position before after := by
  induction labour with
  | refl => exact .refl position before
  | tail earlier labours inductionHypothesis =>
      have posted := ((Labour.traffic earlier).works posted).posted
      exact inductionHypothesis.trans (labours.leftAlone posted position)

/-- At all lines something happens at the far end, or at some of them. -/
theorem labour_of_map {change : Line → Line} (lasts : ∀ line : Line, line.Lasts (change line))
    (site : Site) : site.Labour { site with lines := site.lines.map change } := by
  have behind (front back : List Line) :
      Labour { site with lines := front ++ back } { site with lines := front ++ back.map change } := by
    induction back generalizing front with
    | nil => exact .refl
    | cons line back inductionHypothesis =>
        have here : (front ++ line :: back).modify front.length change = front ++ change line :: back := by
          simp [List.modify_eq_set_getElem?]
        have changed : Labours { site with lines := front ++ line :: back }
            { site with lines := front ++ change line :: back } := by
          rw [← here]
          exact .farEnd front.length change lasts
        have rest := inductionHypothesis (front ++ [change line])
        rw [List.append_assoc, List.append_assoc] at rest
        exact .head changed rest
  exact behind [] site.lines

/-! ## Calls that are traffic -/

section Calls

variable (site : Site) (position : Nat)

theorem turns_traffic {labels : List Label} (ordinary : ∀ label ∈ labels, label.isOrdinary = true) :
    site.Traffic (site.turns position labels) := by
  induction labels generalizing site with
  | nil => exact .refl
  | cons label labels inductionHypothesis =>
      obtain ⟨here, behind⟩ := List.forall_mem_cons.1 ordinary
      exact .head (.turn position label here) (inductionHypothesis _ behind)

/-- A thread only takes turns of its own. -/
theorem nextTurn_labour (id : WorkerId) (worker : Worker) :
    site.Labour (site.nextTurn position id worker).2 ∧
      ∀ label, (site.nextTurn position id worker).1 = some label → label.thread?.isSome = true := by
  unfold nextTurn
  cases worker.stage with
  | waiting =>
      dsimp only
      split
      · exact ⟨.refl, by rintro _ ⟨⟩; rfl⟩
      · split
        · exact ⟨.refl, nofun⟩
        · exact ⟨.refl, by rintro _ ⟨⟩; rfl⟩
  | serving =>
      refine ⟨.single (.converse position id worker.mayContinue), fun label isLabel => ?_⟩
      obtain ⟨ending, -, rfl⟩ := Option.map_eq_some_iff.1 isLabel
      rfl
  | unstarted | exited => exact ⟨.refl, nofun⟩
  | _ => exact ⟨.refl, by rintro _ ⟨⟩; rfl⟩

theorem runWorkerFor_labour (id : WorkerId) (fuel : Nat) :
    site.Labour (site.runWorkerFor position id fuel) := by
  induction fuel generalizing site with
  | zero => exact .refl
  | succ fuel inductionHypothesis =>
      unfold runWorkerFor
      split
      · exact .refl
      · next worker _ =>
          obtain ⟨goesOn, own⟩ := site.nextTurn_labour position id worker
          split
          · next between isNone =>
              rw [isNone] at goesOn
              exact goesOn
          · next label between isSome =>
              rw [isSome] at goesOn own
              exact (goesOn.tail (.thread position label (own label rfl))).trans
                (inductionHypothesis _)

theorem runWorker_labour (id : WorkerId) : site.Labour (site.runWorker position id) := by
  unfold runWorker
  split
  · exact .refl
  · exact site.runWorkerFor_labour position id _

theorem rest_labour : site.Labour (site.rest position) := by
  unfold rest
  split
  · exact .refl
  · next live found =>
      clear found
      generalize List.range' 1 live.server.pool.workers.length = ids
      induction ids generalizing site with
      | nil => exact .refl
      | cons id ids inductionHypothesis =>
          exact (site.runWorker_labour position id).trans (inductionHypothesis _)

theorem rest_traffic : site.Traffic (site.rest position) :=
  (site.rest_labour position).traffic

theorem hangUpAll_labour : site.Labour (site.hangUpAll position) := by
  refine labour_of_map (fun line => ?_) site
  split
  · exact line.receive_lasts .hangUp
  · exact .refl line

theorem connect_traffic (descriptor : Descriptor) :
    site.Traffic (site.connect position descriptor).2 :=
  ((Relation.ReflTransGen.single (.turn position (.arrive descriptor) rfl)).tail
    (.turn position (.decide descriptor true) rfl)).trans
      ((turns_traffic _ position (by simp [Label.isOrdinary])).trans (rest_traffic _ position))

theorem receive_traffic (descriptor : Descriptor) (event : Inbound) :
    site.Traffic (site.receive position descriptor event).2 := by
  unfold receive
  split
  · exact .refl
  · next line _ =>
      exact .head (.farEnd line (Line.receive event) fun line => line.receive_lasts event)
        (rest_traffic _ position)

theorem retireFor_traffic (deadline : Option Nat) (count : Nat) :
    site.Traffic (site.retireFor position deadline count) := by
  induction count generalizing site with
  | zero => exact .refl
  | succ count inductionHypothesis =>
      unfold retireFor
      split
      · next live id moment _ _ =>
          have expired : site.Traffic (site.expire position id) :=
            (turns_traffic site position (by simp [Label.isOrdinary])).trans
              (runWorker_labour _ position id).traffic
          have either {isDue : Prop} [Decidable isDue] : site.Traffic
              (if isDue then retireFor position deadline count (site.expire position id) else site) := by
            split
            · exact expired.trans (inductionHypothesis _)
            · exact .refl
          exact either
      · exact .refl

theorem retireSurplus_traffic : site.Traffic (site.retireSurplus position) := by
  unfold retireSurplus
  split
  · exact .refl
  · exact site.retireFor_traffic position none _

theorem sweep_traffic : site.Traffic (site.sweep position).2 := by
  refine .trans (.single (.turn position (.beginSweep caller) rfl)) (.tail (turns_traffic _ position ?_)
    (.turn position (.endSweep 0) rfl))
  intro label member
  obtain ⟨labels, isBlock, isLabel⟩ := List.mem_flatten.1 member
  rw [List.eq_of_mem_replicate isBlock] at isLabel
  rcases isLabel with _ | ⟨_, _ | ⟨_, none⟩⟩
  · rfl
  · rfl
  · cases none

theorem sweepAll_traffic : site.Traffic site.sweepAll.2 := by
  unfold sweepAll
  generalize 0 = total
  generalize site.directory.values = positions
  induction positions generalizing site total with
  | nil => exact .refl
  | cons position positions inductionHypothesis =>
      exact (site.sweep_traffic position).trans (inductionHypothesis _ _)

end Calls

end Site

end ConnectionPool
