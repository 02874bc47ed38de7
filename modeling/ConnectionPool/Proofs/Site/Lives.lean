import ConnectionPool.Proofs.Site.Stop
import ConnectionPool.Proofs.Site.Traffic

/-!
Contract: the life of a server at a site, from its start to its last stop.

A server that was started runs until a stop is called. The first stop finds it running and comes to its
answer; every later one finds it stopped. A server that nobody refers to is stopped once more before it is
gone. All that time the other servers go on with what they do.

Owns:
- `Site.Runs` and `Site.Stopped`, a server before and behind its stop, with all stops that were called;
- `Site.Beside`, what the calls on one server leave to the others;
- how starts, stops and removals lead from one to the other.

Does not own: transports; see `Deployment`.
-/

namespace ConnectionPool.Site

variable {site before middle after : Site} {position other : Nat} {turns : List Turn}
  {live : LiveServer} {calls : List (StopMode × Bool)} {mode : StopMode} {gone : Bool}

/-! ## Before and behind a stop -/

/-- A server with everything that happened to it since it was made. The host has given it up. -/
structure Life (site : Site) (position : Nat) (live : LiveServer) (turns : List Turn) : Prop where
  found : site.servers[position]? = some live
  run : Server.Run live.terms turns live.server
  unheld : live.isHeld = false

/-- The server at a position runs, and no stop of it was called yet. -/
def Runs (position : Nat) (site : Site) : Prop :=
  ∃ live turns, Life site position live turns ∧ live.isGone = false ∧
    live.server.pool.lifecycle = .running ∧ live.server.clearances = [] ∧
      stopCalls turns = [] ∧ stopAnswers (shown turns) = []

/-- The server at a position is stopped. These stops of it were called, and those that found it running have
answered so. -/
def Stopped (position : Nat) (calls : List (StopMode × Bool)) (gone : Bool) (site : Site) : Prop :=
  ∃ live turns, Life site position live turns ∧ live.isGone = gone ∧
    live.server.pool.lifecycle = .stopped ∧ stopCalls turns = calls ∧
      (stopAnswers (shown turns)).length = calls.countP Prod.snd

theorem Runs.goes (runs : before.Runs position) (goes : Goes position before after) :
    after.Runs position := by
  obtain ⟨live, turns, life, notGone, running, unanswered, calls, answers⟩ := runs
  obtain ⟨later, more, found, kin, path, ordinary⟩ := goes live life.found
  have goesOn := path.goesOn_of_ordinary ordinary
  refine ⟨later, turns ++ more, ⟨found, ?_, kin.isHeld.trans life.unheld⟩, kin.isGone.trans notGone,
    goesOn.lifecycle.trans running, goesOn.clearances.trans unanswered, ?_, ?_⟩
  · rw [kin.terms]
    exact life.run.append path
  · rw [stopCalls_append, calls, goesOn.calls]
    rfl
  · rw [shown_append, stopAnswers_append, answers, goesOn.answers]
    rfl

theorem Stopped.goes (stopped : before.Stopped position calls gone)
    (goes : Goes position before after) : after.Stopped position calls gone := by
  obtain ⟨live, turns, life, isGone, lifecycle, called, answers⟩ := stopped
  obtain ⟨later, more, found, kin, path, ordinary⟩ := goes live life.found
  have goesOn := path.goesOn_of_ordinary ordinary
  refine ⟨later, turns ++ more, ⟨found, ?_, kin.isHeld.trans life.unheld⟩, kin.isGone.trans isGone,
    goesOn.lifecycle.trans lifecycle, ?_, ?_⟩
  · rw [kin.terms]
    exact life.run.append path
  · rw [stopCalls_append, called, goesOn.calls, List.append_nil]
  · rw [shown_append, stopAnswers_append, goesOn.answers, List.append_nil, answers]

/-! ## Everybody else -/

/-- Something was done with one server; the others took ordinary turns only. -/
structure Beside (position : Nat) (before after : Site) : Prop where
  posted : after.Posted
  others : ∀ other, other ≠ position → Goes other before after
  size : after.servers.length = before.servers.length
  directory : after.directory = before.directory
  grows : before.journal <+: after.journal
  /-- Only the transport of that server may have been asked to listen no more. -/
  journal : ∀ other, (other, .unlisten) ∈ after.journal →
    (other, .unlisten) ∈ before.journal ∨ other = position
  echoes : before.Echoes → after.Echoes

namespace Beside

theorem manned (beside : Beside position before after) (manned : before.Manned) : after.Manned :=
  manned_iff.2 ⟨beside.posted, beside.echoes manned.echoes⟩

theorem trans (earlier : Beside position before middle) (later : Beside position middle after) :
    Beside position before after where
  posted := later.posted
  others := fun other different =>
    (earlier.others other different).trans (later.others other different)
  size := later.size.trans earlier.size
  directory := later.directory.trans earlier.directory
  grows := earlier.grows.trans later.grows
  journal := fun other asks => by
    rcases later.journal other asks with there | same
    · exact earlier.journal other there
    · exact .inr same
  echoes := later.echoes ∘ earlier.echoes

theorem of_works (works : Works before after) (position : Nat) : Beside position before after where
  posted := works.posted
  others := fun other _ => works.servers other
  size := works.size
  directory := works.directory
  grows := works.grows
  journal := fun _ asks => .inl ((works.journal _ asks).resolve_right fun quiet => quiet rfl)
  echoes := works.echoes

theorem of_advances (advances : Advances position turns before after) :
    Beside position before after where
  posted := advances.posted
  others := fun other different => .of_eq (advances.others other different)
  size := advances.size
  directory := advances.directory
  grows := by
    rw [advances.journal]
    exact List.prefix_append ..
  journal := fun _ asks => by
    rw [advances.journal, List.mem_append] at asks
    refine asks.imp_right fun new => ?_
    obtain ⟨_, -, same⟩ := List.mem_map.1 new
    exact (congrArg Prod.fst same).symm
  echoes := advances.echoes

end Beside

/-- A server is marked as gone. -/
def mark (position : Nat) (site : Site) : Site :=
  site.modifyServer position fun live => { live with isGone := true }

theorem beside_mark (posted : site.Posted) (position : Nat) : Beside position site (site.mark position) where
  posted := posted.modifyServer position (fun _ => rfl) fun _ => rfl
  others := fun other different => .of_eq (by
    rw [mark, getElem?_modifyServer]
    simp [different.symm])
  size := by simp [mark, modifyServer]
  directory := rfl
  grows := List.prefix_rfl
  journal := fun _ asks => .inl asks
  echoes := fun all => all.modifyServer fun _ _ echoes => echoes.of_eq rfl rfl

theorem Stopped.mark (stopped : site.Stopped position calls gone) :
    (site.mark position).Stopped position calls true := by
  obtain ⟨live, turns, life, -, lifecycle, called, answers⟩ := stopped
  refine ⟨{ live with isGone := true }, turns, ⟨?_, life.run, life.unheld⟩, rfl, lifecycle, called,
    answers⟩
  rw [Site.mark, getElem?_modifyServer, life.found]
  simp

/-! ## Stops -/

/-- The first stop finds the server running. -/
theorem Runs.stopNow (runs : site.Runs position) (posted : site.Posted) (mode : StopMode) :
    (site.stopNow position mode).1 = true ∧
      (site.stopNow position mode).2.Stopped position [(mode, true)] false ∧
      Beside position site (site.stopNow position mode).2 ∧
      (position, .unlisten) ∈ (site.stopNow position mode).2.journal := by
  obtain ⟨live, turns, life, notGone, running, unanswered, calls, answers⟩ := runs
  obtain ⟨answered, more, last, advances, path, halts⟩ :=
    stopNow_of_running mode posted life.found (Server.Run.sound life.run) running unanswered
  obtain ⟨later, found, kin, rfl⟩ := advances.stands life.found path
  refine ⟨answered, ⟨later, turns ++ more, ⟨found, ?_, kin.isHeld.trans life.unheld⟩,
    kin.isGone.trans notGone, halts.stopped, ?_, ?_⟩, .of_advances advances, ?_⟩
  · rw [kin.terms]
    exact life.run.append path
  · rw [stopCalls_append, calls, halts.calls]
    rfl
  · rw [shown_append, stopAnswers_append, answers, halts.answers]
    rfl
  · rw [advances.journal]
    exact List.mem_append_right _
      (List.mem_map_of_mem (mem_hooks_unlisten.2 halts.unlistened))

/-- A later stop finds the server stopped. -/
theorem Stopped.stopNow (stopped : site.Stopped position calls gone) (posted : site.Posted)
    (mode : StopMode) :
    (site.stopNow position mode).1 = false ∧
      (site.stopNow position mode).2.Stopped position (calls ++ [(mode, false)]) gone ∧
      Beside position site (site.stopNow position mode).2 ∧
      (site.stopNow position mode).2.journal = site.journal := by
  obtain ⟨live, turns, life, isGone, lifecycle, called, answers⟩ := stopped
  obtain ⟨answered, advances, path⟩ :=
    stopNow_of_not_running mode posted life.found (by rw [lifecycle]; nofun)
  obtain ⟨later, found, kin, isLater⟩ := advances.stands life.found path
  refine ⟨answered, ⟨later, turns ++ [⟨.beginStop caller mode, [.stopAnswered caller false]⟩],
    ⟨found, ?_, kin.isHeld.trans life.unheld⟩, kin.isGone.trans isGone, ?_, ?_, ?_⟩,
    .of_advances advances, ?_⟩
  · rw [kin.terms, isLater]
    exact life.run.append path
  · rw [isLater, lifecycle]
  · rw [stopCalls_append, called]
    rfl
  · rw [shown_append, stopAnswers_append, List.countP_append, List.length_append, answers]
    rfl
  · rw [advances.journal]
    exact List.append_nil _

/-! ## Removals -/

theorem removeUnreferenced_eq (found : site.servers[position]? = some live)
    (notGone : live.isGone = false) (unheld : live.isHeld = false)
    (unnamed : position ∉ site.directory.values) :
    site.removeUnreferenced position = (site.stopNow position .interruptClients).2.mark position := by
  simp only [removeUnreferenced, found, notGone, unheld, unnamed]
  rfl

/-- A running server that nobody refers to any more is stopped and gone. -/
theorem Runs.removeUnreferenced (runs : site.Runs position) (posted : site.Posted)
    (unnamed : position ∉ site.directory.values) :
    (site.removeUnreferenced position).Stopped position [(.interruptClients, true)] true ∧
      Beside position site (site.removeUnreferenced position) ∧
      (position, .unlisten) ∈ (site.removeUnreferenced position).journal := by
  obtain ⟨-, stopped, beside, asked⟩ := runs.stopNow posted .interruptClients
  obtain ⟨live, turns, life, notGone, -⟩ := runs
  rw [removeUnreferenced_eq life.found notGone life.unheld unnamed]
  exact ⟨stopped.mark, beside.trans (beside_mark beside.posted position), asked⟩

/-- A stopped server that nobody refers to any more is stopped in vain, and gone. -/
theorem Stopped.removeUnreferenced (stopped : site.Stopped position calls false)
    (posted : site.Posted) (unnamed : position ∉ site.directory.values) :
    (site.removeUnreferenced position).Stopped position (calls ++ [(.interruptClients, false)]) true ∧
      Beside position site (site.removeUnreferenced position) ∧
      (site.removeUnreferenced position).journal = site.journal := by
  obtain ⟨-, again, beside, quiet⟩ := stopped.stopNow posted .interruptClients
  obtain ⟨live, turns, life, notGone, -⟩ := stopped
  rw [removeUnreferenced_eq life.found notGone life.unheld unnamed]
  exact ⟨again.mark, beside.trans (beside_mark beside.posted position), quiet⟩

/-! ## Starts -/

/-- What the start of a new server leaves to the others. -/
structure StartsBeside (position : Nat) (before after : Site) : Prop extends
    Beside position before after where
  /-- No transport was asked to listen no more. -/
  keeps : ∀ other, (other, .unlisten) ∈ after.journal → (other, .unlisten) ∈ before.journal

section Starts

variable (posted : site.Posted) (found : site.servers[position]? = some live)
  (isNew : live.server = {}) (unheld : live.isHeld = false) (notGone : live.isGone = false)

include posted found in
/-- The turn of a start, and then the rest of all workers. -/
theorem start_spec (listens : Bool) {events : List Event} {next : Server}
    (step : Server.Step live.terms live.server (.start listens) events next)
    (isStart : ∀ event ∈ events, Server.ofStart event = true) :
    ∃ turned, Advances position [⟨.start listens, events⟩] site turned ∧
      Works turned (site.start position listens).2 ∧
      StartsBeside position site (site.start position listens).2 := by
  have advances := advances_turn posted found step
  have works := Traffic.works (rest_traffic _ position) advances.posted
  have beside := (Beside.of_advances advances).trans (.of_works works position)
  refine ⟨_, advances, works, { beside with keeps := fun other asks => ?_ }⟩
  have there := (works.journal _ asks).resolve_right fun quiet => quiet rfl
  rw [advances.journal, List.mem_append] at there
  refine there.resolve_right fun new => ?_
  obtain ⟨hook, isHook, same⟩ := List.mem_map.1 new
  cases same
  have unlistened := mem_hooks_unlisten.1 isHook
  rw [shown_singleton] at unlistened
  cases isStart _ unlistened

include posted found isNew unheld notGone in
/-- A new server whose transport listens runs from its start on. -/
theorem runs_of_start :
    (site.start position true).2.Runs position ∧
      StartsBeside position site (site.start position true).2 := by
  have empty : live.server.pool.queue = [] := by rw [isNew]
  have step : Server.Step live.terms live.server (.start true) _ _ := .started (by rw [isNew])
  obtain ⟨turned, advances, works, beside⟩ :=
    start_spec posted found true step fun event => Server.ofStart_of_mem empty
  have path := Server.Path.turn .refl step
  obtain ⟨later, foundLater, kin, isLater⟩ := advances.stands found path
  have begun : turned.Runs position := by
    refine ⟨later, [⟨.start true, Server.startEvents live.terms live.server.pool true ++
        [.startAnswered .started]⟩], ⟨foundLater, ?_, kin.isHeld.trans unheld⟩,
      kin.isGone.trans notGone, ?_, ?_, ?_, ?_⟩
    · rw [isLater, kin.terms]
      rw [isNew] at path ⊢
      exact path
    · rw [isLater]
    · rw [isLater, isNew]
    · rfl
    · rw [shown_singleton]
      exact Server.stopAnswers_startEvents empty
  exact ⟨begun.goes (works.servers position), beside⟩

include posted found isNew unheld notGone in
/-- A new server whose transport does not listen stays stopped. -/
theorem stopped_of_start :
    (site.start position false).2.Stopped position [] false ∧
      StartsBeside position site (site.start position false).2 := by
  have empty : live.server.pool.queue = [] := by rw [isNew]
  have step : Server.Step live.terms live.server (.start false) _ _ := .cannotListen (by rw [isNew])
  obtain ⟨turned, advances, works, beside⟩ :=
    start_spec posted found false step fun event => Server.ofStart_of_mem empty
  have path := Server.Path.turn .refl step
  obtain ⟨later, foundLater, kin, isLater⟩ := advances.stands found path
  have failed : turned.Stopped position [] false := by
    refine ⟨later, [⟨.start false, Server.startEvents live.terms live.server.pool false ++
        [.startAnswered .cannotListen]⟩], ⟨foundLater, ?_, kin.isHeld.trans unheld⟩,
      kin.isGone.trans notGone, ?_, ?_, ?_⟩
    · rw [isLater, kin.terms]
      rw [isNew] at path ⊢
      exact path
    · rw [isLater]
      exact Server.floored_lifecycle (by rw [isNew])
    · rfl
    · rw [shown_singleton, Server.stopAnswers_startEvents empty]
      rfl
  exact ⟨failed.goes (works.servers position), beside⟩

end Starts

/-! ## All names at once -/

/-- What becomes of a site when nobody refers to these servers any more. -/
structure Cleared (positions : List Nat) (before after : Site) : Prop where
  posted : after.Posted
  stopped : ∀ position ∈ positions, after.Stopped position [(.interruptClients, true)] true
  others : ∀ other, other ∉ positions → Goes other before after
  size : after.servers.length = before.servers.length
  directory : after.directory = before.directory
  /-- The transports of these servers were asked to listen no more, and no others. -/
  asked : ∀ position ∈ positions, (position, .unlisten) ∈ after.journal
  journal : ∀ other, (other, .unlisten) ∈ after.journal →
    (other, .unlisten) ∈ before.journal ∨ other ∈ positions
  echoes : before.Echoes → after.Echoes

theorem Cleared.manned {positions : List Nat} (cleared : Cleared positions before after)
    (manned : before.Manned) : after.Manned :=
  manned_iff.2 ⟨cleared.posted, cleared.echoes manned.echoes⟩

/-- Servers that nobody refers to are removed one after the other. -/
theorem cleared_of_runs (positions : List Nat) (posted : site.Posted)
    (nodup : positions.Nodup) (unnamed : site.directory.values = [])
    (runs : ∀ position ∈ positions, site.Runs position) :
    Cleared positions site (positions.foldl removeUnreferenced site) := by
  induction positions using List.reverseRecOn with
  | nil => exact ⟨posted, nofun, fun other _ => .refl other site, rfl, rfl, nofun, fun _ => .inl, id⟩
  | append_singleton positions position inductionHypothesis =>
      have apart : position ∉ positions := fun member =>
        List.disjoint_of_nodup_append nodup member (List.mem_singleton_self _)
      have cleared := inductionHypothesis (List.Nodup.of_append_left nodup)
        fun other member => runs other (List.mem_append_left _ member)
      have still := (runs position (List.mem_append_right _ (List.mem_singleton_self _))).goes
        (cleared.others position apart)
      have gone : position ∉ (positions.foldl Site.removeUnreferenced site).directory.values := by
        rw [cleared.directory, unnamed]
        exact List.not_mem_nil
      obtain ⟨stopped, beside, asked⟩ := still.removeUnreferenced cleared.posted gone
      rw [List.foldl_append, List.foldl_cons, List.foldl_nil]
      constructor
      case posted => exact beside.posted
      case stopped =>
        intro other member
        rcases List.mem_append.1 member with earlier | last
        · exact (cleared.stopped other earlier).goes
            (beside.others other fun same => apart (same ▸ earlier))
        · rw [List.mem_singleton.1 last]
          exact stopped
      case others =>
        intro other outside
        rw [List.mem_append, List.mem_singleton, not_or] at outside
        exact (cleared.others other outside.1).trans (beside.others other outside.2)
      case size => exact beside.size.trans cleared.size
      case directory => exact beside.directory.trans cleared.directory
      case asked =>
        intro other member
        rcases List.mem_append.1 member with earlier | last
        · exact beside.grows.subset (cleared.asked other earlier)
        · rw [List.mem_singleton.1 last]
          exact asked
      case journal =>
        intro other asks
        rcases beside.journal other asks with there | same
        · exact (cleared.journal other there).imp_right (List.mem_append_left _)
        · exact .inr (by simp [same])
      case echoes => exact beside.echoes ∘ cleared.echoes

end ConnectionPool.Site
