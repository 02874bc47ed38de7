import ConnectionPool.Proofs.Site.Schedules
import ConnectionPool.Proofs.Site.Sweep
import Mathlib.Algebra.BigOperators.Group.Finset.Basic

/-!
Contract: stops and sweeps of all servers that a directory names.

A directory may name a server several times, and then a call on the whole directory comes to it several times.
The first stop of a server ends its run, and every further one finds it stopped and changes nothing; the first
sweep takes over all its retired workers, and every further one finds none. So a server counts once, however
many names it has, and the same call made again finds nothing left to do.

Owns:
- `Site.StopsAll` and `Site.StopsAllAnyhow`, what the stops of all servers of a directory come to as a site
  computes them, and in any schedule;
- `Site.SweepsAll`, the same for its sweeps;
- `Site.directoryWide_of_arises`, their proof.

Does not own: what a single stop or sweep does.
-/

namespace ConnectionPool

namespace Site

variable {site before now after : Site} {position : Nat} {live : LiveServer} {mode other : StopMode}

/-- How many workers of the server at a position have retired and were not reaped yet. -/
def finishedCount (position : Nat) (site : Site) : Nat :=
  match site.servers[position]? with
  | none => 0
  | some live => live.server.pool.retired.length

/-! ## Stops of some servers -/

/-- A stop of one more server, which counts if it found the server running. -/
def stopOne (mode : StopMode) (total : Nat × Site) (position : Nat) : Nat × Site :=
  let answer := total.2.stopNow position mode
  (if answer.1 then total.1 + 1 else total.1, answer.2)

theorem stopAll_eq (mode : StopMode) (site : Site) :
    site.stopAll mode = site.directory.values.foldl (stopOne mode) (0, site) :=
  rfl

theorem stopOne_of_not_running {count : Nat} (found : site.servers[position]? = some live)
    (rests : site.isRunning position = false) :
    stopOne mode (count, site) position = (count, site) := by
  simp [stopOne, stopNow_eq_of_not_running found (not_running_of_isRunning found rests)]

section Stops

/-- A stop of one more server takes one of its schedules. Nothing happens to a server but by a stop of its own
that finds it running. -/
theorem stopsBy_stopOne (count : Nat) (mode : StopMode) (sane : now.Sane)
    (found : now.servers[position]? = some live) (unanswered : live.server.clearances = []) :
    ∃ ended, now.StopsBy mode position (now.isRunning position) ended ∧
      stopOne mode (count, now) position = (if now.isRunning position then count + 1 else count, ended) ∧
      ∀ other, (other = position → now.isRunning position = false) →
        ended.servers[other]? = now.servers[other]? := by
  cases runs : now.isRunning position with
  | true =>
      obtain ⟨resident, isResident, running⟩ := isRunning_eq_true_iff.1 runs
      cases found.symm.trans isResident
      have sound := sane.sound position live found
      obtain ⟨answered, _, _, advances, -⟩ :=
        stopNow_of_running mode sane.posted found sound running unanswered
      refine ⟨_, stopsBy_stopNow mode sane.posted found sound running unanswered, ?_, fun other idle => ?_⟩
      · simp only [stopOne, answered, if_true]
      · exact advances.others other fun same => nomatch idle same
  | false =>
      exact ⟨now, .refused (turn_eq_of_not_running found (not_running_of_isRunning found runs)),
        stopOne_of_not_running found runs, fun _ _ => rfl⟩

/-- Stops of some servers that there are, none of which is being stopped already, in one of their schedules. -/
theorem stops_of_foldl (mode : StopMode) (sane : before.Sane) (positions : List Nat)
    (known : ∀ position ∈ positions, position < before.servers.length)
    (unstopped : ∀ position ∈ positions, ∀ live : LiveServer, before.servers[position]? = some live →
      live.server.Unstopped) :
    StopsAllBy mode before positions (positions.foldl (stopOne mode) (0, before)).1
        (positions.foldl (stopOne mode) (0, before)).2 ∧
      ∀ position, (position ∈ positions → before.isRunning position = false) →
        (positions.foldl (stopOne mode) (0, before)).2.servers[position]? = before.servers[position]? := by
  induction positions using List.reverseRecOn with
  | nil => exact ⟨.begins .refl, fun _ _ => rfl⟩
  | append_singleton positions position inductionHypothesis =>
      have knownThere (other : Nat) (member : other ∈ positions) := known other (List.mem_append_left _ member)
      have unstoppedThere (other : Nat) (member : other ∈ positions) :=
        unstopped other (List.mem_append_left _ member)
      obtain ⟨stops, unchanged⟩ := inductionHypothesis knownThere unstoppedThere
      rw [List.foldl_append, List.foldl_cons, List.foldl_nil]
      generalize positions.foldl (stopOne mode) (0, before) = total at stops unchanged ⊢
      obtain ⟨count, now⟩ := total
      dsimp only at stops unchanged
      have preserves := stops.stirs.preserves sane.posted
      have here : position ∈ positions ++ [position] := by simp
      have inside := known position here
      have foundBefore : before.servers[position]? = some _ := List.getElem?_eq_getElem inside
      have found : now.servers[position]? = some _ := List.getElem?_eq_getElem (preserves.size ▸ inside)
      have uncalled := (stops.stopsAnyhow sane knownThere unstoppedThere).unstopped foundBefore
        (unstopped position here _ foundBefore) found
      obtain ⟨ended, stop, isStop, others⟩ :=
        stopsBy_stopOne count mode (sane.preserved preserves) found uncalled.clearances
      rw [isStop]
      refine ⟨.next stops stop .refl, fun other idle => ?_⟩
      have same := unchanged other fun member => idle (List.mem_append_left _ member)
      refine (others other ?_).trans same
      rintro rfl
      exact (isRunning_congr same).trans (idle here)

/-- Where no server of a directory runs, there is nothing to stop. -/
theorem stopAll_of_none_running (mode : StopMode)
    (known : ∀ position ∈ site.directory.values, position < site.servers.length)
    (rest : ∀ position ∈ site.directory.values, site.isRunning position = false) :
    site.stopAll mode = (0, site) := by
  rw [stopAll_eq]
  generalize site.directory.values = positions at known rest
  induction positions with
  | nil => rfl
  | cons position positions inductionHypothesis =>
      obtain ⟨live, found⟩ : ∃ live, site.servers[position]? = some live :=
        ⟨_, List.getElem?_eq_getElem (known position List.mem_cons_self)⟩
      rw [List.foldl_cons, stopOne_of_not_running found (rest position List.mem_cons_self)]
      exact inductionHypothesis (fun other member => known other (List.mem_cons_of_mem _ member))
        fun other member => rest other (List.mem_cons_of_mem _ member)

end Stops

/-! ## Sweeps of some servers -/

/-- A sweep of one more server. -/
def sweepOne (total : Nat × Site) (position : Nat) : Nat × Site :=
  let answer := total.2.sweep position
  (total.1 + answer.1, answer.2)

theorem sweepAll_eq (site : Site) :
    site.sweepAll = site.directory.values.foldl sweepOne (0, site) :=
  rfl

/-- A server that was swept if it is one of these. -/
def sweptIf (swept : Bool) (live : LiveServer) : LiveServer :=
  if swept then { live with server := live.server.swept } else live

/-- What the sweeps of some servers have done, one after the other. -/
structure Sweeps (positions : List Nat) (before : Site) (count : Nat) (after : Site) : Prop where
  /-- The finished workers of the distinct servers count. -/
  counted : count = ∑ position ∈ positions.toFinset, before.finishedCount position
  servers : ∀ position, after.servers[position]? =
    (before.servers[position]?).map (sweptIf (position ∈ positions))
  others : after = { before with servers := after.servers }

section Sweeps

variable {positions : List Nat} {count : Nat}

/-- Behind its sweep nobody of a server has to be waited for. -/
theorem sweep_of_sweptIf (swept : Bool) (found : now.servers[position]? = some (sweptIf swept live))
    (sound : Server.Sound live.terms live.server) (uncalled : live.server.Uncalled) :
    now.sweep position =
      (if swept then 0 else live.server.pool.retired.length,
        now.replaceServer position live.server.swept) := by
  cases swept with
  | true =>
      rw [sweep_of_none_retired found live.server.reaped_swept.retired uncalled.sweeps]
      exact Prod.ext rfl (replaceServer_self found).symm
  | false => exact sweep_eq found sound.allEnded_retired uncalled.sweeps

/-- One more server is swept, perhaps not for the first time. -/
theorem Sweeps.snoc (sweeps : Sweeps positions before count now)
    (found : before.servers[position]? = some live) (sound : Server.Sound live.terms live.server)
    (uncalled : live.server.Uncalled) :
    Sweeps (positions ++ [position]) before (sweepOne (count, now) position).1
      (sweepOne (count, now) position).2 := by
  have foundNow : now.servers[position]? = some (sweptIf (position ∈ positions) live) := by
    rw [sweeps.servers, found]
    rfl
  have answer : sweepOne (count, now) position =
      (count + if position ∈ positions then 0 else live.server.pool.retired.length,
        now.replaceServer position live.server.swept) := by
    simp only [sweepOne, sweep_of_sweptIf _ foundNow sound uncalled, decide_eq_true_eq]
  have finished : before.finishedCount position = live.server.pool.retired.length := by
    simp [finishedCount, found]
  rw [answer]
  constructor
  case counted =>
    rw [toFinset_snoc]
    by_cases member : position ∈ positions
    · rw [if_pos member, Finset.insert_eq_self.2 (List.mem_toFinset.2 member)]
      exact sweeps.counted
    · rw [if_neg member, Finset.sum_insert fun inside => member (List.mem_toFinset.1 inside),
        ← sweeps.counted, finished, Nat.add_comm]
  case servers =>
    intro other
    rw [replaceServer, getElem?_modifyServer, sweeps.servers]
    by_cases same : position = other
    · subst same
      rw [found]
      by_cases member : position ∈ positions <;> simp [sweptIf, member]
    · have different : other ≠ position := fun isHere => same isHere.symm
      cases before.servers[other]? <;> simp [same, different]
  case others =>
    show _ = { before with servers := (now.replaceServer position live.server.swept).servers }
    rw [replaceServer, modifyServer, sweeps.others]

/-- Sweeps of some servers that there are, none of which is being swept already. -/
theorem sweeps_of_foldl (sane : before.Sane) (positions : List Nat)
    (known : ∀ position ∈ positions, position < before.servers.length)
    (uncalled : ∀ position ∈ positions, ∀ live : LiveServer, before.servers[position]? = some live →
      live.server.Uncalled) :
    Sweeps positions before (positions.foldl sweepOne (0, before)).1
      (positions.foldl sweepOne (0, before)).2 := by
  induction positions using List.reverseRecOn with
  | nil =>
      refine ⟨rfl, fun position => ?_, rfl⟩
      cases found : before.servers[position]? <;> simp [found, sweptIf]
  | append_singleton positions position inductionHypothesis =>
      have sweeps := inductionHypothesis (fun other member => known other (List.mem_append_left _ member))
        fun other member => uncalled other (List.mem_append_left _ member)
      have here : position ∈ positions ++ [position] := by simp
      have found : before.servers[position]? = some _ := List.getElem?_eq_getElem (known position here)
      rw [List.foldl_append, List.foldl_cons, List.foldl_nil]
      exact sweeps.snoc found (sane.sound position _ found) (uncalled position here _ found)

/-- Where nobody of a directory has retired, there is nothing to sweep. -/
theorem sweepAll_of_none_finished
    (spare : ∀ position ∈ site.directory.values, ∃ live, site.servers[position]? = some live ∧
      live.server.pool.retired = [] ∧ live.server.sweeps = []) :
    site.sweepAll = (0, site) := by
  rw [sweepAll_eq]
  generalize site.directory.values = positions at spare
  induction positions with
  | nil => rfl
  | cons position positions inductionHypothesis =>
      obtain ⟨live, found, none, alone⟩ := spare position List.mem_cons_self
      have nothing : sweepOne (0, site) position = (0, site) := by
        simp only [sweepOne, sweep_of_none_retired found none alone, Nat.add_zero]
      rw [List.foldl_cons, nothing]
      exact inductionHypothesis fun other member => spare other (List.mem_cons_of_mem _ member)

end Sweeps

/-! ## A whole directory -/

/-- What a stop of all servers of the directory does, and then another one. -/
structure StopsAll (mode other : StopMode) (site : Site) : Prop where
  /-- It tells how many distinct servers were running. -/
  counted : (site.stopAll mode).1 =
    (site.directory.values.toFinset.filter fun position => site.isRunning position).card
  noneRuns : ∀ position ∈ site.directory.values, (site.stopAll mode).2.isRunning position = false
  /-- Who was running is stopped, and its pool is empty. -/
  stopped : ∀ position ∈ site.directory.values, site.isRunning position = true → ∃ live later,
    site.servers[position]? = some live ∧ (site.stopAll mode).2.servers[position]? = some later ∧
      live.Kin later ∧ later.server.pool.Vacant
  /-- Who was not running, or has no name, is as before. -/
  unchanged : ∀ position, (position ∈ site.directory.values → site.isRunning position = false) →
    (site.stopAll mode).2.servers[position]? = site.servers[position]?
  directory : (site.stopAll mode).2.directory = site.directory
  again : (site.stopAll mode).2.stopAll other = (0, (site.stopAll mode).2)

/-- What a stop of all servers of the directory has come to in some schedule, and then another one in any. -/
structure StopsAllAnyhow (other : StopMode) (site : Site) (count : Nat) (after : Site) : Prop where
  counted : count =
    (site.directory.values.toFinset.filter fun position => site.isRunning position).card
  noneRuns : ∀ position ∈ site.directory.values, after.isRunning position = false
  stopped : ∀ position ∈ site.directory.values, site.isRunning position = true → ∃ live later,
    site.servers[position]? = some live ∧ after.servers[position]? = some later ∧ live.Kin later ∧
      later.server.pool.Vacant
  unchanged : ∀ position ∈ site.directory.values, ∀ live : LiveServer,
    site.servers[position]? = some live → live.server.pool.lifecycle ≠ .running →
      ∃ later, after.servers[position]? = some later ∧ live.Kin later ∧ later.server = live.server
  /-- At a server without a name only its threads have gone on. -/
  unnamed : ∀ position ∉ site.directory.values, LeftAlone position site after
  directory : after.directory = site.directory
  again : ∀ number last, StopsAllBy other after after.directory.values number last → number = 0

/-- What a sweep of all servers of the directory does, and then another one. -/
structure SweepsAll (site : Site) : Prop where
  /-- It tells how many finished workers the distinct servers had together. -/
  counted : site.sweepAll.1 = ∑ position ∈ site.directory.values.toFinset, site.finishedCount position
  reaped : ∀ position ∈ site.directory.values, ∀ live, site.servers[position]? = some live →
    ∃ server, site.sweepAll.2.servers[position]? = some { live with server } ∧ live.server.Reaped server
  unnamed : ∀ position ∉ site.directory.values,
    site.sweepAll.2.servers[position]? = site.servers[position]?
  /-- Connections, names, transports and the time are as before. -/
  others : site.sweepAll.2 = { site with servers := site.sweepAll.2.servers }
  again : site.sweepAll.2.sweepAll = (0, site.sweepAll.2)

/-- In any schedule the registered servers are stopped, and another stop finds nobody running. -/
theorem Sane.stopsAllAnyhow {count : Nat} (sane : site.Sane) (uncalled : site.Uncalled)
    (stops : StopsAllBy mode site site.directory.values count after) (other : StopMode) :
    StopsAllAnyhow other site count after := by
  have anyhow := stops.stopsAnyhow sane sane.known fun position named live found =>
    (uncalled position named live found).unstopped
  have found (position : Nat) (named : position ∈ site.directory.values) :
      ∃ live, site.servers[position]? = some live :=
    ⟨_, List.getElem?_eq_getElem (sane.known position named)⟩
  have noneRuns (position : Nat) (named : position ∈ site.directory.values) :
      after.isRunning position = false := by
    obtain ⟨live, isLive⟩ := found position named
    obtain ⟨later, foundLater, -, behind⟩ := anyhow.stopped position named live isLive
    simp [isRunning, foundLater, behind.stopped]
  constructor
  case counted => exact anyhow.counted
  case noneRuns => exact noneRuns
  case stopped =>
    intro position named isRunning
    obtain ⟨live, isLive, running⟩ := isRunning_eq_true_iff.1 isRunning
    obtain ⟨later, foundLater, kin, behind⟩ := anyhow.stopped position named live isLive
    exact ⟨live, later, isLive, foundLater, kin, behind.vacant running⟩
  case unchanged =>
    intro position named live isLive rests
    obtain ⟨later, foundLater, kin, behind⟩ := anyhow.stopped position named live isLive
    exact ⟨later, foundLater, kin, behind.unchanged rests⟩
  case unnamed => exact anyhow.others
  case directory => exact anyhow.directory
  case again =>
    intro number last stopsAgain
    rw [anyhow.directory] at stopsAgain
    have preserves := stops.stirs.preserves sane.posted
    have again := stopsAgain.stopsAnyhow (sane.preserved preserves)
      (by rw [preserves.size]; exact sane.known) fun position named resident isResident => by
        obtain ⟨live, isLive⟩ := found position named
        exact anyhow.unstopped isLive (uncalled position named live isLive).unstopped isResident
    rw [again.counted, Finset.card_eq_zero, Finset.filter_eq_empty_iff]
    intro position named runs
    cases (noneRuns position (List.mem_toFinset.1 named)).symm.trans runs

theorem Sane.stopsAll (sane : site.Sane) (uncalled : site.Uncalled) (mode other : StopMode) :
    StopsAll mode other site ∧
      StopsAllBy mode site site.directory.values (site.stopAll mode).1 (site.stopAll mode).2 := by
  obtain ⟨stops, unchanged⟩ := stops_of_foldl mode sane site.directory.values sane.known
    fun position named live found => (uncalled position named live found).unstopped
  rw [← stopAll_eq] at stops unchanged
  have anyhow := sane.stopsAllAnyhow uncalled stops other
  refine ⟨⟨anyhow.counted, anyhow.noneRuns, anyhow.stopped, unchanged, anyhow.directory, ?_⟩, stops⟩
  refine stopAll_of_none_running other ?_ ?_
  · rw [anyhow.directory, (stops.stirs.preserves sane.posted).size]
    exact sane.known
  · rw [anyhow.directory]
    exact anyhow.noneRuns

theorem Sane.sweepsAll (sane : site.Sane) (uncalled : site.Uncalled) : SweepsAll site := by
  have sweeps := sweeps_of_foldl sane site.directory.values sane.known uncalled
  rw [← sweepAll_eq] at sweeps
  have reaped (position : Nat) (named : position ∈ site.directory.values) (live : LiveServer)
      (found : site.servers[position]? = some live) :
      site.sweepAll.2.servers[position]? = some { live with server := live.server.swept } := by
    rw [sweeps.servers, found]
    simp [sweptIf, named]
  refine ⟨sweeps.counted, fun position named live found => ?_, fun position unnamed => ?_, sweeps.others, ?_⟩
  · exact ⟨live.server.swept, reaped position named live found, live.server.reaped_swept⟩
  · rw [sweeps.servers]
    cases found : site.servers[position]? <;> simp [sweptIf, unnamed]
  · refine sweepAll_of_none_finished ?_
    rw [sweeps.others]
    intro position named
    obtain ⟨live, found⟩ : ∃ live, site.servers[position]? = some live :=
      ⟨_, List.getElem?_eq_getElem (sane.known position named)⟩
    exact ⟨_, reaped position named live found, live.server.reaped_swept.retired,
      (uncalled position named live found).sweeps⟩

/-- At every site that can come about, whatever its servers do and however many names they have: if no call on
them is in progress, all of them are stopped or swept as if each was named once, and the same call made again
finds nothing left to do. The stops do so in every schedule of theirs, of which the computed one is an
instance. -/
theorem directoryWide_of_arises (arises : site.Arises) (uncalled : site.Uncalled) (mode other : StopMode) :
    StopsAll mode other site ∧ SweepsAll site ∧
      StopsAllBy mode site site.directory.values (site.stopAll mode).1 (site.stopAll mode).2 ∧
      ∀ count after, StopsAllBy mode site site.directory.values count after →
        StopsAllAnyhow other site count after := by
  obtain ⟨stops, schedule⟩ := arises.sane.stopsAll uncalled mode other
  exact ⟨stops, arises.sane.sweepsAll uncalled, schedule,
    fun _ _ stopsBy => arises.sane.stopsAllAnyhow uncalled stopsBy other⟩

/-- Three servers: the first holds a session, a worker of the second has retired, and the third was never
started. Two of them have two names each. -/
private def aliased : Site :=
  let made (protocol : Protocol) : LiveServer :=
    { terms := { forks := protocol.forks }, protocol, message := busyMessage none none }
  let stopped : Site := { servers := [made .echo, made .shared, made .forked] }
  let running := ((stopped.start 0 true).2.start 1 true).2
  let serving := ((running.connect 0 ⟨.network, 7⟩).2.connect 1 ⟨.network, 8⟩).2
  let retired := (serving.receive 1 ⟨.network, 8⟩ .hangUp).2.retireSurplus 1
  { retired with
    directory := {
      entries := [("a", 0), ("b", 1), ("c", 0), ("d", 1), ("e", 2)]
      default := some "c" } }

private theorem arises_aliased : aliased.Arises := by
  have made : Arises _ := ((Arises.empty.made (rfl : LiveServer.new {} .echo none = _)).made
    (rfl : LiveServer.new {} .shared none = _)).made (rfl : LiveServer.new {} .forked none = _)
  have running := (made.stirs (start_stirs _ 0 true)).stirs (start_stirs _ 1 true)
  have serving := (running.stirs (connect_traffic _ 0 ⟨.network, 7⟩).stirs).stirs
    (connect_traffic _ 1 ⟨.network, 8⟩).stirs
  have retired := (serving.stirs (receive_traffic _ 1 ⟨.network, 8⟩ .hangUp).stirs).stirs
    (retireSurplus_traffic _ 1).stirs
  exact retired.named (by decide +kernel)

private theorem uncalled_aliased : aliased.Uncalled := by
  have all : ∀ live ∈ aliased.servers, live.server.closing = none ∧ live.server.clearances = [] ∧
      live.server.sweeps = [] := by decide +kernel
  intro position _ live found
  obtain ⟨closing, clearances, sweeps⟩ := all live (List.mem_of_getElem? found)
  exact ⟨closing, clearances, sweeps⟩

/-- Two servers run under two names each, and count once. So does the worker that has retired. -/
theorem directoryWide_of_aliases :
    aliased.Arises ∧ aliased.Uncalled ∧ (aliased.stopAll .waitClients).1 = 2 ∧ aliased.sweepAll.1 = 1 ∧
      StopsAll .waitClients .interruptClients aliased ∧ SweepsAll aliased ∧
      ∀ count after, StopsAllBy .waitClients aliased aliased.directory.values count after →
        StopsAllAnyhow .interruptClients aliased count after := by
  obtain ⟨stops, sweeps, -, anyhow⟩ :=
    directoryWide_of_arises arises_aliased uncalled_aliased .waitClients .interruptClients
  exact ⟨arises_aliased, uncalled_aliased, by decide +kernel, by decide +kernel, stops, sweeps, anyhow⟩

end Site

end ConnectionPool
