import ConnectionPool.Proofs.Site.Lives

/-!
Contract: anything that goes on at a site.

Servers take any turns, those of starts and stops too; sessions go on, far ends send and hang up, time passes,
servers are given up. Whatever it is, the workers stay at their posts, every server stays in one of the states
that its turns lead to, and names and servers stay as many as they are.

Owns:
- `Site.Stirs`, anything that goes on at a site, and the calls that are no more than that;
- `Site.WhileStopping`, what goes on from the begin of a stop to its answer if nobody else calls;
- `Site.Preserves`, what it leaves as it is.

Does not own: new servers and new names.
-/

namespace ConnectionPool

namespace Site

/-! ## Anything that goes on -/

/-- Something that happens at a site. -/
inductive Stir (site : Site) : Site → Prop where
  | happens {after : Site} (happens : site.Happens after) : Stir site after
  /-- A server takes any turn, one of a start or of a stop too. -/
  | turn (position : Nat) (label : Label) : Stir site (site.turn position label).2
  /-- The far ends of a server's connections hang up. -/
  | hangUp (position : Nat) : Stir site (site.hangUpAll position)
  | mark (position : Nat) : Stir site (site.mark position)

/-- Anything that goes on at a site. -/
abbrev Stirs : Site → Site → Prop :=
  Relation.ReflTransGen Stir

/-- Something that happens while the server at a position is being stopped and nobody else calls. -/
inductive Stopping (position : Nat) (site : Site) : Site → Prop where
  | labours {after : Site} (labours : site.Labours after) : Stopping position site after
  /-- The stop takes a turn, whichever it may before it answers. -/
  | turn (label : Label) (ofStop : label.isOfStop = true) :
      Stopping position site (site.turn position label).2

/-- Whatever goes on while the server at a position is being stopped: the turns of the stop, and between
any two of them those of all threads. -/
abbrev WhileStopping (position : Nat) : Site → Site → Prop :=
  Relation.ReflTransGen (Stopping position)

/-! ## What is left as it is -/

/-- Every server is sound. -/
def Sound (site : Site) : Prop :=
  ∀ (position : Nat) (live : LiveServer), site.servers[position]? = some live →
    Server.Sound live.terms live.server

/-- What goes on at a site leaves all this as it is. -/
structure Preserves (before after : Site) : Prop where
  posted : after.Posted
  sound : before.Sound → after.Sound
  echoes : before.Echoes → after.Echoes
  directory : after.directory = before.directory
  size : after.servers.length = before.servers.length

namespace Preserves

variable {site before middle after : Site} {position : Nat} {turns : List Turn} {asked : List Hook}

theorem refl (posted : site.Posted) : Preserves site site :=
  ⟨posted, id, id, rfl, rfl⟩

theorem trans (earlier : Preserves before middle) (later : Preserves middle after) :
    Preserves before after where
  posted := later.posted
  sound := later.sound ∘ earlier.sound
  echoes := later.echoes ∘ earlier.echoes
  directory := later.directory.trans earlier.directory
  size := later.size.trans earlier.size

theorem of_moves (moves : Moves position turns asked before after) (posted : after.Posted) :
    Preserves before after where
  posted := posted
  sound := fun sound other live found => by
    by_cases same : other = position
    · subst same
      have inside := (List.getElem?_eq_some_iff.1 found).1
      rw [moves.size] at inside
      obtain ⟨later, foundLater, kin, path⟩ := moves.server _ (List.getElem?_eq_getElem inside)
      cases found.symm.trans foundLater
      rw [kin.terms]
      exact path.sound (sound other _ (List.getElem?_eq_getElem inside))
    · rw [moves.others other same] at found
      exact sound other live found
  echoes := moves.echoes
  directory := moves.directory
  size := moves.size

theorem of_works (works : Works before after) : Preserves before after where
  posted := works.posted
  sound := fun sound other live found => by
    have inside := (List.getElem?_eq_some_iff.1 found).1
    rw [works.size] at inside
    obtain ⟨later, turns, foundLater, kin, path, -⟩ :=
      works.servers other _ (List.getElem?_eq_getElem inside)
    cases found.symm.trans foundLater
    rw [kin.terms]
    exact path.sound (sound other _ (List.getElem?_eq_getElem inside))
  echoes := works.echoes
  directory := works.directory
  size := works.size

/-- Something else about a server changes than its state and what its workers do. -/
theorem modifyServer {change : LiveServer → LiveServer} (posted : site.Posted) (position : Nat)
    (server : ∀ live, (change live).server = live.server)
    (engagements : ∀ live, (change live).engagements = live.engagements)
    (kind : ∀ live, (change live).terms = live.terms ∧ (change live).protocol = live.protocol) :
    Preserves site (site.modifyServer position change) where
  posted := posted.modifyServer position server engagements
  sound := fun sound other live found => by
    rw [getElem?_modifyServer] at found
    obtain ⟨earlier, here, rfl⟩ := Option.map_eq_some_iff.1 found
    have own := sound other earlier here
    split
    · rwa [(kind earlier).1, server]
    · exact own
  echoes := fun echoes => echoes.modifyServer fun live _ own => own.of_eq (kind live).2 (engagements live)
  directory := rfl
  size := by simp [Site.modifyServer]

end Preserves

variable {site before after : Site}

theorem Stir.preserves (stir : before.Stir after) (posted : before.Posted) : Preserves before after := by
  cases stir with
  | happens happens => exact .of_works (happens.works posted)
  | turn position label =>
      obtain ⟨turns, advances, -⟩ := exists_advances_turn posted position label
      exact .of_moves advances.toMoves advances.posted
  | hangUp position =>
      obtain ⟨moves, stays, -⟩ := hangUpAll_spec position posted
      exact .of_moves moves stays
  | mark position =>
      exact .modifyServer posted position (fun _ => rfl) (fun _ => rfl) fun _ => ⟨rfl, rfl⟩

theorem Stirs.preserves (stirs : before.Stirs after) (posted : before.Posted) :
    Preserves before after := by
  induction stirs with
  | refl => exact .refl posted
  | tail _ stir inductionHypothesis =>
      exact inductionHypothesis.trans (stir.preserves inductionHypothesis.posted)

theorem Traffic.stirs (traffic : before.Traffic after) : before.Stirs after :=
  Relation.ReflTransGen.mono (fun _ _ happens => Stir.happens happens) _ _ traffic

theorem Labour.stirs (labour : before.Labour after) : before.Stirs after :=
  (Labour.traffic labour).stirs

variable {position : Nat}

theorem Labour.whileStopping (labour : before.Labour after) (position : Nat) :
    WhileStopping position before after :=
  Relation.ReflTransGen.mono (fun _ _ labours => Stopping.labours labours) _ _ labour

theorem WhileStopping.stirs (goesOn : WhileStopping position before after) : before.Stirs after := by
  refine Relation.ReflTransGen.mono (fun _ _ stopping => ?_) _ _ goesOn
  cases stopping with
  | labours labours => exact .happens labours.happens
  | turn label => exact .turn position label

/-! ## Calls -/

section Calls

variable (site : Site) (position : Nat)

theorem start_stirs (listens : Bool) : site.Stirs (site.start position listens).2 :=
  .head (.turn position (.start listens)) (rest_traffic _ position).stirs

theorem turns_whileStopping (labels : List Label) (ofStop : ∀ label ∈ labels, label.isOfStop = true) :
    WhileStopping position site (site.turns position labels) := by
  induction labels generalizing site with
  | nil => exact .refl
  | cons label labels inductionHypothesis =>
      obtain ⟨here, behind⟩ := List.forall_mem_cons.1 ofStop
      exact .head (.turn label here) (inductionHypothesis _ behind)

/-- A stop that waits no more ends the run, closes what waited and takes its last turn. -/
theorem finishStop_eq : ∃ ended, WhileStopping position site ended ∧
    site.finishStop position = (ended.turn position (.endStop 0)).2 := by
  have joins (ids : List WorkerId) (site : Site) : WhileStopping position site
      (ids.foldl (fun site id => site.turns position [.claim id, .joined]) site) := by
    induction ids generalizing site with
    | nil => exact .refl
    | cons id ids inductionHypothesis =>
        exact (site.turns_whileStopping position _ (by simp [Label.isOfStop])).trans (inductionHypothesis _)
  unfold finishStop
  dsimp only
  rw [turns_append]
  refine ⟨_, (joins _ site).trans (turns_whileStopping _ position _ fun label member => ?_), rfl⟩
  simp only [List.mem_cons, List.mem_replicate] at member
  rcases member with rfl | ⟨-, rfl⟩ <;> rfl

theorem finishStop_stirs : site.Stirs (site.finishStop position) := by
  obtain ⟨ended, goesOn, isLast⟩ := site.finishStop_eq position
  rw [isLast]
  exact (WhileStopping.stirs goesOn).tail (.turn position _)

theorem proceedStop_stirs : site.Stirs (site.proceedStop position) := by
  unfold proceedStop
  split
  · exact .refl
  · split
    · exact site.finishStop_stirs position
    · exact .refl

/-- A stop that does not answer at once goes on to its last turn, whether sessions hold it up or not. -/
theorem stopNow_eq (mode : StopMode) (begins : (site.turn position (.beginStop caller mode)).1 = []) :
    ∃ ended, WhileStopping position (site.turn position (.beginStop caller mode)).2 ended ∧
      (site.stopNow position mode).2 = (ended.turn position (.endStop 0)).2 := by
  simp only [stopNow, stop, begins, List.isEmpty_nil, if_true]
  generalize (site.turn position (.beginStop caller mode)).2 = began
  have collected := began.turns_whileStopping position [.unlisten, .collect] (by simp [Label.isOfStop])
  generalize began.turns position [.unlisten, .collect] = now at collected ⊢
  have told := collected.trans (now.turns_whileStopping position
    ((now.heldByStop position).map Label.signal) (by simp [Label.isOfStop]))
  generalize now.turns position ((now.heldByStop position).map Label.signal) = middle at told ⊢
  have rested := told.trans (Labour.whileStopping (middle.rest_labour position) position)
  generalize middle.rest position = resting at rested ⊢
  cases resting.canFinishStop position with
  | true =>
      obtain ⟨ended, goesOn, isLast⟩ := resting.finishStop_eq position
      exact ⟨ended, rested.trans goesOn, isLast⟩
  | false =>
      have released := Labour.whileStopping ((resting.hangUpAll_labour position).trans
        (rest_labour _ position)) position
      obtain ⟨ended, goesOn, isLast⟩ := ((resting.hangUpAll position).rest position).finishStop_eq position
      exact ⟨ended, (rested.trans released).trans goesOn, isLast⟩

theorem stopNow_stirs (mode : StopMode) : site.Stirs (site.stopNow position mode).2 := by
  have begun : site.Stirs (site.turn position (.beginStop caller mode)).2 := .single (.turn _ _)
  cases begins : (site.turn position (.beginStop caller mode)).1 with
  | nil =>
      obtain ⟨ended, goesOn, isLast⟩ := site.stopNow_eq position mode begins
      rw [isLast]
      exact (begun.trans (WhileStopping.stirs goesOn)).tail (.turn position _)
  | cons event events =>
      simp only [stopNow, stop, begins, List.isEmpty_cons, Bool.false_eq_true, if_false]
      exact begun

theorem removeUnreferenced_stirs : site.Stirs (site.removeUnreferenced position) := by
  unfold removeUnreferenced
  split
  · exact .refl
  · split
    · exact .refl
    · exact (site.stopNow_stirs position .interruptClients).tail (.mark position)

theorem stopAll_stirs (mode : StopMode) : site.Stirs (site.stopAll mode).2 := by
  unfold stopAll
  generalize 0 = total
  generalize site.directory.values = positions
  induction positions generalizing site total with
  | nil => exact .refl
  | cons position positions inductionHypothesis =>
      exact (site.stopNow_stirs position mode).trans (inductionHypothesis _ _)

theorem removeAll_stirs (positions : List Nat) :
    site.Stirs (positions.foldl removeUnreferenced site) := by
  induction positions generalizing site with
  | nil => exact .refl
  | cons position positions inductionHypothesis =>
      exact (site.removeUnreferenced_stirs position).trans (inductionHypothesis _)

end Calls

end Site

end ConnectionPool
