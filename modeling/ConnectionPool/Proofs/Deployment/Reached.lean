import ConnectionPool.Proofs.Deployment.Arrival
import ConnectionPool.Proofs.Site.Stirs
import ConnectionPool.Proofs.Site.Tended

/-!
Contract: the deployments that can come about.

A deployment begins on any machine without servers. Servers are taken in, they take any turns, stops hang
up, clients come and go, the machine and the transports change in any way, and the directory comes to name
any of the servers. Whatever call of the host is made, it leads from such a deployment to another one.

Owns:
- `Site.Staffed`, what everything that goes on at a site leaves as it is;
- `Deployment.Reached`, and that every such deployment is `Deployment.Coherent`;
- that the calls of the host other than launches lead from such deployments to such deployments.

Does not own: what the calls answer.
-/

namespace ConnectionPool

namespace Site

/-! ## Staffed sites -/

/-- Every worker with a channel knows its line, and every open line has such a worker. -/
structure Staffed (site : Site) : Prop where
  manned : site.Manned
  tended : site.Tended

variable {site before after : Site}

theorem Happens.tended (happens : before.Happens after) (staffed : before.Staffed) :
    after.Tended := by
  cases happens with
  | turn position label => exact staffed.tended.turn staffed.manned.posted position label
  | converse position id mayContinue => exact staffed.tended.converse position id mayContinue
  | farEnd number change lasts => exact staffed.tended.modifyLine fun line _ => lasts line
  | elapse => exact staffed.tended

theorem Stir.tended (stir : before.Stir after) (staffed : before.Staffed) : after.Tended := by
  cases stir with
  | happens happens => exact happens.tended staffed
  | turn position label => exact staffed.tended.turn staffed.manned.posted position label
  | hangUp position => exact staffed.tended.hangUpAll position
  | mark position => exact staffed.tended.modifyServer fun _ _ _ tends => tends

/-- Whatever goes on, the site stays staffed and keeps its names. -/
theorem Stirs.keeps (stirs : before.Stirs after) (staffed : before.Staffed) :
    after.Staffed ∧ before.SameNames after := by
  induction stirs with
  | refl => exact ⟨staffed, .refl before⟩
  | tail _ stir inductionHypothesis =>
      obtain ⟨still, same⟩ := inductionHypothesis
      have preserves := stir.preserves still.manned.posted
      have manned := manned_iff.2 ⟨preserves.posted, preserves.echoes still.manned.echoes⟩
      exact ⟨⟨manned, stir.tended still⟩, same.trans ⟨preserves.directory, preserves.size⟩⟩

end Site

namespace Deployment

variable {deployment before after : Deployment}

/-! ## Deployments -/

/-- A deployment that can come about. -/
inductive Reached : Deployment → Prop where
  | empty (machine : Machine) : Reached { machine }
  /-- A new server is taken in. -/
  | enrolled {before : Deployment} {live : LiveServer} (earlier : Reached before) (isNew : live.IsNew)
      (transport : Transport) : Reached (before.enroll live transport)
  /-- Something goes on at the site, and around it. -/
  | goesOn {before : Deployment} {busy : Site} (earlier : Reached before)
      (stirs : before.site.Stirs busy) (machine : Machine) (transports : List Transport)
      (visitors : List Visitor) (same : transports.length = before.transports.length) :
      Reached { machine, site := { busy with journal := [] }, transports, visitors }
  /-- The directory comes to name any of the servers. -/
  | named {before : Deployment} {directory : Directory Nat} (earlier : Reached before)
      (known : ∀ position ∈ directory.values, position < before.site.servers.length) :
      Reached { before with site := { before.site with directory } }

/-- No call is under way, every open line is tended, and the directory names servers that there are. -/
structure Coherent (deployment : Deployment) : Prop extends Orderly deployment where
  tended : deployment.site.Tended
  known : ∀ position ∈ deployment.site.directory.values, position < deployment.site.servers.length

theorem Coherent.staffed (coherent : deployment.Coherent) : deployment.site.Staffed :=
  ⟨coherent.manned, coherent.tended⟩

/-- The next position is still without a name. -/
theorem Coherent.next_unnamed (coherent : deployment.Coherent) :
    deployment.site.servers.length ∉ deployment.site.directory.values :=
  fun named => Nat.lt_irrefl _ (coherent.known _ named)

theorem Coherent.empty (machine : Machine) : Coherent { machine } where
  matched := rfl
  manned := by
    intro position live found
    cases List.getElem?_nil.symm.trans found
  quiet := rfl
  tended := by
    intro number line here
    cases List.getElem?_nil.symm.trans here
  known := fun position named => absurd named List.not_mem_nil

theorem Coherent.enroll {live : LiveServer} (coherent : before.Coherent) (isNew : live.IsNew)
    (transport : Transport) : (before.enroll live transport).Coherent := by
  have taken : TakenIn live transport before (before.enroll live transport) := ⟨rfl, rfl⟩
  have gains := taken.gains isNew coherent.toOrderly
  refine { gains.orderly with tended := ?_, known := fun position named => ?_ }
  · refine coherent.tended.keep (fun _ line here isOpen => ⟨line, here, rfl, isOpen⟩) ?_
    intro position resident found
    refine ⟨resident, ?_, fun _ => id⟩
    exact (List.getElem?_append_left (List.getElem?_eq_some_iff.1 found).1).trans found
  · rw [gains.size]
    exact Nat.lt_succ_of_lt (coherent.known position named)

theorem Coherent.goesOn {busy : Site} (coherent : before.Coherent) (stirs : before.site.Stirs busy)
    (machine : Machine) {transports : List Transport} (visitors : List Visitor)
    (same : transports.length = before.transports.length) :
    Coherent { machine, site := { busy with journal := [] }, transports, visitors } := by
  obtain ⟨staffed, names⟩ := Site.Stirs.keeps stirs coherent.staffed
  constructor
  case toOrderly =>
    exact ⟨same.trans (coherent.matched.trans names.servers.symm), staffed.manned, rfl⟩
  case tended => exact staffed.tended
  case known =>
    intro position named
    have wasNamed : position ∈ before.site.directory.values := names.directory ▸ named
    exact names.servers ▸ coherent.known position wasNamed

/-- Every deployment that can come about is coherent. -/
theorem Reached.coherent (reached : deployment.Reached) : deployment.Coherent := by
  induction reached with
  | empty machine => exact .empty machine
  | enrolled _ isNew transport inductionHypothesis => exact inductionHypothesis.enroll isNew transport
  | goesOn _ stirs machine transports visitors same inductionHypothesis =>
      exact inductionHypothesis.goesOn stirs machine visitors same
  | named _ known inductionHypothesis =>
      exact ⟨⟨inductionHypothesis.matched, inductionHypothesis.manned, inductionHypothesis.quiet⟩,
        inductionHypothesis.tended, known⟩

/-! ## Calls of the host -/

/-- A call on the site, with what it asks of the transports. -/
theorem Reached.perform {Answer : Type} {call : Site → Answer × Site} (reached : before.Reached)
    (stirs : before.site.Stirs (call before.site).2) : (before.perform call).2.Reached := by
  have whole := reached.goesOn stirs (before.perform call).2.machine
    (before.perform call).2.transports (before.perform call).2.visitors (transports_perform call before)
  rw [← site_perform call before] at whole
  exact whole

/-- The machine and the transports change. -/
theorem Reached.around (reached : before.Reached) (machine : Machine) {transports : List Transport}
    (same : transports.length = before.transports.length) :
    Reached { before with machine, transports } := by
  have whole := reached.goesOn .refl machine transports before.visitors same
  have quiet : ({ before.site with journal := [] } : Site) = before.site := by
    rw [← reached.coherent.quiet]
  rwa [quiet] at whole

theorem Reached.serves (reached : before.Reached) (serves : before.Serves after) : after.Reached := by
  induction serves with
  | refl => exact reached
  | @tail middle after _ served inductionHypothesis =>
      obtain ⟨⟨busy, traffic, isAfter⟩, transports⟩ := served
      have whole := inductionHypothesis.goesOn (Site.Traffic.stirs traffic) after.machine after.transports
        after.visitors (congrArg List.length transports)
      rwa [← isAfter] at whole

theorem Reached.start (reached : before.Reached) (position : Nat) :
    (before.start position).2.Reached := by
  unfold Deployment.start
  split
  · next live transport _ _ =>
      split
      · exact reached
      · exact reached
      · dsimp only
        split
        · exact (reached.around _ rfl).perform (Site.start_stirs _ position false)
        · exact (reached.around _ (List.length_set ..)).perform (Site.start_stirs _ position true)
  · exact reached

theorem Reached.stop (reached : before.Reached) (position : Nat) (mode : StopMode) :
    (before.stop position mode).2.Reached :=
  reached.perform (before.site.stopNow_stirs position mode)

theorem Reached.drop (reached : before.Reached) (position : Nat) : (before.drop position).Reached :=
  @Reached.perform before Unit (fun site => ((), site.removeUnreferenced position)) reached
    (before.site.removeUnreferenced_stirs position)

theorem Reached.stopAll (reached : before.Reached) (mode : StopMode) :
    (before.stopAll mode).2.Reached :=
  reached.perform (before.site.stopAll_stirs mode)

theorem Reached.sweepAll (reached : before.Reached) : before.sweepAll.2.Reached :=
  reached.perform (Site.Traffic.stirs (Site.sweepAll_traffic before.site))

theorem Reached.register (reached : before.Reached) (name : String) {position : Nat}
    (inside : position < before.site.servers.length) : (before.register name position).2.Reached := by
  cases found : before.site.directory.find? name with
  | none =>
      rw [register_of_new name position found]
      refine reached.named fun other listed => ?_
      rcases List.mem_cons.1 (((Directory.place_perm name position _).map Prod.snd).mem_iff.1 listed) with
        rfl | listed
      · exact inside
      · exact reached.coherent.known other listed
  | some taken =>
      simp only [Deployment.register, Site.addName, Directory.add, found, Except.map]
      exact reached.drop position

/-- A directory that has lost one of its names. -/
theorem Reached.unnamed {name : String} {position : Nat} {rest : Directory Nat} (reached : before.Reached)
    (removed : before.site.directory.remove name = some (position, rest)) :
    Reached { before with site := { before.site with directory := rest } } := by
  obtain ⟨taken, -, isRest⟩ := Option.map_eq_some_iff.1 removed
  cases isRest
  refine reached.named fun other listed => ?_
  obtain ⟨entry, member, rfl⟩ := List.mem_map.1 listed
  exact reached.coherent.known entry.2 (List.mem_map_of_mem (List.mem_of_mem_filter member))

theorem Reached.removeName (reached : before.Reached) (name : String) :
    (before.removeName name).2.Reached := by
  cases removed : before.site.directory.remove name with
  | none =>
      refine reached.perform ?_
      simp only [Site.removeName, removed]
      exact .refl
  | some answer =>
      have whole := (reached.unnamed removed).drop answer.1
      simpa only [Deployment.removeName, Deployment.drop, Deployment.perform, Site.removeName, removed]
        using whole

theorem Reached.retire (reached : before.Reached) (name : String) (mode : StopMode) :
    (before.retire name mode).Reached := by
  unfold Deployment.retire
  split
  · exact reached
  · next position rest removed => exact ((reached.unnamed removed).stop position mode).drop position

theorem Reached.abandon (reached : before.Reached) : before.abandon.Reached :=
  @Reached.perform { before with site := { before.site with directory := {} } } Unit
    (fun site => ((), before.site.directory.values.foldl Site.removeUnreferenced site))
    (reached.named nofun) (Site.removeAll_stirs _ _)

end Deployment

end ConnectionPool
