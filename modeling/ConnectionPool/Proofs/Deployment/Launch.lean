import ConnectionPool.Deployment

/-!
Contract: what one launch does to the names of a deployment.

Owns:
- `Site.SameNames` and `Deployment.Drifts`, what a change has to leave alone so that it cannot disturb a
  launch: the directory and the number of servers;
- the turns of a server's workers as such changes;
- `LiveServer.IsNew`, a server that was just made;
- `Deployment.launch_of_listen_error` and `Deployment.launch_of_listen`, the two outcomes of a launch
  whose address, options and name are in order.

Does not own: the order in which servers are launched.
-/

namespace ConnectionPool

namespace Site

/-- The directory and the number of servers are the same. -/
structure SameNames (before after : Site) : Prop where
  directory : after.directory = before.directory
  servers : after.servers.length = before.servers.length

namespace SameNames

theorem refl (site : Site) : SameNames site site :=
  ⟨rfl, rfl⟩

theorem trans {first second third : Site} (earlier : SameNames first second)
    (later : SameNames second third) : SameNames first third :=
  ⟨later.directory.trans earlier.directory, later.servers.trans earlier.servers⟩

/-- A fold keeps the names if each of its steps does. -/
theorem foldl {Item : Type} {step : Site → Item → Site}
    (kept : ∀ site item, SameNames site (step site item)) (items : List Item) (site : Site) :
    SameNames site (items.foldl step site) := by
  induction items generalizing site with
  | nil => exact refl site
  | cons item items inductionHypothesis =>
      exact (kept site item).trans (inductionHypothesis (step site item))

end SameNames

section

variable (site : Site) (position : Nat)

theorem modifyServer_sameNames (change : LiveServer → LiveServer) :
    site.SameNames (site.modifyServer position change) :=
  ⟨rfl, by simp [modifyServer]⟩

theorem modifyLine_sameNames (line : Nat) (change : Line → Line) :
    site.SameNames (site.modifyLine line change) :=
  ⟨rfl, rfl⟩

theorem disengage_sameNames (id : WorkerId) : site.SameNames (site.disengage position id) := by
  unfold disengage
  split
  · exact .refl site
  · split
    · exact .refl site
    · exact (site.modifyLine_sameNames _ _).trans (modifyServer_sameNames _ position _)

theorem refuseLine_sameNames (descriptor : Descriptor) :
    site.SameNames (site.refuseLine position descriptor) := by
  have logged : site.SameNames (site.log position (.create descriptor)) := ⟨rfl, rfl⟩
  unfold refuseLine
  split
  · split
    · exact logged
    · exact ⟨rfl, rfl⟩
  · exact logged

theorem stamp_sameNames (id : WorkerId) : site.SameNames (site.stamp position id) :=
  ⟨rfl, (site.modifyServer_sameNames position _).servers⟩

theorem observe_sameNames (event : Event) : site.SameNames (site.observe position event) := by
  unfold observe
  split
  case h_4 descriptor => exact site.refuseLine_sameNames position descriptor
  case h_5 id descriptor granted =>
    split
    · exact ⟨rfl, (modifyServer_sameNames _ position _).servers⟩
    · exact ⟨rfl, rfl⟩
  case h_6 id runsOn _ => exact site.modifyServer_sameNames position _
  case h_7 id _ _ => exact site.disengage_sameNames position id
  case h_8 id _ => exact site.disengage_sameNames position id
  case h_9 id => exact site.stamp_sameNames position id
  case h_10 id granted =>
    split
    · exact .refl site
    · exact site.stamp_sameNames position id
  all_goals exact ⟨rfl, rfl⟩

theorem turn_sameNames (label : Label) : site.SameNames (site.turn position label).2 := by
  unfold turn
  split
  · exact .refl site
  · split
    · exact .refl site
    · next server events taken =>
        exact (site.modifyServer_sameNames position _).trans
          (.foldl (fun site event => site.observe_sameNames position event) events _)

theorem converse_sameNames (id : WorkerId) (mayContinue : Bool) :
    site.SameNames (site.converse position id mayContinue).2 := by
  unfold converse
  split
  · exact .refl site
  · split
    · split
      · exact .refl site
      · dsimp only
        split
        · exact site.modifyLine_sameNames _ _
        · exact (site.modifyLine_sameNames _ _).trans (modifyServer_sameNames _ position _)
    · exact .refl site

theorem nextTurn_sameNames (id : WorkerId) (worker : Worker) :
    site.SameNames (site.nextTurn position id worker).2 := by
  unfold nextTurn
  split
  case h_2 =>
    split
    · exact .refl site
    · split <;> exact .refl site
  case h_6 => exact site.converse_sameNames position id worker.mayContinue
  all_goals exact .refl site

theorem runWorkerFor_sameNames (id : WorkerId) (fuel : Nat) :
    site.SameNames (site.runWorkerFor position id fuel) := by
  induction fuel generalizing site with
  | zero => exact .refl site
  | succ fuel inductionHypothesis =>
      unfold runWorkerFor
      split
      · exact .refl site
      · next worker isWorker =>
          have chosen := site.nextTurn_sameNames position id worker
          split
          · next same isNone =>
              rw [isNone] at chosen
              exact chosen
          · next label next isSome =>
              rw [isSome] at chosen
              exact chosen.trans ((next.turn_sameNames position label).trans (inductionHypothesis _))

theorem rest_sameNames : site.SameNames (site.rest position) := by
  unfold rest
  split
  · exact .refl site
  · refine .foldl (fun site id => ?_) _ site
    unfold runWorker
    split
    · exact .refl site
    · exact site.runWorkerFor_sameNames position id _

theorem start_sameNames (listens : Bool) : site.SameNames (site.start position listens).2 :=
  (site.turn_sameNames position (.start listens)).trans (rest_sameNames _ position)

end

end Site

/-- A server that speaks the echo protocol and has done nothing yet. -/
structure LiveServer.IsNew (live : LiveServer) : Prop where
  server : live.server = {}
  engagements : live.engagements = []
  protocol : live.protocol = .echo
  isGone : live.isGone = false

/-- With valid options there is a new server. -/
theorem LiveServer.exists_isNew {options : Options} (valid : options.Valid) :
    ∃ live, LiveServer.new options .echo none = .ok live ∧ live.IsNew := by
  simp only [LiveServer.new, (Options.validate_eq_ok_iff options).2 valid]
  exact ⟨_, rfl, ⟨rfl, rfl, rfl, rfl⟩⟩

namespace Deployment

/-- A change that leaves the directory alone and neither adds nor takes away servers: clients come and go,
workers take their turns, servers are stopped and swept, files and listeners of the machine change. -/
structure Drifts (before after : Deployment) : Prop where
  site : before.site.SameNames after.site
  transports : after.transports.length = before.transports.length

theorem Drifts.refl (deployment : Deployment) : deployment.Drifts deployment :=
  ⟨.refl deployment.site, rfl⟩

theorem Drifts.trans {first second third : Deployment} (earlier : first.Drifts second)
    (later : second.Drifts third) : first.Drifts third :=
  ⟨earlier.site.trans later.site, later.transports.trans earlier.transports⟩

theorem obey_drifts (deployment : Deployment) (asked : Nat × Hook) :
    deployment.Drifts (deployment.obey asked) := by
  unfold obey
  split
  · next position =>
      unfold unlisten
      split
      · exact .refl deployment
      · exact ⟨.refl deployment.site, by simp⟩
  all_goals exact ⟨.refl deployment.site, rfl⟩

/-- A call that keeps the names is no more than a drift, whatever it asks of the transports. -/
theorem perform_drifts {Answer : Type} {call : Site → Answer × Site} {deployment : Deployment}
    (kept : deployment.site.SameNames (call deployment.site).2) :
    deployment.Drifts (deployment.perform call).2 := by
  have folded (asked : List (Nat × Hook)) (deployment : Deployment) :
      deployment.Drifts (asked.foldl obey deployment) := by
    induction asked generalizing deployment with
    | nil => exact .refl deployment
    | cons first asked inductionHypothesis =>
        exact (deployment.obey_drifts first).trans (inductionHypothesis _)
  have called : deployment.Drifts
      { deployment with site := { (call deployment.site).2 with journal := [] } } :=
    ⟨⟨kept.directory, kept.servers⟩, rfl⟩
  exact called.trans (folded _ _)

/-- Every server has its transport. -/
def Matched (deployment : Deployment) : Prop :=
  deployment.transports.length = deployment.site.servers.length

theorem Drifts.matched {before after : Deployment} (drift : before.Drifts after)
    (matched : before.Matched) : after.Matched := by
  have servers := drift.site.servers
  have transports := drift.transports
  unfold Matched at matched ⊢
  omega

section

variable (name : String) {address : String} {options : Options} {tls : Option TlsSettings}
  {deployment : Deployment} {parsed : ServerAddress} {transport : Transport}

/-- The end of a launch: a server that started is given its name, and one that did not is dropped. -/
def conclude (position : Nat) : Except ServerError Unit × Deployment → Except LaunchError Nat × Deployment
  | (.error cause, started) => (.error (.server cause), started.drop position)
  | (.ok (), started) => started.register name position

/-- A launch goes as far as the start of a new server when the address, the encryption and the options are
in order. -/
theorem launch_eq_of_prepared (deployment : Deployment)
    (parses : ServerAddress.parse address = .ok parsed)
    (hasTransport : Transport.forAddress? parsed tls = some transport) (valid : options.Valid) :
    ∃ live : LiveServer, live.IsNew ∧
      deployment.launch name address options tls =
        conclude name deployment.site.servers.length
          ((deployment.enroll live transport).start deployment.site.servers.length) := by
  obtain ⟨live, isLive, isNew⟩ := LiveServer.exists_isNew valid
  refine ⟨live, isNew, ?_⟩
  have reads : (ServerAddress.parse address).mapError LaunchError.malformed = .ok parsed := by
    rw [parses]
    rfl
  have builds : (LiveServer.new options .echo none).mapError
      (fun cause => LaunchError.server (.unusable cause)) = .ok live := by
    rw [isLive]
    rfl
  simp only [launch, reads, Transport.forAddress, hasTransport, builds, bind, Except.bind, pure,
    Except.pure]
  rfl

/-- The start of a server that was just taken in depends on nothing but what its transport answers. -/
theorem start_enrolled {live : LiveServer} (isNew : live.server = {}) (matched : deployment.Matched) :
    (deployment.enroll live transport).start deployment.site.servers.length =
      match transport.listen deployment.machine with
      | (.error cause, machine) =>
          (.error (.listen cause), ({ deployment.enroll live transport with machine }.perform
            (Site.start deployment.site.servers.length false)).2)
      | (.ok listening, machine) =>
          (.ok (), ({ deployment.enroll live transport with
              machine
              transports := (deployment.enroll live transport).transports.set
                deployment.site.servers.length listening }.perform
            (Site.start deployment.site.servers.length true)).2) := by
  have isLast : (deployment.enroll live transport).site.servers[deployment.site.servers.length]? =
      some { live with isHeld := false } := by
    simp [enroll]
  have isLastTransport :
      (deployment.enroll live transport).transports[deployment.site.servers.length]? =
        some transport := by
    rw [← matched]
    simp [enroll]
  have stopped : live.server.pool.lifecycle = .stopped := by rw [isNew]
  unfold start
  simp only [isLast, isLastTransport, stopped]
  have sameMachine : (deployment.enroll live transport).machine = deployment.machine := rfl
  rw [sameMachine]
  cases transport.listen deployment.machine with
  | mk listened machine => cases listened <;> rfl

/-- Where the transport cannot listen, that is why the launch fails. -/
theorem launch_of_listen_error {cause : TransportError}
    (parses : ServerAddress.parse address = .ok parsed)
    (hasTransport : Transport.forAddress? parsed tls = some transport) (valid : options.Valid)
    (matched : deployment.Matched) (refused : (transport.listen deployment.machine).1 = .error cause) :
    (deployment.launch name address options tls).1 = .error (.server (.listen cause)) := by
  obtain ⟨live, isNew, isLaunch⟩ := launch_eq_of_prepared name deployment parses hasTransport valid
  rw [isLaunch, start_enrolled isNew.server matched]
  generalize transport.listen deployment.machine = answer at refused ⊢
  obtain ⟨listened, machine⟩ := answer
  simp only at refused
  subst refused
  rfl

/-- A name that is new is added to the directory, and nothing else changes. -/
theorem register_of_new (position : Nat) (newName : deployment.site.directory.find? name = none) :
    deployment.register name position =
      (.ok position, { deployment with site := { deployment.site with
        directory := {
          entries := Directory.place name position deployment.site.directory.entries
          default := deployment.site.directory.default.or (some name) } } }) := by
  simp only [register, Site.addName, Directory.add, newName, Except.map]

/-- Where the transport listens and the name is new, the launch succeeds, and the directory has gained the
name of the new server and nothing else. -/
theorem launch_of_listen {listening : Transport} (parses : ServerAddress.parse address = .ok parsed)
    (hasTransport : Transport.forAddress? parsed tls = some transport) (valid : options.Valid)
    (matched : deployment.Matched) (newName : deployment.site.directory.find? name = none)
    (listens : (transport.listen deployment.machine).1 = .ok listening) :
    ∃ after, deployment.launch name address options tls = (.ok deployment.site.servers.length, after) ∧
      after.Matched ∧
      after.site.directory = {
        entries := Directory.place name deployment.site.servers.length
          deployment.site.directory.entries
        default := deployment.site.directory.default.or (some name) } := by
  obtain ⟨live, isNew, isLaunch⟩ := launch_eq_of_prepared name deployment parses hasTransport valid
  rw [isLaunch, start_enrolled isNew.server matched]
  generalize transport.listen deployment.machine = answer at listens ⊢
  obtain ⟨listened, machine⟩ := answer
  simp only at listens
  subst listens
  let heard : Deployment := { deployment.enroll live transport with
    machine
    transports := (deployment.enroll live transport).transports.set deployment.site.servers.length
      listening }
  let started := (heard.perform (Site.start deployment.site.servers.length true)).2
  have drifted : heard.Drifts started :=
    perform_drifts (Site.start_sameNames _ _ _)
  have sameDirectory : started.site.directory = deployment.site.directory := drifted.site.directory
  have heardMatched : heard.Matched := by
    simpa [Matched, heard, enroll] using matched
  have registered := register_of_new name deployment.site.servers.length (sameDirectory ▸ newName)
  exact ⟨_, registered, drifted.matched heardMatched, by rw [sameDirectory]⟩

end

end Deployment

end ConnectionPool
