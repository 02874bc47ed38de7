import ConnectionPool.Proofs.Deployment.Hosting

/-!
Contract: what a launch does to the servers of a deployment.

A launch whose address, options and name are in order makes one new server, with the next number. Where its
transport listens it is hosted; where it cannot, the server is gone again and never listened. Either way the
servers that were there go on as they were.

Owns:
- `Deployment.Gains`, one more server beside those that go on;
- `Deployment.Hosts.launch_of_listen` and `Deployment.Hosts.launch_of_listen_error`.

Does not own: what else a launch may be refused for.
-/

namespace ConnectionPool

/-- Nobody works at a new server yet. -/
theorem LiveServer.IsNew.manned {live : LiveServer} (isNew : live.IsNew) (position : Nat)
    (lines : List Line) : live.Manned position lines := by
  refine LiveServer.manned_iff.2 ⟨.of_new isNew.server isNew.engagements position lines, isNew.protocol, ?_⟩
  rw [isNew.engagements]
  nofun

namespace Deployment

variable {deployment before middle after : Deployment} {name address : String} {options : Options}
  {tls : Option TlsSettings} {parsed : ServerAddress} {transport : Transport} {live : LiveServer}
  {hosted : List (String × Nat)}

/-! ## One more server -/

/-- There is one more server, with the next number; the others went on as they were. -/
structure Gains (before after : Deployment) : Prop where
  orderly : after.Orderly
  size : after.site.servers.length = before.site.servers.length + 1
  others : ∀ other < before.site.servers.length, Spares other before after

/-- Whatever is done next with the new server. -/
theorem Gains.concerned (gains : Gains before middle)
    (concerns : Concerns [before.site.servers.length] middle after) : Gains before after where
  orderly := concerns.orderly
  size := concerns.drift.site.servers.trans gains.size
  others := fun other old =>
    (gains.others other old).trans (concerns.others other (by simpa using Nat.ne_of_lt old))

/-- Nobody has the next number yet. -/
theorem Hosts.next (hosts : deployment.Hosts hosted) :
    deployment.site.servers.length ∉ hosted.map Prod.snd := by
  intro taken
  obtain ⟨entry, member, same⟩ := List.mem_map.1 taken
  have inside := (hosts.serving entry member).inside
  omega

/-- The new server has ended already. -/
theorem Hosts.gain_over (hosts : before.Hosts hosted) (gains : Gains before after)
    (directory : after.site.directory = before.site.directory) {calls : List (StopMode × Bool)}
    (ended : after.Over before.site.servers.length calls) : after.Hosts hosted where
  orderly := gains.orderly
  listed := by
    rw [directory]
    exact hosts.listed
  names := hosts.names
  positions := hosts.positions
  serving := fun entry member =>
    (hosts.serving entry member).spared (gains.others _ (hosts.serving entry member).inside)
  ended := by
    intro position inside outside
    rw [gains.size, Nat.lt_succ_iff_lt_or_eq] at inside
    rcases inside with old | rfl
    · obtain ⟨earlier, wasEnded⟩ := hosts.ended position old outside
      exact ⟨earlier, wasEnded.spared (gains.others position old)⟩
    · exact ⟨calls, ended⟩

/-- The new server serves under a new name. -/
theorem Hosts.gain_serving (hosts : before.Hosts hosted) (gains : Gains before after)
    (newName : name ∉ hosted.map Prod.fst)
    (listed : after.site.directory.entries.Perm
      ((name, before.site.servers.length) :: before.site.directory.entries))
    (serving : after.Serving before.site.servers.length) :
    after.Hosts (hosted ++ [(name, before.site.servers.length)]) where
  orderly := gains.orderly
  listed := listed.trans ((hosts.listed.cons _).trans (List.perm_append_singleton _ _).symm)
  names := by
    rw [List.map_append, List.map_singleton, ← List.concat_eq_append]
    exact hosts.names.concat newName
  positions := by
    rw [List.map_append, List.map_singleton, ← List.concat_eq_append]
    exact hosts.positions.concat hosts.next
  serving := by
    intro entry member
    rcases List.mem_append.1 member with old | last
    · exact (hosts.serving entry old).spared (gains.others _ (hosts.serving entry old).inside)
    · obtain rfl := List.mem_singleton.1 last
      exact serving
  ended := by
    intro position inside outside
    rw [List.map_append, List.mem_append, not_or] at outside
    rw [gains.size, Nat.lt_succ_iff_lt_or_eq] at inside
    rcases inside with old | rfl
    · obtain ⟨calls, wasEnded⟩ := hosts.ended position old outside.1
      exact ⟨calls, wasEnded.spared (gains.others position old)⟩
    · exact absurd (List.mem_singleton_self _) outside.2

/-! ## Taking in and starting -/

/-- A server was taken in under the next number, with a transport and with whatever the machine became. It
has not been started. -/
structure TakenIn (live : LiveServer) (transport : Transport) (before after : Deployment) : Prop where
  site : after.site = (before.enroll live transport).site
  transports : after.transports = before.transports ++ [transport]

namespace TakenIn

variable (taken : TakenIn live transport before after)

include taken

theorem found :
    after.site.servers[before.site.servers.length]? = some { live with isHeld := false } := by
  rw [taken.site]
  simp [enroll]

theorem listens? (matched : before.Matched) :
    after.listens? before.site.servers.length = some transport.isListening := by
  rw [Deployment.listens?, taken.transports, ← matched]
  simp

theorem manned (isNew : live.IsNew) (manned : before.site.Manned) : after.site.Manned := by
  intro position resident found
  rw [taken.site] at found ⊢
  rcases Nat.lt_or_ge position before.site.servers.length with old | new
  · have earlier : before.site.servers[position]? = some resident :=
      (List.getElem?_append_left old).symm.trans found
    exact manned position resident earlier
  · have last : [{ live with isHeld := false }][position - before.site.servers.length]? =
        some resident := (List.getElem?_append_right new).symm.trans found
    obtain rfl := List.mem_singleton.1 (List.mem_of_getElem? last)
    have likewise : LiveServer.IsNew { live with isHeld := false } :=
      ⟨isNew.server, isNew.engagements, isNew.protocol, isNew.isGone⟩
    exact likewise.manned position _

theorem gains (isNew : live.IsNew) (orderly : before.Orderly) : Gains before after where
  size := by
    rw [taken.site]
    simp [enroll]
  orderly := {
    matched := by
      rw [Matched, taken.transports, taken.site, List.length_append, orderly.matched]
      simp [enroll]
    manned := taken.manned isNew orderly.manned
    quiet := by
      rw [taken.site]
      exact orderly.quiet }
  others := fun other old => {
    goes := .of_eq (by
      rw [taken.site]
      exact List.getElem?_append_left old)
    listens := by
      rw [Deployment.listens?, taken.transports, List.getElem?_append_left (orderly.matched ▸ old),
        Deployment.listens?] }

end TakenIn

/-- What the start of a new server that was taken in leaves to the others, and what it asks of its transport:
nothing. -/
theorem start_concerns {position : Nat} {listens : Bool} (orderly : deployment.Orderly)
    (beside : Site.StartsBeside position deployment.site (deployment.site.start position listens).2) :
    Concerns [position] deployment (deployment.perform (Site.start position listens)).2 ∧
      (deployment.perform (Site.start position listens)).2.listens? position =
        deployment.listens? position := by
  refine ⟨concerns_of_beside _ orderly beside.toBeside, ?_⟩
  rw [listens?_perform, if_neg fun asks => ?_]
  have there := beside.keeps position asks
  rw [orderly.quiet] at there
  cases there

section

variable (name) (hosts : deployment.Hosts hosted)
  (parses : ServerAddress.parse address = .ok parsed)
  (hasTransport : Transport.forAddress? parsed tls = some transport) (valid : options.Valid)

include hosts parses hasTransport valid

/-- Where the transport cannot listen, nothing is hosted that was not hosted before. -/
theorem Hosts.launch_of_listen_error {cause : TransportError}
    (refused : (transport.listen deployment.machine).1 = .error cause) :
    ∃ after, deployment.launch name address options tls = (.error (.server (.listen cause)), after) ∧
      after.Hosts hosted := by
  obtain ⟨live, isNew, isLaunch⟩ := launch_eq_of_prepared name deployment parses hasTransport valid
  rw [isLaunch, start_enrolled isNew.server hosts.orderly.matched]
  generalize transport.listen deployment.machine = answer at refused ⊢
  obtain ⟨listened, machine⟩ := answer
  simp only at refused
  subst refused
  let enrolled : Deployment := { deployment.enroll live transport with machine }
  have taken : TakenIn live transport deployment enrolled := ⟨rfl, rfl⟩
  have gains := taken.gains isNew hosts.orderly
  obtain ⟨stopped, beside⟩ :=
    Site.stopped_of_start gains.orderly.manned.posted taken.found isNew.server rfl isNew.isGone
  obtain ⟨first, listens⟩ := start_concerns gains.orderly beside
  let started := (enrolled.perform (Site.start deployment.site.servers.length false)).2
  have stoppedThen : started.site.Stopped deployment.site.servers.length [] false := by
    rw [site_perform]
    exact stopped.goes (.of_eq rfl)
  have silent : started.listens? deployment.site.servers.length = some false := by
    rw [listens, taken.listens? hosts.orderly.matched,
      Transport.isListening_of_forAddress? hasTransport]
  have directory : started.site.directory = deployment.site.directory := first.drift.site.directory
  have unnamed : deployment.site.servers.length ∉ started.site.directory.values := by
    rw [directory]
    exact fun named => hosts.next ((hosts.listed.map Prod.snd).mem_iff.1 named)
  obtain ⟨ended, second⟩ := over_drop first.orderly stoppedThen silent unnamed
  exact ⟨_, rfl, hosts.gain_over (gains.concerned (first.trans second))
    (second.drift.site.directory.trans directory) ended⟩

/-- Where the transport listens and the name is new, the new server is hosted too. -/
theorem Hosts.launch_of_listen {listening : Transport} (newName : name ∉ hosted.map Prod.fst)
    (listens : (transport.listen deployment.machine).1 = .ok listening) :
    ∃ after, deployment.launch name address options tls = (.ok deployment.site.servers.length, after) ∧
      after.Hosts (hosted ++ [(name, deployment.site.servers.length)]) := by
  obtain ⟨live, isNew, isLaunch⟩ := launch_eq_of_prepared name deployment parses hasTransport valid
  rw [isLaunch, start_enrolled isNew.server hosts.orderly.matched]
  have hears := Transport.isListening_of_listen listens
  generalize transport.listen deployment.machine = answer at listens ⊢
  obtain ⟨listened, machine⟩ := answer
  simp only at listens
  subst listens
  let heard : Deployment := { deployment.enroll live transport with
    machine
    transports := (deployment.enroll live transport).transports.set deployment.site.servers.length
      listening }
  have taken : TakenIn live listening deployment heard := by
    have isLast : deployment.transports.length = deployment.site.servers.length :=
      hosts.orderly.matched
    refine ⟨rfl, ?_⟩
    simp [heard, enroll, ← isLast]
  have gains := taken.gains isNew hosts.orderly
  obtain ⟨runs, beside⟩ :=
    Site.runs_of_start gains.orderly.manned.posted taken.found isNew.server rfl isNew.isGone
  obtain ⟨concerns, listensThen⟩ := start_concerns gains.orderly beside
  let started := (heard.perform (Site.start deployment.site.servers.length true)).2
  have directory : started.site.directory = deployment.site.directory := concerns.drift.site.directory
  have notListed : started.site.directory.find? name = none := by
    rw [directory, Directory.find?_eq_none_iff]
    exact fun named => newName ((hosts.listed.map Prod.fst).mem_iff.1 named)
  refine ⟨_, register_of_new name deployment.site.servers.length notListed, ?_⟩
  have gained := gains.concerned concerns
  refine hosts.gain_serving {
    orderly := ⟨gained.orderly.matched, gained.orderly.manned, gained.orderly.quiet⟩
    size := gained.size
    others := fun other old => (gained.others other old).trans ⟨.of_eq rfl, rfl⟩ } newName ?_ ⟨?_, ?_⟩
  · exact directory ▸ Directory.place_perm name _ started.site.directory.entries
  · have runsThen : started.site.Runs deployment.site.servers.length := by
      rw [site_perform]
      exact runs.goes (.of_eq rfl)
    exact runsThen.goes (.of_eq rfl)
  · exact (listensThen.trans (taken.listens? hosts.orderly.matched)).trans (congrArg some hears)

end

end Deployment

end ConnectionPool
