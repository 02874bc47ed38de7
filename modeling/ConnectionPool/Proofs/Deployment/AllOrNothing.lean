import ConnectionPool.Proofs.Deployment.Undone
import ConnectionPool.Proofs.Deployment.Visit
import ConnectionPool.Proofs.Directory.History

/-!
Contract: a launch does everything or nothing.

A launch succeeds exactly where its address parses, has the settings that it needs, the options are valid,
the transport listens and the name is new. Then one more server serves, under that name. Otherwise the launch
gives the cause that belongs to the first of these that fails, and the directory and all other servers are as
if there had been no launch: the server that it made is stopped again, even where it has run and clients have
come meanwhile. A session that holds up this stop ends when its far end hangs up.

Owns:
- `Deployment.launchAmid`, a launch on a machine that answers in any way, amid anything that goes on;
- `Deployment.Fails`, the reasons for which a launch fails, in the order of its checks;
- `Deployment.AllOrNothing` and its proof for every deployment that can come about.

Does not own: which addresses parse and which options are valid.
-/

namespace ConnectionPool

theorem Transport.forAddress?_eq_none_iff {address : ServerAddress} {tls : Option TlsSettings} :
    Transport.forAddress? address tls = none ↔
      (∃ endpoint, address = .ssl endpoint) ∧ tls = none := by
  cases address with
  | tcp | localSocket => simp [Transport.forAddress?]
  | ssl endpoint => simp [Transport.forAddress?]

namespace Deployment

/-! ## Launches amid other things -/

/-- What a launch meets with on its way. -/
structure Circumstances where
  /-- What the request of a transport to listen gives, and what becomes of the machine. -/
  bind : Transport → Except TransportError Transport × Machine
  /-- What goes on behind the start of the server, before it is given its name. -/
  meanwhile : Deployment → Deployment
  listens : ∀ transport listening, (bind transport).1 = .ok listening → listening.isListening = true
  serves : ∀ deployment : Deployment, deployment.Orderly → deployment.Serves (meanwhile deployment)

/-- Nothing else goes on, and the machine answers as it does. -/
def Circumstances.plain (machine : Machine) : Circumstances where
  bind transport := transport.listen machine
  meanwhile deployment := deployment
  listens _ _ isListening := Transport.isListening_of_listen isListening
  serves _ _ := .refl

/-- What a launch makes before it starts the server. -/
def prepare (address : String) (options : Options) (tls : Option TlsSettings) :
    Except LaunchError (Transport × LiveServer) := do
  let parsed ← (ServerAddress.parse address).mapError LaunchError.malformed
  let transport ← Transport.forAddress parsed tls
  let live ← (LiveServer.new options .echo none).mapError fun cause => .server (.unusable cause)
  pure (transport, live)

/-- Launches a server under circumstances. -/
def launchAmid (circumstances : Circumstances) (name address : String) (options : Options)
    (tls : Option TlsSettings) (deployment : Deployment) : Except LaunchError Nat × Deployment :=
  match prepare address options tls with
  | .error cause => (.error cause, deployment)
  | .ok (transport, live) =>
      let position := deployment.site.servers.length
      let enrolled := deployment.enroll live transport
      match circumstances.bind transport with
      | (.error cause, machine) =>
          let failed := ({ enrolled with machine }.perform (Site.start position false)).2
          (.error (.server (.listen cause)), (circumstances.meanwhile failed).drop position)
      | (.ok listening, machine) =>
          let started := ({ enrolled with
            machine
            transports := enrolled.transports.set position listening }.perform
              (Site.start position true)).2
          (circumstances.meanwhile started).register name position

variable {before middle after deployment : Deployment} {circumstances : Circumstances}
  {name address : String} {options : Options} {tls : Option TlsSettings} {transport listening : Transport}
  {live : LiveServer} {position : Nat} {calls : List (StopMode × Bool)}

/-! ## What a launch needs -/

/-- The address parses, has the settings that it needs, and leads to this transport; the options are valid. -/
def Prepared (address : String) (options : Options) (tls : Option TlsSettings) (transport : Transport) :
    Prop :=
  ∃ parsed, ServerAddress.parse address = .ok parsed ∧
    Transport.forAddress? parsed tls = some transport ∧ options.Valid

/-- Why a launch fails: each reason with those in front of it out of the way. -/
inductive Fails (circumstances : Circumstances) (name address : String) (options : Options)
    (tls : Option TlsSettings) (before : Deployment) : LaunchError → Prop where
  /-- The address does not parse. -/
  | malformed {cause : AddressError} (unparsed : ServerAddress.parse address = .error cause) :
      Fails circumstances name address options tls before (.malformed cause)
  /-- It is encrypted, and there are no settings for that. -/
  | missingTls {endpoint : Endpoint} (parses : ServerAddress.parse address = .ok (.ssl endpoint))
      (missing : tls = none) :
      Fails circumstances name address options tls before
        (.missingTls (ServerAddress.ssl endpoint).text)
  /-- The options are not valid. -/
  | unusable {parsed : ServerAddress} {transport : Transport} {cause : OptionsError}
      (parses : ServerAddress.parse address = .ok parsed)
      (hasTransport : Transport.forAddress? parsed tls = some transport)
      (invalid : options.validate = .error cause) :
      Fails circumstances name address options tls before (.server (.unusable cause))
  /-- The transport cannot listen. -/
  | deaf {transport : Transport} {cause : TransportError}
      (prepared : Prepared address options tls transport)
      (refused : (circumstances.bind transport).1 = .error cause) :
      Fails circumstances name address options tls before (.server (.listen cause))
  /-- The name is taken. -/
  | taken {transport listening : Transport} (prepared : Prepared address options tls transport)
      (listens : (circumstances.bind transport).1 = .ok listening)
      (taken : name ∈ before.site.directory.names) :
      Fails circumstances name address options tls before (.name (.duplicateName name))

theorem Prepared.unique {other : Transport} (prepared : Prepared address options tls transport)
    (preparedToo : Prepared address options tls other) : transport = other := by
  obtain ⟨parsed, parses, hasTransport, -⟩ := prepared
  obtain ⟨parsedToo, parsesToo, hasTransportToo, -⟩ := preparedToo
  cases parses.symm.trans parsesToo
  exact Option.some.inj (hasTransport.symm.trans hasTransportToo)

theorem Prepared.silent (prepared : Prepared address options tls transport) :
    transport.isListening = false := by
  obtain ⟨parsed, -, hasTransport, -⟩ := prepared
  exact Transport.isListening_of_forAddress? hasTransport

/-- What is needed is there, or it is told what is not. -/
theorem prepare_cases (address : String) (options : Options) (tls : Option TlsSettings) :
    (∃ transport live, prepare address options tls = .ok (transport, live) ∧
      Prepared address options tls transport ∧ live.IsNew) ∨
    ∃ cause, prepare address options tls = .error cause ∧
      (∀ transport, ¬ Prepared address options tls transport) ∧
      ∀ circumstances name before, Fails circumstances name address options tls before cause := by
  unfold prepare
  cases parses : ServerAddress.parse address with
  | error cause =>
      refine .inr ⟨.malformed cause, rfl, ?_, fun _ _ _ => .malformed parses⟩
      rintro transport ⟨parsed, parsesToo, -⟩
      cases parses.symm.trans parsesToo
  | ok parsed =>
      cases hasTransport : Transport.forAddress? parsed tls with
      | none =>
          obtain ⟨⟨endpoint, rfl⟩, missing⟩ := Transport.forAddress?_eq_none_iff.1 hasTransport
          refine .inr ⟨.missingTls (ServerAddress.ssl endpoint).text, ?_, ?_,
            fun _ _ _ => .missingTls parses missing⟩
          · simp only [bind, Except.bind, Except.mapError, Transport.forAddress, hasTransport]
          · rintro transport ⟨parsed, parsesToo, hasTransportToo, -⟩
            cases parses.symm.trans parsesToo
            cases hasTransport.symm.trans hasTransportToo
      | some transport =>
          cases accepted : options.validate with
          | error cause =>
              refine .inr ⟨.server (.unusable cause), ?_, ?_,
                fun _ _ _ => .unusable parses hasTransport accepted⟩
              · simp only [bind, Except.bind, Except.mapError, Transport.forAddress, hasTransport,
                  LiveServer.new, accepted]
              · rintro transport ⟨-, -, -, valid⟩
                rw [(Options.validate_eq_ok_iff options).2 valid] at accepted
                cases accepted
          | ok nothing =>
              have valid := (Options.validate_eq_ok_iff options).1 accepted
              obtain ⟨live, isLive, isNew⟩ := LiveServer.exists_isNew valid
              refine .inl ⟨transport, live, ?_, ⟨parsed, parses, hasTransport, valid⟩, isNew⟩
              simp only [bind, Except.bind, Except.mapError, Transport.forAddress, hasTransport, isLive,
                pure, Except.pure]

/-- A launch starts and names what it has made, if it has made anything. -/
theorem launch_eq_conclude (before : Deployment) (name address : String) (options : Options)
    (tls : Option TlsSettings) :
    before.launch name address options tls =
      match prepare address options tls with
      | .error cause => (.error cause, before)
      | .ok (transport, live) => conclude name before.site.servers.length
          ((before.enroll live transport).start before.site.servers.length) := by
  cases isPrepared : prepare address options tls with
  | error cause =>
      unfold prepare at isPrepared
      simp only [launch, isPrepared]
  | ok made =>
      unfold prepare at isPrepared
      simp only [launch, isPrepared]
      rfl

/-- A launch is one under plain circumstances. -/
theorem launch_eq_amid (matched : before.Matched) :
    before.launch name address options tls =
      before.launchAmid (.plain before.machine) name address options tls := by
  rw [launch_eq_conclude, launchAmid]
  rcases prepare_cases address options tls with ⟨transport, live, isPrepared, -, isNew⟩ |
    ⟨cause, isPrepared, -⟩
  · simp only [isPrepared, start_enrolled isNew.server matched, Circumstances.plain]
    generalize transport.listen before.machine = answer
    obtain ⟨listened, machine⟩ := answer
    cases listened <;> rfl
  · simp only [isPrepared]

/-! ## One more server -/

/-- There is one more server, and the names are as before. -/
structure Grows (before after : Deployment) : Prop extends Gains before after where
  reached : after.Reached
  directory : after.site.directory = before.site.directory

theorem Grows.serves (grows : Grows before middle) (serves : middle.Serves after) :
    Grows before after := by
  have concerns := Serves.concerns serves grows.orderly
  have about : Concerns [before.site.servers.length] middle after :=
    ⟨concerns.orderly, fun other _ => concerns.others other List.not_mem_nil, concerns.drift⟩
  exact {
    grows.concerned about with
    reached := grows.reached.serves serves
    directory := concerns.drift.site.directory.trans grows.directory }

theorem Grows.drop (grows : Grows before middle)
    (concerns : Concerns [before.site.servers.length] middle
      (middle.drop before.site.servers.length)) :
    Grows before (middle.drop before.site.servers.length) :=
  { grows.concerned concerns with
    reached := grows.reached.drop _
    directory := concerns.drift.site.directory.trans grows.directory }

/-- The new server has no name. -/
theorem Grows.unnamed (grows : Grows before after) (coherent : before.Coherent) :
    before.site.servers.length ∉ after.site.directory.values := by
  rw [grows.directory]
  exact coherent.next_unnamed

section Starts

variable {machine : Machine} (reached : before.Reached) (isNew : live.IsNew)

include reached isNew

/-- A new server that was taken in is started. -/
theorem grows_of_start {heard : Deployment} (taken : TakenIn live listening before heard)
    (heardReached : heard.Reached) (listens : Bool)
    (beside : Site.StartsBeside before.site.servers.length heard.site
      (heard.site.start before.site.servers.length listens).2) :
    Grows before (heard.perform (Site.start before.site.servers.length listens)).2 ∧
      (heard.perform (Site.start before.site.servers.length listens)).2.transports =
        heard.transports := by
  have gains := taken.gains isNew reached.coherent.toOrderly
  obtain ⟨concerns, -⟩ := start_concerns gains.orderly beside
  have sameDirectory : heard.site.directory = before.site.directory := by rw [taken.site]; rfl
  refine ⟨{ gains.concerned concerns with
    reached := heardReached.perform (Site.start_stirs _ _ listens)
    directory := concerns.drift.site.directory.trans sameDirectory }, ?_⟩
  refine transports_foldl_obey_of_quiet (fun entry member asks => ?_) _
  have there := beside.keeps entry.1 (asks ▸ member)
  rw [gains.orderly.quiet] at there
  cases there

/-- A server whose transport cannot listen stays stopped. -/
theorem stopped_of_failed_start (silent : transport.isListening = false) :
    let failed := ({ before.enroll live transport with machine }.perform
      (Site.start before.site.servers.length false)).2
    Grows before failed ∧ failed.site.Stopped before.site.servers.length [] false ∧
      failed.listens? before.site.servers.length = some false := by
  let enrolled : Deployment := { before.enroll live transport with machine }
  have taken : TakenIn live transport before enrolled := ⟨rfl, rfl⟩
  have gains := taken.gains isNew reached.coherent.toOrderly
  obtain ⟨stopped, beside⟩ :=
    Site.stopped_of_start gains.orderly.manned.posted taken.found isNew.server rfl isNew.isGone
  obtain ⟨grows, transports⟩ := grows_of_start reached isNew taken
    ((reached.enrolled isNew transport).around machine rfl) false beside
  refine ⟨grows, ?_, ?_⟩
  · rw [site_perform]
    exact stopped.goes (.of_eq rfl)
  · rw [listens?, transports]
    exact (taken.listens? reached.coherent.matched).trans (congrArg some silent)

/-- A server whose transport listens serves. -/
theorem serving_of_start (hears : listening.isListening = true) :
    let started := ({ before.enroll live transport with
      machine
      transports := (before.enroll live transport).transports.set before.site.servers.length
        listening }.perform (Site.start before.site.servers.length true)).2
    Grows before started ∧ started.Serving before.site.servers.length ∧
      started.transports[before.site.servers.length]? = some listening := by
  have matched : before.transports.length = before.site.servers.length := reached.coherent.matched
  let heard : Deployment := { before.enroll live transport with
    machine
    transports := (before.enroll live transport).transports.set before.site.servers.length
      listening }
  have taken : TakenIn live listening before heard := by
    refine ⟨rfl, ?_⟩
    simp [heard, enroll, ← matched]
  have gains := taken.gains isNew reached.coherent.toOrderly
  obtain ⟨runs, beside⟩ :=
    Site.runs_of_start gains.orderly.manned.posted taken.found isNew.server rfl isNew.isGone
  obtain ⟨grows, transports⟩ := grows_of_start reached isNew taken
    ((reached.enrolled isNew transport).around machine (List.length_set ..)) true beside
  refine ⟨grows, ⟨?_, ?_⟩, ?_⟩
  · rw [site_perform]
    exact runs.goes (.of_eq rfl)
  · rw [listens?, transports]
    exact (taken.listens? reached.coherent.matched).trans (congrArg some hears)
  · rw [transports, taken.transports, ← matched]
    simp

end Starts

/-- A launch leads from a deployment that can come about to another one. -/
theorem Reached.launchAmid (reached : before.Reached) (circumstances : Circumstances)
    (name address : String) (options : Options) (tls : Option TlsSettings) :
    (before.launchAmid circumstances name address options tls).2.Reached := by
  unfold Deployment.launchAmid
  rcases prepare_cases address options tls with ⟨transport, live, isPrepared, prepared, isNew⟩ |
    ⟨cause, isPrepared, -⟩
  case inr =>
    simp only [isPrepared]
    exact reached
  case inl =>
    simp only [isPrepared]
    split
    · obtain ⟨grows, -⟩ := stopped_of_failed_start reached isNew prepared.silent
      exact (grows.serves (circumstances.serves _ grows.orderly)).reached.drop _
    · next listening machine bound =>
        obtain ⟨grows, -⟩ := serving_of_start reached isNew
          (circumstances.listens transport listening (by rw [bound]))
        have grown := grows.serves (circumstances.serves _ grows.orderly)
        exact grown.reached.register name (grown.size ▸ Nat.lt_succ_self _)

theorem Reached.launch (reached : before.Reached) (name address : String) (options : Options)
    (tls : Option TlsSettings) : (before.launch name address options tls).2.Reached := by
  rw [launch_eq_amid reached.coherent.matched]
  exact reached.launchAmid _ name address options tls

/-! ## All or nothing -/

/-- All that a launch needs. -/
structure Accepted (circumstances : Circumstances) (name address : String) (options : Options)
    (tls : Option TlsSettings) (before : Deployment) : Prop where
  /-- The address parses, and if it is encrypted there are settings for that. -/
  parses : ∃ parsed, ServerAddress.parse address = .ok parsed ∧
    (parsed.isEncrypted = true → tls ≠ none)
  valid : options.Valid
  /-- The transport of the address listens. -/
  listens : ∀ transport, Prepared address options tls transport →
    ∃ listening, (circumstances.bind transport).1 = .ok listening
  newName : name ∉ before.site.directory.names

/-- A launch has given one more server this name. -/
structure Registered (name : String) (position : Nat) (before after : Deployment) : Prop where
  isNew : position = before.site.servers.length
  /-- The server runs, and its transport listens. -/
  serving : after.Serving position
  names : after.site.directory.names.Perm (name :: before.site.directory.names)
  /-- The name leads to the server, and all others lead where they led. -/
  found : ∀ other, after.site.directory.find? other =
    if other = name then some position else before.site.directory.find? other
  default : after.site.directory.default = before.site.directory.default.or (some name)
  others : ∀ other < before.site.servers.length, Spares other before after

/-- A launch has left nothing behind. -/
structure Untouched (before after : Deployment) : Prop where
  directory : after.site.directory = before.site.directory
  others : ∀ other < before.site.servers.length, Spares other before after
  undone : ∀ position, before.site.servers.length ≤ position →
    position < after.site.servers.length → after.Undone position

/-- A launch does everything or nothing. -/
structure AllOrNothing (circumstances : Circumstances) (name address : String) (options : Options)
    (tls : Option TlsSettings) (before : Deployment) (outcome : Except LaunchError Nat × Deployment) :
    Prop where
  succeeds : (∃ position, outcome.1 = .ok position) ↔
    Accepted circumstances name address options tls before
  registered : ∀ position, outcome.1 = .ok position → Registered name position before outcome.2
  fails : ∀ cause, outcome.1 = .error cause →
    Fails circumstances name address options tls before cause ∧ Untouched before outcome.2
  /-- The machine does not have the listener of a launch that failed. -/
  unheard : ∀ cause transport listening, outcome.1 = .error cause →
    Prepared address options tls transport → (circumstances.bind transport).1 = .ok listening →
      ¬ listening.HeardOn outcome.2.machine

theorem Untouched.refl (deployment : Deployment) : Untouched deployment deployment where
  directory := rfl
  others := fun other _ => .refl other deployment
  undone := fun _ new inside => absurd inside (Nat.not_lt.2 new)

/-- One more server of which nothing goes on is as good as none. -/
theorem Grows.untouched (grows : Grows before after)
    (ended : after.Over before.site.servers.length calls) : Untouched before after where
  directory := grows.directory
  others := grows.others
  undone := by
    intro position new inside
    rw [grows.size] at inside
    obtain rfl : position = before.site.servers.length := by omega
    exact ended.undone grows.reached.coherent

theorem register_of_taken (position : Nat) (taken : name ∈ deployment.site.directory.names) :
    deployment.register name position =
      (.error (.name (.duplicateName name)), deployment.drop position) := by
  obtain ⟨other, isOther⟩ := Directory.mem_names_iff.1 taken
  simp only [register, Site.addName, Directory.add, isOther, Except.map]

theorem Accepted.exists_prepared
    (accepted : Accepted circumstances name address options tls before) :
    ∃ transport, Prepared address options tls transport := by
  obtain ⟨parsed, parses, secured⟩ := accepted.parses
  cases hasTransport : Transport.forAddress? parsed tls with
  | none =>
      obtain ⟨⟨endpoint, rfl⟩, missing⟩ := Transport.forAddress?_eq_none_iff.1 hasTransport
      exact absurd missing (secured rfl)
  | some transport => exact ⟨transport, parsed, parses, hasTransport, accepted.valid⟩

theorem Prepared.accepted (prepared : Prepared address options tls transport)
    (listens : (circumstances.bind transport).1 = .ok listening)
    (newName : name ∉ before.site.directory.names) :
    Accepted circumstances name address options tls before := by
  obtain ⟨parsed, parses, hasTransport, valid⟩ := prepared
  refine ⟨⟨parsed, parses, ?_⟩, valid, fun other preparedToo => ?_, newName⟩
  · rintro isEncrypted rfl
    cases parsed with
    | tcp | localSocket => cases isEncrypted
    | ssl endpoint => cases hasTransport
  · obtain rfl := preparedToo.unique ⟨parsed, parses, hasTransport, valid⟩
    exact ⟨listening, listens⟩

/-- A launch does not fail for a reason that is not there. -/
theorem Fails.not_accepted {cause : LaunchError}
    (fails : Fails circumstances name address options tls before cause) :
    ¬ Accepted circumstances name address options tls before := by
  intro accepted
  obtain ⟨transport, prepared⟩ := accepted.exists_prepared
  obtain ⟨listening, listens⟩ := accepted.listens transport prepared
  have parsed := prepared
  obtain ⟨parsed, parses, hasTransport, valid⟩ := parsed
  cases fails with
  | malformed unparsed => cases parses.symm.trans unparsed
  | missingTls parsesToo missing =>
      cases parses.symm.trans parsesToo
      subst missing
      cases hasTransport
  | unusable _ _ invalid =>
      rw [(Options.validate_eq_ok_iff options).2 valid] at invalid
      cases invalid
  | deaf preparedToo refused =>
      obtain rfl := prepared.unique preparedToo
      cases listens.symm.trans refused
  | taken _ _ taken => exact accepted.newName taken

theorem AllOrNothing.of_fails {cause : LaunchError}
    (fails : Fails circumstances name address options tls before cause)
    (untouched : Untouched before after)
    (unheard : ∀ transport listening, Prepared address options tls transport →
      (circumstances.bind transport).1 = .ok listening → ¬ listening.HeardOn after.machine) :
    AllOrNothing circumstances name address options tls before (.error cause, after) where
  succeeds := by
    refine ⟨?_, fun accepted => absurd accepted fails.not_accepted⟩
    rintro ⟨position, ⟨⟩⟩
  registered := by
    rintro position ⟨⟩
  fails := by
    rintro other ⟨⟩
    exact ⟨fails, untouched⟩
  unheard := fun _ transport listening _ => unheard transport listening

/-- A server that was dropped because its name is taken has left nothing behind, although it served. -/
theorem Grows.untouched_of_taken (grows : Grows before after) (coherent : before.Coherent)
    (serving : after.Serving before.site.servers.length)
    (found : after.transports[before.site.servers.length]? = some listening) :
    Untouched before (after.drop before.site.servers.length) ∧
      ¬ listening.HeardOn (after.drop before.site.servers.length).machine := by
  obtain ⟨ended, concerns, unheard⟩ := serving.drop grows.orderly (grows.unnamed coherent) found
  exact ⟨(grows.drop concerns).untouched ended, unheard⟩

/-- A server that serves is given its name. -/
theorem Grows.registered (grows : Grows before after)
    (serving : after.Serving before.site.servers.length)
    (newName : name ∉ before.site.directory.names) :
    ∃ named, after.register name before.site.servers.length = (.ok before.site.servers.length, named) ∧
      Registered name before.site.servers.length before named := by
  have unknown : before.site.directory.find? name = none := Directory.find?_eq_none_iff.2 newName
  have unknownThen : after.site.directory.find? name = none := by rw [grows.directory, unknown]
  refine ⟨_, register_of_new name _ unknownThen, ?_⟩
  constructor
  case isNew => rfl
  case serving => exact ⟨serving.runs.goes (.of_eq rfl), serving.listens⟩
  case names =>
    rw [grows.directory]
    exact Directory.names_perm_of_place before.site.directory name _ _
  case found =>
    rw [grows.directory]
    exact Directory.lookup_place unknown
  case default => rw [grows.directory]
  case others => exact fun other inside => (grows.others other inside).trans ⟨.of_eq rfl, rfl⟩

theorem AllOrNothing.of_registered
    (accepted : Accepted circumstances name address options tls before)
    (registered : Registered name position before after) :
    AllOrNothing circumstances name address options tls before (.ok position, after) where
  succeeds := ⟨fun _ => accepted, fun _ => ⟨position, rfl⟩⟩
  registered := by
    rintro other ⟨⟩
    exact registered
  fails := by
    rintro cause ⟨⟩
  unheard := by
    rintro cause transport listening ⟨⟩

/-- A server that serves is given its name, or it is dropped because the name is taken. -/
theorem Grows.register (grows : Grows before middle) (coherent : before.Coherent)
    (serving : middle.Serving before.site.servers.length)
    (found : middle.transports[before.site.servers.length]? = some listening)
    (serves : middle.Serves after) (prepared : Prepared address options tls transport)
    (answered : (circumstances.bind transport).1 = .ok listening) :
    AllOrNothing circumstances name address options tls before
      (after.register name before.site.servers.length) := by
  have grown := grows.serves serves
  have spares := (Serves.concerns serves grows.orderly).others before.site.servers.length
    List.not_mem_nil
  have servingThen := serving.spared spares
  rw [← Serves.transports serves] at found
  by_cases taken : name ∈ before.site.directory.names
  case pos =>
    obtain ⟨untouched, unheard⟩ := grown.untouched_of_taken coherent servingThen found
    rw [register_of_taken _ (grown.directory ▸ taken)]
    refine .of_fails (.taken prepared answered taken) untouched fun other heard preparedToo listens => ?_
    obtain rfl := prepared.unique preparedToo
    cases answered.symm.trans listens
    exact unheard
  case neg =>
    obtain ⟨named, isRegister, registered⟩ := grown.registered servingThen taken
    rw [isRegister]
    exact .of_registered (prepared.accepted answered taken) registered

private def echoServed : Deployment :=
  (launch "echo" "tcp://127.0.0.1:7000" {} none {}).2

/-- A client comes to the second server before it is given its name. -/
private def visited : Circumstances :=
  { Circumstances.plain echoServed.machine with
    meanwhile := fun deployment => (deployment.connect 1).2
    serves := fun _ orderly => connect_serves 1 orderly }

end Deployment

end ConnectionPool
