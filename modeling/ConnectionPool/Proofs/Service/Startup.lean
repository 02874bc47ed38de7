import ConnectionPool.Proofs.Deployment.Launch
import ConnectionPool.Proofs.Directory
import ConnectionPool.Proofs.Settings.Validation
import ConnectionPool.Service

/-!
Contract: settings that were accepted can fail to start for reasons of the machine only.

The launch of all entries is followed entry by entry, and the world goes on meanwhile: between any two
steps, and between the load of an entry's certificates and its launch, a deployment may drift.

Owns:
- `EntryLaunch`, the launch of one entry at its moments, and `Launches`, the launch of all entries;
- `EntryLaunch.Hindered`, the two reasons for which a launch of an accepted entry fails;
- `EntryLaunch.outcome`, what one launch does, and `Launches.kept`, what all of them do;
- `startsAsAccepted_of_validate`, the law of accepted settings.

Does not own: what is done about the servers that run already when a later one fails.
-/

namespace ConnectionPool

/-- An encrypted address of an accepted entry has its certificates, once they are loaded. -/
theorem ServerEntry.forAddress?_of_tlsSettings {entry : ServerEntry} {files : FileTree}
    {tls : Option TlsSettings} {address : ServerAddress} (loaded : entry.tlsSettings files = .ok tls)
    (covered : address.isEncrypted = true → entry.tls ≠ none) :
    ∃ transport, Transport.forAddress? address tls = some transport := by
  match address with
  | .tcp endpoint => exact ⟨_, rfl⟩
  | .localSocket name => exact ⟨_, rfl⟩
  | .ssl endpoint =>
      have named : entry.tls ≠ none := covered rfl
      unfold tlsSettings at loaded
      split at loaded
      · next isNone => exact absurd isNone named
      · split at loaded
        · cases loaded
          exact ⟨_, rfl⟩
        · cases loaded

section

variable {machine : Machine} {cause : TransportError}

theorem NetworkTransport.listen_error {network : NetworkTransport} (unheard : network.listener = none)
    (refused : ((Transport.network network).listen machine).1 = .error cause) :
    ∃ why, cause = .bind network.address why := by
  simp only [Transport.listen, NetworkTransport.listen, unheard] at refused
  split at refused
  · next given isGiven =>
      split at isGiven
      · next fault isFault =>
          cases isGiven
          cases refused
          exact ⟨_, rfl⟩
      · cases isGiven
  · cases refused

theorem SocketFileTransport.listen_error {socketFile : SocketFileTransport}
    (unheard : socketFile.listener = none)
    (refused : ((Transport.socketFile socketFile).listen machine).1 = .error cause) :
    ∃ why, cause = .bind socketFile.address why := by
  simp only [Transport.listen, SocketFileTransport.listen, unheard] at refused
  split at refused
  · next given isGiven =>
      cases refused
      split at isGiven
      · cases isGiven
        exact ⟨_, rfl⟩
      · split at isGiven
        · cases isGiven
          exact ⟨_, rfl⟩
        · cases isGiven
  · cases refused

/-- A transport that was just made does not listen yet, so only the machine can refuse it. -/
theorem Transport.listen_error_of_forAddress? {address : ServerAddress} {tls : Option TlsSettings}
    {transport : Transport} (isNew : Transport.forAddress? address tls = some transport)
    (refused : (transport.listen machine).1 = .error cause) :
    ∃ why, cause = .bind transport.address why := by
  match address with
  | .tcp endpoint =>
      cases isNew
      exact NetworkTransport.listen_error rfl refused
  | .ssl endpoint =>
      obtain ⟨settings, -, isTransport⟩ := Option.map_eq_some_iff.1 isNew
      subst isTransport
      exact NetworkTransport.listen_error rfl refused
  | .localSocket path =>
      cases isNew
      exact SocketFileTransport.listen_error rfl refused

end

namespace Service

/-- The launch of one entry: how the world is when its certificates are loaded, and when its server is
launched. -/
structure EntryLaunch where
  entry : ServerEntry
  loading : Deployment
  launching : Deployment

namespace EntryLaunch

def certificates (launch : EntryLaunch) : Except EntryError (Option TlsSettings) :=
  launch.entry.tlsSettings launch.loading.machine.files

def answer (launch : EntryLaunch) : Except ServiceError Unit × Deployment :=
  launchWith launch.certificates launch.entry launch.launching

/-- The certificates load, and the transport of the address listens. -/
def Favoured (launch : EntryLaunch) : Prop :=
  ∃ tls, launch.certificates = .ok tls ∧
    ∀ address transport, ServerAddress.parse launch.entry.address = .ok address →
      Transport.forAddress? address tls = some transport →
        ∃ listening, (transport.listen launch.launching.machine).1 = .ok listening

/-- A launch fails for what the machine does: the certificates do not load, or it refuses to let the
transport listen. -/
inductive Hindered (launch : EntryLaunch) : ServiceError → Prop where
  | certificates (cause : EntryError) (unloadable : launch.certificates = .error cause) :
      Hindered launch (.unusable cause)
  | listening (tls : Option TlsSettings) (address : ServerAddress) (transport : Transport) (why : String)
      (loaded : launch.certificates = .ok tls)
      (parses : ServerAddress.parse launch.entry.address = .ok address)
      (hasTransport : Transport.forAddress? address tls = some transport)
      (refused : (transport.listen launch.launching.machine).1 =
        .error (.bind transport.address why)) :
      Hindered launch (.launch launch.entry.name (.server (.listen (.bind transport.address why))))

theorem not_hindered_of_favoured {launch : EntryLaunch} {cause : ServiceError}
    (favoured : launch.Favoured) : ¬ launch.Hindered cause := by
  obtain ⟨tls, loaded, listens⟩ := favoured
  rintro (⟨cause, unloadable⟩ | ⟨otherTls, address, transport, why, otherLoaded, parses, hasTransport, refused⟩)
  · rw [loaded] at unloadable
    cases unloadable
  · rw [loaded] at otherLoaded
    cases otherLoaded
    obtain ⟨listening, isListening⟩ := listens address transport parses hasTransport
    rw [isListening] at refused
    cases refused

end EntryLaunch

/-- The deployment holds exactly the servers with these names, the first of which is the default. -/
structure Named (names : List String) (deployment : Deployment) : Prop where
  matched : deployment.Matched
  names_perm : deployment.site.directory.names.Perm names
  default_eq : deployment.site.directory.default = names.head?

theorem Named.drift {names : List String} {before after : Deployment} (named : Named names before)
    (drift : before.Drifts after) : Named names after where
  matched := drift.matched named.matched
  names_perm := by
    rw [drift.site.directory]
    exact named.names_perm
  default_eq := by
    rw [drift.site.directory]
    exact named.default_eq

/-- One launch of an entry that can be used and whose name is new: it succeeds, and the name is added, or it
was hindered. -/
theorem EntryLaunch.outcome {launch : EntryLaunch} {names : List String}
    (usable : launch.entry.Usable) (named : Named names launch.launching)
    (newName : launch.entry.name ∉ names) :
    (∃ after, launch.answer = (.ok (), after) ∧ Named (names ++ [launch.entry.name]) after) ∨
      ∃ cause, launch.answer.1 = .error cause ∧ launch.Hindered cause := by
  have options : launch.entry.options = .ok launch.entry.limits :=
    ServerEntry.options_eq_ok_iff.2 ⟨usable.limits_valid, rfl⟩
  cases isLoaded : launch.certificates with
  | error cause =>
      refine .inr ⟨.unusable cause, ?_, .certificates cause isLoaded⟩
      simp [answer, launchWith, options, isLoaded]
  | ok tls =>
      obtain ⟨address, parses, covered⟩ := usable.address_parses
      obtain ⟨transport, hasTransport⟩ := ServerEntry.forAddress?_of_tlsSettings isLoaded covered
      cases listens : (transport.listen launch.launching.machine).1 with
      | error cause =>
          obtain ⟨why, isBind⟩ := Transport.listen_error_of_forAddress? hasTransport listens
          subst isBind
          have refused := Deployment.launch_of_listen_error launch.entry.name parses
            hasTransport usable.limits_valid named.matched listens
          refine .inr ⟨_, ?_, .listening tls address transport why isLoaded parses hasTransport listens⟩
          generalize isAnswer : launch.launching.launch launch.entry.name launch.entry.address
            launch.entry.limits tls = launched at refused
          obtain ⟨given, after⟩ := launched
          simp only at refused
          subst refused
          simp [answer, launchWith, options, isLoaded, isAnswer]
      | ok listening =>
          have notFound : launch.launching.site.directory.find? launch.entry.name = none :=
            Directory.find?_eq_none_iff.2 fun listed => newName (named.names_perm.mem_iff.1 listed)
          obtain ⟨after, launched, matched, directory⟩ := Deployment.launch_of_listen
            launch.entry.name parses hasTransport usable.limits_valid named.matched notFound
            listens
          refine .inl ⟨after, by simp [answer, launchWith, options, isLoaded, launched], matched, ?_, ?_⟩
          · rw [directory]
            have added := Directory.names_perm_of_place launch.launching.site.directory launch.entry.name
              launch.launching.site.servers.length
              (launch.launching.site.directory.default.or (some launch.entry.name))
            exact added.trans ((named.names_perm.cons _).trans (List.perm_append_singleton _ _).symm)
          · rw [directory]
            simp [named.default_eq, List.head?_append]

/-- Entries are launched in their order, up to the first that cannot be; the deployment drifts in front of
every load of certificates and in front of every launch. -/
inductive Launches :
    List ServerEntry → Deployment → List EntryLaunch → Except ServiceError Unit → Deployment → Prop where
  | finished (deployment : Deployment) : Launches [] deployment [] (.ok ()) deployment
  | failed {entries : List ServerEntry} {before : Deployment} (launch : EntryLaunch)
      {cause : ServiceError} {after : Deployment} (drift : before.Drifts launch.loading)
      (driftOn : launch.loading.Drifts launch.launching) (answered : launch.answer = (.error cause, after)) :
      Launches (launch.entry :: entries) before [launch] (.error cause) after
  | launched {entries : List ServerEntry} {before : Deployment} (launch : EntryLaunch)
      {next : Deployment} {launches : List EntryLaunch} {answer : Except ServiceError Unit}
      {after : Deployment} (drift : before.Drifts launch.loading)
      (driftOn : launch.loading.Drifts launch.launching) (answered : launch.answer = (.ok (), next))
      (later : Launches entries next launches answer after) :
      Launches (launch.entry :: entries) before (launch :: launches) answer after

/-- What holds of a launch of entries behind others whose names are `names`. -/
structure LaunchesKept (names : List String) (entries : List ServerEntry) (launches : List EntryLaunch)
    (answer : Except ServiceError Unit) (after : Deployment) : Prop where
  /-- Each launch succeeds or was hindered. -/
  each : ∀ launch ∈ launches, launch.answer.1 = .ok () ∨
    ∃ cause, launch.answer.1 = .error cause ∧ launch.Hindered cause
  named : answer = .ok () → Named (names ++ entries.map ServerEntry.name) after
  complete : answer = .ok () → launches.map EntryLaunch.entry = entries
  favoured : (∀ launch ∈ launches, launch.Favoured) → answer = .ok ()

theorem name_not_mem_of_distinct {names : List String} {entry : ServerEntry} {entries : List ServerEntry}
    (distinct : (names ++ (entry :: entries).map ServerEntry.name).Nodup) : entry.name ∉ names := by
  intro taken
  exact List.disjoint_of_nodup_append distinct taken (by simp)

theorem Launches.kept {names : List String} {entries : List ServerEntry} {before after : Deployment}
    {launches : List EntryLaunch} {answer : Except ServiceError Unit}
    (run : Launches entries before launches answer after) (named : Named names before)
    (usable : ∀ entry ∈ entries, entry.Usable)
    (distinct : (names ++ entries.map ServerEntry.name).Nodup) :
    LaunchesKept names entries launches answer after := by
  induction run generalizing names with
  | finished deployment => exact ⟨by simp, fun _ => by simpa using named, fun _ => rfl, fun _ => rfl⟩
  | @failed entries before launch cause after drift driftOn answered =>
      have outcome := EntryLaunch.outcome (usable launch.entry (by simp))
        ((named.drift drift).drift driftOn) (name_not_mem_of_distinct distinct)
      have hindered : launch.Hindered cause := by simpa [answered] using outcome
      refine ⟨?_, nofun, nofun, ?_⟩
      · intro other isLaunch
        obtain rfl := List.mem_singleton.1 isLaunch
        exact .inr ⟨cause, by rw [answered], hindered⟩
      · intro favoured
        exact absurd hindered (EntryLaunch.not_hindered_of_favoured (favoured launch (by simp)))
  | @launched entries before launch next launches answer after drift driftOn answered later
      inductionHypothesis =>
      have outcome := EntryLaunch.outcome (usable launch.entry (by simp))
        ((named.drift drift).drift driftOn) (name_not_mem_of_distinct distinct)
      have namedNext : Named (names ++ [launch.entry.name]) next := by simpa [answered] using outcome
      have rest : LaunchesKept (names ++ [launch.entry.name]) entries launches answer after :=
        inductionHypothesis namedNext (fun entry isEntry => usable entry (List.mem_cons_of_mem _ isEntry))
          (by simpa using distinct)
      refine ⟨?_, fun isOk => by simpa using rest.named isOk, fun isOk => ?_, fun favoured => ?_⟩
      · intro other isLaunch
        obtain rfl | isLater := List.mem_cons.1 isLaunch
        · exact .inl (by rw [answered])
        · exact rest.each other isLater
      · simp [rest.complete isOk]
      · exact rest.favoured fun other isLaunch => favoured other (List.mem_cons_of_mem _ isLaunch)

/-- The launch of all entries in an undisturbed world is one of the launches. -/
theorem launches_launchAll (entries : List ServerEntry) (deployment : Deployment) :
    ∃ launches, Launches entries deployment launches (launchAll entries deployment).1
      (launchAll entries deployment).2 := by
  induction entries generalizing deployment with
  | nil => exact ⟨[], .finished deployment⟩
  | cons entry entries inductionHypothesis =>
      let launch : EntryLaunch := ⟨entry, deployment, deployment⟩
      have isAnswer : launchEntry entry deployment = launch.answer := rfl
      cases answered : launch.answer with
      | mk given next =>
          cases given with
          | error cause =>
              refine ⟨[launch], ?_⟩
              simp only [launchAll, isAnswer, answered]
              exact .failed launch (.refl deployment) (.refl deployment) answered
          | ok nothing =>
              obtain ⟨launches, run⟩ := inductionHypothesis next
              refine ⟨launch :: launches, ?_⟩
              simp only [launchAll, isAnswer, answered]
              exact .launched launch (.refl deployment) (.refl deployment) answered run

/-- The entry whose server becomes the default: the one that is marked, or the first if none is. -/
structure ChosenDefault (settings : Settings) (entry : ServerEntry) : Prop where
  isEntry : entry ∈ settings.servers
  marked : entry.isDefault = true ∨
    (∀ other ∈ settings.servers, other.isDefault = false) ∧ settings.servers.head? = some entry

theorem chosenDefault_of_defaultEntry? {settings : Settings} (someServer : settings.servers ≠ []) :
    ∃ entry, settings.defaultEntry? = some entry ∧ ChosenDefault settings entry := by
  unfold Settings.defaultEntry?
  cases found : settings.servers.find? ServerEntry.isDefault with
  | some entry => exact ⟨entry, rfl, List.mem_of_find?_eq_some found, .inl (List.find?_some found)⟩
  | none =>
      obtain ⟨first, others, isCons⟩ := List.exists_cons_of_ne_nil someServer
      refine ⟨first, by simp [isCons], by simp [isCons], .inr ⟨?_, by simp [isCons]⟩⟩
      intro other isOther
      simpa using List.find?_eq_none.1 found other isOther

theorem markDefault_of_listed {settings : Settings} {entry : ServerEntry} {deployment : Deployment}
    (isDefault : settings.defaultEntry? = some entry)
    (listed : entry.name ∈ deployment.site.directory.names) :
    markDefault settings deployment = .ok { deployment with site := { deployment.site with
      directory := { deployment.site.directory with default := some entry.name } } } := by
  simp [markDefault, isDefault, Site.setDefaultName, Directory.setDefault_of_mem listed, Except.map]

/-- What holds of every launch of settings that were accepted, whatever the machine does meanwhile. -/
structure StartsAsAccepted (settings : Settings) (launches : List EntryLaunch)
    (answer : Except ServiceError Unit) (after : Deployment) : Prop where
  /-- No entry has options that are refused. -/
  options : ∀ entry ∈ settings.servers, ∃ options, entry.options = .ok options
  /-- A launch that fails is one that the machine hinders. -/
  hindered : ∀ launch ∈ launches, ∀ cause, launch.answer.1 = .error cause → launch.Hindered cause
  /-- Where the machine hinders none, every entry is launched. -/
  favoured : (∀ launch ∈ launches, launch.Favoured) →
    answer = .ok () ∧ launches.map EntryLaunch.entry = settings.servers ∧
      ∀ launch ∈ launches, launch.answer.1 = .ok ()
  /-- Behind the last launch the default can be set, and the names are those of the entries. -/
  marked : answer = .ok () → ∀ drifted, after.Drifts drifted →
    ∃ entry marked, markDefault settings drifted = .ok marked ∧ ChosenDefault settings entry ∧
      marked.site.directory.default = some entry.name ∧
      marked.site.directory.names.Perm (settings.servers.map ServerEntry.name)

theorem Launches.startsAsAccepted {settings : Settings} {before after : Deployment}
    {launches : List EntryLaunch} {answer : Except ServiceError Unit}
    (run : Launches settings.servers before launches answer after) (valid : settings.Valid)
    (someServer : settings.servers ≠ []) (named : Named [] before) :
    StartsAsAccepted settings launches answer after := by
  have kept := run.kept named valid.usable (by simpa using valid.names_distinct)
  refine ⟨?_, ?_, ?_, ?_⟩
  · intro entry isEntry
    exact ⟨_, ServerEntry.options_eq_ok_iff.2 ⟨(valid.usable entry isEntry).limits_valid, rfl⟩⟩
  · intro launch isLaunch cause failed
    obtain succeeded | ⟨other, otherFailed, hindered⟩ := kept.each launch isLaunch
    · rw [failed] at succeeded
      cases succeeded
    · rw [failed] at otherFailed
      cases otherFailed
      exact hindered
  · intro favoured
    have isOk := kept.favoured favoured
    refine ⟨isOk, kept.complete isOk, ?_⟩
    intro launch isLaunch
    obtain succeeded | ⟨cause, -, hindered⟩ := kept.each launch isLaunch
    · exact succeeded
    · exact absurd hindered (EntryLaunch.not_hindered_of_favoured (favoured launch isLaunch))
  · intro isOk drifted drift
    have namedAfter := (kept.named isOk).drift drift
    obtain ⟨entry, isDefault, chosen⟩ := chosenDefault_of_defaultEntry? someServer
    have listed : entry.name ∈ drifted.site.directory.names :=
      namedAfter.names_perm.mem_iff.2 (List.mem_map_of_mem chosen.isEntry)
    exact ⟨entry, _, markDefault_of_listed isDefault listed, chosen, rfl, namedAfter.names_perm⟩

/-- Accepted settings with at least one server, launched into a deployment without names: whatever happens
meanwhile, only the machine can make a launch fail. The start of a service is such a launch, and where it
succeeds it leaves the deployment in which the default was set. -/
theorem startsAsAccepted_of_validate {settings : Settings} {before : Deployment}
    (someServer : settings.servers ≠ []) (accepted : settings.validate = .ok ())
    (matched : before.Matched) (unnamed : before.site.directory = {}) :
    (∀ launches answer after, Launches settings.servers before launches answer after →
      StartsAsAccepted settings launches answer after) ∧
    ∃ launches after, Launches settings.servers before launches (start settings before).1 after ∧
      ((start settings before).1 = .ok () →
        markDefault settings after = .ok (start settings before).2) := by
  have valid := Settings.validate_eq_ok_iff.1 accepted
  have named : Named [] before := ⟨matched, by rw [unnamed]; exact .refl _, by rw [unnamed]; rfl⟩
  refine ⟨fun launches answer after run => run.startsAsAccepted valid someServer named, ?_⟩
  obtain ⟨launches, run⟩ := launches_launchAll settings.servers before
  have starts := run.startsAsAccepted valid someServer named
  have agrees : (start settings before).1 = (launchAll settings.servers before).1 ∧
      ((start settings before).1 = .ok () →
        markDefault settings (launchAll settings.servers before).2 = .ok (start settings before).2) := by
    unfold start
    rw [accepted]
    generalize launchAll settings.servers before = launched at starts ⊢
    obtain ⟨answer, after⟩ := launched
    cases answer with
    | error cause => exact ⟨rfl, nofun⟩
    | ok nothing =>
        obtain ⟨_, marked, isMarked, -⟩ := starts.marked rfl after (.refl after)
        simp [isMarked]
  refine ⟨launches, (launchAll settings.servers before).2, ?_, agrees.2⟩
  rw [agrees.1]
  exact run

private def twoServers : Settings where
  servers := [
    { name := "near", address := "tcp://127.0.0.1:0" },
    { name := "nearer", address := "LOCAL://pool.sock", isDefault := true }]

/-- Two servers on a machine where nobody listens: the start succeeds, and the second is the default. -/
theorem startsAsAccepted_of_two_servers :
    twoServers.servers ≠ [] ∧ twoServers.validate = .ok () ∧ (start twoServers {}).1 = .ok () ∧
      (start twoServers {}).2.site.directory.default = some "nearer" ∧
      (∀ launches answer after, Launches twoServers.servers {} launches answer after →
        StartsAsAccepted twoServers launches answer after) ∧
      ∃ launches after, Launches twoServers.servers {} launches (start twoServers {}).1 after ∧
        ((start twoServers {}).1 = .ok () →
          markDefault twoServers after = .ok (start twoServers {}).2) := by
  have someServer : twoServers.servers ≠ [] := by decide
  have accepted : twoServers.validate = .ok () := by decide
  have starts : (start twoServers {}).1 = .ok () := by decide
  have isDefault : (start twoServers {}).2.site.directory.default = some "nearer" := by decide
  exact ⟨someServer, accepted, starts, isDefault,
    startsAsAccepted_of_validate someServer accepted rfl rfl⟩

end Service

end ConnectionPool
