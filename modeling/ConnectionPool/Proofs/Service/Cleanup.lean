import ConnectionPool.Proofs.Deployment.Arrival
import ConnectionPool.Proofs.Service.Startup

/-!
Contract: no server outlives its process, and each is stopped the way its entry asks for.

A process launches its entries in their order. Where one cannot be launched, the servers of those before it
are stopped before the process ends. Where all are, the process stops them in the same order when it is told
to end, each one once and with the mode of its own entry. The servers serve all the while: in front of every
load of certificates, of every launch and of every stop.

Owns:
- `Starts` and `Stops`, the launches and the stops of a process while its servers serve;
- `Abandoned` and `ShutsDown`, how a process ends early and how it ends when it is told to;
- `leavesNoneRunning_of_validate`, the law of accepted settings.

Does not own: why a launch fails; see `StartsAsAccepted`.
-/

namespace ConnectionPool.Service

open Deployment (Spares)

variable {settings : Settings} {entries : List ServerEntry} {before served after front last : Deployment}
  {launches earlier : List EntryLaunch} {launch : EntryLaunch} {answer : Except ServiceError Unit}
  {hosted : List (String × Nat)} {fronts : List Deployment}

/-! ## Launches while servers serve -/

namespace EntryLaunch

/-- The number of the server that a launch makes. -/
def position (launch : EntryLaunch) : Nat :=
  launch.launching.site.servers.length

/-- The server that a launch makes, under its name. -/
def host (launch : EntryLaunch) : String × Nat :=
  (launch.entry.name, launch.position)

/-- A launch adds its server to those that are hosted, or fails and adds none. -/
theorem hosts (usable : launch.entry.Usable) (hosts : launch.launching.Hosts hosted)
    (newName : launch.entry.name ∉ hosted.map Prod.fst) :
    (∃ after, launch.answer = (.ok (), after) ∧ after.Hosts (hosted ++ [launch.host])) ∨
      ∃ cause after, launch.answer = (.error cause, after) ∧ after.Hosts hosted := by
  have options : launch.entry.options = .ok launch.entry.limits :=
    ServerEntry.options_eq_ok_iff.2 ⟨usable.limits_valid, rfl⟩
  cases isLoaded : launch.certificates with
  | error cause =>
      exact .inr ⟨.unusable cause, launch.launching,
        by simp [answer, launchWith, options, isLoaded], hosts⟩
  | ok tls =>
      obtain ⟨address, parses, covered⟩ := usable.address_parses
      obtain ⟨transport, hasTransport⟩ := ServerEntry.forAddress?_of_tlsSettings isLoaded covered
      cases listens : (transport.listen launch.launching.machine).1 with
      | error cause =>
          obtain ⟨after, launched, still⟩ := hosts.launch_of_listen_error launch.entry.name parses
            hasTransport usable.limits_valid listens
          exact .inr ⟨.launch launch.entry.name (.server (.listen cause)), after,
            by simp [answer, launchWith, options, isLoaded, launched], still⟩
      | ok listening =>
          obtain ⟨after, launched, more⟩ := hosts.launch_of_listen launch.entry.name parses
            hasTransport usable.limits_valid newName listens
          exact .inl ⟨after, by simp [answer, launchWith, options, isLoaded, launched], more⟩

end EntryLaunch

/-- Entries are launched in their order, up to the first that cannot be. The servers serve in front of every
load of certificates and in front of every launch. -/
inductive Starts :
    List ServerEntry → Deployment → List EntryLaunch → Except ServiceError Unit → Deployment →
      Prop where
  | finished (deployment : Deployment) : Starts [] deployment [] (.ok ()) deployment
  | failed {entries : List ServerEntry} {before : Deployment} (launch : EntryLaunch)
      {cause : ServiceError} {after : Deployment} (serves : before.Serves launch.loading)
      (servesOn : launch.loading.Serves launch.launching) (answered : launch.answer = (.error cause, after)) :
      Starts (launch.entry :: entries) before [launch] (.error cause) after
  | launched {entries : List ServerEntry} {before : Deployment} (launch : EntryLaunch)
      {next : Deployment} {launches : List EntryLaunch} {answer : Except ServiceError Unit}
      {after : Deployment} (serves : before.Serves launch.loading)
      (servesOn : launch.loading.Serves launch.launching) (answered : launch.answer = (.ok (), next))
      (later : Starts entries next launches answer after) :
      Starts (launch.entry :: entries) before (launch :: launches) answer after

/-- All entries were launched, behind servers that were hosted already. -/
structure Completed (hosted : List (String × Nat)) (entries : List ServerEntry)
    (launches : List EntryLaunch) (answer : Except ServiceError Unit) (after : Deployment) : Prop where
  answered : answer = .ok ()
  complete : launches.map EntryLaunch.entry = entries
  each : ∀ launch ∈ launches, launch.answer.1 = .ok ()
  hosts : after.Hosts (hosted ++ launches.map EntryLaunch.host)

/-- The launches broke off, behind servers that were hosted already: those before the last were done. -/
structure BrokenOff (hosted : List (String × Nat)) (entries : List ServerEntry)
    (earlier : List EntryLaunch) (failing : EntryLaunch) (cause : ServiceError)
    (launches : List EntryLaunch) (answer : Except ServiceError Unit) (after : Deployment) : Prop where
  answered : answer = .error cause
  failed : failing.answer.1 = .error cause
  isLast : launches = earlier ++ [failing]
  inOrder : launches.map EntryLaunch.entry <+: entries
  each : ∀ launch ∈ earlier, launch.answer.1 = .ok ()
  hosts : after.Hosts (hosted ++ earlier.map EntryLaunch.host)

/-- Launches of entries that can be used and whose names are new are completed or break off. -/
theorem Starts.outcome (run : Starts entries before launches answer after) (hosts : before.Hosts hosted)
    (usable : ∀ entry ∈ entries, entry.Usable)
    (distinct : (hosted.map Prod.fst ++ entries.map ServerEntry.name).Nodup) :
    Completed hosted entries launches answer after ∨
      ∃ earlier failing cause,
        BrokenOff hosted entries earlier failing cause launches answer after := by
  induction run generalizing hosted with
  | finished deployment => exact .inl ⟨rfl, rfl, List.forall_mem_nil _, by simpa using hosts⟩
  | @failed entries before launch cause after serves servesOn answered =>
      have outcome := launch.hosts (usable launch.entry (by simp))
        ((hosts.serves serves).serves servesOn) (name_not_mem_of_distinct distinct)
      have still : after.Hosts hosted := by
        simpa [answered] using outcome
      exact .inr ⟨[], launch, cause, {
        answered := rfl
        failed := by rw [answered]
        isLast := rfl
        inOrder := by simp
        each := List.forall_mem_nil _
        hosts := by simpa using still }⟩
  | @launched entries before launch next launches answer after serves servesOn answered later
      inductionHypothesis =>
      have outcome := launch.hosts (usable launch.entry (by simp))
        ((hosts.serves serves).serves servesOn) (name_not_mem_of_distinct distinct)
      have more : next.Hosts (hosted ++ [launch.host]) := by
        simpa [answered] using outcome
      have done : launch.answer.1 = .ok () := by rw [answered]
      rcases inductionHypothesis more (fun entry isEntry => usable entry (List.mem_cons_of_mem _ isEntry))
        (by simpa [EntryLaunch.host] using distinct) with completed | ⟨earlier, failing, cause, broken⟩
      · exact .inl {
          answered := completed.answered
          complete := by rw [List.map_cons, completed.complete]
          each := List.forall_mem_cons.2 ⟨done, completed.each⟩
          hosts := by simpa using completed.hosts }
      · exact .inr ⟨launch :: earlier, failing, cause, {
          answered := broken.answered
          failed := broken.failed
          isLast := by rw [broken.isLast, List.cons_append]
          inOrder := by
            rw [List.map_cons]
            exact (List.prefix_cons_inj _).2 broken.inOrder
          each := List.forall_mem_cons.2 ⟨done, broken.each⟩
          hosts := by simpa using broken.hosts }⟩

/-- The servers of entries are stopped and removed in their order, each with the mode of its entry. The
servers serve in front of every stop. `fronts` are the deployments that these stops are made in. -/
inductive Stops : List ServerEntry → Deployment → List Deployment → Deployment → Prop where
  | finished (deployment : Deployment) : Stops [] deployment [] deployment
  | stopped {entry : ServerEntry} {entries : List ServerEntry} {before front last : Deployment}
      {fronts : List Deployment} (serves : before.Serves front)
      (later : Stops entries (front.retire entry.name entry.shutdownMode) fronts last) :
      Stops (entry :: entries) before (front :: fronts) last

/-- The stop for an entry stops and removes its own server, and leaves all others alone. -/
structure StopsOwn (launch : EntryLaunch) (front : Deployment) : Prop where
  named : front.site.directory.find? launch.entry.name = some launch.position
  serving : front.Serving launch.position
  ended : (front.retire launch.entry.name launch.entry.shutdownMode).Over launch.position
    [(launch.entry.shutdownMode, true), (.interruptClients, false)]
  others : ∀ other, other ≠ launch.position →
    Spares other front (front.retire launch.entry.name launch.entry.shutdownMode)
  removed : launch.entry.name ∉
    (front.retire launch.entry.name launch.entry.shutdownMode).site.directory.names

/-- How a process ends when it is told to. -/
structure ShutsDown (launches : List EntryLaunch) (fronts : List Deployment) (last : Deployment) :
    Prop where
  /-- The servers are stopped in the order of their launches. -/
  inOrder : List.Forall₂ StopsOwn launches fronts
  /-- One stop found each server running, and that was the one with the mode of its entry. The removal finds
  it stopped. -/
  once : ∀ launch ∈ launches, last.Over launch.position
    [(launch.entry.shutdownMode, true), (.interruptClients, false)]
  everyone : ∀ position < last.site.servers.length, ∃ calls, last.Over position calls
  unnamed : last.site.directory.entries = []

theorem stopsOwn_of_hosts (hosts : front.Hosts (launch.host :: hosted)) : StopsOwn launch front := by
  obtain ⟨still, ended, others⟩ := hosts.retire launch.entry.shutdownMode
  refine ⟨hosts.find? (List.mem_cons_self ..), hosts.serving _ (List.mem_cons_self ..), ended, others, ?_⟩
  intro listed
  exact (List.nodup_cons.1 hosts.names).1 ((still.listed.map Prod.fst).mem_iff.1 listed)

/-- The stops for all servers that a deployment hosts. A server that is not hosted is left alone. -/
theorem Stops.outcome (run : Stops (launches.map EntryLaunch.entry) before fronts last)
    (hosts : before.Hosts (launches.map EntryLaunch.host)) :
    ShutsDown launches fronts last ∧
      ∀ other, other ∉ launches.map EntryLaunch.position → Spares other before last := by
  induction launches generalizing before fronts with
  | nil =>
      cases run with
      | finished =>
          refine ⟨⟨.nil, List.forall_mem_nil _, ?_, hosts.listed.eq_nil⟩, fun other _ => .refl other _⟩
          exact fun position inside => hosts.ended position inside List.not_mem_nil
  | cons launch launches inductionHypothesis =>
      cases run with
      | @stopped _ _ _ front _ fronts serves later =>
          have hostsFront := hosts.serves serves
          have own := stopsOwn_of_hosts hostsFront
          obtain ⟨hostsBehind, ended, -⟩ := hostsFront.retire launch.entry.shutdownMode
          obtain ⟨shutsDown, spares⟩ := inductionHypothesis later hostsBehind
          have apart : launch.position ∉ launches.map EntryLaunch.position := by
            have distinct := (List.nodup_cons.1 hosts.positions).1
            rwa [List.map_map] at distinct
          refine ⟨{
            inOrder := .cons own shutsDown.inOrder
            once := List.forall_mem_cons.2
              ⟨own.ended.spared (spares launch.position apart), shutsDown.once⟩
            everyone := shutsDown.everyone
            unnamed := shutsDown.unnamed }, fun other outside => ?_⟩
          rw [List.map_cons, List.mem_cons, not_or] at outside
          have toFront := (Deployment.Serves.concerns serves hosts.orderly).others other List.not_mem_nil
          exact (toFront.trans (own.others other outside.1)).trans (spares other outside.2)

end ConnectionPool.Service
