import ConnectionPool.Proofs.Deployment.Launch
import ConnectionPool.Proofs.Directory
import ConnectionPool.Proofs.Site.Lives

/-!
Contract: who serves in a deployment, and who has ended.

A deployment hosts the servers that its directory names: they run, and their transports listen. Every other
server that was ever made there is stopped, and its transport does not listen. A launch adds one server to
those that are hosted or none, a retirement takes one away, and when the directory is given up there are none
left. In between the servers serve, which changes neither.

Owns:
- `Deployment.Serving` and `Deployment.Over`, a server before its stop and behind its last one;
- `Deployment.Serves`, what goes on between two calls of the host;
- `Deployment.Hosts` and what `launch`, `retire` and `abandon` do to it.

Does not own: which servers are launched and retired, and when.
-/

namespace ConnectionPool

namespace Transport

variable {transport : Transport} {machine : Machine}

theorem isListening_unlisten (transport : Transport) (machine : Machine) :
    (transport.unlisten machine).1.isListening = false := by
  cases transport with
  | network network =>
      unfold unlisten
      dsimp only
      split
      · next unheard => simp [isListening, listener, unheard]
      · rfl
  | socketFile socketFile =>
      unfold unlisten SocketFileTransport.unlisten
      dsimp only
      split
      · next unheard => simp [isListening, listener, unheard]
      · rfl

theorem isListening_of_listen {listening : Transport}
    (listens : (transport.listen machine).1 = .ok listening) : listening.isListening = true := by
  cases transport with
  | network network =>
      simp only [listen, NetworkTransport.listen] at listens
      split at listens
      · cases listens
      · next heard isHeard =>
          cases listens
          split at isHeard
          · cases isHeard
          · split at isHeard
            · cases isHeard
            · cases isHeard
              rfl
  | socketFile socketFile =>
      simp only [listen, SocketFileTransport.listen] at listens
      split at listens
      · cases listens
      · next heard isHeard =>
          cases listens
          split at isHeard
          · cases isHeard
          · split at isHeard
            · cases isHeard
            · split at isHeard
              · cases isHeard
              · cases isHeard
                rfl

theorem isListening_of_forAddress? {address : ServerAddress} {tls : Option TlsSettings}
    (isNew : forAddress? address tls = some transport) : transport.isListening = false := by
  cases address with
  | tcp endpoint | localSocket path =>
      cases isNew
      rfl
  | ssl endpoint =>
      obtain ⟨settings, -, rfl⟩ := Option.map_eq_some_iff.1 isNew
      rfl

end Transport

namespace Deployment

open Site (Goes Traffic)

variable {deployment before middle after : Deployment} {position other : Nat}
  {calls : List (StopMode × Bool)} {mode : StopMode} {name : String}

/-! ## What is asked of transports -/

/-- Whether the transport of a server listens. -/
def listens? (position : Nat) (deployment : Deployment) : Option Bool :=
  deployment.transports[position]?.map Transport.isListening

theorem listens?_obey (deployment : Deployment) (asked : Nat × Hook) :
    (deployment.obey asked).listens? position =
      if asked = (position, .unlisten) then (deployment.listens? position).map fun _ => false
      else deployment.listens? position := by
  obtain ⟨other, hook⟩ := asked
  cases hook with
  | listen | create | discard => simp [obey, dismiss, listens?]
  | unlisten =>
      simp only [obey, unlisten]
      split
      · next missing =>
          by_cases same : other = position
          · subst same
            simp [listens?, missing]
          · simp [same]
      · next transport found =>
          by_cases same : other = position
          · subst same
            have inside := (List.getElem?_eq_some_iff.1 found).1
            simp [listens?, List.getElem?_set_self inside, found, Transport.isListening_unlisten]
          · simp [listens?, List.getElem?_set_ne same, same]

theorem listens?_foldl_obey (asked : List (Nat × Hook)) (deployment : Deployment) :
    (asked.foldl obey deployment).listens? position =
      if (position, .unlisten) ∈ asked then (deployment.listens? position).map fun _ => false
      else deployment.listens? position := by
  induction asked generalizing deployment with
  | nil => rfl
  | cons first asked inductionHypothesis =>
      rw [List.foldl_cons, inductionHypothesis, listens?_obey]
      by_cases here : first = (position, .unlisten) <;>
        by_cases later : (position, .unlisten) ∈ asked <;>
          simp [here, later, eq_comm, Function.comp_def]

theorem site_foldl_obey (asked : List (Nat × Hook)) (deployment : Deployment) :
    (asked.foldl obey deployment).site = deployment.site := by
  induction asked generalizing deployment with
  | nil => rfl
  | cons first asked inductionHypothesis =>
      rw [List.foldl_cons, inductionHypothesis]
      unfold obey unlisten
      split
      · split <;> rfl
      all_goals rfl

theorem transports_foldl_obey (asked : List (Nat × Hook)) (deployment : Deployment) :
    (asked.foldl obey deployment).transports.length = deployment.transports.length := by
  induction asked generalizing deployment with
  | nil => rfl
  | cons first asked inductionHypothesis =>
      exact (inductionHypothesis _).trans (deployment.obey_drifts first).transports

section Perform

variable {Answer : Type} (call : Site → Answer × Site) (deployment : Deployment)

theorem site_perform :
    (deployment.perform call).2.site = { (call deployment.site).2 with journal := [] } :=
  site_foldl_obey _ _

theorem transports_perform :
    (deployment.perform call).2.transports.length = deployment.transports.length :=
  transports_foldl_obey _ _

theorem listens?_perform :
    (deployment.perform call).2.listens? position =
      if (position, .unlisten) ∈ (call deployment.site).2.journal then
        (deployment.listens? position).map fun _ => false
      else deployment.listens? position :=
  listens?_foldl_obey _ _

end Perform

/-! ## Before and behind the end of a server -/

/-- The server at a position runs, and its transport listens. -/
structure Serving (position : Nat) (deployment : Deployment) : Prop where
  runs : deployment.site.Runs position
  listens : deployment.listens? position = some true

/-- The server at a position is gone, behind these stops, and its transport does not listen. -/
structure Over (position : Nat) (calls : List (StopMode × Bool)) (deployment : Deployment) : Prop where
  stopped : deployment.site.Stopped position calls true
  silent : deployment.listens? position = some false

/-- The server at a position went on as it was, and so did its transport. -/
structure Spares (position : Nat) (before after : Deployment) : Prop where
  goes : Goes position before.site after.site
  listens : after.listens? position = before.listens? position

theorem Spares.refl (position : Nat) (deployment : Deployment) : Spares position deployment deployment :=
  ⟨.refl position deployment.site, rfl⟩

theorem Spares.trans (earlier : Spares position before middle) (later : Spares position middle after) :
    Spares position before after :=
  ⟨earlier.goes.trans later.goes, later.listens.trans earlier.listens⟩

theorem Serving.spared (serving : before.Serving position) (spares : Spares position before after) :
    after.Serving position :=
  ⟨serving.runs.goes spares.goes, spares.listens.trans serving.listens⟩

theorem Over.spared (ended : before.Over position calls) (spares : Spares position before after) :
    after.Over position calls :=
  ⟨ended.stopped.goes spares.goes, spares.listens.trans ended.silent⟩

theorem Serving.inside (serving : deployment.Serving position) :
    position < deployment.site.servers.length := by
  obtain ⟨live, turns, life, -⟩ := serving.runs
  exact (List.getElem?_eq_some_iff.1 life.found).1

/-! ## Between and during calls -/

/-- No call is under way: every server has its transport, and nothing is left to ask of them. -/
structure Orderly (deployment : Deployment) : Prop where
  matched : deployment.Matched
  manned : deployment.site.Manned
  quiet : deployment.site.journal = []

/-- Something was done with some servers; all others went on as they were. -/
structure Concerns (positions : List Nat) (before after : Deployment) : Prop where
  orderly : after.Orderly
  others : ∀ other, other ∉ positions → Spares other before after
  drift : before.Drifts after

variable {positions : List Nat}

theorem Concerns.trans (earlier : Concerns positions before middle)
    (later : Concerns positions middle after) : Concerns positions before after where
  orderly := later.orderly
  others := fun other outside => (earlier.others other outside).trans (later.others other outside)
  drift := earlier.drift.trans later.drift

/-- A call that is about some servers and only asks their transports to listen no more. -/
theorem concerns_perform {Answer : Type} (call : Site → Answer × Site) (orderly : deployment.Orderly)
    (manned : (call deployment.site).2.Manned)
    (goes : ∀ other, other ∉ positions → Goes other deployment.site (call deployment.site).2)
    (names : deployment.site.SameNames (call deployment.site).2)
    (asked : ∀ other, (other, .unlisten) ∈ (call deployment.site).2.journal → other ∈ positions) :
    Concerns positions deployment (deployment.perform call).2 where
  orderly := {
    matched := (perform_drifts names).matched orderly.matched
    manned := by
      rw [site_perform]
      exact manned
    quiet := by rw [site_perform] }
  others := fun other outside => {
    goes := by
      rw [site_perform]
      exact goes other outside
    listens := by
      rw [listens?_perform, if_neg fun member => outside (asked other member)] }
  drift := perform_drifts names

theorem concerns_of_beside {Answer : Type} (call : Site → Answer × Site)
    (orderly : deployment.Orderly)
    (beside : Site.Beside position deployment.site (call deployment.site).2) :
    Concerns [position] deployment (deployment.perform call).2 :=
  concerns_perform call orderly (beside.manned orderly.manned)
    (fun other outside => beside.others other fun same => outside (by simp [same]))
    ⟨beside.directory, beside.size⟩
    fun other asks => by
      rcases beside.journal other asks with there | same
      · rw [orderly.quiet] at there
        cases there
      · simp [same]

/-! ## While the servers serve -/

/-- The site had traffic, and whatever that asked of transports was done. The machine and the visitors may be
others than before. -/
structure Served (before after : Deployment) : Prop where
  traffic : ∃ busy, before.site.Traffic busy ∧ after.site = { busy with journal := [] }
  transports : after.transports = before.transports

/-- What goes on between two calls of the host. -/
abbrev Serves : Deployment → Deployment → Prop :=
  Relation.ReflTransGen Served

theorem Served.concerns (served : before.Served after) (orderly : before.Orderly) :
    Concerns [] before after := by
  obtain ⟨⟨busy, traffic, isAfter⟩, transports⟩ := served
  have works := traffic.works orderly.manned.posted
  have drift : before.Drifts after :=
    ⟨⟨by rw [isAfter]; exact works.directory, by rw [isAfter]; exact works.size⟩, by rw [transports]⟩
  constructor
  case orderly =>
    refine ⟨drift.matched orderly.matched, ?_, by rw [isAfter]⟩
    rw [isAfter]
    exact works.manned orderly.manned
  case others =>
    refine fun other _ => ⟨?_, by rw [listens?, transports]; rfl⟩
    rw [isAfter]
    exact works.servers other
  case drift => exact drift

theorem Serves.concerns (serves : before.Serves after) (orderly : before.Orderly) :
    Concerns [] before after := by
  induction serves with
  | refl => exact ⟨orderly, fun other _ => .refl other before, .refl before⟩
  | tail _ served inductionHypothesis =>
      exact inductionHypothesis.trans (served.concerns inductionHypothesis.orderly)

theorem Serves.transports (serves : before.Serves after) : after.transports = before.transports := by
  induction serves with
  | refl => rfl
  | tail _ served inductionHypothesis => exact served.transports.trans inductionHypothesis

theorem transports_foldl_obey_of_quiet {asked : List (Nat × Hook)}
    (quiet : ∀ entry ∈ asked, entry.2 ≠ .unlisten) (deployment : Deployment) :
    (asked.foldl obey deployment).transports = deployment.transports := by
  induction asked generalizing deployment with
  | nil => rfl
  | cons first asked inductionHypothesis =>
      obtain ⟨here, behind⟩ := List.forall_mem_cons.1 quiet
      rw [List.foldl_cons, inductionHypothesis behind]
      obtain ⟨other, hook⟩ := first
      cases hook with
      | unlisten => exact absurd rfl here
      | listen | create | discard => rfl

/-- A call that is no more than traffic. -/
theorem served_perform {Answer : Type} {call : Site → Answer × Site} (orderly : deployment.Orderly)
    (traffic : deployment.site.Traffic (call deployment.site).2) :
    deployment.Served (deployment.perform call).2 where
  traffic := ⟨_, traffic, site_perform call deployment⟩
  transports := transports_foldl_obey_of_quiet (fun entry member => by
    refine ((traffic.works orderly.manned.posted).journal entry member).resolve_left fun there => ?_
    rw [orderly.quiet] at there
    cases there) _

theorem sweepAll_served (orderly : deployment.Orderly) : deployment.Served deployment.sweepAll.2 :=
  served_perform orderly (Site.sweepAll_traffic _)

/-! ## Stops -/

/-- The first stop of a server that serves. -/
theorem Serving.stop (serving : deployment.Serving position) (orderly : deployment.Orderly)
    (mode : StopMode) :
    (deployment.stop position mode).1 = true ∧
      (deployment.stop position mode).2.site.Stopped position [(mode, true)] false ∧
      (deployment.stop position mode).2.listens? position = some false ∧
      Concerns [position] deployment (deployment.stop position mode).2 := by
  obtain ⟨answered, stopped, beside, asked⟩ := serving.runs.stopNow orderly.manned.posted mode
  refine ⟨answered, ?_, ?_, concerns_of_beside _ orderly beside⟩
  · rw [Deployment.stop, site_perform]
    exact stopped.goes (.of_eq rfl)
  · rw [Deployment.stop, listens?_perform, if_pos asked, serving.listens]
    rfl

/-- A stopped server that no name refers to is gone behind one more stop. -/
theorem over_drop (orderly : deployment.Orderly)
    (stopped : deployment.site.Stopped position calls false)
    (silent : deployment.listens? position = some false)
    (unnamed : position ∉ deployment.site.directory.values) :
    (deployment.drop position).Over position (calls ++ [(.interruptClients, false)]) ∧
      Concerns [position] deployment (deployment.drop position) := by
  obtain ⟨gone, beside, unasked⟩ := stopped.removeUnreferenced orderly.manned.posted unnamed
  refine ⟨⟨?_, ?_⟩, concerns_of_beside (fun site => ((), site.removeUnreferenced position)) orderly
    beside⟩
  · rw [drop, site_perform]
    exact gone.goes (.of_eq rfl)
  · rw [drop, listens?_perform, unasked, orderly.quiet, if_neg List.not_mem_nil, silent]

/-! ## The servers of the directory -/

/-- A deployment hosts these servers under these names: they serve, and all others have ended. -/
structure Hosts (hosted : List (String × Nat)) (deployment : Deployment) : Prop where
  orderly : deployment.Orderly
  listed : deployment.site.directory.entries.Perm hosted
  names : (hosted.map Prod.fst).Nodup
  positions : (hosted.map Prod.snd).Nodup
  serving : ∀ entry ∈ hosted, deployment.Serving entry.2
  ended : ∀ position < deployment.site.servers.length, position ∉ hosted.map Prod.snd →
    ∃ calls, deployment.Over position calls

variable {hosted : List (String × Nat)}

/-- What is hosted when some of the hosted servers have ended and nobody else was touched. -/
theorem Hosts.of_spares (ceased : List (String × Nat)) (hosts : before.Hosts (ceased ++ hosted))
    (orderly : after.Orderly) (size : after.site.servers.length = before.site.servers.length)
    (listed : after.site.directory.entries.Perm hosted)
    (spares : ∀ other, other ∉ ceased.map Prod.snd → Spares other before after)
    (ended : ∀ entry ∈ ceased, ∃ calls, after.Over entry.2 calls) : after.Hosts hosted where
  orderly := orderly
  listed := listed
  names := List.Nodup.of_append_right (List.map_append ▸ hosts.names)
  positions := List.Nodup.of_append_right (List.map_append ▸ hosts.positions)
  serving := by
    intro entry member
    have apart : (ceased.map Prod.snd).Disjoint (hosted.map Prod.snd) :=
      List.disjoint_of_nodup_append (List.map_append ▸ hosts.positions)
    have untouched : entry.2 ∉ ceased.map Prod.snd := fun taken =>
      apart taken (List.mem_map_of_mem member)
    exact (hosts.serving entry (List.mem_append_right _ member)).spared (spares entry.2 untouched)
  ended := by
    intro position inside outside
    by_cases taken : position ∈ ceased.map Prod.snd
    · obtain ⟨entry, member, rfl⟩ := List.mem_map.1 taken
      exact ended entry member
    · rw [size] at inside
      obtain ⟨calls, wasEnded⟩ := hosts.ended position inside (by simp [taken, outside])
      exact ⟨calls, wasEnded.spared (spares position taken)⟩

theorem Hosts.serves (hosts : before.Hosts hosted) (serves : before.Serves after) :
    after.Hosts hosted := by
  have concerns := Serves.concerns serves hosts.orderly
  exact Hosts.of_spares [] hosts concerns.orderly concerns.drift.site.servers
    (concerns.drift.site.directory ▸ hosts.listed) concerns.others (List.forall_mem_nil _)

/-- The name of a hosted server leads to it. -/
theorem Hosts.find? (hosts : deployment.Hosts hosted) (member : (name, position) ∈ hosted) :
    deployment.site.directory.find? name = some position :=
  Directory.find?_of_mem ((hosts.listed.map Prod.fst).nodup_iff.2 hosts.names)
    (hosts.listed.mem_iff.2 member)

/-- What is left when the first of the hosted servers is retired. -/
theorem Hosts.retire (hosts : deployment.Hosts ((name, position) :: hosted)) (mode : StopMode) :
    (deployment.retire name mode).Hosts hosted ∧
      (deployment.retire name mode).Over position [(mode, true), (.interruptClients, false)] ∧
      ∀ other, other ≠ position → Spares other deployment (deployment.retire name mode) := by
  have newName := (List.nodup_cons.1 hosts.names).1
  have newPosition := (List.nodup_cons.1 hosts.positions).1
  obtain ⟨rest, isRemoved, isRest⟩ :=
    Directory.remove_of_find? (hosts.find? (List.mem_cons_self ..))
  have listed : rest.entries.Perm hosted := by
    rw [isRest]
    refine (hosts.listed.filter _).trans (.of_eq ?_)
    rw [List.filter_cons_of_neg (by simp), List.filter_eq_self]
    intro entry member
    have taken := List.mem_map_of_mem (f := Prod.fst) member
    simpa using fun same : entry.1 = name => newName (same ▸ taken)
  let unlisted : Deployment :=
    { deployment with site := { deployment.site with directory := rest } }
  have isRetired : deployment.retire name mode = (unlisted.stop position mode).2.drop position := by
    simp only [Deployment.retire, isRemoved, unlisted]
  have orderly : unlisted.Orderly := ⟨hosts.orderly.matched, hosts.orderly.manned, hosts.orderly.quiet⟩
  have serves := hosts.serving (name, position) (List.mem_cons_self ..)
  have serving : unlisted.Serving position := ⟨serves.runs.goes (.of_eq rfl), serves.listens⟩
  obtain ⟨-, stopped, silent, first⟩ := serving.stop orderly mode
  have unnamed : position ∉ (unlisted.stop position mode).2.site.directory.values := by
    rw [first.drift.site.directory]
    exact fun named => newPosition ((listed.map Prod.snd).mem_iff.1 named)
  obtain ⟨ended, second⟩ := over_drop first.orderly stopped silent unnamed
  have whole := first.trans second
  have spares (other : Nat) (different : other ≠ position) :
      Spares other deployment ((unlisted.stop position mode).2.drop position) :=
    (⟨.of_eq rfl, rfl⟩ : Spares other deployment unlisted).trans
      (whole.others other (by simpa using different))
  rw [isRetired]
  refine ⟨Hosts.of_spares [(name, position)] hosts whole.orderly whole.drift.site.servers
    (whole.drift.site.directory ▸ listed) (fun other outside => spares other (by simpa using outside))
    ?_, ended, spares⟩
  intro entry member
  obtain rfl := List.mem_singleton.1 member
  exact ⟨_, ended⟩

/-- When the directory is given up, every server that it named is stopped. -/
theorem Hosts.abandon (hosts : deployment.Hosts hosted) :
    deployment.abandon.Hosts [] ∧
      ∀ entry ∈ hosted, deployment.abandon.Over entry.2 [(.interruptClients, true)] := by
  let unnamed : Site := { deployment.site with directory := {} }
  have listed : deployment.site.directory.values.Perm (hosted.map Prod.snd) := hosts.listed.map Prod.snd
  have cleared : Site.Cleared deployment.site.directory.values unnamed deployment.site.clearNames.2 :=
    Site.cleared_of_runs _ hosts.orderly.manned.posted (listed.nodup_iff.2 hosts.positions) rfl
      fun position member => by
        obtain ⟨entry, isEntry, rfl⟩ := List.mem_map.1 (listed.mem_iff.1 member)
        exact (hosts.serving entry isEntry).runs.goes (.of_eq rfl)
  have asked (position : Nat) :
      (position, .unlisten) ∈ deployment.site.clearNames.2.journal ↔
        position ∈ hosted.map Prod.snd := by
    rw [← listed.mem_iff]
    refine ⟨fun asks => (cleared.journal position asks).resolve_left fun there => ?_,
      cleared.asked position⟩
    have none : (position, .unlisten) ∈ deployment.site.journal := there
    rw [hosts.orderly.quiet] at none
    cases none
  have ended (entry : String × Nat) (member : entry ∈ hosted) :
      deployment.abandon.Over entry.2 [(.interruptClients, true)] := by
    have isPosition := List.mem_map_of_mem (f := Prod.snd) member
    constructor
    · rw [Deployment.abandon, site_perform]
      exact (cleared.stopped entry.2 (listed.mem_iff.2 isPosition)).goes (.of_eq rfl)
    · rw [Deployment.abandon, listens?_perform, if_pos ((asked entry.2).2 isPosition),
        (hosts.serving entry member).listens]
      rfl
  have spares (other : Nat) (outside : other ∉ hosted.map Prod.snd) :
      Spares other deployment deployment.abandon := by
    constructor
    · rw [Deployment.abandon, site_perform]
      exact cleared.others other fun member => outside (listed.mem_iff.1 member)
    · rw [Deployment.abandon, listens?_perform, if_neg fun asks => outside ((asked other).1 asks)]
  have size : deployment.site.clearNames.2.servers.length = deployment.site.servers.length :=
    cleared.size
  have empty : deployment.site.clearNames.2.directory = {} := cleared.directory
  have orderly : deployment.abandon.Orderly := by
    refine ⟨?_, ?_, ?_⟩
    · rw [Matched, Deployment.abandon, transports_perform, site_perform, hosts.orderly.matched]
      exact size.symm
    · rw [Deployment.abandon, site_perform]
      exact cleared.manned hosts.orderly.manned
    · rw [Deployment.abandon, site_perform]
  refine ⟨Hosts.of_spares hosted ?_ orderly ?_ ?_ spares
    fun entry member => ⟨_, ended entry member⟩, ended⟩
  · rwa [List.append_nil]
  · rw [Deployment.abandon, site_perform, size]
  · rw [Deployment.abandon, site_perform, empty]

end Deployment

end ConnectionPool
