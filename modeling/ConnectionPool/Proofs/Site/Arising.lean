import ConnectionPool.Proofs.Server.Restart
import ConnectionPool.Proofs.Site.Stirs

/-!
Contract: sites that can come about.

Servers are made, anything goes on at them, the host gives them up, channels are ruled, and the directory
names whom it likes. Whatever has come about, all workers are at their posts, all servers are in states that
their turns lead to, and the directory names servers that there are.

Owns:
- `Site.Arises`, the sites that can come about, and `Site.Sane`, what they have in common;
- `Site.isRunning` and `Site.Uncalled`, what a call on a whole directory finds.

Does not own: calls on a whole directory.
-/

namespace ConnectionPool

/-- No stop of the server is in progress. -/
structure Server.Unstopped (server : Server) : Prop where
  closing : server.closing = none
  clearances : server.clearances = []

/-- No stop and no sweep of the server is in progress. -/
structure Server.Uncalled (server : Server) : Prop where
  closing : server.closing = none
  clearances : server.clearances = []
  sweeps : server.sweeps = []

theorem Server.Uncalled.unstopped {server : Server} (uncalled : server.Uncalled) : server.Unstopped :=
  ⟨uncalled.closing, uncalled.clearances⟩

namespace Site

variable {site before after : Site} {position : Nat} {live : LiveServer}

/-- The server at a position runs. -/
def isRunning (position : Nat) (site : Site) : Bool :=
  match site.servers[position]? with
  | none => false
  | some live => live.server.pool.lifecycle = .running

/-- No call on a server of the directory is in progress. -/
def Uncalled (site : Site) : Prop :=
  ∀ position ∈ site.directory.values, ∀ live : LiveServer, site.servers[position]? = some live →
    live.server.Uncalled

theorem isRunning_eq_true_iff :
    site.isRunning position = true ↔
      ∃ live, site.servers[position]? = some live ∧ live.server.pool.lifecycle = .running := by
  unfold isRunning
  cases site.servers[position]? <;> simp

theorem isRunning_congr (same : after.servers[position]? = before.servers[position]?) :
    after.isRunning position = before.isRunning position := by
  rw [isRunning, isRunning, same]

theorem not_running_of_isRunning (found : site.servers[position]? = some live)
    (rests : site.isRunning position = false) : live.server.pool.lifecycle ≠ .running := by
  simpa [isRunning, found] using rests

/-! ## Sites that can come about -/

/-- A site that can come about. -/
inductive Arises : Site → Prop where
  | empty : Arises {}
  /-- A server is made, of any protocol. -/
  | made {before : Site} {live : LiveServer} {options : Options} {protocol : Protocol}
      {busyResponse : Option Bytes} (earlier : Arises before)
      (isNew : LiveServer.new options protocol busyResponse = .ok live) :
      Arises { before with servers := before.servers ++ [live] }
  /-- Something goes on at the site. -/
  | goesOn {before after : Site} (earlier : Arises before) (stir : before.Stir after) : Arises after
  | ruled {before : Site} (earlier : Arises before) (position : Nat) (descriptor : Descriptor)
      (rule : Option ChannelRule) : Arises (before.setRule position descriptor rule)
  /-- The host gives a server up. -/
  | givenUp {before : Site} (earlier : Arises before) (position : Nat) :
      Arises (before.modifyServer position fun live => { live with isHeld := false })
  | noted {before : Site} (earlier : Arises before) (journal : List (Nat × Hook)) :
      Arises { before with journal }
  /-- The directory comes to name any of the servers, each as often as it may be. -/
  | named {before : Site} {directory : Directory Nat} (earlier : Arises before)
      (known : ∀ position ∈ directory.values, position < before.servers.length) :
      Arises { before with directory }

theorem Arises.stirs (arises : before.Arises) (stirs : before.Stirs after) : after.Arises := by
  induction stirs with
  | refl => exact arises
  | tail _ stir inductionHypothesis => exact inductionHypothesis.goesOn stir

/-- All workers are at their posts, all servers are sound, and the directory names servers that there are. -/
structure Sane (site : Site) : Prop where
  posted : site.Posted
  sound : site.Sound
  known : ∀ position ∈ site.directory.values, position < site.servers.length

theorem Sane.preserved (sane : before.Sane) (preserves : Preserves before after) : after.Sane where
  posted := preserves.posted
  sound := preserves.sound sane.sound
  known := by
    rw [preserves.directory, preserves.size]
    exact sane.known

theorem Sane.made {options : Options} {protocol : Protocol} {busyResponse : Option Bytes}
    (sane : before.Sane) (isNew : LiveServer.new options protocol busyResponse = .ok live) :
    Sane { before with servers := before.servers ++ [live] } := by
  have isFresh : live.server = {} ∧ live.engagements = [] := by
    unfold LiveServer.new at isNew
    split at isNew
    · cases isNew
    · cases isNew
      exact ⟨rfl, rfl⟩
  have old_or_new {position : Nat} {resident : LiveServer}
      (found : (before.servers ++ [live])[position]? = some resident) :
      before.servers[position]? = some resident ∨ resident = live := by
    rcases Nat.lt_or_ge position before.servers.length with old | new
    · exact .inl ((List.getElem?_append_left old).symm.trans found)
    · exact .inr (List.mem_singleton.1
        (List.mem_of_getElem? ((List.getElem?_append_right new).symm.trans found)))
  constructor
  case posted =>
    intro position resident found
    rcases old_or_new found with old | rfl
    · exact sane.posted position resident old
    · exact .of_new isFresh.1 isFresh.2 position _
  case sound =>
    intro position resident found
    rcases old_or_new found with old | rfl
    · exact sane.sound position resident old
    · rw [isFresh.1]
      exact .new _
  case known =>
    intro position named
    rw [List.length_append]
    exact Nat.lt_of_lt_of_le (sane.known position named) (Nat.le_add_right _ _)

theorem Arises.sane (arises : site.Arises) : site.Sane := by
  induction arises with
  | empty =>
      have nobody (position : Nat) (live : LiveServer) : ¬ ({} : Site).servers[position]? = some live := by
        intro found
        cases List.getElem?_nil.symm.trans found
      exact ⟨fun position live found => absurd found (nobody position live),
        fun position live found => absurd found (nobody position live),
        fun position named => absurd named List.not_mem_nil⟩
  | made _ isNew inductionHypothesis => exact inductionHypothesis.made isNew
  | goesOn _ stir inductionHypothesis =>
      exact inductionHypothesis.preserved (stir.preserves inductionHypothesis.posted)
  | ruled _ position descriptor rule inductionHypothesis =>
      exact inductionHypothesis.preserved (.modifyServer inductionHypothesis.posted position
        (fun _ => rfl) (fun _ => rfl) fun _ => ⟨rfl, rfl⟩)
  | givenUp _ position inductionHypothesis =>
      exact inductionHypothesis.preserved (.modifyServer inductionHypothesis.posted position
        (fun _ => rfl) (fun _ => rfl) fun _ => ⟨rfl, rfl⟩)
  | noted _ journal inductionHypothesis => exact ⟨inductionHypothesis.posted, inductionHypothesis.sound,
      inductionHypothesis.known⟩
  | named _ known inductionHypothesis =>
      exact ⟨inductionHypothesis.posted, inductionHypothesis.sound, known⟩

end Site

end ConnectionPool
