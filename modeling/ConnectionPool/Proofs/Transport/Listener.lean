import ConnectionPool.Proofs.Files.Removal
import ConnectionPool.Transport

/-!
Contract: on which machines a transport is heard.

A transport that listens is heard while the machine has an endpoint, or a socket among its files, for its
listener. Behind its end it is heard no more, and the end of another transport never makes it heard.

Owns: `Transport.HeardOn`, and what ends do to it.

Does not own: who connects.
-/

namespace ConnectionPool

namespace FileTree

/-- The listener has a socket among the files. -/
def HasSocket (listener : Nat) (files : FileTree) : Prop :=
  ∃ place, files.node? place = some (.socket (some listener))

variable {files after : FileTree} {listener other : Nat} {path : String}

theorem HasSocket.of_orphan (has : (files.orphan other).HasSocket listener) :
    files.HasSocket listener ∧ listener ≠ other := by
  obtain ⟨place, stands⟩ := has
  rw [node?_orphan] at stands
  obtain ⟨node, isNode, isOrphaned⟩ := Option.map_eq_some_iff.1 stands
  unfold orphaned at isOrphaned
  split at isOrphaned
  · cases isOrphaned
  · next survives =>
      subst isOrphaned
      refine ⟨⟨place, isNode⟩, ?_⟩
      rintro rfl
      exact survives rfl

theorem HasSocket.of_removeFile (removed : files.removeFile path = .ok after)
    (has : after.HasSocket listener) : files.HasSocket listener := by
  obtain ⟨place, node, -, stands, notDirectory, rfl⟩ := removeFile_eq_ok_iff.1 removed
  obtain ⟨other, isSocket⟩ := has
  by_cases same : other = place
  · subst same
    rw [node?_erase_self (by simpa [stands] using notDirectory)] at isSocket
    cases isSocket
  · rw [node?_erase_of_ne same] at isSocket
    exact ⟨other, isSocket⟩

end FileTree

namespace SocketFileTransport

variable {transport : SocketFileTransport} {files : FileTree} {listener : Nat}

/-- A socket that is left behind the end was there before, and belongs to somebody else. -/
theorem hasSocket_of_unlisten (has : (transport.unlisten files).2.HasSocket listener) :
    files.HasSocket listener ∧ transport.listener ≠ some listener := by
  unfold unlisten at has
  split at has
  · next unheard =>
      rw [unheard]
      exact ⟨has, nofun⟩
  · next own isOwn =>
      have orphan : (files.orphan own).HasSocket listener := by
        dsimp only at has
        split at has
        · next removed => exact has.of_removeFile removed
        · exact has
      obtain ⟨earlier, different⟩ := orphan.of_orphan
      rw [isOwn]
      exact ⟨earlier, fun same => different (Option.some.inj same).symm⟩

end SocketFileTransport

namespace Transport

variable {transport other : Transport} {machine : Machine}

/-- The transport listens, and the machine has its listener. -/
def HeardOn (machine : Machine) (transport : Transport) : Prop :=
  ∃ listener, transport.listener = some listener ∧
    match transport with
    | .network _ => ∃ endpoint, (listener, endpoint) ∈ machine.endpoints
    | .socketFile _ => machine.files.HasSocket listener

/-- The end of listening takes endpoints and sockets off the machine, and adds none. -/
theorem machine_of_unlisten (transport : Transport) (machine : Machine) (listener : Nat) :
    (∀ endpoint, (listener, endpoint) ∈ (transport.unlisten machine).2.endpoints →
      (listener, endpoint) ∈ machine.endpoints) ∧
    ((transport.unlisten machine).2.files.HasSocket listener → machine.files.HasSocket listener) := by
  cases transport with
  | network network =>
      simp only [unlisten]
      split
      · exact ⟨fun _ => id, id⟩
      · exact ⟨fun _ member => (List.mem_filter.1 member).1, fun has => has.of_orphan.1⟩
  | socketFile socketFile =>
      exact ⟨fun _ => id, fun has => (SocketFileTransport.hasSocket_of_unlisten has).1⟩

/-- The end of listening, of this transport or of another one, makes nobody heard. -/
theorem HeardOn.of_unlisten (heard : transport.HeardOn (other.unlisten machine).2) :
    transport.HeardOn machine := by
  obtain ⟨listener, isListener, has⟩ := heard
  obtain ⟨endpoints, files⟩ := other.machine_of_unlisten machine listener
  refine ⟨listener, isListener, ?_⟩
  cases transport with
  | network => exact has.imp endpoints
  | socketFile => exact files has

/-- Behind its end a transport is not heard. -/
theorem not_heardOn_unlisten (transport : Transport) (machine : Machine) :
    ¬ transport.HeardOn (transport.unlisten machine).2 := by
  rintro ⟨listener, isListener, has⟩
  cases transport with
  | network network =>
      have isOwn : network.listener = some listener := isListener
      obtain ⟨endpoint, member⟩ := has
      simp only [unlisten, isOwn, Machine.close, List.mem_filter] at member
      simp at member
  | socketFile socketFile => exact (SocketFileTransport.hasSocket_of_unlisten has).2 isListener

end Transport

end ConnectionPool
