import ConnectionPool.Proofs.Files.Removal
import ConnectionPool.Transport

/-!
Contract: calls on a transport in any order, on a system that may refuse anything.

Between the calls the machine changes in any way: other programs come and go, and do to the files what they
like. A start meets what the system refuses at any of its points, and a call that fails leaves the transport as
it was.

Owns:
- `Obstacle`, what the system may refuse while a transport begins to listen, and starts against it;
- `Transport.perform` and `Transport.History`, calls with anything in between;
- what starts and ends make of the transport itself.

Does not own: what calls answer; see `Transport.Adapts`. What they remove; see `Transport.Respects`.
-/

namespace ConnectionPool

/-- What the system refuses while a transport begins to listen, and why. -/
inductive Obstacle where
  /-- Looking at what stands at the address, or removing it. -/
  | clearing (why : String)
  /-- Binding the address. -/
  | binding (why : String)
  /-- Making the listener ready, whose address is bound by then. -/
  | preparing (why : String)
  /-- A thread for the listener, whose address is bound by then. -/
  | thread (why : String)
deriving DecidableEq, Repr

/-! ## Starts that the system may refuse -/

namespace NetworkTransport

def listenAgainst (obstacle : Option Obstacle) (listener : Nat) (bound : Except FileError Endpoint)
    (transport : NetworkTransport) : Except TransportError NetworkTransport :=
  match transport.listener, obstacle with
  | none, some (.clearing why) => .error (.bind transport.address why)
  | none, some (.binding why) => .error (.bind transport.address why)
  | none, some (.preparing why) =>
      (transport.listen listener bound).bind fun _ => .error (.bind transport.address why)
  | none, some (.thread why) => (transport.listen listener bound).bind fun _ => .error (.io why)
  | _, _ => transport.listen listener bound

variable {transport listening : NetworkTransport} {obstacle : Option Obstacle} {listener : Nat}
  {bound : Except FileError Endpoint}

/-- A transport that begins to listen was silent, and takes over the endpoint that it got. -/
theorem listen_eq_ok (listens : transport.listen listener bound = .ok listening) :
    transport.listener = none ∧ ∃ endpoint, listening = { transport with endpoint, listener := some listener } := by
  unfold listen at listens
  split at listens
  · cases listens
  · next silent =>
      split at listens
      · cases listens
      · next endpoint =>
          cases listens
          exact ⟨silent, endpoint, rfl⟩

theorem listenAgainst_eq_ok (listens : transport.listenAgainst obstacle listener bound = .ok listening) :
    transport.listener = none ∧ ∃ endpoint, listening = { transport with endpoint, listener := some listener } := by
  unfold listenAgainst at listens
  split at listens
  · cases listens
  · cases listens
  · cases bounded : transport.listen listener bound <;> rw [bounded] at listens <;> cases listens
  · cases bounded : transport.listen listener bound <;> rw [bounded] at listens <;> cases listens
  · exact listen_eq_ok listens

theorem listenAgainst_of_listener {other : Nat} (isListener : transport.listener = some other) :
    transport.listenAgainst obstacle listener bound = .error (.alreadyListening transport.address) := by
  simp only [listenAgainst, isListener, listen]

end NetworkTransport

namespace SocketFileTransport

/-- A start that has bound its socket and cannot go on leaves it behind with nobody to listen on it. -/
def abandoned (listener : Nat) (cause : TransportError) :
    Except TransportError SocketFileTransport × FileTree → Except TransportError SocketFileTransport × FileTree
  | (.ok _, files) => (.error cause, files.orphan listener)
  | (.error earlier, files) => (.error earlier, files)

def listenAgainst (obstacle : Option Obstacle) (listener : Nat) (files : FileTree) (transport : SocketFileTransport) :
    Except TransportError SocketFileTransport × FileTree :=
  match transport.listener, obstacle with
  | none, some (.clearing why) => (.error (.bind transport.address why), files)
  | none, some (.binding why) =>
      match files.removeStaleSocket transport.path with
      | .error cause => (.error (.bind transport.address cause.message), files)
      | .ok cleared => (.error (.bind transport.address why), cleared)
  | none, some (.preparing why) =>
      abandoned listener (.bind transport.address why) (transport.listen listener files)
  | none, some (.thread why) => abandoned listener (.io why) (transport.listen listener files)
  | _, _ => transport.listen listener files

variable {transport listening : SocketFileTransport} {obstacle : Option Obstacle} {listener : Nat} {files : FileTree}
  {cause : TransportError}

/-- A transport that begins to listen was silent, and its socket is bound where a stale one was removed. -/
theorem listen_eq_ok (listens : (transport.listen listener files).1 = .ok listening) :
    transport.listener = none ∧ listening = { transport with listener := some listener } ∧
      ∃ cleared, files.removeStaleSocket transport.path = .ok cleared ∧
        cleared.bindSocket listener transport.path = .ok (transport.listen listener files).2 := by
  unfold listen at listens ⊢
  split at listens
  · cases listens
  · next silent =>
      split at listens
      · cases listens
      · next cleared removed =>
          split at listens
          · cases listens
          · next bound isBound =>
              cases listens
              simp only [silent, removed]
              exact ⟨trivial, trivial, cleared, rfl, isBound⟩

theorem abandoned_ne_ok {answer : Except TransportError SocketFileTransport × FileTree} :
    (abandoned listener cause answer).1 ≠ .ok listening := by
  obtain ⟨_ | _, files⟩ := answer <;> nofun

theorem listenAgainst_eq_ok (listens : (transport.listenAgainst obstacle listener files).1 = .ok listening) :
    transport.listenAgainst obstacle listener files = transport.listen listener files := by
  unfold listenAgainst at listens ⊢
  split at listens
  · cases listens
  · split at listens <;> cases listens
  · exact absurd listens abandoned_ne_ok
  · exact absurd listens abandoned_ne_ok
  · rfl

theorem listenAgainst_of_listener {other : Nat} (isListener : transport.listener = some other) :
    transport.listenAgainst obstacle listener files = (.error (.alreadyListening transport.address), files) := by
  simp only [listenAgainst, isListener, listen]

theorem unlisten_of_none (silent : transport.listener = none) :
    transport.unlisten files = (transport, files) := by
  simp only [unlisten, silent]

end SocketFileTransport

/-! ## Calls -/

namespace Transport

/-- What a call on a transport finds: the machine, the number of the listener that is opened next, and what the
system does about a request to listen. -/
structure Surroundings where
  machine : Machine
  listener : Nat
  unheard : ∀ place, machine.files.node? place ≠ some (.socket (some listener))
  /-- What a request to listen on the endpoint gives. -/
  bound : Except FileError Endpoint
  obstacle : Option Obstacle

/-- A listener is unheard where no socket among the files is its own. -/
theorem unheard_of_nodes {files : FileTree} {number : Nat}
    (none : ∀ entry ∈ files.nodes, entry.2 ≠ .socket (some number)) (place : Place) :
    files.node? place ≠ some (.socket (some number)) := by
  unfold FileTree.node?
  split
  · nofun
  · intro found
    obtain ⟨before, after, whole, -⟩ := List.lookup_eq_some_iff.1 found
    exact none (place, .socket (some number)) (by simp [whole]) rfl

/-- A machine with these files, on which no endpoint is free. -/
def Surroundings.among (files : FileTree) (listener : Nat) (obstacle : Option Obstacle)
    (none : ∀ entry ∈ files.nodes, entry.2 ≠ .socket (some listener)) : Surroundings where
  machine := { files }
  listener
  unheard := unheard_of_nodes none
  bound := .error .addressInUse
  obstacle

/-- What the owner of a transport can do with it. -/
inductive Call where
  | start
  | stop
  | setAddress (text : String)
  /-- Lets go of the transport, which listens no more then. -/
  | drop
deriving DecidableEq, Repr

/-- Where the transport listens, it listens no more behind the call. -/
def Call.endsListening : Call → Bool
  | .stop => true
  | .drop => true
  | _ => false

/-- What a call answers and leaves. -/
structure Outcome where
  answer : Except TransportError Unit
  transport : Transport
  files : FileTree

def startIn (found : Surroundings) : Transport → Except TransportError Transport × FileTree
  | .network transport =>
      ((transport.listenAgainst found.obstacle found.listener found.bound).map .network, found.machine.files)
  | .socketFile transport =>
      let answer := transport.listenAgainst found.obstacle found.listener found.machine.files
      (answer.1.map .socketFile, answer.2)

/-- The end of listening cannot fail. -/
def stopIn (found : Surroundings) (transport : Transport) : Outcome :=
  let left := transport.unlisten found.machine
  ⟨.ok (), left.1, left.2.files⟩

/-- A call that fails leaves the transport as it was. -/
def perform (found : Surroundings) (transport : Transport) : Call → Outcome
  | .start =>
      let answer := transport.startIn found
      match answer.1 with
      | .ok listening => ⟨.ok (), listening, answer.2⟩
      | .error cause => ⟨.error cause, transport, answer.2⟩
  | .stop => transport.stopIn found
  | .setAddress text =>
      match transport.setAddress text with
      | .ok moved => ⟨.ok (), moved, found.machine.files⟩
      | .error cause => ⟨.error cause, transport, found.machine.files⟩
  | .drop => transport.stopIn found

/-- On a machine that refuses nothing of its own accord a start is the start of the transport. -/
theorem startIn_eq_listen (transport : Transport) (found : Surroundings) (unopposed : found.obstacle = none)
    (isNext : found.listener = found.machine.opened)
    (isBound : ∀ network, transport = .network network → found.bound = found.machine.bound network.endpoint) :
    (transport.startIn found).1 = (transport.listen found.machine).1 ∧
      (transport.startIn found).2 = (transport.listen found.machine).2.files := by
  cases transport with
  | network network =>
      have same : network.listenAgainst none found.machine.opened (found.machine.bound network.endpoint) =
          network.listen found.machine.opened (found.machine.bound network.endpoint) := by
        unfold NetworkTransport.listenAgainst
        split <;> simp_all
      simp only [startIn, listen, unopposed, isNext, isBound network rfl, same]
      split <;> simp_all [Except.map, Machine.openOn]
  | socketFile socketFile =>
      have same : socketFile.listenAgainst none found.machine.opened found.machine.files =
          socketFile.listen found.machine.opened found.machine.files := by
        unfold SocketFileTransport.listenAgainst
        split <;> simp_all
      simp only [startIn, listen, unopposed, isNext, same]
      split <;> simp_all [Except.map, Machine.openAmong]

/-- A call that was made, with the transport that it was made on, what it found and what came of it. -/
structure Visit where
  call : Call
  transport : Transport
  found : Surroundings
  outcome : Outcome

/-- Calls on a transport from its beginning on. -/
inductive History (first : Transport) : List Visit → Transport → Prop
  | new : History first [] first
  | call {visits : List Visit} {transport : Transport} (before : History first visits transport)
      (found : Surroundings) (call : Call) :
      History first (visits ++ [⟨call, transport, found, transport.perform found call⟩])
        (transport.perform found call).transport

/-- A call of a history was made on the transport that the calls before it left. -/
theorem History.exists_call {first last : Transport} {front back : List Visit} {visit : Visit}
    (history : History first (front ++ visit :: back) last) :
    History first front visit.transport ∧ visit.outcome = visit.transport.perform visit.found visit.call := by
  generalize whole : front ++ visit :: back = visits at history
  induction history generalizing back with
  | new => cases (List.append_eq_nil_iff.1 whole).2
  | call before found call inductionHypothesis =>
      rcases List.eq_nil_or_concat back with rfl | ⟨most, later, rfl⟩
      · obtain ⟨rfl, same⟩ := List.append_inj' whole rfl
        cases same
        exact ⟨before, rfl⟩
      · rw [List.concat_eq_append, ← List.cons_append, ← List.append_assoc] at whole
        exact inductionHypothesis (List.append_inj' whole rfl).1

/-! ## What calls make of the transport -/

/-- The path of the transport, if it has one, is not empty. -/
def IsProper : Transport → Prop
  | .network _ => True
  | .socketFile transport => transport.path ≠ ""

variable {transport listening moved : Transport} {found : Surroundings} {text : String}

/-- A start that succeeds makes a transport listen that was silent. -/
theorem startIn_eq_ok (started : (transport.startIn found).1 = .ok listening) :
    transport.isListening = false ∧ listening.isListening = true ∧ (transport.IsProper → listening.IsProper) := by
  cases transport with
  | network network =>
      cases answered : network.listenAgainst found.obstacle found.listener found.bound with
      | error cause => simp [startIn, answered, Except.map] at started
      | ok heard =>
          obtain ⟨silent, endpoint, rfl⟩ := NetworkTransport.listenAgainst_eq_ok answered
          simp only [startIn, answered, Except.map, Except.ok.injEq] at started
          subst started
          exact ⟨by simp [isListening, listener, silent], rfl, id⟩
  | socketFile socketFile =>
      cases answered : (socketFile.listenAgainst found.obstacle found.listener found.machine.files).1 with
      | error cause => simp [startIn, answered, Except.map] at started
      | ok heard =>
          have unopposed := SocketFileTransport.listenAgainst_eq_ok answered
          obtain ⟨silent, rfl, -⟩ := SocketFileTransport.listen_eq_ok (unopposed ▸ answered)
          simp only [startIn, answered, Except.map, Except.ok.injEq] at started
          subst started
          exact ⟨by simp [isListening, listener, silent], rfl, id⟩

/-- Only a silent transport takes an address, and it stays silent. -/
theorem setAddress_eq_ok (isMoved : transport.setAddress text = .ok moved) :
    transport.isListening = false ∧ moved.isListening = false := by
  cases transport with
  | network network =>
      cases answered : network.setAddress text with
      | error cause => simp [setAddress, answered, Except.map] at isMoved
      | ok elsewhere =>
          simp only [setAddress, answered, Except.map, Except.ok.injEq] at isMoved
          subst isMoved
          unfold NetworkTransport.setAddress at answered
          split at answered
          · cases answered
          · split at answered
            · cases answered
            · next silent =>
                cases answered
                simp [isListening, listener, silent]
  | socketFile socketFile =>
      cases answered : socketFile.setAddress text with
      | error cause => simp [setAddress, answered, Except.map] at isMoved
      | ok elsewhere =>
          simp only [setAddress, answered, Except.map, Except.ok.injEq] at isMoved
          subst isMoved
          unfold SocketFileTransport.setAddress at answered
          split at answered
          · cases answered
          · split at answered
            · cases answered
            · next silent =>
                cases answered
                simp [isListening, listener, silent]

/-- The end of listening keeps the address, and a second one finds nothing to do. -/
theorem unlisten_facts (transport : Transport) (machine : Machine) :
    (transport.unlisten machine).1.isListening = false ∧
      (transport.unlisten machine).1.address = transport.address ∧
      (transport.IsProper → (transport.unlisten machine).1.IsProper) := by
  cases transport with
  | network network =>
      simp only [unlisten]
      split
      · next silent => exact ⟨by simp [isListening, listener, silent], rfl, id⟩
      · exact ⟨rfl, rfl, id⟩
  | socketFile socketFile =>
      simp only [unlisten, SocketFileTransport.unlisten]
      split
      · next silent => exact ⟨by simp [isListening, listener, silent], rfl, id⟩
      · exact ⟨rfl, rfl, id⟩

theorem unlisten_of_silent (silent : transport.isListening = false) (machine : Machine) :
    transport.unlisten machine = (transport, machine) := by
  cases transport with
  | network network =>
      have isNone : network.listener = none := by simpa [isListening, listener] using silent
      simp only [unlisten, isNone]
  | socketFile socketFile =>
      have isNone : socketFile.listener = none := by simpa [isListening, listener] using silent
      simp only [unlisten, SocketFileTransport.unlisten_of_none isNone]

end Transport

end ConnectionPool
