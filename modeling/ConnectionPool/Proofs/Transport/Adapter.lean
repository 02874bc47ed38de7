import ConnectionPool.Proofs.Address.Acceptance
import ConnectionPool.Proofs.Address.RoundTrip
import ConnectionPool.Proofs.Transport.SocketFile

/-!
Contract: what a transport answers that is started, stopped and given addresses in any order.

Whatever a call that fails has met, it leaves the transport as it was, and among the files it removes nothing but
a socket with nobody behind it.

Owns:
- `FileTree.LeavesInPlace`, and that starts that fail do so;
- `Transport.Adapts` and `adapts_of_history`, the law of transports.

Does not own: the histories of a transport; see `Transport.History`. The connections that a listener accepts.
-/

namespace ConnectionPool

/-! ## What a failed start leaves in place -/

namespace FileTree

variable {before after between tree cleared : FileTree} {path : String} {listener : Nat}

/-- Whatever is no socket stays, and so does a socket that somebody listens on. At the path itself this is a
socket that connecting finds to be served. -/
structure LeavesInPlace (path : String) (before after : FileTree) : Prop where
  spares : before.Spares after
  served : ∀ place listener, before.node? place = some (.socket (some listener)) →
    (before.locate path = .ok place → before.listenerAt? path = some listener) →
    after.node? place = some (.socket (some listener))

theorem LeavesInPlace.refl (path : String) (tree : FileTree) : LeavesInPlace path tree tree where
  spares := .refl tree
  served _ _ stands _ := stands

theorem leavesInPlace_removeStaleSocket (removed : tree.removeStaleSocket path = .ok cleared) :
    LeavesInPlace path tree cleared where
  spares := spares_removeStaleSocket removed
  served := by
    intro place listener stands reached
    unfold removeStaleSocket at removed
    split at removed
    · cases removed
      exact stands
    · cases removed
    · cases removed
      exact stands
    · next behind isSocket =>
        split at removed
        · cases removed
        · next unserved =>
            obtain ⟨other, -, located, -, -, rfl⟩ := removeFile_eq_ok_iff.1 removed
            have differs : place ≠ other := by
              rintro rfl
              exact unserved (by simp [reached located])
            rw [node?_erase_of_ne differs, stands]
    · cases removed

/-- A socket that is bound and then left by its listener is in nobody's way. -/
theorem leavesInPlace_bound (removed : tree.removeStaleSocket path = .ok cleared)
    (isBound : cleared.bindSocket listener path = .ok after)
    (unheard : ∀ place, tree.node? place ≠ some (.socket (some listener))) :
    LeavesInPlace path tree (after.orphan listener) where
  spares := by
    obtain ⟨place, -, free, rfl⟩ := put_of_bindSocket isBound
    exact ((spares_removeStaleSocket removed).trans (spares_put free)).trans (spares_orphan listener _)
  served := by
    intro place other stands reached
    have kept := (leavesInPlace_removeStaleSocket removed).served place other stands reached
    obtain ⟨new, -, free, rfl⟩ := put_of_bindSocket isBound
    have differs : place ≠ new := by
      rintro rfl
      cases kept.symm.trans free
    have otherListener : other ≠ listener := by
      rintro rfl
      exact unheard place stands
    rw [node?_orphan, node?_put_of_ne differs, kept]
    simp [orphaned, otherListener]

end FileTree

namespace SocketFileTransport

variable {transport : SocketFileTransport} {obstacle : Option Obstacle} {listener : Nat} {files : FileTree}
  {cause : TransportError}

theorem leavesInPlace_listen (failed : (transport.listen listener files).1 = .error cause) :
    files.LeavesInPlace transport.path (transport.listen listener files).2 := by
  unfold listen at failed ⊢
  split
  · exact .refl _ files
  · split
    · exact .refl _ files
    · next removed =>
        split
        · exact FileTree.leavesInPlace_removeStaleSocket removed
        · simp_all

/-- So does a start that has bound its socket and cannot go on. -/
theorem leavesInPlace_abandoned (unheard : ∀ place, files.node? place ≠ some (.socket (some listener))) :
    files.LeavesInPlace transport.path (abandoned listener cause (transport.listen listener files)).2 := by
  unfold abandoned
  split
  · next after listened =>
      have listens := congrArg Prod.fst listened
      obtain ⟨-, -, cleared, removed, isBound⟩ := listen_eq_ok listens
      rw [listened] at isBound
      exact FileTree.leavesInPlace_bound removed isBound unheard
  · next listened =>
      have failed := leavesInPlace_listen (congrArg Prod.fst listened)
      rwa [listened] at failed

/-- A start that fails leaves everything in place but a socket with nobody behind it. -/
theorem leavesInPlace_listenAgainst (unheard : ∀ place, files.node? place ≠ some (.socket (some listener)))
    (failed : (transport.listenAgainst obstacle listener files).1 = .error cause) :
    files.LeavesInPlace transport.path (transport.listenAgainst obstacle listener files).2 := by
  unfold listenAgainst at failed ⊢
  split at failed
  · exact .refl _ files
  · split
    · exact .refl _ files
    · next removed => exact FileTree.leavesInPlace_removeStaleSocket removed
  · exact leavesInPlace_abandoned unheard
  · exact leavesInPlace_abandoned unheard
  · exact leavesInPlace_listen failed

end SocketFileTransport

/-! ## One call -/

namespace Transport

/-- The text is an address for the transport. -/
def Accepts (text : String) : Transport → Prop
  | .network _ => ∃ endpoint, Endpoint.Denotes text.toList endpoint
  | .socketFile _ => text ≠ ""

/-- The text denotes the address of the transport. -/
def IsCalled (text : String) : Transport → Prop
  | .network transport => Endpoint.Denotes text.toList transport.endpoint
  | .socketFile transport => text = transport.path

section

variable {transport moved listening : Transport} {found again : Surroundings} {text : String} {call : Call}
  {cause : TransportError}

theorem setAddress_of_accepts (silent : transport.isListening = false) (accepts : transport.Accepts text) :
    ∃ moved, transport.setAddress text = .ok moved ∧ moved.IsCalled text ∧ moved.isListening = false ∧
      moved.IsProper := by
  cases transport with
  | network network =>
      have isNone : network.listener = none := by simpa [isListening, listener] using silent
      obtain ⟨endpoint, denotes⟩ := accepts
      refine ⟨.network { network with endpoint }, ?_, denotes, silent, trivial⟩
      simp [setAddress, NetworkTransport.setAddress, denotes.parse, isNone, Except.map]
  | socketFile socketFile =>
      have isNone : socketFile.listener = none := by simpa [isListening, listener] using silent
      have shown : text ≠ "" := accepts
      refine ⟨.socketFile { socketFile with path := text }, ?_, rfl, silent, shown⟩
      simp [setAddress, SocketFileTransport.setAddress, shown, isNone, Except.map]

theorem accepts_of_setAddress (isMoved : transport.setAddress text = .ok moved) :
    transport.Accepts text ∧ transport.isListening = false := by
  refine ⟨?_, (setAddress_eq_ok isMoved).1⟩
  cases transport with
  | network network =>
      obtain ⟨endpoint, denotes⟩ | ⟨error, refused⟩ := Endpoint.denotes_or_refused text
      · exact ⟨endpoint, denotes⟩
      · simp [setAddress, NetworkTransport.setAddress, refused.parse, Except.map] at isMoved
  | socketFile socketFile =>
      rintro rfl
      simp [setAddress, SocketFileTransport.setAddress, Except.map] at isMoved

/-- An address is taken exactly where it is one and the transport does not listen. -/
theorem setAddress_iff : (transport.perform found (.setAddress text)).answer = .ok () ↔
    transport.Accepts text ∧ transport.isListening = false := by
  constructor
  · intro answered
    cases isMoved : transport.setAddress text with
    | error cause => simp [perform, isMoved] at answered
    | ok moved => exact accepts_of_setAddress isMoved
  · rintro ⟨accepts, silent⟩
    obtain ⟨moved, isMoved, -⟩ := setAddress_of_accepts silent accepts
    simp [perform, isMoved]

/-- The address of a transport is one that it would take, and denotes where it is. -/
theorem isCalled_address (transport : Transport) : transport.IsCalled transport.address := by
  cases transport with
  | network network =>
      have isRead : Endpoint.read? network.endpoint.text.toList = some network.endpoint := by
        rw [Endpoint.text, String.toList_ofList]
        exact network.endpoint.shown_render.read?
      exact Endpoint.read?_eq_some_iff.1 isRead
  | socketFile socketFile => rfl

/-- A silent transport that is given its own address stays as it is. -/
theorem setAddress_address (silent : transport.isListening = false) (proper : transport.IsProper) :
    transport.setAddress transport.address = .ok transport := by
  cases transport with
  | network network =>
      obtain ⟨endpoint, tls, number⟩ := network
      obtain rfl : number = none := by simpa [isListening, listener] using silent
      simp [setAddress, NetworkTransport.setAddress, address, NetworkTransport.address, Endpoint.parse_text,
        Except.map]
  | socketFile socketFile =>
      obtain ⟨path, number⟩ := socketFile
      obtain rfl : number = none := by simpa [isListening, listener] using silent
      have shown : path ≠ "" := proper
      simp [setAddress, SocketFileTransport.setAddress, address, SocketFileTransport.address, shown, Except.map]

theorem startIn_of_listening (listens : transport.isListening = true) :
    transport.startIn found = (.error (.alreadyListening transport.address), found.machine.files) := by
  cases transport with
  | network network =>
      obtain ⟨number, isListener⟩ : ∃ number, network.listener = some number :=
        Option.isSome_iff_exists.1 listens
      simp only [startIn, NetworkTransport.listenAgainst_of_listener isListener, Except.map]
      rfl
  | socketFile socketFile =>
      obtain ⟨number, isListener⟩ : ∃ number, socketFile.listener = some number :=
        Option.isSome_iff_exists.1 listens
      simp only [startIn, SocketFileTransport.listenAgainst_of_listener isListener, Except.map]
      rfl

/-- The files of the machine are in place behind a call on the transport: whatever is no socket, and the sockets
that somebody listens on. -/
def LeavesInPlace (transport : Transport) (before after : FileTree) : Prop :=
  match transport with
  | .network _ => after = before
  | .socketFile transport => before.LeavesInPlace transport.path after

theorem leavesInPlace_startIn (failed : (transport.startIn found).1 = .error cause) :
    transport.LeavesInPlace found.machine.files (transport.startIn found).2 := by
  cases transport with
  | network network => rfl
  | socketFile socketFile =>
      cases answered : (socketFile.listenAgainst found.obstacle found.listener found.machine.files).1 with
      | error cause => exact SocketFileTransport.leavesInPlace_listenAgainst found.unheard answered
      | ok heard => simp [startIn, answered, Except.map] at failed

/-- A call that fails leaves the transport as it was and the files in place. -/
theorem perform_of_error (failed : (transport.perform found call).answer = .error cause) :
    (transport.perform found call).transport = transport ∧
      transport.LeavesInPlace found.machine.files (transport.perform found call).files := by
  have inPlace : transport.LeavesInPlace found.machine.files found.machine.files := by
    cases transport with
    | network network => rfl
    | socketFile socketFile => exact .refl _ _
  cases call with
  | start =>
      cases started : (transport.startIn found).1 with
      | error cause =>
          simp only [perform, started]
          exact ⟨trivial, leavesInPlace_startIn started⟩
      | ok listening => simp [perform, started] at failed
  | stop | drop => cases failed
  | setAddress text =>
      cases isMoved : transport.setAddress text with
      | error cause =>
          simp only [perform, isMoved]
          exact ⟨trivial, inPlace⟩
      | ok moved => simp [perform, isMoved] at failed

theorem proper_perform (proper : transport.IsProper) (found : Surroundings) (call : Call) :
    (transport.perform found call).transport.IsProper := by
  cases call with
  | start =>
      cases started : (transport.startIn found).1 with
      | error cause => simpa only [perform, started] using proper
      | ok listening => simpa only [perform, started] using (startIn_eq_ok started).2.2 proper
  | stop | drop => exact (transport.unlisten_facts found.machine).2.2 proper
  | setAddress text =>
      cases isMoved : transport.setAddress text with
      | error cause => simpa only [perform, isMoved] using proper
      | ok moved =>
          obtain ⟨accepts, silent⟩ := accepts_of_setAddress isMoved
          obtain ⟨other, isOther, -, -, otherProper⟩ := setAddress_of_accepts silent accepts
          obtain rfl := Except.ok.inj (isMoved.symm.trans isOther)
          simpa only [perform, isMoved] using otherProper

end

/-! ## All calls -/

def Visit.Started (visit : Visit) : Prop := visit.call = .start ∧ visit.outcome.answer = .ok ()

def Visit.Stopped (visit : Visit) : Prop := visit.call.endsListening = true

/-- A start succeeded, and no end of listening came behind it. -/
def StartedLast (visits : List Visit) : Prop :=
  ∃ front start back, visits = front ++ start :: back ∧ start.Started ∧ ∀ later ∈ back, ¬ later.Stopped

theorem startedLast_snoc {visits : List Visit} {visit : Visit} : StartedLast (visits ++ [visit]) ↔
    visit.Started ∨ StartedLast visits ∧ ¬ visit.Stopped := by
  constructor
  · rintro ⟨front, start, back, isSplit, started, unstopped⟩
    obtain rfl | ⟨most, last, rfl⟩ := List.eq_nil_or_concat back
    · obtain ⟨-, same⟩ := List.append_inj' isSplit rfl
      cases same
      exact .inl started
    · rw [List.concat_eq_append, ← List.cons_append, ← List.append_assoc] at isSplit
      obtain ⟨rfl, same⟩ := List.append_inj' isSplit rfl
      cases same
      exact .inr ⟨⟨front, start, most, rfl, started, fun later isLater => unstopped later (by simp [isLater])⟩,
        unstopped visit (by simp)⟩
  · rintro (started | ⟨⟨front, start, back, rfl, started, unstopped⟩, notStopped⟩)
    · exact ⟨visits, visit, [], rfl, started, by simp⟩
    · refine ⟨front, start, back ++ [visit], by simp, started, fun later isLater => ?_⟩
      obtain inBack | isLast := List.mem_append.1 isLater
      · exact unstopped later inBack
      · rwa [List.mem_singleton.1 isLast]

variable {first transport : Transport} {visits : List Visit}

theorem History.proper (history : History first visits transport) (proper : first.IsProper) :
    transport.IsProper := by
  induction history with
  | new => exact proper
  | call _ found call inductionHypothesis => exact proper_perform inductionHypothesis found call

/-- A transport listens exactly from a start that succeeds to the next end. -/
theorem History.isListening_iff (history : History first visits transport) (silent : first.isListening = false) :
    transport.isListening = true ↔ StartedLast visits := by
  induction history with
  | new =>
      refine iff_of_false (by simp [silent]) ?_
      rintro ⟨front, start, back, isSplit, -⟩
      simp at isSplit
  | @call visits transport _ found call inductionHypothesis =>
      rw [startedLast_snoc, ← inductionHypothesis]
      cases call with
      | start =>
          cases started : (transport.startIn found).1 with
          | error cause => simp [perform, started, Visit.Started, Visit.Stopped, Call.endsListening]
          | ok listening =>
              have listens := (startIn_eq_ok started).2.1
              simp [perform, started, listens, Visit.Started]
      | stop | drop =>
          have silent := (transport.unlisten_facts found.machine).1
          simp [perform, stopIn, silent, Visit.Started, Visit.Stopped, Call.endsListening]
      | setAddress text =>
          cases isMoved : transport.setAddress text with
          | error cause => simp [perform, isMoved, Visit.Started, Visit.Stopped, Call.endsListening]
          | ok moved =>
              obtain ⟨before, behind⟩ := setAddress_eq_ok isMoved
              simp [perform, isMoved, before, behind, Visit.Started, Visit.Stopped, Call.endsListening]

/-- What the owner of a transport may expect behind any calls, of any call that comes next. -/
structure Adapts (visits : List Visit) (transport : Transport) : Prop where
  listening_iff : transport.isListening = true ↔ StartedLast visits
  start_of_listening : transport.isListening = true → ∀ found,
    (transport.perform found .start).answer = .error (.alreadyListening transport.address)
  setAddress_iff : ∀ found text, (transport.perform found (.setAddress text)).answer = .ok () ↔
    transport.Accepts text ∧ transport.isListening = false
  /-- The address that was taken is the one of the transport. -/
  setAddress_called : ∀ found text, (transport.perform found (.setAddress text)).answer = .ok () →
    (transport.perform found (.setAddress text)).transport.IsCalled text
  failed : ∀ found call cause, (transport.perform found call).answer = .error cause →
    (transport.perform found call).transport = transport ∧
      transport.LeavesInPlace found.machine.files (transport.perform found call).files
  stop_keeps_address : ∀ found, (transport.perform found .stop).answer = .ok () ∧
    (transport.perform found .stop).transport.address = transport.address
  stop_again : ∀ found again, (transport.perform found .stop).transport.perform again .stop =
    ⟨.ok (), (transport.perform found .stop).transport, again.machine.files⟩
  address_called : transport.IsCalled transport.address
  /-- A transport that does not listen takes its own address, and stays as it is. -/
  address_accepted : transport.isListening = false → ∀ found,
    transport.perform found (.setAddress transport.address) = ⟨.ok (), transport, found.machine.files⟩
  address_accepted_behind_stop : ∀ found again,
    ((transport.perform found .stop).transport.perform again (.setAddress transport.address)).answer = .ok ()
  built_address : ∀ address tls, forAddress? address tls = some transport → transport.address = address.rest

theorem address_of_forAddress? {address : ServerAddress} {tls : Option TlsSettings}
    (built : forAddress? address tls = some transport) : transport.address = address.rest := by
  cases address with
  | tcp endpoint =>
      cases built
      rfl
  | ssl endpoint =>
      obtain ⟨settings, -, rfl⟩ := Option.map_eq_some_iff.1 built
      rfl
  | localSocket path =>
      cases built
      rfl

/-- A transport that does not listen at first keeps to it in every state that calls can bring about, whatever the
system refuses. -/
theorem adapts_of_history (silent : first.isListening = false) (proper : first.IsProper)
    (history : History first visits transport) : Adapts visits transport where
  listening_iff := history.isListening_iff silent
  start_of_listening := fun listens found => by
    simp only [perform, startIn_of_listening listens]
  setAddress_iff := fun _ _ => setAddress_iff
  setAddress_called := fun found text answered => by
    obtain ⟨accepts, silent⟩ := setAddress_iff.1 answered
    obtain ⟨moved, isMoved, isCalled, -⟩ := setAddress_of_accepts silent accepts
    simpa only [perform, isMoved] using isCalled
  failed := fun _ _ _ => perform_of_error
  stop_keeps_address := fun found => ⟨rfl, (transport.unlisten_facts found.machine).2.1⟩
  stop_again := fun found again => by
    simp only [perform, stopIn, unlisten_of_silent (transport.unlisten_facts found.machine).1]
  address_called := transport.isCalled_address
  address_accepted := fun silent found => by
    simp only [perform, setAddress_address silent (history.proper proper)]
  address_accepted_behind_stop := fun found again => by
    obtain ⟨silent, sameAddress, stillProper⟩ := transport.unlisten_facts found.machine
    have accepted := setAddress_address silent (stillProper (history.proper proper))
    rw [sameAddress] at accepted
    simp only [perform, stopIn, accepted]
  built_address := fun _ _ => address_of_forAddress?

/-- A socket file is listened on behind a first start, which fails because the system refuses it a thread, and a
second one; a third start fails because of that. -/
theorem adapts_of_third_start :
    ∃ visits transport found, History (.socketFile { path := "s.sock" }) visits transport ∧
      (visits.map fun visit => visit.outcome.answer) = [.error (.io "no thread"), .ok ()] ∧
      Adapts visits transport ∧ transport.isListening = true ∧
      (transport.perform found .start).answer = .error (.alreadyListening "s.sock") := by
  have unheard : ∀ entry ∈ ({} : FileTree).nodes, entry.2 ≠ .socket (some 0) := by decide
  let found : Surroundings := .among {} 0 none unheard
  let crowded : Surroundings := .among {} 0 (some (.thread "no thread")) unheard
  have begun : History (.socketFile { path := "s.sock" }) [] (.socketFile { path := "s.sock" }) := .new
  have refused := begun.call crowded .start
  have history := refused.call found .start
  have adapts := adapts_of_history rfl (by simp [IsProper]) history
  exact ⟨_, _, found, history, rfl, adapts, rfl, adapts.start_of_listening rfl found⟩

end Transport

end ConnectionPool
