import ConnectionPool.Proofs.Transport.History

/-!
Contract: what the transport of a socket file removes.

No call removes anything but sockets, with one exception: where another program has put a file or a link in the
place of the socket, the end of listening removes that. A start looks at what stands at the path, an end does
not.

Owns:
- `Transport.Visit.Overreaches`, the exception, and that there is no other;
- `Transport.Respects` and its proof for every history.

Does not own: whether the system lets a file be removed.
-/

namespace ConnectionPool

namespace SocketFileTransport

/-- The path leads to an object that is neither a socket nor a directory. -/
def FoundForeign (transport : SocketFileTransport) (files : FileTree) (place : Place) : Prop :=
  files.locate transport.path = .ok place ∧
    ∃ node, files.node? place = some node ∧ node.isSocket = false ∧ node ≠ .directory

variable {transport listening : SocketFileTransport} {files : FileTree} {place : Place} {listener : Nat}

/-- Whether it succeeds or fails, a start removes nothing but a stale socket. -/
theorem spares_listen (listener : Nat) (files : FileTree) (transport : SocketFileTransport) :
    files.Spares (transport.listen listener files).2 := by
  unfold listen
  split
  · exact .refl files
  · split
    · exact .refl files
    · next cleared removed =>
        have sparesStale := FileTree.spares_removeStaleSocket removed
        split
        · exact sparesStale
        · next bound isBound =>
            obtain ⟨place, _, free, rfl⟩ := FileTree.put_of_bindSocket isBound
            exact sparesStale.trans (FileTree.spares_put free)

/-- So it does against whatever the system refuses. -/
theorem spares_listenAgainst (obstacle : Option Obstacle) (listener : Nat) (files : FileTree)
    (transport : SocketFileTransport) : files.Spares (transport.listenAgainst obstacle listener files).2 := by
  have sparesListen := spares_listen listener files transport
  have sparesAbandoned (cause : TransportError) :
      files.Spares (abandoned listener cause (transport.listen listener files)).2 := by
    unfold abandoned
    split
    · next after listened =>
        rw [listened] at sparesListen
        exact sparesListen.trans (FileTree.spares_orphan listener after)
    · next listened =>
        rw [listened] at sparesListen
        exact sparesListen
  unfold listenAgainst
  split
  · exact .refl files
  · split
    · exact .refl files
    · next removed => exact FileTree.spares_removeStaleSocket removed
  · exact sparesAbandoned _
  · exact sparesAbandoned _
  · exact sparesListen

/-- Behind a start that succeeds the path leads to the socket of its listener. -/
theorem holds_of_listen (isListening : (transport.listen listener files).1 = .ok listening) :
    listening = { transport with listener := some listener } ∧
      ∃ place, (transport.listen listener files).2.locate transport.path = .ok place ∧
        (transport.listen listener files).2.node? place = some (.socket (some listener)) := by
  unfold listen at isListening ⊢
  split at isListening
  · cases isListening
  · split at isListening
    · cases isListening
    · split at isListening
      · cases isListening
      · next isBound =>
          cases isListening
          refine ⟨rfl, ?_⟩
          simp only [*]
          exact FileTree.holds_of_bindSocket isBound

/-- The end of listening removes the foreign object that it finds, and nothing else but sockets. -/
theorem takesAway_unlisten (listens : transport.listener.isSome = true)
    (foreign : transport.FoundForeign files place) :
    (transport.unlisten files).2.node? place = none ∧
      ∀ other node, other ≠ place → files.node? other = some node → node.isSocket = false →
        (transport.unlisten files).2.node? other = some node := by
  obtain ⟨listener, isListener⟩ := Option.isSome_iff_exists.1 listens
  obtain ⟨located, node, isNode, notSocket, notDirectory⟩ := foreign
  have standing : (files.orphan listener).node? place = some node := by
    rw [FileTree.node?_orphan, isNode, Option.map_some, FileTree.orphaned_of_not_socket notSocket]
  have removed : (files.orphan listener).removeFile transport.path =
      .ok ((files.orphan listener).erase place) :=
    FileTree.removeFile_eq_ok_iff.2
      ⟨place, node, (FileTree.locate_orphan ..).trans located, standing, notDirectory, rfl⟩
  have takesAway : FileTree.TakesAway place (files.orphan listener) (transport.unlisten files).2 := by
    simp only [unlisten, isListener, removed]
    exact FileTree.takesAway_erase (by rw [standing]; simpa using notDirectory)
  refine ⟨takesAway.gone, fun other kept differs isKept keptNotSocket => ?_⟩
  rw [takesAway.others other differs]
  exact FileTree.spares_orphan listener files other kept isKept keptNotSocket

/-- Where it finds no foreign object, the end of listening removes nothing but a socket. -/
theorem spares_unlisten (own : ∀ place, ¬ transport.FoundForeign files place) :
    files.Spares (transport.unlisten files).2 := by
  cases isListener : transport.listener with
  | none =>
      rw [unlisten_of_none isListener]
      exact .refl files
  | some listener =>
      have sparesOrphan := FileTree.spares_orphan listener files
      simp only [unlisten, isListener]
      split
      · next removed =>
          obtain ⟨place, node, located, standing, notDirectory, rfl⟩ :=
            FileTree.removeFile_eq_ok_iff.1 removed
          rw [FileTree.locate_orphan] at located
          rw [FileTree.node?_orphan, Option.map_eq_some_iff] at standing
          obtain ⟨former, isFormer, rfl⟩ := standing
          cases isSocket : former.isSocket with
          | true =>
              cases former with
              | socket behind =>
                  obtain ⟨left, isLeft⟩ := FileTree.orphaned_socket listener behind
                  have stands : (files.orphan listener).node? place = some (.socket left) := by
                    rw [FileTree.node?_orphan, isFormer, Option.map_some, isLeft]
                  exact sparesOrphan.trans (FileTree.spares_erase_socket stands)
              | regular => cases isSocket
              | directory => cases isSocket
              | link => cases isSocket
          | false =>
              rw [FileTree.orphaned_of_not_socket isSocket] at notDirectory
              exact absurd ⟨located, former, isFormer, isSocket, notDirectory⟩ (own place)
      · exact sparesOrphan

end SocketFileTransport

namespace Transport

/-- The path of the transport leads to an object that is neither a socket nor a directory. -/
def FoundForeign (files : FileTree) (place : Place) : Transport → Prop
  | .network _ => False
  | .socketFile transport => transport.FoundForeign files place

/-- The call ends listening and finds an object at the path that is no socket. A directory does not count,
because it is not removed. -/
def Visit.Overreaches (visit : Visit) : Prop :=
  visit.call.endsListening = true ∧ visit.transport.isListening = true ∧
    ∃ place, visit.transport.FoundForeign visit.found.machine.files place

variable {first transport : Transport} {visits front back : List Visit} {visit : Visit} {place : Place}

/-! ## One call -/

/-- The end of listening removes something that is no socket exactly where it finds it in the place of its own
socket. -/
theorem spares_stopIn_iff (found : Surroundings) (transport : Transport) :
    found.machine.files.Spares (transport.stopIn found).files ↔
      ¬ (transport.isListening = true ∧ ∃ place, transport.FoundForeign found.machine.files place) := by
  cases transport with
  | network network =>
      refine iff_of_true ?_ fun overreaches => overreaches.2.elim fun _ => id
      simp only [stopIn, unlisten]
      split
      · exact .refl _
      · exact FileTree.spares_orphan _ _
  | socketFile socketFile =>
      constructor
      · rintro spares ⟨listens, place, foreign⟩
        have gone := (SocketFileTransport.takesAway_unlisten listens foreign).1
        obtain ⟨_, node, isNode, notSocket, _⟩ := foreign
        cases gone.symm.trans (spares place node isNode notSocket)
      · intro apart
        show found.machine.files.Spares (socketFile.unlisten found.machine.files).2
        cases isListener : socketFile.listener with
        | none =>
            rw [SocketFileTransport.unlisten_of_none isListener]
            exact .refl _
        | some listener =>
            refine SocketFileTransport.spares_unlisten fun place foreign => apart ⟨?_, place, foreign⟩
            simp [isListening, Transport.listener, isListener]

/-- Whether it succeeds or fails, a start removes nothing but a stale socket. -/
theorem spares_startIn (found : Surroundings) (transport : Transport) :
    found.machine.files.Spares (transport.startIn found).2 := by
  cases transport with
  | network network => exact .refl _
  | socketFile socketFile =>
      exact SocketFileTransport.spares_listenAgainst found.obstacle found.listener _ socketFile

/-- A call removes something that is no socket exactly where it overreaches. -/
theorem spares_perform_iff (found : Surroundings) (transport : Transport) (call : Call) :
    found.machine.files.Spares (transport.perform found call).files ↔
      ¬ Visit.Overreaches ⟨call, transport, found, transport.perform found call⟩ := by
  cases call with
  | start =>
      have spares := spares_startIn found transport
      refine iff_of_true ?_ fun overreaches => nomatch overreaches.1
      unfold perform
      dsimp only
      split <;> exact spares
  | setAddress text =>
      refine iff_of_true ?_ fun overreaches => nomatch overreaches.1
      unfold perform
      dsimp only
      split <;> exact .refl _
  | stop | drop =>
      simpa [Visit.Overreaches, Call.endsListening, perform] using spares_stopIn_iff found transport

theorem takesAway_stopIn (found : Surroundings) (listens : transport.isListening = true)
    (foreign : transport.FoundForeign found.machine.files place) :
    (transport.stopIn found).files.node? place = none ∧
      ∀ other node, other ≠ place → found.machine.files.node? other = some node → node.isSocket = false →
        (transport.stopIn found).files.node? other = some node := by
  cases transport with
  | network network => exact foreign.elim
  | socketFile socketFile => exact SocketFileTransport.takesAway_unlisten listens foreign

/-- Behind a start that succeeds the path leads to the socket of its listener. -/
theorem holds_of_startIn {found : Surroundings} {path : String} {number : Nat}
    (started : (transport.startIn found).1 = .ok (.socketFile ⟨path, some number⟩)) :
    found.listener = number ∧ transport.address = path ∧
      ∃ place, (transport.startIn found).2.locate path = .ok place ∧
        (transport.startIn found).2.node? place = some (.socket (some number)) := by
  cases transport with
  | network network =>
      cases answered : network.listenAgainst found.obstacle found.listener found.bound <;>
        simp [startIn, answered, Except.map] at started
  | socketFile socketFile =>
      cases answered :
          (socketFile.listenAgainst found.obstacle found.listener found.machine.files).1 with
      | error cause => simp [startIn, answered, Except.map] at started
      | ok heard =>
          have unopposed := SocketFileTransport.listenAgainst_eq_ok answered
          simp only [startIn, answered, Except.map] at started ⊢
          rw [unopposed] at answered ⊢
          obtain ⟨rfl, holds⟩ := SocketFileTransport.holds_of_listen answered
          cases started
          exact ⟨rfl, rfl, holds⟩

/-! ## All calls -/

/-- An earlier start at the address at which the transport listens left its socket there. -/
def Established (visits : List Visit) (transport : Transport) : Prop :=
  ∀ path number, transport = .socketFile ⟨path, some number⟩ →
    ∃ visit ∈ visits, visit.call = .start ∧ visit.found.listener = number ∧
      visit.transport.address = path ∧
      ∃ place, visit.outcome.files.locate path = .ok place ∧
        visit.outcome.files.node? place = some (.socket (some number))

theorem Established.mono {more : List Visit} (established : Established visits transport)
    (all : visits ⊆ more) : Established more transport := by
  intro path number isListener
  obtain ⟨visit, member, facts⟩ := established path number isListener
  exact ⟨visit, all member, facts⟩

theorem established_of_silent (silent : transport.isListening = false) : Established visits transport := by
  rintro path number rfl
  cases silent

/-- The path of a transport does not change while it listens. -/
theorem History.established (history : History first visits transport)
    (silent : first.isListening = false) : Established visits transport := by
  induction history with
  | new => exact established_of_silent silent
  | @call visits transport before found call inductionHypothesis =>
      have stays := inductionHypothesis.mono
        (List.subset_append_left visits [⟨call, transport, found, transport.perform found call⟩])
      cases call with
      | start =>
          cases started : (transport.startIn found).1 with
          | error cause =>
              simp only [perform, started] at stays ⊢
              exact stays
          | ok listening =>
              rintro path number isListener
              simp only [perform, started] at isListener
              subst isListener
              refine ⟨_, List.mem_append_right _ (List.mem_singleton_self _), rfl, ?_⟩
              simp only [perform, started]
              exact holds_of_startIn started
      | setAddress text =>
          cases isMoved : transport.setAddress text with
          | error cause =>
              simp only [perform, isMoved] at stays ⊢
              exact stays
          | ok moved =>
              simp only [perform, isMoved]
              exact established_of_silent (setAddress_eq_ok isMoved).2
      | stop | drop => exact established_of_silent (transport.unlisten_facts found.machine).1

/-- What the owner of other files may expect of a call on a transport, behind the calls before it. -/
structure Respects (earlier : List Visit) (visit : Visit) : Prop where
  /-- Nothing but sockets is removed, unless the call ends listening and finds a file or a link at the path. -/
  spares_iff : visit.found.machine.files.Spares visit.outcome.files ↔ ¬ visit.Overreaches
  /-- Then that object is removed, and no other that is not a socket. -/
  takesAway : visit.Overreaches → ∃ place, visit.transport.FoundForeign visit.found.machine.files place ∧
    visit.outcome.files.node? place = none ∧
    ∀ other node, other ≠ place → visit.found.machine.files.node? other = some node →
      node.isSocket = false → visit.outcome.files.node? other = some node
  /-- It was put there since a start of this transport left a socket at the same path. -/
  replaced : visit.Overreaches → ∃ start ∈ earlier, start.call = .start ∧
    visit.transport.listener = some start.found.listener ∧
    start.transport.address = visit.transport.address ∧
    ∃ place, start.outcome.files.locate visit.transport.address = .ok place ∧
      start.outcome.files.node? place = some (.socket (some start.found.listener))

theorem History.respects (history : History first visits transport) (silent : first.isListening = false)
    (found : Surroundings) (call : Call) :
    Respects visits ⟨call, transport, found, transport.perform found call⟩ where
  spares_iff := spares_perform_iff found transport call
  takesAway := by
    rintro ⟨ends, listens, place, foreign⟩
    cases call with
    | start => cases ends
    | setAddress => cases ends
    | stop | drop => exact ⟨place, foreign, takesAway_stopIn found listens foreign⟩
  replaced := by
    rintro ⟨_, listens, place, foreign⟩
    cases transport with
    | network => exact foreign.elim
    | socketFile socketFile =>
        obtain ⟨number, isListener⟩ := Option.isSome_iff_exists.1 listens
        obtain ⟨path, rest⟩ := socketFile
        obtain rfl : rest = some number := isListener
        obtain ⟨start, member, isStart, rfl, samePath, holds⟩ := history.established silent path number rfl
        exact ⟨start, member, isStart, rfl, samePath, holds⟩

/-- Every call of every history keeps to it, whatever other programs do between the calls and whatever the
system refuses. -/
theorem respects_of_history (silent : first.isListening = false) (history : History first visits transport)
    (whole : visits = front ++ visit :: back) : Respects front visit := by
  subst whole
  obtain ⟨before, isOutcome⟩ := history.exists_call
  have respects := before.respects silent visit.found visit.call
  rwa [← isOutcome] at respects

/-- A transport listens at a path and stops; then it listens again, and a file is put in the place of its
socket before it goes away. The first end of listening removes the socket and spares the file beside it, the
second one removes the file at the path. -/
theorem respects_of_restart :
    ∃ started stop stopped later away last,
      History (.socketFile { path := "s.sock" }) (started ++ [stop]) stopped ∧
      History (.socketFile { path := "s.sock" }) (later ++ [away]) last ∧
      stop.call = .stop ∧ away.call = .drop ∧
      stop.found.machine.files.node? ["s.sock"] = some (.socket (some 0)) ∧
      stop.found.machine.files.node? ["other"] = some (.regular [7]) ∧
      away.found.machine.files.node? ["s.sock"] = some (.regular [7]) ∧
      ¬ stop.Overreaches ∧ Respects started stop ∧ away.Overreaches ∧ Respects later away := by
  let beside : FileTree := { nodes := [(["other"], .regular [7])] }
  let withSocket : FileTree := beside.put ["s.sock"] (.socket (some 0))
  let replaced : FileTree := { nodes := [(["s.sock"], .regular [7])] }
  have first : ∀ entry ∈ beside.nodes, entry.2 ≠ .socket (some 0) := by decide
  have second : ∀ entry ∈ beside.nodes, entry.2 ≠ .socket (some 1) := by decide
  have listened (number : Nat) (unheard : ∀ entry ∈ beside.nodes, entry.2 ≠ .socket (some number)) :
      (perform (.among beside number none unheard) (.socketFile { path := "s.sock" }) .start).transport =
        .socketFile ⟨"s.sock", some number⟩ := rfl
  have begun : History (.socketFile { path := "s.sock" }) [] (.socketFile { path := "s.sock" }) := .new
  have started := begun.call (.among beside 0 none first) .start
  rw [listened] at started
  have stopped := started.call (.among withSocket 1 none (by decide)) .stop
  have restarted := stopped.call (.among beside 1 none second) .start
  change History _ _
    (perform (.among beside 1 none second) (.socketFile { path := "s.sock" }) .start).transport at restarted
  rw [listened] at restarted
  have gone := restarted.call (.among replaced 2 none (by decide)) .drop
  refine ⟨_, _, _, _, _, _, stopped, gone, rfl, rfl, rfl, rfl, rfl, ?_,
    respects_of_history rfl stopped rfl, ?_, respects_of_history rfl gone rfl⟩
  · rintro ⟨_, _, place, located, node, isNode, notSocket, _⟩
    have leads : withSocket.locate "s.sock" = .ok ["s.sock"] := rfl
    cases leads.symm.trans located
    cases isNode
    cases notSocket
  · have leads : replaced.locate "s.sock" = .ok ["s.sock"] := rfl
    exact ⟨rfl, rfl, ["s.sock"], leads, .regular [7], rfl, rfl, nofun⟩

/-- It is not true that no call ever removes anything but sockets: a file that another program has put in the
place of the socket is removed when the transport listens no more. -/
theorem not_spares_of_replaced_socket :
    ¬ ∀ first visits transport, first.isListening = false → History first visits transport →
      ∀ visit ∈ visits, visit.found.machine.files.Spares visit.outcome.files := by
  intro spares
  let replaced : FileTree := { nodes := [(["s.sock"], .regular [7])] }
  have begun : History (.socketFile { path := "s.sock" }) [] (.socketFile { path := "s.sock" }) := .new
  have history := (begun.call (.among {} 0 none (by decide)) .start).call
    (.among replaced 1 none (by decide)) .stop
  have kept := spares _ _ _ rfl history _ (List.mem_append_right _ (List.mem_singleton_self _))
    ["s.sock"] (.regular [7]) rfl rfl
  cases kept

end Transport

end ConnectionPool
