import ConnectionPool.Parked
import ConnectionPool.Server

/-!
Contract: a server together with the thread that accepts its connections and the table in which they wait.

While the transport listens, a thread accepts streams, parks each one in the table and then tells the server
of it. That call may refuse or close the stream on the same thread; a worker that was handed it takes it out
later and makes a channel of it, and a stop closes those that nobody served. Each `LobbyLabel` is one turn of
the accepting thread, of a worker that looks into the table, or of the server, and every interleaving is a
list of labels.

The system is trusted with one thing: a stream that it accepts never has the descriptor of one that is still
open. Streams are numbered as they are accepted.

Owns:
- the types `Lobby`, `LobbyLabel` and `LobbyEvent`;
- `Lobby.step?` and `Lobby.run?`.

Does not own: the server's own turns, and what is read from a stream or written to it.
-/

namespace ConnectionPool

/-! ## Parts -/

/-- What the accepting thread is about. -/
inductive Errand where
  /-- About to look whether it may go on. -/
  | looking
  /-- It may go on, and asks the listener for a stream. -/
  | watching
  /-- Has accepted a stream, which is not parked yet. -/
  | holding (descriptor : Descriptor) (stream : Nat)
  /-- Has parked it, and is about to tell the server. -/
  | announcing (descriptor : Descriptor) (stream : Nat)
  /-- In the call that tells the server of it. -/
  | calling (descriptor : Descriptor)
  /-- In that call, with what it took out of the table to refuse it. -/
  | refusing (descriptor : Descriptor) (found : Option Nat)
  /-- There is no such thread, or it has ended. -/
  | ended
deriving DecidableEq, Repr

/-- What a worker took out of the table under a descriptor. -/
structure Fetch where
  worker : WorkerId
  descriptor : Descriptor
  stream : Option Nat
deriving DecidableEq, Repr

/-- A server, the table of its transport and the accepting thread. -/
structure Lobby where
  server : Server := {}
  parked : Parked := {}
  /-- What workers took out and are making channels of. -/
  fetching : List Fetch := []
  /-- The streams of open channels. -/
  channels : List Fetch := []
  errand : Errand := .ended
  /-- Nobody has told the accepting thread to end. -/
  isWanted : Bool := false
  /-- The transport has an accepting thread and has not waited for its end. -/
  isListening : Bool := false
  /-- How many streams were accepted. -/
  accepted : Nat := 0
  /-- The server was dropped, and with it all that the host could call. -/
  isGone : Bool := false
deriving Repr

/-- Why somebody looks into the table. -/
inductive Purpose where
  | serve (worker : WorkerId)
  | refuse
  | discard
deriving DecidableEq, Repr

/-- What a turn shows. -/
inductive LobbyEvent where
  | accepted (descriptor : Descriptor) (stream : Nat)
  /-- A stream could not be made ready, and was closed. -/
  | spoiled (descriptor : Descriptor) (stream : Nat)
  /-- A stream was parked, perhaps in place of another one. -/
  | parked (descriptor : Descriptor) (stream : Nat) (replaced : Option Nat)
  /-- The server was told of a stream. -/
  | announced (descriptor : Descriptor) (stream : Nat)
  /-- There was no server to tell, and the stream was taken out again. -/
  | orphaned (descriptor : Descriptor) (found : Option Nat)
  /-- The server, by one of its threads or calls, took out what was parked under a descriptor. -/
  | looked (purpose : Purpose) (descriptor : Descriptor) (found : Option Nat)
  /-- A turn of the server, and what it showed. -/
  | turned (label : Label) (events : List Event)
deriving DecidableEq, Repr

/-- One turn. -/
inductive LobbyLabel where
  /-- The accepting thread looks whether it may go on. -/
  | look
  /-- There is no stream to accept. -/
  | miss
  | accept (descriptor : Descriptor)
  /-- The stream cannot be made ready. -/
  | spoil
  | park
  /-- The call that tells the server begins. -/
  | announce
  /-- That call returns. -/
  | resume
  /-- In that call, the thread takes the stream out to refuse it. -/
  | withdraw
  /-- The worker takes its stream out. -/
  | fetch (worker : WorkerId)
  /-- The stop tells the accepting thread to end. -/
  | hush
  /-- The last owner of the server drops it. -/
  | vanish
  /-- A turn of the server. -/
  | turn (label : Label)
deriving DecidableEq, Repr

/-- The stream that the accepting thread itself keeps open. -/
def Errand.held? : Errand → Option Descriptor
  | .holding descriptor _ => some descriptor
  | .refusing descriptor _ => some descriptor
  | _ => none

namespace Lobby

/-- The descriptors of all streams that are open. -/
def inUse (lobby : Lobby) : List Descriptor :=
  lobby.parked.keys ++ lobby.fetching.map Fetch.descriptor ++ lobby.channels.map Fetch.descriptor ++
    lobby.errand.held?.toList

/-! ## What the server's calls do here -/

/-- What the worker took out is closed. -/
def closeChannel (id : WorkerId) (lobby : Lobby) : Lobby :=
  { lobby with channels := lobby.channels.filter fun fetch => fetch.worker ≠ id }

/-- Something that the server has done takes effect on the table, the streams and the accepting thread. -/
def note (lobby : Lobby) : Event → Lobby × List LobbyEvent
  | .listened true =>
      ({ lobby with errand := .looking, isWanted := true, isListening := true }, [])
  | .unlistened => ({ lobby with isListening := false }, [])
  | .exchanged id _ granted =>
      let fetched := lobby.fetching.filter fun fetch => fetch.worker = id
      ({ lobby with
        fetching := lobby.fetching.filter fun fetch => fetch.worker ≠ id
        channels := lobby.channels ++ if granted then fetched else [] }, [])
  | .skipped id _ => (lobby.closeChannel id, [])
  | .ended id _ _ => (lobby.closeChannel id, [])
  | .refused descriptor => ({ lobby with errand := .calling descriptor }, [])
  | .discarded descriptor =>
      let answer := lobby.parked.take descriptor
      ({ lobby with parked := answer.2 }, [.looked .discard descriptor answer.1])
  | _ => (lobby, [])

def noteAll (lobby : Lobby) : List Event → Lobby × List LobbyEvent
  | [] => (lobby, [])
  | event :: events =>
      let first := lobby.note event
      let rest := noteAll first.1 events
      (rest.1, first.2 ++ rest.2)

/-- The rest of the system lets the server do this. A transport listens only once, and waits for its accepting
thread before it has stopped to listen; a channel is made of what was fetched; connections are decided about,
and refused, on the thread that tells of them. -/
def allows (lobby : Lobby) : Event → Bool
  | .listened succeeded => !(succeeded && lobby.isListening)
  | .unlistened => lobby.errand = .ended
  | .arrived _ => false
  | .decided descriptor _ => lobby.errand = .calling descriptor
  | .refused descriptor =>
      match lobby.errand with
      | .refusing other _ => other = descriptor
      | _ => false
  | .exchanged id _ granted =>
      lobby.fetching.any fun fetch => fetch.worker = id && (!granted || fetch.stream.isSome)
  | _ => true

/-- Somebody is there to take this turn of the server: a dropped server is called by nobody, and a connection
that nobody takes is closed on the thread that told of it. -/
def attends (lobby : Lobby) (label : Label) : Bool :=
  (!lobby.isGone || label.thread?.isSome) &&
    match label with
    | .dismiss descriptor => lobby.errand = .calling descriptor
    | _ => true

/-- A turn of the server with what it means for the rest. -/
def turn? (terms : Terms) (lobby : Lobby) (label : Label) : Option (Lobby × List LobbyEvent) :=
  match lobby.server.step? terms label with
  | none => none
  | some (server, events) =>
      if lobby.attends label && events.all lobby.allows then
        let noted := { lobby with server }.noteAll events
        some (noted.1, .turned label events :: noted.2)
      else
        none

/-! ## All turns -/

/-- The stop that ends the run has not stopped the transport yet. -/
def isUnlistening (lobby : Lobby) : Bool :=
  match lobby.server.closing with
  | some closing => closing.stage = .unlistening
  | none => false

/-- Nobody calls the server, and it is not running: its owner may be gone. -/
def isIdle (lobby : Lobby) : Bool :=
  lobby.server.pool.lifecycle ≠ .running && lobby.server.closing.isNone &&
    lobby.server.clearances.isEmpty && lobby.server.sweeps.isEmpty && lobby.server.arrivals.isEmpty &&
    lobby.server.refusals.isEmpty && lobby.server.dismissals.isEmpty

/-- The lobby after one turn and what the turn showed, or nothing where that turn cannot be taken. -/
def step? (terms : Terms) (lobby : Lobby) : LobbyLabel → Option (Lobby × List LobbyEvent)
  | .look =>
      match lobby.errand with
      | .looking => some ({ lobby with errand := if lobby.isWanted then .watching else .ended }, [])
      | _ => none
  | .miss =>
      match lobby.errand with
      | .watching => some ({ lobby with errand := .looking }, [])
      | _ => none
  | .accept descriptor =>
      match lobby.errand with
      | .watching =>
          if descriptor ∈ lobby.inUse then
            none
          else
            some ({ lobby with
              errand := .holding descriptor lobby.accepted, accepted := lobby.accepted + 1 },
              [.accepted descriptor lobby.accepted])
      | _ => none
  | .spoil =>
      match lobby.errand with
      | .holding descriptor stream =>
          some ({ lobby with errand := .looking }, [.spoiled descriptor stream])
      | _ => none
  | .park =>
      match lobby.errand with
      | .holding descriptor stream =>
          let answer := lobby.parked.park descriptor stream
          some ({ lobby with parked := answer.2, errand := .announcing descriptor stream },
            [.parked descriptor stream answer.1])
      | _ => none
  | .announce =>
      match lobby.errand with
      | .announcing descriptor stream =>
          if lobby.isGone then
            let answer := lobby.parked.take descriptor
            some ({ lobby with parked := answer.2, errand := .ended },
              [.orphaned descriptor answer.1])
          else
            (lobby.server.step? terms (.arrive descriptor)).map fun told =>
              ({ lobby with server := told.1, errand := .calling descriptor },
                [.announced descriptor stream, .turned (.arrive descriptor) told.2])
      | _ => none
  | .resume =>
      match lobby.errand with
      | .calling descriptor =>
          if descriptor ∈ lobby.server.arrivals ++ lobby.server.refusals ++ lobby.server.dismissals then
            none
          else
            some ({ lobby with errand := .looking }, [])
      | _ => none
  | .withdraw =>
      match lobby.errand with
      | .calling descriptor =>
          if descriptor ∈ lobby.server.refusals then
            let answer := lobby.parked.take descriptor
            some ({ lobby with parked := answer.2, errand := .refusing descriptor answer.1 },
              [.looked .refuse descriptor answer.1])
          else
            none
      | _ => none
  | .fetch id =>
      match (lobby.server.pool.worker? id).map Worker.stage with
      | some (.exchanging descriptor) =>
          if lobby.fetching.any fun fetch => fetch.worker = id then
            none
          else
            let answer := lobby.parked.take descriptor
            some ({ lobby with
              parked := answer.2, fetching := lobby.fetching ++ [⟨id, descriptor, answer.1⟩] },
              [.looked (.serve id) descriptor answer.1])
      | _ => none
  | .hush =>
      if lobby.isUnlistening then some ({ lobby with isWanted := false }, []) else none
  | .vanish =>
      if lobby.isIdle then some ({ lobby with isGone := true }, []) else none
  | .turn label => lobby.turn? terms label

/-- Takes turns one after another; nothing where one of them cannot be taken. -/
def run? (terms : Terms) (lobby : Lobby) : List LobbyLabel → Option (Lobby × List LobbyEvent)
  | [] => some (lobby, [])
  | label :: labels =>
      match lobby.step? terms label with
      | none => none
      | some (next, events) =>
          (run? terms next labels).map fun final => (final.1, events ++ final.2)

end Lobby

end ConnectionPool
