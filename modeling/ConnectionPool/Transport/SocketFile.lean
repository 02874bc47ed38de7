import ConnectionPool.Failure
import ConnectionPool.Files.Tree

/-!
Contract: the transport of a socket file.

Owns: the type `SocketFileTransport` with `listen`, `unlisten` and `setAddress`.

Does not own: the files, which it is given and gives back.
-/

namespace ConnectionPool

/-- Listens on a socket file. -/
structure SocketFileTransport where
  path : String
  /-- The number of its listener while it listens. -/
  listener : Option Nat := none
deriving DecidableEq, Repr

namespace SocketFileTransport

def address (transport : SocketFileTransport) : String :=
  transport.path

/-- Begins to listen with a new listener. A socket that nobody listens on is removed first; anything else
that stands at the path is a failure. Gives the files also where it fails. -/
def listen (listener : Nat) (files : FileTree) (transport : SocketFileTransport) :
    Except TransportError SocketFileTransport × FileTree :=
  match transport.listener with
  | some _ => (.error (.alreadyListening transport.address), files)
  | none =>
      match files.removeStaleSocket transport.path with
      | .error cause => (.error (.bind transport.address cause.message), files)
      | .ok cleared =>
          match cleared.bindSocket listener transport.path with
          | .error cause => (.error (.bind transport.address cause.message), cleared)
          | .ok files => (.ok { transport with listener := some listener }, files)

/-- Listens no more and removes the file at the path. A directory stays. -/
def unlisten (files : FileTree) (transport : SocketFileTransport) : SocketFileTransport × FileTree :=
  match transport.listener with
  | none => (transport, files)
  | some listener =>
      let orphaned := files.orphan listener
      let removed :=
        match orphaned.removeFile transport.path with
        | .ok files => files
        | .error _ => orphaned
      ({ transport with listener := none }, removed)

/-- Takes another path, which must not be empty and cannot be taken while listening. -/
def setAddress (text : String) (transport : SocketFileTransport) :
    Except TransportError SocketFileTransport :=
  if text.isEmpty then
    .error (.malformed .emptyLocalName)
  else
    match transport.listener with
    | some _ => .error (.alreadyListening transport.address)
    | none => .ok { transport with path := text }

end SocketFileTransport

end ConnectionPool
