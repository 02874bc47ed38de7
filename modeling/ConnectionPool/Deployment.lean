import ConnectionPool.Launch
import ConnectionPool.Site

/-!
Contract: servers launched from addresses on one machine.

A deployment is a site whose servers listen through real transports. Whatever a call on the site asks of the
transports is done on the machine when the call is over, so a server that was stopped listens no more.

Owns:
- the type `Deployment`;
- `Deployment.launch`, which gives a running server under a new name or leaves nothing behind;
- starting, stopping and removing servers that were launched.

Does not own: the clients' side of connections; see `Deployment.Visit`.
-/

namespace ConnectionPool

/-- A client of a deployment. -/
structure Visitor where
  /-- The position of the server that it has reached. -/
  server : Nat
  descriptor : Descriptor
  /-- What it has done before a worker opened its connection. -/
  early : List Inbound := []
  /-- It sends nothing more. -/
  isFinished : Bool := false
  /-- It has gone away. -/
  isGone : Bool := false
  /-- Its connection was closed without having been opened. -/
  isDismissed : Bool := false
deriving Repr

/-- Launched servers on a machine. -/
structure Deployment where
  machine : Machine := {}
  site : Site := {}
  /-- The transports of the servers, in the same order. -/
  transports : List Transport := []
  visitors : List Visitor := []
deriving Repr

namespace Deployment

/-! ## What calls ask of transports -/

def unlisten (position : Nat) (deployment : Deployment) : Deployment :=
  match deployment.transports[position]? with
  | none => deployment
  | some transport =>
      let answer := transport.unlisten deployment.machine
      { deployment with
        machine := answer.2
        transports := deployment.transports.set position answer.1 }

def dismiss (position : Nat) (descriptor : Descriptor) (deployment : Deployment) : Deployment :=
  { deployment with visitors := deployment.visitors.map fun visitor =>
      if visitor.server = position ∧ visitor.descriptor = descriptor then
        { visitor with isDismissed := true }
      else
        visitor }

def obey (deployment : Deployment) : Nat × Hook → Deployment
  | (position, .unlisten) => deployment.unlisten position
  | (position, .discard descriptor) => deployment.dismiss position descriptor
  | (_, .listen) => deployment
  | (_, .create _) => deployment

/-- Makes a call on the site and does what the servers asked meanwhile. -/
def perform {Answer : Type} (call : Site → Answer × Site) (deployment : Deployment) :
    Answer × Deployment :=
  let answer := call deployment.site
  (answer.1, answer.2.journal.foldl obey
    { deployment with site := { answer.2 with journal := [] } })

/-! ## Servers -/

/-- Starts a server. Its transport is only asked to listen if the server is stopped. -/
def start (position : Nat) (deployment : Deployment) : Except ServerError Unit × Deployment :=
  match deployment.site.servers[position]?, deployment.transports[position]? with
  | some live, some transport =>
      match live.server.pool.lifecycle with
      | .running => (.ok (), deployment)
      | .stopping => (.error .stopping, deployment)
      | .stopped =>
          let listened := transport.listen deployment.machine
          let heard := { deployment with machine := listened.2 }
          match listened.1 with
          | .error cause =>
              (.error (.listen cause), (heard.perform (Site.start position false)).2)
          | .ok transport =>
              (.ok (), ({ heard with
                transports := heard.transports.set position transport }.perform
                  (Site.start position true)).2)
  | _, _ => (.ok (), deployment)

/-- Stops a server. Tells whether it was running. -/
def stop (position : Nat) (mode : StopMode) (deployment : Deployment) : Bool × Deployment :=
  deployment.perform (Site.stopNow position mode)

/-- Removes a server, with an interrupting stop, if no name refers to it. -/
def drop (position : Nat) (deployment : Deployment) : Deployment :=
  (deployment.perform fun site => ((), site.removeUnreferenced position)).2

/-- Takes in a server that is stopped and has no name yet. -/
def enroll (live : LiveServer) (transport : Transport) (deployment : Deployment) : Deployment :=
  { deployment with
    site := { deployment.site with
      servers := deployment.site.servers ++ [{ live with isHeld := false }] }
    transports := deployment.transports ++ [transport] }

/-- Gives a running server its name, or removes it again if the name is taken. -/
def register (name : String) (position : Nat) (deployment : Deployment) :
    Except LaunchError Nat × Deployment :=
  match deployment.site.addName name position with
  | .error cause => (.error (.name cause), deployment.drop position)
  | .ok site => (.ok position, { deployment with site })

/-- Launches an echo server. The checks come in this order: the address, what it needs for encryption, the
options, listening, the name. Gives the position of the server. -/
def launch (name address : String) (options : Options) (tls : Option TlsSettings)
    (deployment : Deployment) : Except LaunchError Nat × Deployment :=
  let prepared : Except LaunchError (Transport × LiveServer) := do
    let parsed ← (ServerAddress.parse address).mapError LaunchError.malformed
    let transport ← Transport.forAddress parsed tls
    let live ← (LiveServer.new options .echo none).mapError fun cause => .server (.unusable cause)
    pure (transport, live)
  match prepared with
  | .error cause => (.error cause, deployment)
  | .ok (transport, live) =>
      let position := deployment.site.servers.length
      match (deployment.enroll live transport).start position with
      | (.error cause, deployment) => (.error (.server cause), deployment.drop position)
      | (.ok (), deployment) => deployment.register name position

/-! ## Names -/

/-- Removes a name and, with it, its server. Tells whether there was such a name. -/
def removeName (name : String) (deployment : Deployment) : Bool × Deployment :=
  let answer := deployment.perform (Site.removeName name)
  (answer.1.isSome, answer.2)

/-- Stops the server of a name with a mode and removes both. -/
def retire (name : String) (mode : StopMode) (deployment : Deployment) : Deployment :=
  match deployment.site.directory.remove name with
  | none => deployment
  | some (position, directory) =>
      ({ deployment with site := { deployment.site with directory } }.stop position mode).2.drop
        position

def abandon (deployment : Deployment) : Deployment :=
  (deployment.perform Site.clearNames).2

def stopAll (mode : StopMode) (deployment : Deployment) : Nat × Deployment :=
  deployment.perform (Site.stopAll mode)

def sweepAll (deployment : Deployment) : Nat × Deployment :=
  deployment.perform Site.sweepAll

def address? (position : Nat) (deployment : Deployment) : Option String :=
  deployment.transports[position]?.map Transport.address

end Deployment

end ConnectionPool
