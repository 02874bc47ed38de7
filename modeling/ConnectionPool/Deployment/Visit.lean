import ConnectionPool.Deployment

/-!
Contract: the clients of launched servers.

What a client does before a worker has opened its connection waits with the connection and is read once the
connection is open.

Owns: connecting, sending, receiving and going away, as seen from the client.

Does not own: the sessions, which are the site's.
-/

namespace ConnectionPool.Deployment

/-- The position of a visitor's connection among those of the site, once it is open. -/
def line? (visitor : Visitor) (deployment : Deployment) : Option Nat :=
  deployment.site.lines.findIdx? fun line =>
    line.server = visitor.server ∧ line.descriptor = visitor.descriptor

/-- Hands over what a visitor has done before its connection was opened. -/
def handOver (deployment : Deployment) (number : Nat) : Deployment :=
  match deployment.visitors[number]? with
  | none => deployment
  | some visitor =>
      match deployment.line? visitor with
      | none => deployment
      | some _ =>
          let handed := { deployment with
            visitors := deployment.visitors.set number { visitor with early := [] } }
          visitor.early.foldl
            (fun deployment event =>
              (deployment.perform (Site.receive visitor.server visitor.descriptor event)).2)
            handed

/-- Hands over what can be handed over. A session that ends thereby may let another one begin, so that is
done once for every visitor. -/
def settle (deployment : Deployment) : Deployment :=
  let numbers := List.range deployment.visitors.length
  numbers.foldl (fun deployment _ => numbers.foldl handOver deployment) deployment

def modifyVisitor (number : Nat) (change : Visitor → Visitor) (deployment : Deployment) :
    Deployment :=
  { deployment with visitors := deployment.visitors.modify number change }

/-- Something happens at the far end of a visitor's connection. -/
def occur (number : Nat) (event : Inbound) (deployment : Deployment) : Deployment :=
  (deployment.modifyVisitor number fun visitor =>
    { visitor with early := visitor.early ++ [event] }).settle

/-- A client connects to the address of a server. Tells whether anybody listens there. -/
def connect (position : Nat) (deployment : Deployment) : Bool × Deployment :=
  let reached := deployment.transports[position]?.bind fun transport =>
    transport.reached? deployment.machine
  match reached with
  | none => (false, deployment)
  | some listener =>
      let owner := deployment.transports.findIdx fun transport => transport.listener = some listener
      let descriptor : Descriptor :=
        { kind := .localSocket, handle := deployment.visitors.length }
      let visitor : Visitor := { server := owner, descriptor }
      let visited := { deployment with visitors := deployment.visitors ++ [visitor] }
      (true, (visited.perform (Site.connect owner descriptor)).2.settle)

/-- A visitor sends. Tells whether the connection takes what it sends. -/
def send (number : Nat) (data : Bytes) (deployment : Deployment) : Bool × Deployment :=
  match deployment.visitors[number]? with
  | none => (false, deployment)
  | some visitor =>
      let isClosed :=
        match (deployment.line? visitor).bind fun line => deployment.site.lines[line]? with
        | none => visitor.isDismissed
        | some line => !line.isOpen
      if isClosed || visitor.isFinished then (false, deployment)
      else if data.isEmpty then (true, deployment)
      else (true, deployment.occur number (.bytes data))

/-- A visitor receives at most `limit` bytes, or all there are. -/
def receive (number : Nat) (limit : Option Nat) (deployment : Deployment) : Bytes × Deployment :=
  match deployment.visitors[number]? with
  | none => ([], deployment)
  | some visitor =>
      match deployment.line? visitor with
      | none => ([], deployment)
      | some position =>
          match deployment.site.lines[position]? with
          | none => ([], deployment)
          | some line =>
              let answer := line.collect limit
              (if visitor.isGone then [] else answer.1,
                { deployment with site := deployment.site.modifyLine position fun _ => answer.2 })

def finish (number : Nat) (deployment : Deployment) : Deployment :=
  (deployment.modifyVisitor number fun visitor => { visitor with isFinished := true }).occur number
    .hangUp

def leave (number : Nat) (deployment : Deployment) : Deployment :=
  (deployment.modifyVisitor number fun visitor =>
    { visitor with isFinished := true, isGone := true }).occur number .hangUp

/-- Lets time pass until a server has no more workers than `all`, as far as workers may retire. -/
def awaitWorkers (position all : Nat) (deployment : Deployment) : Deployment :=
  let surplus :=
    match deployment.site.servers[position]? with
    | none => 0
    | some live => live.server.pool.counts.all - all
  (deployment.perform fun site => ((), site.retireFor position none surplus)).2

end ConnectionPool.Deployment
