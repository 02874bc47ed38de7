import ConnectionPool.Launch
import ConnectionPool.Line
import ConnectionPool.Parked

/-!
Contract: transports with the clients that connect to them.

Every transport has a table of the connections that it accepted and nobody has taken out yet. Nothing is ever
parked under a descriptor that is already in the table, because descriptors are numbered by clients.

Owns: the type `Reception` with the calls on its transports and on both ends of its connections.

Does not own: sessions; whoever takes a connection out reads and writes it directly.
-/

namespace ConnectionPool

/-- A transport with its table. -/
structure Entrance where
  transport : Transport
  /-- Connections that were accepted and not taken out yet, with the numbers of their clients. -/
  parked : Parked := {}
  /-- Somebody is told of accepted connections. -/
  isAttended : Bool := true
deriving Repr

/-- A client with its connection. -/
structure Client where
  descriptor : Descriptor
  line : Line
  /-- Its connection was taken out to be served. -/
  isServed : Bool := false
  /-- It has sent all it had to send. -/
  isFinished : Bool := false
deriving Repr

/-- Transports and clients on one machine. -/
structure Reception where
  machine : Machine := {}
  entrances : List Entrance := []
  clients : List Client := []
deriving Repr

namespace Entrance

def take (descriptor : Descriptor) (entrance : Entrance) : Option Nat × Entrance :=
  let answer := entrance.parked.take descriptor
  (answer.1, { entrance with parked := answer.2 })

end Entrance

/-- What became of an attempt to connect. -/
inductive Welcome where
  /-- Nobody listens. -/
  | unreachable
  /-- The connection was accepted, but nobody is told of it. -/
  | unattended
  | announced (kind : DescriptorKind)
deriving DecidableEq, Repr

namespace Reception

def modifyEntrance (position : Nat) (change : Entrance → Entrance) (reception : Reception) :
    Reception :=
  { reception with entrances := reception.entrances.modify position change }

def modifyClient (number : Nat) (change : Client → Client) (reception : Reception) : Reception :=
  { reception with clients := reception.clients.modify number change }

def modifyLine (number : Nat) (change : Line → Line) (reception : Reception) : Reception :=
  reception.modifyClient number fun client => { client with line := change client.line }

/-! ## Transports -/

/-- The entrances of addresses, each with its settings for encryption. -/
def entrancesFor : List (String × Option TlsSettings) → Except LaunchError (List Entrance)
  | [] => .ok []
  | (uri, tls) :: rest => do
      let address ← (ServerAddress.parse uri).mapError LaunchError.malformed
      let transport ← Transport.forAddress address tls
      let entrances ← entrancesFor rest
      pure ({ transport } :: entrances)

/-- A transport begins to listen. From then on somebody is told of the connections it accepts. -/
def listen (position : Nat) (reception : Reception) : Except TransportError Unit × Reception :=
  match reception.entrances[position]? with
  | none => (.ok (), reception)
  | some entrance =>
      let answer := entrance.transport.listen reception.machine
      let heard := { reception with machine := answer.2 }
      match answer.1 with
      | .error cause => (.error cause, heard)
      | .ok transport =>
          (.ok (), heard.modifyEntrance position fun entrance =>
            { entrance with transport, isAttended := true })

/-- A transport listens no more. What it parked stays parked. -/
def unlisten (position : Nat) (reception : Reception) : Reception :=
  match reception.entrances[position]? with
  | none => reception
  | some entrance =>
      let answer := entrance.transport.unlisten reception.machine
      { reception with machine := answer.2 }.modifyEntrance position fun entrance =>
        { entrance with transport := answer.1 }

def setAddress (position : Nat) (text : String) (reception : Reception) :
    Except TransportError Reception :=
  match reception.entrances[position]? with
  | none => .ok reception
  | some entrance =>
      (entrance.transport.setAddress text).map fun transport =>
        reception.modifyEntrance position fun entrance => { entrance with transport }

/-- Nobody is told any more of the connections that a transport accepts. -/
def dismissAttendant (position : Nat) (reception : Reception) : Reception :=
  reception.modifyEntrance position fun entrance => { entrance with isAttended := false }

/-! ## Clients -/

/-- A client connects to the address of a transport. A listener that accepts a connection of which nobody is
told closes it and itself. -/
def connect (position : Nat) (reception : Reception) : Welcome × Reception :=
  let reached := reception.entrances[position]?.bind fun entrance =>
    entrance.transport.reached? reception.machine
  match reached with
  | none => (.unreachable, reception)
  | some listener =>
      let number := reception.clients.length
      let descriptor : Descriptor := { kind := .localSocket, handle := number }
      let owner := reception.entrances.findIdx fun entrance =>
        entrance.transport.listener = some listener
      let client : Client := { descriptor, line := { server := owner, descriptor } }
      let connected := { reception with clients := reception.clients ++ [client] }
      match reception.entrances[owner]? with
      | none => (.unattended, connected)
      | some entrance =>
          if entrance.isAttended then
            (.announced .localSocket, connected.modifyEntrance owner fun entrance =>
              { entrance with parked := (entrance.parked.park descriptor number).2 })
          else
            (.unattended, { connected with
              machine := connected.machine.close listener }.modifyLine number Line.close)

/-- A client sends. Tells whether the connection takes what it sends. -/
def send (number : Nat) (data : Bytes) (reception : Reception) : Bool × Reception :=
  match reception.clients[number]? with
  | none => (false, reception)
  | some client =>
      if client.isFinished || !client.line.isOpen then (false, reception)
      else if data.isEmpty then (true, reception)
      else (true, reception.modifyLine number (Line.receive (.bytes data)))

/-- A client receives at most `limit` bytes, or all there are. -/
def receive (number : Nat) (limit : Option Nat) (reception : Reception) : Bytes × Reception :=
  match reception.clients[number]? with
  | none => ([], reception)
  | some client =>
      let answer := client.line.collect limit
      (answer.1, reception.modifyLine number fun _ => answer.2)

def finish (number : Nat) (reception : Reception) : Reception :=
  reception.modifyClient number fun client =>
    { client with isFinished := true, line := client.line.receive .hangUp }

def leave (number : Nat) (reception : Reception) : Reception :=
  reception.modifyClient number fun client =>
    { client with isFinished := true, line := { client.line.abandon with outbound := [] } }

/-! ## Parked connections -/

/-- Takes the connection of a descriptor out of the table of a transport. -/
def take (position : Nat) (descriptor : Descriptor) (reception : Reception) :
    Option Nat × Reception :=
  match reception.entrances[position]? with
  | none => (none, reception)
  | some entrance =>
      let answer := entrance.take descriptor
      (answer.1, reception.modifyEntrance position fun _ => answer.2)

/-- Takes a connection out to be served. Tells whether it was there. -/
def serve (position : Nat) (descriptor : Descriptor) (reception : Reception) : Bool × Reception :=
  match reception.take position descriptor with
  | (none, reception) => (false, reception)
  | (some number, reception) =>
      (true, reception.modifyClient number fun client => { client with isServed := true })

/-- Takes a connection out, tells it a message and closes it. Tells whether the message was delivered; where
there is no connection there is nothing to deliver. -/
def refuse (position : Nat) (descriptor : Descriptor) (message : Bytes) (reception : Reception) :
    Bool × Reception :=
  match reception.take position descriptor with
  | (none, reception) => (true, reception)
  | (some number, reception) =>
      match reception.clients[number]? with
      | none => (true, reception)
      | some client =>
          let refused := client.line.refuse message
          (refused.outbound.length == client.line.outbound.length + message.length,
            reception.modifyLine number fun _ => refused)

def discard (position : Nat) (descriptor : Descriptor) (reception : Reception) : Reception :=
  match reception.take position descriptor with
  | (none, reception) => reception
  | (some number, reception) => reception.modifyLine number Line.close

/-! ## Served connections -/

/-- Reads at most `limit` bytes of what a client sent. -/
def read (number limit : Nat) (reception : Reception) : Bytes × Reception :=
  match reception.clients[number]? with
  | none => ([], reception)
  | some client =>
      let answer := client.line.readAll limit
      (answer.1, reception.modifyLine number fun _ => answer.2)

/-- Writes to a client. Tells whether all was taken. -/
def write (number : Nat) (data : Bytes) (reception : Reception) : Bool × Reception :=
  match reception.clients[number]? with
  | none => (false, reception)
  | some client =>
      let answer := client.line.write data
      (data.isEmpty || answer.1 == .accepted data.length,
        reception.modifyLine number fun _ => answer.2)

def close (number : Nat) (reception : Reception) : Reception :=
  reception.modifyLine number Line.close

end Reception

end ConnectionPool
