import ConnectionPool.Directory
import ConnectionPool.Line
import ConnectionPool.Server

/-!
Contract: servers over connections in memory, brought to rest after every call.

A site holds servers, their connections and a directory of names. Each call on a site takes the turns of the
caller and then lets every worker go on until it waits: for an assignment, or for something to read. The
order of those turns is fixed, so a site answers the same calls always in the same way.

Owns:
- the type `Site` with the calls on it;
- the journal of what the servers asked of their transports.

Does not own: the turns themselves, which are those of `Server.step?`.
-/

namespace ConnectionPool

/-- How the channel of a descriptor differs from an ordinary one. -/
inductive ChannelRule where
  /-- There is none. -/
  | missing
  /-- It takes this many bytes and then fails. -/
  | limited (capacity : Nat)
deriving DecidableEq, Repr

/-- What a server asked of its transport. -/
inductive Hook where
  | listen
  | unlisten
  | create (descriptor : Descriptor)
  | discard (descriptor : Descriptor)
deriving DecidableEq, Repr

def Hook.text : Hook → String
  | .listen => "listen"
  | .unlisten => "unlisten"
  | .create descriptor => "create " ++ descriptor.text
  | .discard descriptor => "discard " ++ descriptor.text

/-- The connection that a worker has opened, and its session once that has begun. -/
structure Engagement where
  line : Nat
  dialogue : Option Dialogue := none
deriving DecidableEq, Repr

/-- When a worker last became idle: a time, and a rank among the moments of the same time. -/
structure Moment where
  time : Nat
  rank : Nat
deriving DecidableEq, Repr

def Moment.isBefore (moment other : Moment) : Bool :=
  moment.time < other.time || (moment.time == other.time && moment.rank < other.rank)

/-- A server and what its workers are doing. -/
structure LiveServer where
  terms : Terms
  protocol : Protocol
  /-- What refused connections are told. -/
  message : Bytes
  server : Server := {}
  /-- How many sessions each protocol instance has held. -/
  sessions : List (ProtocolInstance × Nat) := []
  engagements : List (WorkerId × Engagement) := []
  idleSince : List (WorkerId × Moment) := []
  rules : List (Descriptor × ChannelRule) := []
  /-- The host has not given the server up. -/
  isHeld : Bool := true
  /-- Nobody refers to the server any more, so it was stopped and removed. -/
  isGone : Bool := false
deriving Repr

/-- Servers, connections and names. -/
structure Site where
  servers : List LiveServer := []
  /-- All connections ever opened, in the order of opening. -/
  lines : List Line := []
  /-- What was asked of the transports since the last report, by which server. -/
  journal : List (Nat × Hook) := []
  directory : Directory Nat := {}
  /-- Nanoseconds that have passed. -/
  clock : Nat := 0
  /-- How many moments were recorded. -/
  moments : Nat := 0
deriving Repr

def assigned {Key Value : Type} [DecidableEq Key] (key : Key) (value : Value)
    (entries : List (Key × Value)) : List (Key × Value) :=
  (key, value) :: entries.filter fun entry => entry.1 ≠ key

namespace LiveServer

def new (options : Options) (protocol : Protocol) (busyResponse : Option Bytes) :
    Except OptionsError LiveServer :=
  match options.validate with
  | .error cause => .error cause
  | .ok () => .ok {
      terms := { options, forks := protocol.forks }
      protocol
      message := busyMessage options.busyMessage busyResponse }

/-- Workers that somebody still holds: those in service, those retired, and those of calls under way. -/
def heldWorkers (live : LiveServer) : List WorkerId :=
  let ofClosing :=
    match live.server.closing with
    | none => []
    | some closing =>
        match closing.stage with
        | .unlistening => []
        | .collecting => []
        | .signalling held _ => held
        | .joining held _ _ => held
  let ofSweeps := (live.server.sweeps.map Sweep.held).flatten
  live.server.pool.staff ++ live.server.pool.retired ++ ofClosing ++ ofSweeps

/-- How many protocol instances were made for workers that nobody holds any more. -/
def droppedInstances (live : LiveServer) : Nat :=
  if live.isGone then live.server.pool.forked
  else if live.terms.forks then live.server.pool.forked - (live.heldWorkers.eraseDups).length
  else 0

def counts? (live : LiveServer) : Option PoolCounts :=
  if live.isGone then none else some live.server.pool.counts

end LiveServer

namespace Site

/-! ## Effects of a turn -/

def modifyServer (site : Site) (position : Nat) (change : LiveServer → LiveServer) : Site :=
  { site with servers := site.servers.modify position change }

def modifyLine (site : Site) (position : Nat) (change : Line → Line) : Site :=
  { site with lines := site.lines.modify position change }

def log (position : Nat) (hook : Hook) (site : Site) : Site :=
  { site with journal := site.journal ++ [(position, hook)] }

/-- Opens a connection for a descriptor by its rule. -/
def openLine (position : Nat) (descriptor : Descriptor) (site : Site) : Site :=
  let capacity :=
    match site.servers[position]? with
    | none => none
    | some live =>
        match live.rules.lookup descriptor with
        | some (.limited capacity) => some capacity
        | some .missing => none
        | none => none
  { site with lines := site.lines ++ [{ server := position, descriptor, capacity }] }

/-- The transport has a channel for the descriptor. -/
def grants (site : Site) (position : Nat) (descriptor : Descriptor) : Bool :=
  match site.servers[position]? with
  | none => false
  | some live => live.rules.lookup descriptor ≠ some .missing

def stamp (position : Nat) (id : WorkerId) (site : Site) : Site :=
  let moment := ⟨site.clock, site.moments⟩
  { site.modifyServer position fun live =>
      { live with idleSince := assigned id moment live.idleSince } with
    moments := site.moments + 1 }

/-- The session of a worker is over: its connection is closed. -/
def disengage (position : Nat) (id : WorkerId) (site : Site) : Site :=
  match site.servers[position]? with
  | none => site
  | some live =>
      match live.engagements.lookup id with
      | none => site
      | some engagement =>
          (site.modifyLine engagement.line Line.close).modifyServer position fun live =>
            { live with engagements := live.engagements.filter fun entry => entry.1 ≠ id }

/-- The session of a worker begins; it gets the next number of its protocol instance. -/
def engage (position : Nat) (id : WorkerId) (runsOn : ProtocolInstance) (site : Site) : Site :=
  site.modifyServer position fun live =>
    match live.engagements.lookup id with
    | none => live
    | some engagement =>
        let number := (live.sessions.lookup runsOn).getD 0 + 1
        let dialogue := live.protocol.begin runsOn number
        { live with
          sessions := assigned runsOn number live.sessions
          engagements := assigned id { engagement with dialogue := some dialogue } live.engagements }

/-- Tells a connection that there is no room, if it has a channel. -/
def refuseLine (position : Nat) (descriptor : Descriptor) (site : Site) : Site :=
  let logged := site.log position (.create descriptor)
  if site.grants position descriptor then
    match site.servers[position]? with
    | none => logged
    | some live =>
        (logged.openLine position descriptor).modifyLine site.lines.length (Line.refuse live.message)
  else
    logged

/-- What an event does to the connections and the journal. -/
def observe (position : Nat) (site : Site) : Event → Site
  | .listened _ => site.log position .listen
  | .unlistened => site.log position .unlisten
  | .discarded descriptor => site.log position (.discard descriptor)
  | .refused descriptor => site.refuseLine position descriptor
  | .exchanged id descriptor granted =>
      let logged := site.log position (.create descriptor)
      if granted then
        (logged.openLine position descriptor).modifyServer position fun live =>
          { live with engagements := assigned id { line := site.lines.length } live.engagements }
      else
        logged
  | .began id runsOn _ => site.engage position id runsOn
  | .ended id _ _ => site.disengage position id
  | .skipped id _ => site.disengage position id
  | .freed id => site.stamp position id
  | .retirementAsked id granted => if granted then site else site.stamp position id
  | _ => site

/-- Takes a turn of a server, with all its effects; nothing happens where it cannot be taken. -/
def turn (position : Nat) (label : Label) (site : Site) : List Event × Site :=
  match site.servers[position]? with
  | none => ([], site)
  | some live =>
      match live.server.step? live.terms label with
      | none => ([], site)
      | some (server, events) =>
          (events, events.foldl (observe position)
            (site.modifyServer position fun live => { live with server }))

def turns (position : Nat) (labels : List Label) (site : Site) : Site :=
  labels.foldl (fun site label => (site.turn position label).2) site

/-! ## Coming to rest -/

/-- Lets the session of a worker go on. Tells how it ended, if it did. -/
def converse (position : Nat) (id : WorkerId) (mayContinue : Bool) (site : Site) :
    Option SessionEnd × Site :=
  match site.servers[position]? with
  | none => (none, site)
  | some live =>
      match live.engagements.lookup id with
      | some { line, dialogue := some dialogue } =>
          match site.lines[line]? with
          | none => (none, site)
          | some state =>
              let answer := state.converse mayContinue dialogue
              let site := site.modifyLine line fun _ => answer.2
              match answer.1 with
              | .ended ending => (some ending, site)
              | .blocked dialogue =>
                  (none, site.modifyServer position fun live =>
                    { live with
                      engagements := assigned id ⟨line, some dialogue⟩ live.engagements })
      | _ => (none, site)

/-- The next turn of a worker's thread, except that it never gives up waiting by itself. -/
def nextTurn (position : Nat) (id : WorkerId) (worker : Worker) (site : Site) :
    Option Label × Site :=
  match worker.stage with
  | .unstarted => (none, site)
  | .waiting =>
      if worker.assignment.isSome then (some (.take id), site)
      else if worker.accepting then (none, site)
      else (some (.leave id), site)
  | .expired => (some (.askRetirement id), site)
  | .exchanging descriptor => (some (.exchange id (site.grants position descriptor)), site)
  | .opened _ => (some (.check id), site)
  | .serving _ =>
      let answer := site.converse position id worker.mayContinue
      (answer.1.map (Label.finish id), answer.2)
  | .returning => (some (.report id true), site)
  | .exited => (none, site)

/-- Lets a worker take at most `fuel` turns. -/
def runWorkerFor (position : Nat) (id : WorkerId) : Nat → Site → Site
  | 0, site => site
  | fuel + 1, site =>
      match site.servers[position]?.bind fun live => live.server.pool.worker? id with
      | none => site
      | some worker =>
          match site.nextTurn position id worker with
          | (none, site) => site
          | (some label, site) => runWorkerFor position id fuel (site.turn position label).2

/-- Lets a worker go on until it waits. It takes fewer than eight turns for a connection, and it can come
to serve the one in its slot, the one in its hands and those that wait. -/
def runWorker (position : Nat) (site : Site) (id : WorkerId) : Site :=
  match site.servers[position]? with
  | none => site
  | some live => site.runWorkerFor position id (8 * (live.server.pool.queue.length + 3))

/-- Lets every worker of a server go on until it waits. -/
def rest (position : Nat) (site : Site) : Site :=
  match site.servers[position]? with
  | none => site
  | some live =>
      (List.range' 1 live.server.pool.workers.length).foldl (runWorker position) site

/-! ## Calls -/

/-- The host and the calls on a server are told apart by their callers; a site has only one. -/
def caller : Nat := 0

/-- Starts a server; `listens` is what its transport answers. -/
def start (position : Nat) (listens : Bool) (site : Site) : StartAnswer × Site :=
  let answer := site.turn position (.start listens)
  let given := answer.1.findSome? fun
    | .startAnswered given => some given
    | _ => none
  (given.getD .stopping, answer.2.rest position)

def connect (position : Nat) (descriptor : Descriptor) (site : Site) : Dispatch × Site :=
  let arrived := (site.turn position (.arrive descriptor)).2
  let answer := arrived.turn position (.decide descriptor true)
  let outcome := (answer.1.findSome? fun
    | .decided _ outcome => some outcome
    | _ => none).getD .dropped
  let site := answer.2.turns position [.refuse descriptor, .dismiss descriptor]
  (outcome, site.rest position)

def heldByStop (position : Nat) (site : Site) : List WorkerId :=
  match site.servers[position]?.bind fun live => live.server.closing with
  | some { stage := .signalling held _, .. } => held
  | some { stage := .joining held _ _, .. } => held
  | _ => []

/-- Every worker that the stop holds has left its round or never had a thread. -/
def canFinishStop (position : Nat) (site : Site) : Bool :=
  (site.heldByStop position).all fun id =>
    match site.servers[position]?.bind fun live => live.server.pool.worker? id with
    | none => true
    | some worker => worker.stage = .unstarted ∨ worker.stage = .exited

/-- Waits for the workers of a stop, ends the run and closes what waited. -/
def finishStop (position : Nat) (site : Site) : Site :=
  let waited := (site.heldByStop position).foldl
    (fun site id => site.turns position [.claim id, .joined]) site
  let left :=
    match site.servers[position]? with
    | none => 0
    | some live => live.server.pool.queue.length
  waited.turns position (.settle :: List.replicate left (.clear 0) ++ [.endStop 0])

/-- Stops a server. Gives the answer, or nothing while sessions hold the stop up. -/
def stop (position : Nat) (mode : StopMode) (site : Site) : Option Bool × Site :=
  let answer := site.turn position (.beginStop caller mode)
  if answer.1.isEmpty then
    let collected := answer.2.turns position [.unlisten, .collect]
    let told := collected.turns position
      ((collected.heldByStop position).map Label.signal)
    let rested := told.rest position
    if rested.canFinishStop position then
      (some true, rested.finishStop position)
    else
      (none, rested)
  else
    (some false, answer.2)

/-- The far ends of all connections of a server hang up. -/
def hangUpAll (position : Nat) (site : Site) : Site :=
  { site with lines := site.lines.map fun line =>
      if line.server = position ∧ line.isOpen then line.receive .hangUp else line }

/-- Ends a stop that sessions hold up by letting all far ends hang up. -/
def release (position : Nat) (site : Site) : Site :=
  ((site.hangUpAll position).rest position).finishStop position

/-- A stop that sessions have held up goes on as soon as they let it. -/
def proceedStop (position : Nat) (site : Site) : Site :=
  match site.servers[position]?.bind fun live => live.server.closing with
  | none => site
  | some _ => if site.canFinishStop position then site.finishStop position else site

/-- Stops a server to the end, whatever its sessions do. -/
def stopNow (position : Nat) (mode : StopMode) (site : Site) : Bool × Site :=
  match site.stop position mode with
  | (some answer, site) => (answer, site)
  | (none, site) => (true, site.release position)

/-- Waits for the threads of retired workers and tells how many there were. -/
def sweep (position : Nat) (site : Site) : Nat × Site :=
  let retired :=
    match site.servers[position]? with
    | none => 0
    | some live => live.server.pool.retired.length
  let began := (site.turn position (.beginSweep caller)).2
  let waited := began.turns position
    (List.replicate retired [Label.sweepClaim 0, .sweepJoined 0]).flatten
  let answer := waited.turn position (.endSweep 0)
  let count := (answer.1.findSome? fun
    | .sweepAnswered _ count => some count
    | _ => none).getD 0
  (count, answer.2)

/-! ## Far ends -/

/-- The oldest open connection of a server under a descriptor. -/
def openLine? (position : Nat) (descriptor : Descriptor) (site : Site) : Option Nat :=
  site.lines.findIdx? fun line =>
    line.server = position ∧ line.descriptor = descriptor ∧ line.isOpen

/-- Something happens at the far end of a connection. Tells whether there is such a connection. -/
def receive (position : Nat) (descriptor : Descriptor) (event : Inbound) (site : Site) : Bool × Site :=
  match site.openLine? position descriptor with
  | none => (false, site)
  | some line => (true, (site.modifyLine line (Line.receive event)).rest position)

/-- Sets how the channels of a descriptor are from now on. -/
def setRule (position : Nat) (descriptor : Descriptor) (rule : Option ChannelRule) (site : Site) : Site :=
  site.modifyServer position fun live =>
    { live with rules :=
        match rule with
        | none => live.rules.filter fun entry => entry.1 ≠ descriptor
        | some rule => assigned descriptor rule live.rules }

/-! ## Time -/

/-- The idle worker of a server that has waited longest and may be retired. -/
def longestIdle? (position : Nat) (site : Site) : Option (WorkerId × Moment) :=
  match site.servers[position]? with
  | none => none
  | some live =>
      let waiting := live.idleSince.filter fun entry =>
        match live.server.pool.worker? entry.1 with
        | none => false
        | some worker => worker.stage = .waiting ∧ entry.1 ∈ live.server.pool.free
      waiting.foldl (fun best entry =>
        match best with
        | none => some entry
        | some best => if entry.2.isBefore best.2 then some entry else some best) none

def expire (position : Nat) (id : WorkerId) (site : Site) : Site :=
  (site.turns position [.expire id]).runWorker position id

/-- Retires at most `count` idle workers, the longest idle first, as far as the server lets them go and, if
there is a deadline, those only whose wait is over by then. -/
def retireFor (position : Nat) (deadline : Option Nat) : Nat → Site → Site
  | 0, site => site
  | count + 1, site =>
      match site.servers[position]?, site.longestIdle? position with
      | some live, some (id, moment) =>
          let counts := live.server.pool.counts
          let isDue : Bool :=
            match deadline with
            | none => true
            | some deadline => decide (moment.time + live.terms.options.idleNanoseconds ≤ deadline)
          if counts.lifecycle = .running ∧
              max live.terms.options.minWorkers counts.busy < counts.all ∧ isDue then
            retireFor position deadline count (site.expire position id)
          else
            site
      | _, _ => site

/-- Lets so much time pass that every surplus worker of a server retires. -/
def retireSurplus (position : Nat) (site : Site) : Site :=
  match site.servers[position]? with
  | none => site
  | some live => site.retireFor position none live.server.pool.free.length

def sleep (nanoseconds : Nat) (site : Site) : Site :=
  let later := site.clock + nanoseconds
  let retired := (List.range site.servers.length).foldl
    (fun site position =>
      match site.servers[position]? with
      | none => site
      | some live => site.retireFor position (some later) live.server.pool.free.length) site
  { retired with clock := later }

/-! ## References and names -/

/-- Removes a server that neither the host nor a name refers to, with an interrupting stop. -/
def removeUnreferenced (site : Site) (position : Nat) : Site :=
  match site.servers[position]? with
  | none => site
  | some live =>
      if live.isGone ∨ live.isHeld ∨ position ∈ site.directory.values then
        site
      else
        (site.stopNow position .interruptClients).2.modifyServer position fun live =>
          { live with isGone := true }

/-- The host gives a server up. Tells whether it had it. -/
def giveUp (position : Nat) (site : Site) : Bool × Site :=
  match site.servers[position]? with
  | none => (false, site)
  | some live =>
      (live.isHeld,
        (site.modifyServer position fun live => { live with isHeld := false }).removeUnreferenced
          position)

def addName (name : String) (position : Nat) (site : Site) : Except DirectoryError Site :=
  (site.directory.add name position).map fun directory => { site with directory }

def setDefaultName (name : String) (site : Site) : Except DirectoryError Site :=
  (site.directory.setDefault name).map fun directory => { site with directory }

/-- Removes a name and gives its server, which goes too if that was its last reference. -/
def removeName (name : String) (site : Site) : Option Nat × Site :=
  match site.directory.remove name with
  | none => (none, site)
  | some (position, directory) =>
      (some position, { site with directory }.removeUnreferenced position)

/-- Removes all names and gives their servers. -/
def clearNames (site : Site) : List Nat × Site :=
  let cleared := site.directory.clear
  (cleared.1, cleared.1.foldl removeUnreferenced { site with directory := cleared.2 })

/-- Sweeps every server of the directory and adds up what the sweeps tell. -/
def sweepAll (site : Site) : Nat × Site :=
  site.directory.values.foldl
    (fun total position =>
      let answer := total.2.sweep position
      (total.1 + answer.1, answer.2))
    (0, site)

/-- Stops every server of the directory and counts those that were running. -/
def stopAll (mode : StopMode) (site : Site) : Nat × Site :=
  site.directory.values.foldl
    (fun total position =>
      let answer := total.2.stopNow position mode
      (if answer.1 then total.1 + 1 else total.1, answer.2))
    (0, site)

/-! ## Reports -/

/-- The address that the transport of a server in memory shows. -/
def addressText (position : Nat) : String :=
  "memory-" ++ Text.Numeral.decimal position

/-- How a server is shown under the name `id`. -/
def serverText (id : String) (position : Nat) (counts : PoolCounts) : String :=
  "Server \x7b id: " ++ id ++ ", address: \"" ++ addressText position ++ "\", pool: " ++
    counts.text ++ " \x7d"

/-- How the handle is shown through which connections arrive. -/
def dispatcherText (connected : Bool) : String :=
  "Dispatcher \x7b connected: " ++ toString connected ++ " \x7d"

/-- The connections that were touched since the last report, with their positions. -/
def touchedLines (site : Site) : List (Nat × Line) :=
  (site.lines.zipIdx.filter fun entry => entry.1.touched).map fun entry => (entry.2, entry.1)

def reported (site : Site) : Site :=
  { site with
    lines := site.lines.map fun line => { line with outbound := [], touched := false }
    journal := [] }

/-- How many protocol instances were made for workers, and how many of them nobody holds any more. -/
def instanceCounts (site : Site) : Nat × Nat :=
  (site.servers.foldr (fun live made => live.server.pool.forked + made) 0,
    site.servers.foldr (fun live dropped => live.droppedInstances + dropped) 0)

end Site

end ConnectionPool
