import ConnectionPool.Pool

/-!
Contract: a server as a system of calls and threads that take turns.

A server is a pool together with the calls that are under way: arriving connections, stops and sweeps. Each
`Label` is one turn that some caller or some worker's thread takes; `Server.step?` says what it does and what
it shows to the outside. Every interleaving of calls and threads is a list of labels. Calls are made by
threads of the host, never by a session, so no call waits for the thread that makes it.

Owns:
- the types `Server`, `Label` and `Event`;
- `Server.step?` and `Server.run?`.

Does not own: the transport and the protocol, whose answers the labels carry.
-/

namespace ConnectionPool

/-! ## Calls under way -/

/-- How far the stop has come that ends the current run. -/
inductive ClosingStage where
  /-- The server takes no connection any more; the transport still listens. -/
  | unlistening
  /-- The transport does not listen any more. -/
  | collecting
  /-- Of the workers it holds, those on the second list are still to be told. -/
  | signalling (held left : List WorkerId)
  /-- All were told. Those on the second list are still to be waited for, and `current` is waited for now. -/
  | joining (held left : List WorkerId) (current : Option WorkerId)
deriving DecidableEq, Repr

/-- A stop that found the server running and has not ended the run yet. -/
structure Closing where
  caller : Nat
  mode : StopMode
  stage : ClosingStage := .unlistening
deriving DecidableEq, Repr

/-- A stop that has ended the run and closes the connections that were still waiting. -/
structure Clearance where
  caller : Nat
  left : List Descriptor
deriving DecidableEq, Repr

/-- A call that waits for the threads of retired workers. -/
structure Sweep where
  caller : Nat
  /-- The workers it took over. -/
  held : List WorkerId
  /-- Those of them that it has not begun to wait for. -/
  left : List WorkerId
  /-- The worker it waits for now. -/
  current : Option WorkerId := none
deriving DecidableEq, Repr

/-- A pool and the calls under way. -/
structure Server where
  pool : Pool := {}
  /-- Connections that arrived and are not decided about yet. -/
  arrivals : List Descriptor := []
  /-- Connections that are to be refused. -/
  refusals : List Descriptor := []
  /-- Connections that are to be closed because nobody takes them. -/
  dismissals : List Descriptor := []
  closing : Option Closing := none
  clearances : List Clearance := []
  sweeps : List Sweep := []
deriving Repr

/-! ## Turns and what they show -/

/-- What a start answers. -/
inductive StartAnswer where
  | started
  | alreadyRunning
  | stopping
  | cannotListen
deriving DecidableEq, Repr

/-- What a turn shows to the outside. -/
inductive Event where
  /-- The transport was asked to listen. -/
  | listened (succeeded : Bool)
  /-- The transport was asked to stop listening. -/
  | unlistened
  | startAnswered (answer : StartAnswer)
  | stopAnswered (caller : Nat) (wasRunning : Bool)
  | sweepAnswered (caller : Nat) (count : Nat)
  | arrived (descriptor : Descriptor)
  | decided (descriptor : Descriptor) (outcome : Dispatch)
  | hired (worker : WorkerId)
  | assigned (worker : WorkerId) (descriptor : Descriptor)
  /-- A worker exchanged a descriptor for a channel, or found that there is none. -/
  | exchanged (worker : WorkerId) (descriptor : Descriptor) (granted : Bool)
  | began (worker : WorkerId) (protocol : ProtocolInstance) (descriptor : Descriptor)
  | ended (worker : WorkerId) (descriptor : Descriptor) (ending : SessionEnd)
  /-- A channel was closed without a session, because its worker was interrupted. -/
  | skipped (worker : WorkerId) (descriptor : Descriptor)
  | reported (worker : WorkerId)
  | freed (worker : WorkerId)
  | retirementAsked (worker : WorkerId) (granted : Bool)
  | left (worker : WorkerId)
  | refused (descriptor : Descriptor)
  | discarded (descriptor : Descriptor)
deriving DecidableEq, Repr

/-- One turn. -/
inductive Label where
  /-- A whole start; `listens` is what the transport answers if it is asked. -/
  | start (listens : Bool)
  /-- A stop begins: it answers at once, or it takes the server out of service. -/
  | beginStop (caller : Nat) (mode : StopMode)
  | unlisten
  | collect
  | signal (worker : WorkerId)
  /-- The stop begins to wait for a worker's thread, unless somebody else waits for it. -/
  | claim (worker : WorkerId)
  /-- The worker's thread has ended. -/
  | joined
  /-- All threads have ended: the run is over. -/
  | settle
  /-- The clearance at a position closes its next connection. -/
  | clear (position : Nat)
  | endStop (position : Nat)
  | arrive (descriptor : Descriptor)
  /-- What is done with a connection; `starts` says whether the system starts a thread if it is asked. -/
  | decide (descriptor : Descriptor) (starts : Bool)
  | refuse (descriptor : Descriptor)
  | dismiss (descriptor : Descriptor)
  | beginSweep (caller : Nat)
  /-- The sweep at a position begins to wait for its next worker. -/
  | sweepClaim (position : Nat)
  | sweepJoined (position : Nat)
  | endSweep (position : Nat)
  | take (worker : WorkerId)
  | leave (worker : WorkerId)
  | expire (worker : WorkerId)
  | askRetirement (worker : WorkerId)
  | exchange (worker : WorkerId) (granted : Bool)
  | check (worker : WorkerId)
  | finish (worker : WorkerId) (ending : SessionEnd)
  /-- The worker's thread reports; `starts` is as for a decision. -/
  | report (worker : WorkerId) (starts : Bool)
deriving DecidableEq, Repr

/-- The worker whose thread takes the turn. -/
def Label.thread? : Label → Option WorkerId
  | .take id => some id
  | .leave id => some id
  | .expire id => some id
  | .askRetirement id => some id
  | .exchange id _ => some id
  | .check id => some id
  | .finish id _ => some id
  | .report id _ => some id
  | _ => none

namespace Server

def withPool (server : Server) (pool : Pool) : Server :=
  { server with pool }

/-- The workers that were hired between two states of a pool. -/
def hiredEvents (before after : Pool) : List Event :=
  (List.range' before.nextId (after.workers.length - before.workers.length)).map Event.hired

/-! ## Start -/

/-- A start that finds the server stopped discards what waits, fills the floor and asks the transport to
listen. The workers stay when it cannot. -/
def start (terms : Terms) (listens : Bool) (server : Server) : Server × List Event :=
  match server.pool.lifecycle with
  | .running => (server, [.startAnswered .alreadyRunning])
  | .stopping => (server, [.startAnswered .stopping])
  | .stopped =>
      let swept := { server.pool with queue := [] }
      let filled := swept.fillFloor terms
      let shown :=
        server.pool.queue.map Event.discarded ++ hiredEvents swept filled ++ [.listened listens]
      if listens then
        (server.withPool { filled with lifecycle := .running },
          shown ++ [.startAnswered .started])
      else
        (server.withPool filled, shown ++ [.startAnswered .cannotListen])

/-! ## Stop -/

def signalStage (held left : List WorkerId) : ClosingStage :=
  if left.isEmpty then .joining held held none else .signalling held left

/-- Moves the stop that ends the current run on to another stage. -/
def advanceClosing (server : Server) (closing : Closing) (stage : ClosingStage) : Server :=
  { server with closing := some { closing with stage } }

/-- What the stop that ends the current run does in its turns. -/
def closingStep? (server : Server) (closing : Closing) : Label → Option (Server × List Event)
  | .unlisten =>
      match closing.stage with
      | .unlistening => some (server.advanceClosing closing .collecting, [.unlistened])
      | _ => none
  | .collect =>
      match closing.stage with
      | .collecting =>
          let held := server.pool.staff ++ server.pool.retired
          some (server.advanceClosing closing (signalStage held held), [])
      | _ => none
  | .signal id =>
      match closing.stage with
      | .signalling held left =>
          if id ∈ left then
            let pool := server.pool.updateWorker id (Worker.signal closing.mode)
            some ((server.withPool pool).advanceClosing closing (signalStage held (left.erase id)), [])
          else
            none
      | _ => none
  | .claim id =>
      match closing.stage with
      | .joining held left none =>
          match server.pool.worker? id with
          | some worker =>
              if id ∈ left then
                let claimed := worker.claimHandle
                let current := if claimed.1 then some id else none
                some ((server.withPool (server.pool.setWorker claimed.2 id)).advanceClosing closing
                  (.joining held (left.erase id) current), [])
              else
                none
          | none => none
      | _ => none
  | .joined =>
      match closing.stage with
      | .joining held left (some id) =>
          match server.pool.worker? id with
          | some worker =>
              if worker.stage = .exited then
                some (server.advanceClosing closing (.joining held left none), [])
              else
                none
          | none => none
      | _ => none
  | .settle =>
      match closing.stage with
      | .joining _ [] none =>
          let pool := { server.pool with
            lifecycle := .stopped, free := [], staff := [], retired := [], queue := [] }
          some ({ server with
            pool
            closing := none
            clearances := server.clearances ++ [⟨closing.caller, server.pool.queue⟩] }, [])
      | _ => none
  | _ => none

/-! ## Sweeps -/

/-- What the sweep at a position does in its turns. -/
def sweepStep? (server : Server) (position : Nat) (sweep : Sweep) :
    Label → Option (Server × List Event)
  | .sweepClaim _ =>
      match sweep.left, sweep.current with
      | id :: left, none =>
          match server.pool.worker? id with
          | some worker =>
              let claimed := worker.claimHandle
              let current := if claimed.1 then some id else none
              some ({ server with
                pool := server.pool.setWorker claimed.2 id
                sweeps := server.sweeps.set position { sweep with left, current } }, [])
          | none => none
      | _, _ => none
  | .sweepJoined _ =>
      match sweep.current with
      | some id =>
          match server.pool.worker? id with
          | some worker =>
              if worker.stage = .exited then
                some ({ server with
                  sweeps := server.sweeps.set position { sweep with current := none } }, [])
              else
                none
          | none => none
      | none => none
  | .endSweep _ =>
      match sweep.left, sweep.current with
      | [], none =>
          some ({ server with sweeps := server.sweeps.eraseIdx position },
            [.sweepAnswered sweep.caller sweep.held.length])
      | _, _ => none
  | _ => none

/-! ## Threads -/

def workerStep? (terms : Terms) (server : Server) (id : WorkerId) (worker : Worker) :
    Label → Option (Server × List Event)
  | .take _ =>
      (worker.step? .take).map fun next => (server.withPool (server.pool.setWorker next id), [])
  | .leave _ =>
      (worker.step? .leave).map fun next =>
        (server.withPool (server.pool.setWorker next id), [.left id])
  | .expire _ =>
      (worker.step? .expire).map fun next => (server.withPool (server.pool.setWorker next id), [])
  | .askRetirement _ =>
      let answer := server.pool.retire terms id
      (worker.step? (.retire (some answer.1))).map fun next =>
        (server.withPool (answer.2.setWorker next id),
          .retirementAsked id answer.1 :: if answer.1 then [.left id] else [])
  | .exchange _ granted =>
      match worker.stage with
      | .exchanging descriptor =>
          (worker.step? (.exchange (some granted))).map fun next =>
            (server.withPool (server.pool.setWorker next id), [.exchanged id descriptor granted])
      | _ => none
  | .check _ =>
      match worker.stage with
      | .opened descriptor =>
          (worker.step? .check).map fun next =>
            (server.withPool (server.pool.setWorker next id),
              if worker.interrupted then [.skipped id descriptor]
              else [.began id worker.protocol descriptor])
      | _ => none
  | .finish _ ending =>
      match worker.stage with
      | .serving descriptor =>
          (worker.step? (.finish ending)).map fun next =>
            (server.withPool (server.pool.setWorker next id), [.ended id descriptor ending])
      | _ => none
  | .report _ starts =>
      (worker.step? (.report true)).map fun next =>
        let answer := (server.pool.setWorker next id).available starts id
        match answer.1 with
        | .handed descriptor => (server.withPool answer.2, [.reported id, .assigned id descriptor])
        | .failed descriptor =>
            ({ server with pool := answer.2, dismissals := server.dismissals ++ [descriptor] },
              [.reported id])
        | .freed => (server.withPool answer.2, [.reported id, .freed id])
        | .ignored => (server.withPool answer.2, [.reported id])
  | _ => none

/-! ## All turns -/

def assignmentEvents (descriptor : Descriptor) : Dispatch → List Event
  | .reused id => [.assigned id descriptor]
  | .spawned id => [.assigned id descriptor]
  | _ => []

/-- The turn of a worker's thread, if the worker exists. -/
def threadStep? (terms : Terms) (server : Server) (id : WorkerId) (label : Label) :
    Option (Server × List Event) :=
  (server.pool.worker? id).bind fun worker => server.workerStep? terms id worker label

/-- The server after one turn and what the turn showed, or nothing where that turn cannot be taken. -/
def step? (terms : Terms) (server : Server) (label : Label) : Option (Server × List Event) :=
  match label with
  | .start listens => some (server.start terms listens)
  | .beginStop caller mode =>
      if server.pool.lifecycle = .running then
        some ({ server with
          pool := { server.pool with lifecycle := .stopping }
          closing := some { caller, mode } }, [])
      else
        some (server, [.stopAnswered caller false])
  | .unlisten => server.closing.bind fun closing => server.closingStep? closing label
  | .collect => server.closing.bind fun closing => server.closingStep? closing label
  | .signal _ => server.closing.bind fun closing => server.closingStep? closing label
  | .claim _ => server.closing.bind fun closing => server.closingStep? closing label
  | .joined => server.closing.bind fun closing => server.closingStep? closing label
  | .settle => server.closing.bind fun closing => server.closingStep? closing label
  | .clear position =>
      match server.clearances[position]? with
      | some ⟨caller, descriptor :: left⟩ =>
          some ({ server with clearances := server.clearances.set position ⟨caller, left⟩ },
            [.discarded descriptor])
      | _ => none
  | .endStop position =>
      match server.clearances[position]? with
      | some ⟨caller, []⟩ =>
          some ({ server with clearances := server.clearances.eraseIdx position },
            [.stopAnswered caller true])
      | _ => none
  | .arrive descriptor =>
      some ({ server with arrivals := server.arrivals ++ [descriptor] }, [.arrived descriptor])
  | .decide descriptor starts =>
      if descriptor ∈ server.arrivals then
        let decision := server.pool.dispatch terms starts descriptor
        let decided := { server with
          pool := decision.2, arrivals := server.arrivals.erase descriptor }
        let shown := .decided descriptor decision.1 ::
          (hiredEvents server.pool decision.2 ++ assignmentEvents descriptor decision.1)
        match decision.1 with
        | .busy => some ({ decided with refusals := decided.refusals ++ [descriptor] }, shown)
        | .dropped => some ({ decided with dismissals := decided.dismissals ++ [descriptor] }, shown)
        | _ => some (decided, shown)
      else
        none
  | .refuse descriptor =>
      if descriptor ∈ server.refusals then
        some ({ server with refusals := server.refusals.erase descriptor }, [.refused descriptor])
      else
        none
  | .dismiss descriptor =>
      if descriptor ∈ server.dismissals then
        some ({ server with dismissals := server.dismissals.erase descriptor },
          [.discarded descriptor])
      else
        none
  | .beginSweep caller =>
      some ({ server with
        pool := { server.pool with retired := [] }
        sweeps := server.sweeps ++ [{ caller, held := server.pool.retired, left := server.pool.retired }] },
        [])
  | .sweepClaim position =>
      server.sweeps[position]?.bind fun sweep => server.sweepStep? position sweep label
  | .sweepJoined position =>
      server.sweeps[position]?.bind fun sweep => server.sweepStep? position sweep label
  | .endSweep position =>
      server.sweeps[position]?.bind fun sweep => server.sweepStep? position sweep label
  | .take id => server.threadStep? terms id label
  | .leave id => server.threadStep? terms id label
  | .expire id => server.threadStep? terms id label
  | .askRetirement id => server.threadStep? terms id label
  | .exchange id _ => server.threadStep? terms id label
  | .check id => server.threadStep? terms id label
  | .finish id _ => server.threadStep? terms id label
  | .report id _ => server.threadStep? terms id label

/-- Takes turns one after another; nothing where one of them cannot be taken. -/
def run? (terms : Terms) (server : Server) : List Label → Option (Server × List Event)
  | [] => some (server, [])
  | label :: labels =>
      match server.step? terms label with
      | none => none
      | some (next, events) =>
          (run? terms next labels).map fun final => (final.1, events ++ final.2)

/-- Taking some turns and then others is taking them all. -/
theorem run?_append (terms : Terms) (server : Server) (front back : List Label) :
    server.run? terms (front ++ back) =
      (server.run? terms front).bind fun middle =>
        (middle.1.run? terms back).map fun final => (final.1, middle.2 ++ final.2) := by
  induction front generalizing server with
  | nil => simp [run?]
  | cons label front inductionHypothesis =>
      simp only [List.cons_append, run?]
      cases taken : server.step? terms label with
      | none => rfl
      | some next =>
          simp only [inductionHypothesis]
          cases next.1.run? terms front with
          | none => rfl
          | some middle =>
              cases ended : middle.1.run? terms back <;> simp [ended, List.append_assoc]

end Server

end ConnectionPool
