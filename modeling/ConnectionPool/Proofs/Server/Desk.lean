import ConnectionPool.Proofs.Lookup
import ConnectionPool.Proofs.Refusal
import ConnectionPool.Proofs.Server.Run

/-!
Contract: a server together with the calls that tell it of connections and the channels that these come to.

Each call tells of one connection, and is answered with what is done about it. A call that is answered that the
server is busy asks the transport for a channel and tells it so, on its own thread and without the pool, while
workers, stops and other calls go on. Each `DeskLabel` is one turn: of the server, of a call, or of a session on
the channel of its worker. A channel keeps all that is ever done on it.

The transport gives a channel or none; a channel answers as it likes, within its contract.

Owns:
- the types `Desk` and `DeskLabel`, and the relations `Desk.Step` and `Desk.Run`;
- `Desk.outline`, what is left of a desk without its refusals.

Does not own: what a refusal asks of its channel; see `Refusal.Course`.
-/

namespace ConnectionPool

/-! ## Parts -/

/-- For whom the transport gave a channel. -/
inductive ChannelHolder where
  | call (number : Nat)
  | worker (id : WorkerId)
deriving DecidableEq, Repr

/-- A channel, with all that was ever done on it. -/
structure DeskChannel where
  descriptor : Descriptor
  holder : ChannelHolder
  isOpen : Bool := true
  /-- What the server itself did on it. -/
  ofServer : List SessionEvent := []
  /-- The protocol instances that began a session on it. -/
  sessions : List ProtocolInstance := []
  /-- What these sessions did on it. -/
  ofSessions : List SessionEvent := []
deriving DecidableEq, Repr

/-- Where a call stands that tells of a connection. -/
inductive CallStage where
  | undecided
  /-- The connection is refused, and the transport was not asked for its channel yet. -/
  | refusing
  /-- The message is told on the channel of a number. -/
  | telling (channel : Nat) (state : Refusal)
  /-- The call has nothing to tell to the connection, or nothing more, and answers this. -/
  | answered (outcome : Dispatch)
deriving DecidableEq, Repr

namespace CallStage

/-- What is done about the connection, once that is decided. -/
def outcome? : CallStage → Option Dispatch
  | .undecided => none
  | .refusing => some .busy
  | .telling .. => some .busy
  | .answered outcome => some outcome

/-- The connection is still to be refused. -/
def isRefusing : CallStage → Bool
  | .refusing => true
  | .telling .. => true
  | _ => false

/-- Only a busy server has something to tell. -/
def decided : Dispatch → CallStage
  | .busy => .refusing
  | outcome => .answered outcome

@[simp] theorem outcome?_decided (outcome : Dispatch) : (decided outcome).outcome? = some outcome := by
  cases outcome <;> rfl

end CallStage

/-- A call that tells of a connection. -/
structure DeskCall where
  descriptor : Descriptor
  stage : CallStage := .undecided
deriving DecidableEq, Repr

/-- A server, the calls that ever told it of connections, and the channels that were ever given. -/
structure Desk where
  server : Server := {}
  calls : List DeskCall := []
  channels : List DeskChannel := []
deriving Repr

/-- One turn. -/
inductive DeskLabel where
  /-- A turn of the server that is not part of such a call. -/
  | turn (label : Label)
  | arrive (descriptor : Descriptor)
  | decide (call : Nat) (starts : Bool)
  /-- The call asks for the channel of the connection that it refuses. -/
  | ask (call : Nat) (granted : Bool)
  /-- The call does something on that channel. -/
  | tell (call : Nat) (event : SessionEvent)
  /-- The call gives the channel up and returns. -/
  | close (call : Nat)
  /-- A session does something on the channel of its worker. -/
  | converse (channel : Nat) (event : SessionEvent)
deriving DecidableEq, Repr

/-- A turn of a call. -/
def Label.isOfCall : Label → Bool
  | .arrive _ => true
  | .decide _ _ => true
  | .refuse _ => true
  | _ => false

/-- A turn that happens on some channel, and not to the pool. -/
def DeskLabel.isOfChannel : DeskLabel → Bool
  | .ask _ _ => true
  | .tell _ _ => true
  | .close _ => true
  | .converse _ _ => true
  | _ => false

namespace DeskChannel

/-- A change of the open channel of a worker. -/
def ofWorker (id : WorkerId) (change : DeskChannel → DeskChannel) (channel : DeskChannel) : DeskChannel :=
  if channel.holder = .worker id ∧ channel.isOpen = true then change channel else channel

def close (channel : DeskChannel) : DeskChannel :=
  { channel with isOpen := false }

end DeskChannel

namespace Desk

/-! ## Turns -/

/-- What an event means for the channels of workers. -/
def noteChannels (channels : List DeskChannel) : Event → List DeskChannel
  | .exchanged id descriptor granted =>
      channels ++ if granted then [{ descriptor, holder := .worker id }] else []
  | .began id runsOn _ => channels.map <| DeskChannel.ofWorker id fun channel =>
      { channel with sessions := channel.sessions ++ [runsOn] }
  | .skipped id _ => channels.map <| DeskChannel.ofWorker id DeskChannel.close
  | .ended id _ _ => channels.map <| DeskChannel.ofWorker id DeskChannel.close
  | _ => channels

/-- What one turn does. -/
inductive Step (terms : Terms) (message : Bytes) (desk : Desk) : DeskLabel → Desk → Prop where
  | turn {label : Label} {events : List Event} {server : Server} (other : label.isOfCall = false)
      (step : desk.server.Step terms label events server) :
      Step terms message desk (.turn label)
        { desk with server, channels := events.foldl noteChannels desk.channels }
  | arrive {descriptor : Descriptor} {events : List Event} {server : Server}
      (step : desk.server.Step terms (.arrive descriptor) events server) :
      Step terms message desk (.arrive descriptor)
        { desk with server, calls := desk.calls ++ [{ descriptor }] }
  | decide {number : Nat} {descriptor : Descriptor} {starts : Bool} {outcome : Dispatch}
      {events : List Event} {server : Server}
      (found : desk.calls[number]? = some { descriptor, stage := .undecided })
      (step : desk.server.Step terms (.decide descriptor starts) (.decided descriptor outcome :: events)
        server) :
      Step terms message desk (.decide number starts)
        { desk with server, calls := desk.calls.set number { descriptor, stage := .decided outcome } }
  /-- Without a channel nothing can be told. -/
  | deny {number : Nat} {descriptor : Descriptor} {events : List Event} {server : Server}
      (found : desk.calls[number]? = some { descriptor, stage := .refusing })
      (step : desk.server.Step terms (.refuse descriptor) events server) :
      Step terms message desk (.ask number false)
        { desk with server, calls := desk.calls.set number { descriptor, stage := .answered .busy } }
  | grant {number : Nat} {descriptor : Descriptor}
      (found : desk.calls[number]? = some { descriptor, stage := .refusing }) :
      Step terms message desk (.ask number true)
        { desk with
          calls := desk.calls.set number
            { descriptor, stage := .telling desk.channels.length (Refusal.start message) }
          channels := desk.channels ++ [{ descriptor, holder := .call number }] }
  | tell {number channel : Nat} {descriptor : Descriptor} {state next : Refusal} {event : SessionEvent}
      (found : desk.calls[number]? = some { descriptor, stage := .telling channel state })
      (meets : state.request.Meets event next) :
      Step terms message desk (.tell number event)
        { desk with
          calls := desk.calls.set number { descriptor, stage := .telling channel next }
          channels := desk.channels.modify channel fun told =>
            { told with ofServer := told.ofServer ++ [event] } }
  | close {number channel : Nat} {descriptor : Descriptor} {events : List Event} {server : Server}
      (found : desk.calls[number]? = some { descriptor, stage := .telling channel .finished })
      (step : desk.server.Step terms (.refuse descriptor) events server) :
      Step terms message desk (.close number)
        { server
          calls := desk.calls.set number { descriptor, stage := .answered .busy }
          channels := desk.channels.modify channel DeskChannel.close }
  | converse {number : Nat} {id : WorkerId} {channel : DeskChannel} {worker : Worker} {event : SessionEvent}
      (found : desk.channels[number]? = some channel) (held : channel.holder = .worker id)
      (isOpen : channel.isOpen = true) (known : desk.server.pool.worker? id = some worker)
      (serves : worker.stage = .serving channel.descriptor) :
      Step terms message desk (.converse number event)
        { desk with channels := desk.channels.modify number fun told =>
          { told with ofSessions := told.ofSessions ++ [event] } }

/-- Some turns lead from a new desk to this one. -/
inductive Run (terms : Terms) (message : Bytes) : List DeskLabel → Desk → Prop where
  | new : Run terms message [] {}
  | step {labels : List DeskLabel} {desk next : Desk} {label : DeskLabel}
      (before : Run terms message labels desk) (step : Step terms message desk label next) :
      Run terms message (labels ++ [label]) next

variable {terms : Terms} {message : Bytes} {desk next : Desk} {label : DeskLabel} {labels : List DeskLabel}

/-! ## What channels leave alone -/

/-- Whatever a channel does, or where there is none, the server goes on as if nobody had been refused. -/
theorem Step.server_eq (step : Step terms message desk label next) (isOfChannel : label.isOfChannel = true) :
    next.server = { desk.server with refusals := next.server.refusals } := by
  cases step with
  | turn | arrive | decide => cases isOfChannel
  | deny _ step | close _ step =>
      cases step
      rfl
  | grant | tell | converse => rfl

/-- What is left of a desk without its refusals: the server, and what was decided about each call. -/
structure Outline where
  server : Server := {}
  calls : List (Descriptor × Option Dispatch) := []
deriving Repr

def forget (server : Server) : Server :=
  { server with refusals := [] }

def outline (desk : Desk) : Outline where
  server := forget desk.server
  calls := desk.calls.map fun call => (call.descriptor, call.stage.outcome?)

/-- What a decision shows first. -/
def decision? : List Event → Option Dispatch
  | .decided _ outcome :: _ => some outcome
  | _ => none

/-- A turn of the pool, on an outline. -/
def Outline.step? (terms : Terms) (outline : Outline) : DeskLabel → Option Outline
  | .turn label => (outline.server.step? terms label).map fun turned =>
      { outline with server := forget turned.1 }
  | .arrive descriptor => (outline.server.step? terms (.arrive descriptor)).map fun turned =>
      { server := forget turned.1, calls := outline.calls ++ [(descriptor, none)] }
  | .decide number starts =>
      outline.calls[number]?.bind fun call =>
        (outline.server.step? terms (.decide call.1 starts)).map fun turned =>
          { server := forget turned.1
            calls := outline.calls.set number (call.1, decision? turned.2) }
  | _ => none

/-- No turn but a refusal looks at the refusals. -/
theorem forget_step {server after : Server} {label : Label} {events : List Event}
    (step : server.Step terms label events after) (other : ∀ descriptor, label ≠ .refuse descriptor) :
    ∃ forgot, (forget server).Step terms label events forgot ∧ forget forgot = forget after := by
  cases step with
  | refuse => exact absurd rfl (other _)
  | unusable waits running top member thread =>
      exact ⟨_, .unusable waits running top member thread, rfl⟩
  | misplaced waits running top outside => exact ⟨_, .misplaced waits running top outside, rfl⟩
  | _ =>
      apply Exists.intro
      apply And.intro
      · constructor <;> assumption
      · rfl

/-- A turn on a channel leaves the outline as it is. -/
theorem Step.outline_eq (step : Step terms message desk label next) (isOfChannel : label.isOfChannel = true) :
    next.outline = desk.outline := by
  have sameServer : forget next.server = forget desk.server := by
    rw [step.server_eq isOfChannel]
    rfl
  have sameCalls : next.outline.calls = desk.outline.calls := by
    cases step with
    | turn | arrive | decide => cases isOfChannel
    | deny found | grant found | tell found | close found => exact map_set_of_eq found rfl
    | converse => rfl
  rw [outline, sameServer]
  exact congrArg (Outline.mk _) sameCalls

/-- A turn of the pool is a turn of the outline. -/
theorem Step.outline_step (step : Step terms message desk label next) (ofPool : label.isOfChannel = false) :
    desk.outline.step? terms label = some next.outline := by
  cases step with
  | turn other step =>
      obtain ⟨forgot, turned, same⟩ := forget_step step (by rintro _ rfl; cases other)
      simp [Outline.step?, outline, turned.step?, same]
  | arrive step =>
      obtain ⟨forgot, turned, same⟩ := forget_step step nofun
      simp [Outline.step?, outline, turned.step?, same, CallStage.outcome?]
  | decide found step =>
      obtain ⟨forgot, turned, same⟩ := forget_step step nofun
      simp [Outline.step?, outline, found, turned.step?, same, decision?, List.map_set]
  | deny | grant | tell | close | converse => cases ofPool

/-- The turns of the pool alone decide what becomes of the pool, and what each call is told. -/
theorem Run.outline (run : Run terms message labels desk) :
    (labels.filter fun label => !label.isOfChannel).foldlM (Outline.step? terms) {} = some desk.outline := by
  induction run with
  | new => rfl
  | @step labels desk next label before step inductionHypothesis =>
      rw [List.filter_append, List.foldlM_append, inductionHypothesis]
      cases isOfChannel : label.isOfChannel with
      | true => simp [isOfChannel, step.outline_eq isOfChannel]
      | false => simp [isOfChannel, step.outline_step isOfChannel]

end Desk

end ConnectionPool
