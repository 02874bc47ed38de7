import ConnectionPool.Proofs.Server.Hiring
import ConnectionPool.Proofs.Server.Rounds

/-!
Contract: sessions of different workers share no protocol instance where the protocol makes one for
every worker.

A worker gets its instance when it is hired and holds all its sessions on it, one after the other. So
the sessions on an instance are those of its worker, in the order in which it was handed their
connections, and whatever an instance remembers of its sessions does not depend on other workers.
Where the protocol makes no instances, all sessions run on the prototype.

Owns:
- the readers `sessions` and `talk` of what was shown, and `readings` of a counter that every instance
  keeps of its sessions;
- `Server.Isolated` and its proof for every run.

Does not own: what is said in a session.
-/

namespace ConnectionPool

/-- A session that was begun. -/
structure Session where
  worker : WorkerId
  runsOn : ProtocolInstance
  descriptor : Descriptor
deriving DecidableEq, Repr

/-! ## What was shown -/

namespace Event

def session? : Event → Option Session
  | .began worker runsOn descriptor => some { worker, runsOn, descriptor }
  | _ => none

/-- A session of this worker begins or ends. -/
def isTalk (id : WorkerId) : Event → Bool
  | .began other _ _ => other = id
  | .ended other _ _ => other = id
  | _ => false

end Event

/-- The sessions that were begun, in the order of their beginnings. -/
def sessions (events : List Event) : List Session :=
  events.filterMap Event.session?

def sessionsOf (id : WorkerId) (events : List Event) : List Session :=
  (sessions events).filter fun session => session.worker = id

def sessionsOn (runsOn : ProtocolInstance) (events : List Event) : List Session :=
  (sessions events).filter fun session => session.runsOn = runsOn

/-- The beginnings and the ends of a worker's sessions. -/
def talk (id : WorkerId) (events : List Event) : List Event :=
  events.filter (Event.isTalk id)

/-! ## A counter that every instance keeps -/

/-- What every session reads off the counter of its instance, which it has advanced by one, with the
worker whose session it is. -/
def readings (counts : ProtocolInstance → Nat) : List Session → List (WorkerId × Nat)
  | [] => []
  | session :: later =>
      let number := counts session.runsOn + 1
      (session.worker, number) :: readings (Function.update counts session.runsOn number) later

def readingsOf (id : WorkerId) (entries : List (WorkerId × Nat)) : List Nat :=
  (entries.filter fun entry => entry.1 = id).map Prod.snd

/-- Where every worker has an instance of its own, the sessions of a worker read one number after the
other. -/
theorem readingsOf_readings (id : WorkerId) (counts : ProtocolInstance → Nat)
    {begun : List Session} (own : ∀ session ∈ begun, session.runsOn = .own session.worker) :
    readingsOf id (readings counts begun) =
      List.range' (counts (.own id) + 1)
        (begun.filter fun session => session.worker = id).length := by
  induction begun generalizing counts with
  | nil => rfl
  | cons session later inductionHypothesis =>
      obtain ⟨here, behind⟩ := List.forall_mem_cons.1 own
      have goesOn := inductionHypothesis
        (Function.update counts session.runsOn (counts session.runsOn + 1)) behind
      by_cases same : session.worker = id
      · subst same
        rw [here, Function.update_self] at goesOn
        simp only [readings, here, readingsOf, List.filter_cons, decide_true, if_true,
          List.map_cons, List.length_cons, List.range'_succ]
        exact congrArg (_ :: ·) goesOn
      · have different : (.own id : ProtocolInstance) ≠ session.runsOn := by
          rw [here]
          intro equal
          cases equal
          exact same rfl
        rw [Function.update_of_ne different] at goesOn
        simp only [readings, readingsOf, List.filter_cons, same, decide_false, Bool.false_eq_true,
          if_false]
        exact goesOn

/-! ## Rounds and sessions -/

/-- The session of a round and how it ended. -/
def Round.session? : Round → Option (Descriptor × SessionEnd)
  | .served descriptor _ ending => some (descriptor, ending)
  | _ => none

/-- What is shown of a session that is over. -/
def heldEvents (id : WorkerId) (runsOn : ProtocolInstance) (held : Descriptor × SessionEnd) :
    List Event :=
  [.began id runsOn held.1, .ended id held.1 held.2]

/-- The connection that the worker of a number is in a session on. -/
def Pool.serving? (pool : Pool) (id : WorkerId) : Option Descriptor :=
  (pool.worker? id).bind fun worker =>
    match worker.stage with
    | .serving descriptor => some descriptor
    | _ => none

theorem talk_append (id : WorkerId) (front back : List Event) :
    talk id (front ++ back) = talk id front ++ talk id back :=
  List.filter_append ..

theorem sessions_append (front back : List Event) :
    sessions (front ++ back) = sessions front ++ sessions back :=
  List.filterMap_append ..

/-- Sessions are a part of a worker's service. -/
theorem talk_service (id : WorkerId) (events : List Event) :
    talk id (service id events) = talk id events := by
  rw [talk, service, List.filter_filter]
  refine List.filter_congr fun event _ => ?_
  cases event <;> simp [Event.isTalk, Event.isService]

/-- What a worker's own beginnings tell is what all that was shown tells about its sessions. -/
theorem sessions_talk (id : WorkerId) (events : List Event) :
    sessions (talk id events) = sessionsOf id events := by
  rw [sessions, talk, sessionsOf, sessions, List.filterMap_filter, List.filter_filterMap]
  refine congrArg (List.filterMap · events) ?_
  funext event
  cases event <;> simp [Event.isTalk, Event.session?, Option.filter]

theorem talk_rounds {id : WorkerId} {runsOn : ProtocolInstance} {rounds : List Round}
    (same : ∀ session ∈ sessions (talk id (rounds.flatMap (Round.events id))),
      session.runsOn = runsOn) :
    talk id (rounds.flatMap (Round.events id)) =
      (rounds.filterMap Round.session?).flatMap (heldEvents id runsOn) := by
  induction rounds with
  | nil => rfl
  | cons round rounds inductionHypothesis =>
      rw [List.flatMap_cons, talk_append, sessions_append, List.forall_mem_append] at same
      rw [List.flatMap_cons, talk_append, inductionHypothesis same.2]
      cases round with
      | unopened => simp [talk, Event.isTalk, Round.events, Round.session?, List.filterMap_cons]
      | skipped => simp [talk, Event.isTalk, Round.events, Round.session?, List.filterMap_cons]
      | served descriptor protocol ending =>
          have here : protocol = runsOn := same.1 ⟨id, protocol, descriptor⟩
            (by simp [sessions, talk, Event.isTalk, Event.session?, Round.events])
          simp [talk, Event.isTalk, Round.events, Round.session?, heldEvents, here]

theorem sessions_heldEvents (id : WorkerId) (runsOn : ProtocolInstance)
    (held : List (Descriptor × SessionEnd)) :
    (sessions (held.flatMap (heldEvents id runsOn))).map Session.descriptor =
      held.map Prod.fst := by
  induction held with
  | nil => rfl
  | cons first held inductionHypothesis =>
      rw [List.flatMap_cons, sessions_append, List.map_append, inductionHypothesis]
      rfl

/-- The connections that had a session are among those of the rounds, in the same order. -/
theorem sublist_rounds (rounds : List Round) :
    ((rounds.filterMap Round.session?).map Prod.fst).Sublist (rounds.map Round.descriptor) := by
  induction rounds with
  | nil => exact .slnil
  | cons round rounds inductionHypothesis =>
      cases round with
      | unopened => exact inductionHypothesis.cons _
      | skipped => exact inductionHypothesis.cons _
      | served => exact inductionHypothesis.cons_cons _

/-- The session that a worker is in has begun. -/
theorem talk_progress {pool : Pool} {id : WorkerId} {runsOn : ProtocolInstance}
    (same : ∀ worker, pool.worker? id = some worker → worker.protocol = runsOn) :
    talk id (pool.progress id) = (pool.serving? id).toList.map (.began id runsOn) := by
  unfold Pool.progress Pool.serving?
  cases found : pool.worker? id with
  | none => rfl
  | some worker =>
      have runs := same worker found
      simp only [Worker.progress, Option.bind_some]
      cases worker.stage <;> simp [talk, Event.isTalk, runs]

theorem sublist_progress (pool : Pool) (id : WorkerId) :
    (pool.serving? id).toList.Sublist ((handings (pool.progress id)).map Prod.snd) := by
  unfold Pool.progress Pool.serving?
  cases pool.worker? id with
  | none => exact .slnil
  | some worker =>
      simp only [Worker.progress, Option.bind_some]
      cases worker.stage <;> simp [handings, Event.handing?]

namespace Server

variable {terms : Terms} {server next : Server} {label : Label} {events : List Event}
  {turns : List Turn} {id : WorkerId}

/-! ## What sessions run on -/

theorem sessions_startEvents {pool : Pool} {listens : Bool} {answer : StartAnswer}
    (empty : pool.queue = []) :
    sessions (startEvents terms pool listens ++ [.startAnswered answer]) = [] :=
  filterMap_startEvents empty _ fun event => by cases event <;> simp [ofStart, Event.session?]

/-- Sessions run on what the worker got when it was hired. -/
theorem Step.runsOn (step : Step terms server label events next) (sound : Sound terms server)
    (equipped : server.pool.Equipped terms) :
    ∀ session ∈ sessions events, session.runsOn = terms.instanceFor session.worker := by
  cases step with
  | started stopped | cannotListen stopped =>
      rw [sessions_startEvents (sound.roster.stopped_queue stopped)]
      nofun
  | @beginSession id worker descriptor found =>
      intro session member
      obtain rfl := List.mem_singleton.1 member
      exact equipped.runs id worker found
  | _ => nofun

theorem Run.runsOn (run : Run terms turns server) :
    ∀ session ∈ sessions (shown turns), session.runsOn = terms.instanceFor session.worker := by
  induction run with
  | refl => nofun
  | turn before step inductionHypothesis =>
      rw [shown_append, shown_singleton, sessions_append, List.forall_mem_append]
      exact ⟨inductionHypothesis, step.runsOn (Run.sound before) (Run.equipped before)⟩

theorem Step.session_known (step : Step terms server label events next) (sound : Sound terms server) :
    ∀ session ∈ sessions events, server.pool.Knows session.worker := by
  cases step with
  | started stopped | cannotListen stopped =>
      rw [sessions_startEvents (sound.roster.stopped_queue stopped)]
      nofun
  | @beginSession id worker descriptor found =>
      intro session member
      obtain rfl := List.mem_singleton.1 member
      exact Pool.knows_of_worker? found
  | _ => nofun

theorem Run.session_known (run : Run terms turns server) :
    ∀ session ∈ sessions (shown turns), server.pool.Knows session.worker := by
  induction run with
  | refl => nofun
  | turn before step inductionHypothesis =>
      rw [shown_append, shown_singleton, sessions_append, List.forall_mem_append]
      exact ⟨fun session member => step.knows (inductionHypothesis session member),
        fun session member => step.knows (step.session_known (Run.sound before) session member)⟩

/-- A worker begins a session after the last one is over. -/
theorem Run.talk_eq (run : Run terms turns server) (id : WorkerId) :
    ∃ held : List (Descriptor × SessionEnd), talk id (shown turns) =
        held.flatMap (heldEvents id (terms.instanceFor id)) ++
          (server.pool.serving? id).toList.map (.began id (terms.instanceFor id)) ∧
      (held.map Prod.fst ++ (server.pool.serving? id).toList).Sublist
        (ofWorker id (handings (shown turns))) := by
  obtain ⟨rounds, served⟩ := Path.serviced run (.new terms) id
  have none : (({} : Server).pool.progress id) = [] := by cases id <;> rfl
  rw [none, List.nil_append] at served
  have own : ∀ session ∈ sessionsOf id (shown turns), session.runsOn = terms.instanceFor id := by
    intro session member
    obtain ⟨begun, isOwn⟩ := List.mem_filter.1 member
    rw [Run.runsOn run session begun, of_decide_eq_true isOwn]
  rw [← sessions_talk, ← talk_service, served, talk_append, sessions_append,
    List.forall_mem_append] at own
  refine ⟨rounds.filterMap Round.session?, ?_, ?_⟩
  · have runs := fun worker => (Run.equipped run).runs id worker
    rw [← talk_service, served, talk_append, talk_rounds own.1, talk_progress runs]
  · rw [← map_handings_service, served, handings_append, List.map_append,
      Round.map_handings_flatMap_events]
    exact (sublist_rounds rounds).append (sublist_progress server.pool id)

/-! ## All together -/

/-- What is known after some turns of a server whose protocol makes an instance for every worker. -/
structure Isolated (turns : List Turn) (server : Server) : Prop where
  /-- An instance was made for every worker that was hired, and no other was made. -/
  madeOnce : server.pool.forked = (hires (shown turns)).length
  /-- The workers got them in turn. -/
  given : server.pool.workers.map Worker.protocol = (hires (shown turns)).map .own
  distinct : (server.pool.workers.map Worker.protocol).Nodup
  /-- A session runs on the instance of its worker. -/
  runsOnOwn : ∀ session ∈ sessions (shown turns), ∃ worker,
    server.pool.worker? session.worker = some worker ∧ session.runsOn = worker.protocol
  /-- So the sessions on an instance are those of its worker, in the same order. -/
  exactly : ∀ id, sessionsOn (.own id) (shown turns) = sessionsOf id (shown turns)
  prototypeIdle : sessionsOn .prototype (shown turns) = []
  /-- A worker ends every session before the next one, and holds them in the order in which it was
  handed their connections. -/
  inTurn : ∀ id, ∃ held : List (Descriptor × SessionEnd), talk id (shown turns) =
      held.flatMap (heldEvents id (.own id)) ++
        (server.pool.serving? id).toList.map (.began id (.own id)) ∧
    (sessionsOf id (shown turns)).map Session.descriptor =
      held.map Prod.fst ++ (server.pool.serving? id).toList ∧
    ((sessionsOf id (shown turns)).map Session.descriptor).Sublist
      (ofWorker id (handings (shown turns)))
  /-- A counter in every instance counts the sessions of its worker, whatever others do. -/
  counts : ∀ id, readingsOf id (readings (fun _ => 0) (sessions (shown turns))) =
    List.range' 1 (sessionsOf id (shown turns)).length

/-- What is known after some turns of a server whose protocol makes no instances. -/
structure Shared (turns : List Turn) (server : Server) : Prop where
  noneMade : server.pool.forked = 0
  given : ∀ id worker, server.pool.worker? id = some worker → worker.protocol = .prototype
  runsOnPrototype : ∀ session ∈ sessions (shown turns), session.runsOn = .prototype

theorem isolated_of_forks (run : Run terms turns server) (forks : terms.forks = true) :
    Isolated turns server := by
  have equipped := Run.equipped run
  have numbered := Run.numbered run
  have instanceFor : terms.instanceFor = .own := by
    funext id
    rw [Terms.instanceFor, if_pos forks]
  have given : server.pool.workers.map Worker.protocol = (hires (shown turns)).map .own := by
    rw [equipped.protocols_eq, numbered, instanceFor]
  have own : ∀ session ∈ sessions (shown turns), session.runsOn = .own session.worker := by
    intro session member
    rw [Run.runsOn run session member, instanceFor]
  constructor
  case madeOnce =>
    rw [equipped.made, if_pos forks, numbered, List.length_range']
  case given => exact given
  case distinct =>
    rw [given, numbered]
    refine List.Nodup.map (fun id other same => ?_) List.nodup_range'
    cases same
    rfl
  case runsOnOwn =>
    intro session member
    obtain ⟨worker, found⟩ := Option.isSome_iff_exists.1
      ((Pool.worker?_isSome_iff _ _).2 (Run.session_known run session member))
    exact ⟨worker, found, by rw [own session member, equipped.runs _ worker found, instanceFor]⟩
  case exactly =>
    intro id
    refine List.filter_congr fun session member => ?_
    rw [own session member]
    simp
  case prototypeIdle =>
    refine List.filter_eq_nil_iff.2 fun session member => ?_
    rw [own session member]
    simp
  case inTurn =>
    intro id
    obtain ⟨held, talks, inOrder⟩ := Run.talk_eq run id
    rw [instanceFor] at talks
    have begun : (sessionsOf id (shown turns)).map Session.descriptor =
        held.map Prod.fst ++ (server.pool.serving? id).toList := by
      rw [← sessions_talk, talks, sessions_append, List.map_append, sessions_heldEvents]
      cases server.pool.serving? id <;> rfl
    exact ⟨held, talks, begun, by rwa [begun]⟩
  case counts =>
    intro id
    rw [readingsOf_readings id _ own]
    rfl

/-- Every run of a server keeps to it, whether or not the protocol makes instances. -/
theorem instances_of_run (run : Run terms turns server) :
    (terms.forks = true → Isolated turns server) ∧
      (terms.forks = false → Shared turns server) := by
  refine ⟨isolated_of_forks run, fun shares => ?_⟩
  have equipped := Run.equipped run
  have instanceFor (id : WorkerId) : terms.instanceFor id = .prototype := by
    rw [Terms.instanceFor, shares]
    rfl
  constructor
  case noneMade =>
    rw [equipped.made, shares]
    rfl
  case given => exact fun id worker found => (equipped.runs id worker found).trans (instanceFor id)
  case runsOnPrototype =>
    exact fun session member => (Run.runsOn run session member).trans (instanceFor _)

/-- One worker holds two sessions, and another one holds a session in between. -/
theorem instances_of_three_sessions :
    ∃ turns server, Run { forks := true } turns server ∧
      sessions (shown turns) = [⟨1, .own 1, ⟨.network, 7⟩⟩, ⟨2, .own 2, ⟨.network, 8⟩⟩,
        ⟨1, .own 1, ⟨.network, 9⟩⟩] ∧
      readings (fun _ => 0) (sessions (shown turns)) = [(1, 1), (2, 1), (1, 2)] ∧
      Isolated turns server := by
  let labels : List Label := [.start true, .arrive ⟨.network, 7⟩, .decide ⟨.network, 7⟩ true,
    .arrive ⟨.network, 8⟩, .decide ⟨.network, 8⟩ true, .take 1, .exchange 1 true, .check 1,
    .take 2, .exchange 2 true, .check 2, .finish 1 .returned, .report 1 true,
    .arrive ⟨.network, 9⟩, .decide ⟨.network, 9⟩ true, .take 1, .exchange 1 true, .check 1]
  obtain ⟨turns, run, _, shows⟩ := path_iff_run?.2
    (show run? { forks := true } {} labels = some (_, _) from rfl)
  refine ⟨turns, _, run, ?_, ?_, (instances_of_run run).1 rfl⟩
  · rw [shows]
    rfl
  · rw [shows]
    rfl

end Server

end ConnectionPool
