import ConnectionPool.Server

/-!
Contract: what one turn of a server can do, case by case.

`Server.Step` lists the outcomes of a turn with the guards under which each arises. It is the same
relation as `Server.step?`, so that a law about turns is proved by looking at these cases and never
opens the turns themselves.

Owns:
- the relation `Server.Step` and its agreement with `Server.step?`.

Does not own: any law about turns.
-/

namespace ConnectionPool

namespace Server

/-- The pool after a start has discarded what waits and has filled the floor. -/
def floored (terms : Terms) (pool : Pool) : Pool :=
  Pool.fillFloor terms { pool with queue := [] }

/-- The pool after the run has ended. -/
def settled (pool : Pool) : Pool :=
  { pool with lifecycle := .stopped, free := [], staff := [], retired := [], queue := [] }

/-- What a start shows that finds the server stopped. -/
def startEvents (terms : Terms) (pool : Pool) (listens : Bool) : List Event :=
  pool.queue.map Event.discarded ++ hiredEvents { pool with queue := [] } (floored terms pool) ++
    [.listened listens]

/-- A worker may retire: there are more than the least number, and it is still free. -/
def MayRetire (terms : Terms) (pool : Pool) (id : WorkerId) : Prop :=
  pool.lifecycle = .running ∧ terms.options.minWorkers < pool.staff.length ∧ id ∈ pool.free

/-- The outcomes of a turn. -/
inductive Step (terms : Terms) (server : Server) : Label → List Event → Server → Prop where
  -- Starts
  | alreadyRunning {listens : Bool} (running : server.pool.lifecycle = .running) :
      Step terms server (.start listens) [.startAnswered .alreadyRunning] server
  | stillStopping {listens : Bool} (stopping : server.pool.lifecycle = .stopping) :
      Step terms server (.start listens) [.startAnswered .stopping] server
  | started (stopped : server.pool.lifecycle = .stopped) :
      Step terms server (.start true)
        (startEvents terms server.pool true ++ [.startAnswered .started])
        { server with pool := { floored terms server.pool with lifecycle := .running } }
  | cannotListen (stopped : server.pool.lifecycle = .stopped) :
      Step terms server (.start false)
        (startEvents terms server.pool false ++ [.startAnswered .cannotListen])
        { server with pool := floored terms server.pool }
  -- Stops
  | beginStop {caller : Nat} {mode : StopMode} (running : server.pool.lifecycle = .running) :
      Step terms server (.beginStop caller mode) []
        { server with
          pool := { server.pool with lifecycle := .stopping }
          closing := some { caller, mode } }
  | notRunning {caller : Nat} {mode : StopMode} (other : server.pool.lifecycle ≠ .running) :
      Step terms server (.beginStop caller mode) [.stopAnswered caller false] server
  | unlisten {closing : Closing} (active : server.closing = some closing)
      (stage : closing.stage = .unlistening) :
      Step terms server .unlisten [.unlistened]
        { server with closing := some { closing with stage := .collecting } }
  | collect {closing : Closing} (active : server.closing = some closing)
      (stage : closing.stage = .collecting) :
      Step terms server .collect []
        { server with
          closing := some { closing with
            stage := signalStage (server.pool.staff ++ server.pool.retired)
              (server.pool.staff ++ server.pool.retired) } }
  | signal {id : WorkerId} {closing : Closing} {held left : List WorkerId}
      (active : server.closing = some closing) (stage : closing.stage = .signalling held left)
      (member : id ∈ left) :
      Step terms server (.signal id) []
        { server with
          pool := server.pool.updateWorker id (Worker.signal closing.mode)
          closing := some { closing with stage := signalStage held (left.erase id) } }
  | claim {id : WorkerId} {worker : Worker} {closing : Closing} {held left : List WorkerId}
      (active : server.closing = some closing) (stage : closing.stage = .joining held left none)
      (found : server.pool.worker? id = some worker) (member : id ∈ left) :
      Step terms server (.claim id) []
        { server with
          pool := server.pool.setWorker { worker with hasHandle := false } id
          closing := some { closing with
            stage := .joining held (left.erase id) (if worker.hasHandle then some id else none) } }
  | joined {id : WorkerId} {worker : Worker} {closing : Closing} {held left : List WorkerId}
      (active : server.closing = some closing) (stage : closing.stage = .joining held left (some id))
      (found : server.pool.worker? id = some worker) (ended : worker.stage = .exited) :
      Step terms server .joined []
        { server with closing := some { closing with stage := .joining held left none } }
  | settle {closing : Closing} {held : List WorkerId} (active : server.closing = some closing)
      (stage : closing.stage = .joining held [] none) :
      Step terms server .settle []
        { server with
          pool := settled server.pool
          closing := none
          clearances := server.clearances ++ [⟨closing.caller, server.pool.queue⟩] }
  | clear {position caller : Nat} {descriptor : Descriptor} {left : List Descriptor}
      (found : server.clearances[position]? = some ⟨caller, descriptor :: left⟩) :
      Step terms server (.clear position) [.discarded descriptor]
        { server with clearances := server.clearances.set position ⟨caller, left⟩ }
  | endStop {position caller : Nat} (found : server.clearances[position]? = some ⟨caller, []⟩) :
      Step terms server (.endStop position) [.stopAnswered caller true]
        { server with clearances := server.clearances.eraseIdx position }
  -- Connections
  | arrive {descriptor : Descriptor} :
      Step terms server (.arrive descriptor) [.arrived descriptor]
        { server with arrivals := server.arrivals ++ [descriptor] }
  | dropped {descriptor : Descriptor} {starts : Bool} (waits : descriptor ∈ server.arrivals)
      (other : server.pool.lifecycle ≠ .running) :
      Step terms server (.decide descriptor starts) [.decided descriptor .dropped]
        { server with
          arrivals := server.arrivals.erase descriptor
          dismissals := server.dismissals ++ [descriptor] }
  | reused {descriptor : Descriptor} {starts : Bool} {id : WorkerId} {free : List WorkerId}
      {worker : Worker} (waits : descriptor ∈ server.arrivals)
      (running : server.pool.lifecycle = .running) (top : server.pool.free = id :: free)
      (member : id ∈ server.pool.staff) (found : server.pool.worker? id = some worker)
      (thread : worker.stage = .unstarted → starts = true) :
      Step terms server (.decide descriptor starts)
        [.decided descriptor (.reused id), .assigned id descriptor]
        { server with
          pool := Pool.setWorker { server.pool with free } (worker.assign descriptor) id
          arrivals := server.arrivals.erase descriptor }
  | unusable {descriptor : Descriptor} {starts : Bool} {id : WorkerId} {free : List WorkerId}
      (waits : descriptor ∈ server.arrivals) (running : server.pool.lifecycle = .running)
      (top : server.pool.free = id :: free) (member : id ∈ server.pool.staff)
      (thread : ∀ worker, server.pool.worker? id = some worker →
        worker.stage = .unstarted ∧ starts = false) :
      Step terms server (.decide descriptor starts) [.decided descriptor .dropped]
        { server with
          pool := { server.pool with free, staff := server.pool.staff.erase id }
          arrivals := server.arrivals.erase descriptor
          dismissals := server.dismissals ++ [descriptor] }
  | misplaced {descriptor : Descriptor} {starts : Bool} {id : WorkerId} {free : List WorkerId}
      (waits : descriptor ∈ server.arrivals) (running : server.pool.lifecycle = .running)
      (top : server.pool.free = id :: free) (other : id ∉ server.pool.staff) :
      Step terms server (.decide descriptor starts) [.decided descriptor .dropped]
        { server with
          pool := { server.pool with free }
          arrivals := server.arrivals.erase descriptor
          dismissals := server.dismissals ++ [descriptor] }
  | spawned {descriptor : Descriptor} (waits : descriptor ∈ server.arrivals)
      (running : server.pool.lifecycle = .running) (none : server.pool.free = [])
      (room : server.pool.staff.length < terms.options.maxWorkers) :
      Step terms server (.decide descriptor true)
        [.decided descriptor (.spawned server.pool.nextId), .hired server.pool.nextId,
          .assigned server.pool.nextId descriptor]
        { server with
          pool := Pool.setWorker
            { server.pool.hire terms with staff := server.pool.staff ++ [server.pool.nextId] }
            ((server.pool.newcomer terms).assign descriptor) server.pool.nextId
          arrivals := server.arrivals.erase descriptor }
  | unspawned {descriptor : Descriptor} (waits : descriptor ∈ server.arrivals)
      (running : server.pool.lifecycle = .running) (none : server.pool.free = [])
      (room : server.pool.staff.length < terms.options.maxWorkers) :
      Step terms server (.decide descriptor false)
        [.decided descriptor .dropped, .hired server.pool.nextId]
        { server with
          pool := server.pool.hire terms
          arrivals := server.arrivals.erase descriptor
          dismissals := server.dismissals ++ [descriptor] }
  | queued {descriptor : Descriptor} {starts : Bool} (waits : descriptor ∈ server.arrivals)
      (running : server.pool.lifecycle = .running) (none : server.pool.free = [])
      (full : terms.options.maxWorkers ≤ server.pool.staff.length)
      (room : server.pool.queue.length < terms.options.maxPending)
      (new : descriptor ∉ server.pool.queue) :
      Step terms server (.decide descriptor starts) [.decided descriptor .queued]
        { server with
          pool := { server.pool with queue := server.pool.queue ++ [descriptor] }
          arrivals := server.arrivals.erase descriptor }
  | busy {descriptor : Descriptor} {starts : Bool} (waits : descriptor ∈ server.arrivals)
      (running : server.pool.lifecycle = .running) (none : server.pool.free = [])
      (full : terms.options.maxWorkers ≤ server.pool.staff.length)
      (noRoom : terms.options.maxPending ≤ server.pool.queue.length ∨
        descriptor ∈ server.pool.queue) :
      Step terms server (.decide descriptor starts) [.decided descriptor .busy]
        { server with
          arrivals := server.arrivals.erase descriptor
          refusals := server.refusals ++ [descriptor] }
  | refuse {descriptor : Descriptor} (waits : descriptor ∈ server.refusals) :
      Step terms server (.refuse descriptor) [.refused descriptor]
        { server with refusals := server.refusals.erase descriptor }
  | dismiss {descriptor : Descriptor} (waits : descriptor ∈ server.dismissals) :
      Step terms server (.dismiss descriptor) [.discarded descriptor]
        { server with dismissals := server.dismissals.erase descriptor }
  -- Sweeps
  | beginSweep {caller : Nat} :
      Step terms server (.beginSweep caller) []
        { server with
          pool := { server.pool with retired := [] }
          sweeps := server.sweeps ++
            [{ caller, held := server.pool.retired, left := server.pool.retired }] }
  | sweepClaim {position : Nat} {sweep : Sweep} {id : WorkerId} {left : List WorkerId}
      {worker : Worker} (found : server.sweeps[position]? = some sweep)
      (next : sweep.left = id :: left) (idle : sweep.current = none)
      (known : server.pool.worker? id = some worker) :
      Step terms server (.sweepClaim position) []
        { server with
          pool := server.pool.setWorker { worker with hasHandle := false } id
          sweeps := server.sweeps.set position
            { sweep with left, current := if worker.hasHandle then some id else none } }
  | sweepJoined {position : Nat} {sweep : Sweep} {id : WorkerId} {worker : Worker}
      (found : server.sweeps[position]? = some sweep) (waits : sweep.current = some id)
      (known : server.pool.worker? id = some worker) (ended : worker.stage = .exited) :
      Step terms server (.sweepJoined position) []
        { server with sweeps := server.sweeps.set position { sweep with current := none } }
  | endSweep {position : Nat} {sweep : Sweep} (found : server.sweeps[position]? = some sweep)
      (all : sweep.left = []) (idle : sweep.current = none) :
      Step terms server (.endSweep position) [.sweepAnswered sweep.caller sweep.held.length]
        { server with sweeps := server.sweeps.eraseIdx position }
  -- Threads
  | take {id : WorkerId} {worker : Worker} {descriptor : Descriptor}
      (found : server.pool.worker? id = some worker) (stage : worker.stage = .waiting)
      (full : worker.assignment = some descriptor) :
      Step terms server (.take id) []
        { server with
          pool := server.pool.setWorker
            { worker with assignment := none, stage := .exchanging descriptor } id }
  | leave {id : WorkerId} {worker : Worker} (found : server.pool.worker? id = some worker)
      (stage : worker.stage = .waiting) (empty : worker.assignment = none)
      (told : worker.accepting = false) :
      Step terms server (.leave id) [.left id]
        { server with pool := server.pool.setWorker { worker with stage := .exited } id }
  | expire {id : WorkerId} {worker : Worker} (found : server.pool.worker? id = some worker)
      (stage : worker.stage = .waiting) (empty : worker.assignment = none)
      (untold : worker.accepting = true) :
      Step terms server (.expire id) []
        { server with pool := server.pool.setWorker { worker with stage := .expired } id }
  | retire {id : WorkerId} {worker : Worker} (found : server.pool.worker? id = some worker)
      (stage : worker.stage = .expired) (may : MayRetire terms server.pool id) :
      Step terms server (.askRetirement id) [.retirementAsked id true, .left id]
        { server with
          pool := Pool.setWorker
            { server.pool with
              free := server.pool.free.erase id
              staff := server.pool.staff.erase id
              retired :=
                if id ∈ server.pool.staff then server.pool.retired ++ [id] else server.pool.retired }
            { worker with stage := .exited } id }
  | stay {id : WorkerId} {worker : Worker} (found : server.pool.worker? id = some worker)
      (stage : worker.stage = .expired) (mayNot : ¬ MayRetire terms server.pool id) :
      Step terms server (.askRetirement id) [.retirementAsked id false]
        { server with pool := server.pool.setWorker { worker with stage := .waiting } id }
  | exchange {id : WorkerId} {worker : Worker} {descriptor : Descriptor} {granted : Bool}
      (found : server.pool.worker? id = some worker)
      (stage : worker.stage = .exchanging descriptor) :
      Step terms server (.exchange id granted) [.exchanged id descriptor granted]
        { server with
          pool := server.pool.setWorker
            { worker with stage := if granted then .opened descriptor else .returning } id }
  | beginSession {id : WorkerId} {worker : Worker} {descriptor : Descriptor}
      (found : server.pool.worker? id = some worker) (stage : worker.stage = .opened descriptor)
      (untold : worker.interrupted = false) :
      Step terms server (.check id) [.began id worker.protocol descriptor]
        { server with pool := server.pool.setWorker { worker with stage := .serving descriptor } id }
  | skipSession {id : WorkerId} {worker : Worker} {descriptor : Descriptor}
      (found : server.pool.worker? id = some worker) (stage : worker.stage = .opened descriptor)
      (told : worker.interrupted = true) :
      Step terms server (.check id) [.skipped id descriptor]
        { server with pool := server.pool.setWorker { worker with stage := .returning } id }
  | finish {id : WorkerId} {worker : Worker} {descriptor : Descriptor} {ending : SessionEnd}
      (found : server.pool.worker? id = some worker)
      (stage : worker.stage = .serving descriptor) :
      Step terms server (.finish id ending) [.ended id descriptor ending]
        { server with pool := server.pool.setWorker { worker with stage := .returning } id }
  | handOver {id : WorkerId} {worker : Worker} {descriptor : Descriptor}
      {queue : List Descriptor} {starts : Bool} (found : server.pool.worker? id = some worker)
      (stage : worker.stage = .returning) (running : server.pool.lifecycle = .running)
      (member : id ∈ server.pool.staff) (first : server.pool.queue = descriptor :: queue) :
      Step terms server (.report id starts) [.reported id, .assigned id descriptor]
        { server with
          pool := Pool.setWorker { server.pool with queue }
            { worker with stage := .waiting, assignment := some descriptor } id }
  | becomeFree {id : WorkerId} {worker : Worker} {starts : Bool}
      (found : server.pool.worker? id = some worker) (stage : worker.stage = .returning)
      (running : server.pool.lifecycle = .running) (member : id ∈ server.pool.staff)
      (none : server.pool.queue = []) :
      Step terms server (.report id starts) [.reported id, .freed id]
        { server with
          pool := Pool.setWorker { server.pool with free := id :: server.pool.free }
            { worker with stage := .waiting } id }
  | comeBack {id : WorkerId} {worker : Worker} {starts : Bool}
      (found : server.pool.worker? id = some worker) (stage : worker.stage = .returning)
      (outside : ¬ (server.pool.lifecycle = .running ∧ id ∈ server.pool.staff)) :
      Step terms server (.report id starts) [.reported id]
        { server with pool := server.pool.setWorker { worker with stage := .waiting } id }

/-- A start shows this even where nobody waits: whom it hires, and what it asks and answers. -/
def ofStart : Event → Bool
  | .hired _ => true
  | .listened _ => true
  | .startAnswered _ => true
  | _ => false

section StartEvents
variable {terms : Terms} {pool : Pool} {listens : Bool} {answer : StartAnswer}

theorem ofStart_of_mem (empty : pool.queue = []) {event : Event}
    (member : event ∈ startEvents terms pool listens ++ [.startAnswered answer]) :
    ofStart event = true := by
  simp only [startEvents, empty, hiredEvents, List.map_nil, List.nil_append, List.mem_append,
    List.mem_map, List.mem_singleton] at member
  rcases member with (⟨id, _, rfl⟩ | rfl) | rfl <;> rfl

theorem countP_startEvents (empty : pool.queue = []) (kind : Event → Bool)
    (other : ∀ event, ofStart event = true → kind event = false) :
    (startEvents terms pool listens ++ [Event.startAnswered answer]).countP kind = 0 :=
  List.countP_eq_zero.2 fun event member => by
    rw [other event (ofStart_of_mem empty member)]
    nofun

theorem count_startEvents (empty : pool.queue = []) (event : Event)
    (other : ofStart event = false) :
    (startEvents terms pool listens ++ [Event.startAnswered answer]).count event = 0 :=
  List.count_eq_zero.2 fun member => by
    rw [ofStart_of_mem empty member] at other
    cases other

theorem filterMap_startEvents {α : Type} (empty : pool.queue = []) (read : Event → Option α)
    (other : ∀ event, ofStart event = true → read event = none) :
    (startEvents terms pool listens ++ [Event.startAnswered answer]).filterMap read = [] :=
  List.filterMap_eq_nil_iff.2 fun event member => other event (ofStart_of_mem empty member)

end StartEvents

/-! ## Agreement -/

theorem hiredEvents_of_length_eq {before after : Pool}
    (same : after.workers.length = before.workers.length) : hiredEvents before after = [] := by
  simp [hiredEvents, same]

theorem hiredEvents_of_length_succ {before after : Pool}
    (more : after.workers.length = before.workers.length + 1) :
    hiredEvents before after = [.hired before.nextId] := by
  simp [hiredEvents, more]

theorem start_step (terms : Terms) (listens : Bool) (server : Server) :
    Step terms server (.start listens) (server.start terms listens).2
      (server.start terms listens).1 := by
  unfold start
  cases lifecycle : server.pool.lifecycle with
  | running => exact .alreadyRunning lifecycle
  | stopping => exact .stillStopping lifecycle
  | stopped =>
      cases listens with
      | true => exact .started lifecycle
      | false => exact .cannotListen lifecycle

variable {terms : Terms} {server next : Server} {label : Label} {events : List Event}

private theorem step_of_closingStep? {closing : Closing} (active : server.closing = some closing)
    (taken : server.closingStep? closing label = some (next, events)) :
    Step terms server label events next := by
  cases label with
  | unlisten =>
      simp only [closingStep?] at taken
      split at taken
      · next stage => cases taken; exact .unlisten active stage
      · cases taken
  | collect =>
      simp only [closingStep?] at taken
      split at taken
      · next stage => cases taken; exact .collect active stage
      · cases taken
  | signal id =>
      simp only [closingStep?] at taken
      split at taken
      · next held left stage =>
          split at taken
          · next member => cases taken; exact .signal active stage member
          · cases taken
      · cases taken
  | claim id =>
      simp only [closingStep?] at taken
      split at taken
      · next held left stage =>
          split at taken
          · next worker found =>
              split at taken
              · next member => cases taken; exact .claim active stage found member
              · cases taken
          · cases taken
      · cases taken
  | joined =>
      simp only [closingStep?] at taken
      split at taken
      · next held left id stage =>
          split at taken
          · next worker found =>
              split at taken
              · next ended => cases taken; exact .joined active stage found ended
              · cases taken
          · cases taken
      · cases taken
  | settle =>
      simp only [closingStep?] at taken
      split at taken
      · next held stage => cases taken; exact .settle active stage
      · cases taken
  | _ => cases taken

private theorem step_of_sweepStep? {position : Nat} {sweep : Sweep}
    (found : server.sweeps[position]? = some sweep) (own : label = .sweepClaim position ∨
      label = .sweepJoined position ∨ label = .endSweep position)
    (taken : server.sweepStep? position sweep label = some (next, events)) :
    Step terms server label events next := by
  rcases own with rfl | rfl | rfl
  · simp only [sweepStep?] at taken
    split at taken
    · next id left rest idle =>
        split at taken
        · next worker known => cases taken; exact .sweepClaim found rest idle known
        · cases taken
    · cases taken
  · simp only [sweepStep?] at taken
    split at taken
    · next id waits =>
        split at taken
        · next worker known =>
            split at taken
            · next ended => cases taken; exact .sweepJoined found waits known ended
            · cases taken
        · cases taken
    · cases taken
  · simp only [sweepStep?] at taken
    split at taken
    · next all idle => cases taken; exact .endSweep found all idle
    · cases taken

theorem retire_of_mayRetire {pool : Pool} {id : WorkerId} (may : MayRetire terms pool id) :
    pool.retire terms id = (true, { pool with
      free := pool.free.erase id
      staff := pool.staff.erase id
      retired := if id ∈ pool.staff then pool.retired ++ [id] else pool.retired }) := by
  unfold Pool.retire
  exact if_pos may

theorem retire_of_not_mayRetire {pool : Pool} {id : WorkerId}
    (mayNot : ¬ MayRetire terms pool id) : pool.retire terms id = (false, pool) := by
  unfold Pool.retire
  exact if_neg mayNot

/-- A worker that reports has a thread, so a connection that waits reaches it. -/
theorem available_setWorker {id : WorkerId} {worker reporting : Worker} {starts : Bool}
    {pool : Pool} (found : pool.worker? id = some worker) (thread : reporting.stage ≠ .unstarted) :
    (pool.setWorker reporting id).available starts id =
      if pool.lifecycle = .running ∧ id ∈ pool.staff then
        match pool.queue with
        | descriptor :: queue =>
            (.handed descriptor,
              Pool.setWorker { pool with queue } (reporting.assign descriptor) id)
        | [] => (.freed, Pool.setWorker { pool with free := id :: pool.free } reporting id)
      else
        (.ignored, pool.setWorker reporting id) := by
  have reassigned (queue : List Descriptor) (descriptor : Descriptor) :
      Pool.assign? starts id descriptor { pool.setWorker reporting id with queue } =
        some (Pool.setWorker { pool with queue } (reporting.assign descriptor) id) := by
    rw [Pool.assign?_eq_some_iff]
    refine ⟨reporting, ?_, fun unstarted => absurd unstarted thread, ?_⟩
    · have renewed := Pool.worker?_setWorker pool reporting id id
      rw [if_pos rfl, found] at renewed
      exact renewed
    · rw [← Pool.setWorker_setWorker _ reporting]
      cases id <;> rfl
  simp only [Pool.setWorker_lifecycle, Pool.setWorker_free, Pool.setWorker_staff] at reassigned
  simp only [Pool.available, Pool.setWorker_lifecycle, Pool.setWorker_free, Pool.setWorker_staff,
    Pool.setWorker_queue]
  cases pool.queue with
  | cons descriptor queue => simp only [reassigned]
  | nil => cases id <;> rfl

private theorem step_of_report {id : WorkerId} {worker : Worker} {starts : Bool}
    (found : server.pool.worker? id = some worker)
    (taken : server.workerStep? terms id worker (.report id starts) = some (next, events)) :
    Step terms server (.report id starts) events next := by
  obtain ⟨_, moved, shown⟩ := Option.map_eq_some_iff.1 taken
  obtain ⟨stage, rfl⟩ := Worker.step?_report_eq_some_iff.1 moved
  rw [available_setWorker found (by simp)] at shown
  by_cases serves : server.pool.lifecycle = .running ∧ id ∈ server.pool.staff
  · rw [if_pos serves] at shown
    split at shown
    · next descriptor queue waiting =>
        cases shown
        have handed : Step terms server (.report id starts) _ _ :=
          .handOver found stage serves.1 serves.2 waiting
        exact handed
    · next waiting =>
        cases shown
        exact .becomeFree found stage serves.1 serves.2 waiting
  · rw [if_neg serves] at shown
    cases shown
    exact .comeBack found stage serves

private theorem step_of_workerStep? {id : WorkerId} {worker : Worker}
    (found : server.pool.worker? id = some worker)
    (own : label.thread? = some id)
    (taken : server.workerStep? terms id worker label = some (next, events)) :
    Step terms server label events next := by
  cases label with
  | take =>
      cases own
      obtain ⟨_, moved, shown⟩ := Option.map_eq_some_iff.1 taken
      obtain ⟨descriptor, stage, full, rfl⟩ := Worker.step?_take_eq_some_iff.1 moved
      cases shown
      exact .take found stage full
  | leave =>
      cases own
      obtain ⟨_, moved, shown⟩ := Option.map_eq_some_iff.1 taken
      obtain ⟨stage, empty, told, rfl⟩ := Worker.step?_leave_eq_some_iff.1 moved
      cases shown
      exact .leave found stage empty told
  | expire =>
      cases own
      obtain ⟨_, moved, shown⟩ := Option.map_eq_some_iff.1 taken
      obtain ⟨stage, empty, untold, rfl⟩ := Worker.step?_expire_eq_some_iff.1 moved
      cases shown
      exact .expire found stage empty untold
  | askRetirement =>
      cases own
      obtain ⟨_, moved, shown⟩ := Option.map_eq_some_iff.1 taken
      obtain ⟨stage, rfl⟩ := Worker.step?_retire_eq_some_iff.1 moved
      by_cases may : MayRetire terms server.pool id
      · rw [retire_of_mayRetire may] at shown
        cases shown
        exact .retire found stage may
      · rw [retire_of_not_mayRetire may] at shown
        cases shown
        exact .stay found stage may
  | exchange _ granted =>
      cases own
      simp only [workerStep?] at taken
      split at taken
      · next descriptor stage =>
          obtain ⟨_, moved, shown⟩ := Option.map_eq_some_iff.1 taken
          obtain ⟨other, stage', rfl⟩ := Worker.step?_exchange_eq_some_iff.1 moved
          obtain rfl : descriptor = other := by simpa [stage] using stage'
          cases shown
          cases granted <;> exact .exchange found stage
      · cases taken
  | check =>
      cases own
      simp only [workerStep?] at taken
      split at taken
      · next descriptor stage =>
          obtain ⟨_, moved, shown⟩ := Option.map_eq_some_iff.1 taken
          obtain ⟨other, stage', rfl⟩ := Worker.step?_check_eq_some_iff.1 moved
          obtain rfl : descriptor = other := by simpa [stage] using stage'
          by_cases token : worker.interrupted = true
          · simp only [if_pos token] at shown
            cases shown
            exact .skipSession found stage token
          · simp only [if_neg token] at shown
            cases shown
            exact .beginSession found stage (Bool.eq_false_iff.2 token)
      · cases taken
  | finish _ ending =>
      cases own
      simp only [workerStep?] at taken
      split at taken
      · next descriptor stage =>
          obtain ⟨_, moved, shown⟩ := Option.map_eq_some_iff.1 taken
          obtain ⟨other, stage', rfl⟩ := Worker.step?_finish_eq_some_iff.1 moved
          cases shown
          exact .finish found stage
      · cases taken
  | report _ starts =>
      cases own
      exact step_of_report found taken
  | _ => cases own

private theorem step_of_decide {descriptor : Descriptor} {starts : Bool}
    (taken : server.step? terms (.decide descriptor starts) = some (next, events)) :
    Step terms server (.decide descriptor starts) events next := by
  simp only [step?] at taken
  split at taken
  case isFalse => cases taken
  case isTrue waits =>
  generalize decision : server.pool.dispatch terms starts descriptor = answer at taken
  unfold Pool.dispatch at decision
  split at decision
  case isTrue other =>
    have same : answer.2.workers.length = server.pool.workers.length := by rw [← decision]
    rw [hiredEvents_of_length_eq same] at taken
    subst decision
    cases taken
    exact .dropped waits other
  case isFalse notOther =>
  have running : server.pool.lifecycle = .running := Decidable.not_not.1 notOther
  split at decision
  · next id free top =>
      split at decision
      · next member =>
          split at decision
          · next assigned given =>
              obtain ⟨worker, found, thread, rfl⟩ := Pool.assign?_eq_some_iff.1 given
              have same : answer.2.workers.length = server.pool.workers.length := by
                rw [← decision]
                exact Pool.length_setWorker _ _ _
              rw [hiredEvents_of_length_eq same] at taken
              subst decision
              cases taken
              exact .reused waits running top member found thread
          · next given =>
              have same : answer.2.workers.length = server.pool.workers.length := by rw [← decision]
              rw [hiredEvents_of_length_eq same] at taken
              subst decision
              cases taken
              exact .unusable waits running top member fun worker found =>
                Pool.unstarted_of_assign? given found
      · next other =>
          have same : answer.2.workers.length = server.pool.workers.length := by rw [← decision]
          rw [hiredEvents_of_length_eq same] at taken
          subst decision
          cases taken
          exact .misplaced waits running top other
  · next top =>
      split at decision
      · next room =>
          have found := Pool.worker?_hire terms server.pool server.pool.nextId
          rw [if_pos rfl] at found
          simp only at decision
          split at decision
          · next assigned given =>
              obtain ⟨worker, found', thread, rfl⟩ := Pool.assign?_eq_some_iff.1 given
              obtain rfl : _ = worker := Option.some.inj (found.symm.trans found')
              obtain rfl : starts = true := thread rfl
              have more : answer.2.workers.length = server.pool.workers.length + 1 := by
                rw [← decision]
                exact (Pool.length_setWorker _ _ _).trans (Pool.length_hire terms server.pool)
              rw [hiredEvents_of_length_succ more] at taken
              subst decision
              cases taken
              rw [Pool.setWorker_staff]
              exact .spawned waits running top room
          · next given =>
              obtain rfl : starts = false := (Pool.unstarted_of_assign? given found).2
              have more : answer.2.workers.length = server.pool.workers.length + 1 := by
                rw [← decision]
                exact Pool.length_hire terms server.pool
              rw [hiredEvents_of_length_succ more] at taken
              subst decision
              cases taken
              exact .unspawned waits running top room
      · next full =>
          split at decision
          · next space =>
              have same : answer.2.workers.length = server.pool.workers.length := by rw [← decision]
              rw [hiredEvents_of_length_eq same] at taken
              subst decision
              cases taken
              exact .queued waits running top (Nat.not_lt.1 full) space.1 space.2
          · next noSpace =>
              have same : answer.2.workers.length = server.pool.workers.length := by rw [← decision]
              rw [hiredEvents_of_length_eq same] at taken
              subst decision
              cases taken
              refine .busy waits running top (Nat.not_lt.1 full) ?_
              rcases Nat.lt_or_ge server.pool.queue.length terms.options.maxPending with room | full
              · exact .inr (Decidable.not_not.1 fun new => noSpace ⟨room, new⟩)
              · exact .inl full

private theorem step_of_threadStep? {id : WorkerId}
    (own : label.thread? = some id)
    (taken : server.threadStep? terms id label = some (next, events)) :
    Step terms server label events next := by
  obtain ⟨worker, found, moved⟩ := Option.bind_eq_some_iff.1 taken
  exact step_of_workerStep? found own moved

/-- Every turn that can be taken is one of the outcomes. -/
theorem Step.of_step? (taken : server.step? terms label = some (next, events)) :
    Step terms server label events next := by
  cases label with
  | start listens =>
      have answered := start_step terms listens server
      rw [Option.some.inj taken] at answered
      exact answered
  | beginStop caller mode =>
      simp only [step?] at taken
      split at taken
      · next running => cases taken; exact .beginStop running
      · next other => cases taken; exact .notRunning other
  | unlisten =>
      obtain ⟨closing, active, moved⟩ := Option.bind_eq_some_iff.1 taken
      exact step_of_closingStep? active moved
  | collect =>
      obtain ⟨closing, active, moved⟩ := Option.bind_eq_some_iff.1 taken
      exact step_of_closingStep? active moved
  | signal id =>
      obtain ⟨closing, active, moved⟩ := Option.bind_eq_some_iff.1 taken
      exact step_of_closingStep? active moved
  | claim id =>
      obtain ⟨closing, active, moved⟩ := Option.bind_eq_some_iff.1 taken
      exact step_of_closingStep? active moved
  | joined =>
      obtain ⟨closing, active, moved⟩ := Option.bind_eq_some_iff.1 taken
      exact step_of_closingStep? active moved
  | settle =>
      obtain ⟨closing, active, moved⟩ := Option.bind_eq_some_iff.1 taken
      exact step_of_closingStep? active moved
  | clear position =>
      simp only [step?] at taken
      split at taken
      · next caller descriptor left found => cases taken; exact .clear found
      · cases taken
  | endStop position =>
      simp only [step?] at taken
      split at taken
      · next caller found => cases taken; exact .endStop found
      · cases taken
  | arrive descriptor =>
      cases Option.some.inj taken
      exact .arrive
  | decide descriptor starts => exact step_of_decide taken
  | refuse descriptor =>
      simp only [step?] at taken
      split at taken
      · next waits => cases taken; exact .refuse waits
      · cases taken
  | dismiss descriptor =>
      simp only [step?] at taken
      split at taken
      · next waits => cases taken; exact .dismiss waits
      · cases taken
  | beginSweep caller =>
      cases Option.some.inj taken
      exact .beginSweep
  | sweepClaim position =>
      obtain ⟨sweep, found, moved⟩ := Option.bind_eq_some_iff.1 taken
      exact step_of_sweepStep? found (.inl rfl) moved
  | sweepJoined position =>
      obtain ⟨sweep, found, moved⟩ := Option.bind_eq_some_iff.1 taken
      exact step_of_sweepStep? found (.inr (.inl rfl)) moved
  | endSweep position =>
      obtain ⟨sweep, found, moved⟩ := Option.bind_eq_some_iff.1 taken
      exact step_of_sweepStep? found (.inr (.inr rfl)) moved
  | take id => exact step_of_threadStep? rfl taken
  | leave id => exact step_of_threadStep? rfl taken
  | expire id => exact step_of_threadStep? rfl taken
  | askRetirement id => exact step_of_threadStep? rfl taken
  | exchange id granted => exact step_of_threadStep? rfl taken
  | check id => exact step_of_threadStep? rfl taken
  | finish id ending => exact step_of_threadStep? rfl taken
  | report id starts => exact step_of_threadStep? rfl taken

/-- Every outcome is that of a turn that can be taken. -/
theorem Step.step? (step : Step terms server label events next) :
    server.step? terms label = some (next, events) := by
  cases step with
  | alreadyRunning running => simp [Server.step?, start, running]
  | stillStopping stopping => simp [Server.step?, start, stopping]
  | started stopped => simp [Server.step?, start, stopped, withPool, floored, startEvents]
  | cannotListen stopped => simp [Server.step?, start, stopped, withPool, floored, startEvents]
  | beginStop running => simp [Server.step?, running]
  | notRunning other => simp [Server.step?, other]
  | unlisten active stage => simp [Server.step?, active, closingStep?, stage, advanceClosing]
  | collect active stage => simp [Server.step?, active, closingStep?, stage, advanceClosing]
  | signal active stage member =>
      simp [Server.step?, active, closingStep?, stage, member, advanceClosing, withPool]
  | claim active stage found member =>
      simp [Server.step?, active, closingStep?, stage, found, member, advanceClosing, withPool,
        Worker.claimHandle]
      rfl
  | joined active stage found ended =>
      simp [Server.step?, active, closingStep?, stage, found, ended, advanceClosing]
  | settle active stage => simp [Server.step?, active, closingStep?, stage, settled]
  | clear found => simp [Server.step?, found]
  | endStop found => simp [Server.step?, found]
  | arrive => rfl
  | refuse waits => simp [Server.step?, waits]
  | dismiss waits => simp [Server.step?, waits]
  | beginSweep => rfl
  | sweepClaim found next idle known =>
      simp [Server.step?, found, sweepStep?, next, idle, known, Worker.claimHandle]
      rfl
  | sweepJoined found waits known ended =>
      simp [Server.step?, found, sweepStep?, waits, known, ended]
  | endSweep found all idle => simp [Server.step?, found, sweepStep?, all, idle]
  | dropped waits other =>
      simp [Server.step?, waits, Pool.dispatch, other, hiredEvents, assignmentEvents]
  | @reused descriptor starts id free worker waits running top member found thread =>
      have given : Pool.assign? starts id descriptor { server.pool with free } =
          some (Pool.setWorker { server.pool with free } (worker.assign descriptor) id) :=
        Pool.assign?_eq_some_iff.2 ⟨worker, found, thread, rfl⟩
      have decision : server.pool.dispatch terms starts descriptor =
          (.reused id, Pool.setWorker { server.pool with free } (worker.assign descriptor) id) := by
        rw [Pool.dispatch, if_neg (not_not_intro running)]
        simp only [top, if_pos member, given]
      simp only [Server.step?, if_pos waits, decision]
      simp [hiredEvents, assignmentEvents]
  | @unusable descriptor starts id free waits running top member thread =>
      have given : Pool.assign? starts id descriptor { server.pool with free } = none :=
        Pool.assign?_eq_none thread
      have decision : server.pool.dispatch terms starts descriptor =
          (.dropped, { server.pool with free, staff := server.pool.staff.erase id }) := by
        rw [Pool.dispatch, if_neg (not_not_intro running)]
        simp only [top, if_pos member, given]
      simp only [Server.step?, if_pos waits, decision]
      simp [hiredEvents, assignmentEvents]
  | @misplaced descriptor starts id free waits running top other =>
      have decision : server.pool.dispatch terms starts descriptor =
          (.dropped, { server.pool with free }) := by
        rw [Pool.dispatch, if_neg (not_not_intro running)]
        simp only [top, if_neg other]
      simp only [Server.step?, if_pos waits, decision]
      simp [hiredEvents, assignmentEvents]
  | @spawned descriptor waits running none room =>
      have found := Pool.worker?_hire terms server.pool server.pool.nextId
      rw [if_pos rfl] at found
      have given : (server.pool.hire terms).assign? true server.pool.nextId descriptor =
          some ((server.pool.hire terms).setWorker
            ((server.pool.newcomer terms).assign descriptor) server.pool.nextId) :=
        Pool.assign?_eq_some_iff.2 ⟨_, found, fun _ => rfl, rfl⟩
      have decision : server.pool.dispatch terms true descriptor =
          (.spawned server.pool.nextId,
            { (server.pool.hire terms).setWorker
                ((server.pool.newcomer terms).assign descriptor) server.pool.nextId with
              staff := server.pool.staff ++ [server.pool.nextId] }) := by
        rw [Pool.dispatch, if_neg (not_not_intro running)]
        simp only [none, if_pos room, given, Pool.setWorker_staff]
        rfl
      simp only [Server.step?, if_pos waits, decision]
      simp [hiredEvents, assignmentEvents]
      rfl
  | @unspawned descriptor waits running none room =>
      have given :
          (server.pool.hire terms).assign? false server.pool.nextId descriptor = .none := by
        refine Pool.assign?_eq_none fun worker found => ?_
        rw [Pool.worker?_hire, if_pos rfl] at found
        cases found
        exact ⟨rfl, rfl⟩
      have decision : server.pool.dispatch terms false descriptor =
          (.dropped, server.pool.hire terms) := by
        rw [Pool.dispatch, if_neg (not_not_intro running)]
        simp only [none, if_pos room, given]
      simp only [Server.step?, if_pos waits, decision]
      simp [hiredEvents, assignmentEvents]
  | @queued descriptor starts waits running none full room new =>
      have decision : server.pool.dispatch terms starts descriptor =
          (.queued, { server.pool with queue := server.pool.queue ++ [descriptor] }) := by
        rw [Pool.dispatch, if_neg (not_not_intro running)]
        simp only [none, if_neg (Nat.not_lt.2 full), if_pos (And.intro room new)]
      simp only [Server.step?, if_pos waits, decision]
      simp [hiredEvents, assignmentEvents]
  | @busy descriptor starts waits running none full noRoom =>
      have noSpace : ¬ (server.pool.queue.length < terms.options.maxPending ∧
          descriptor ∉ server.pool.queue) := by
        rintro ⟨room, new⟩
        rcases noRoom with full | waiting
        · omega
        · exact new waiting
      have decision : server.pool.dispatch terms starts descriptor = (.busy, server.pool) := by
        rw [Pool.dispatch, if_neg (not_not_intro running)]
        simp only [none, if_neg (Nat.not_lt.2 full), if_neg noSpace]
      simp only [Server.step?, if_pos waits, decision]
      simp [hiredEvents, assignmentEvents]
  | take found stage full =>
      simp [Server.step?, threadStep?, found, workerStep?, Worker.step?, stage, full, withPool]
  | leave found stage empty told =>
      simp [Server.step?, threadStep?, found, workerStep?, Worker.step?, stage, empty, told,
        withPool]
  | expire found stage empty untold =>
      simp [Server.step?, threadStep?, found, workerStep?, Worker.step?, stage, empty, untold,
        withPool]
  | retire found stage may =>
      simp [Server.step?, threadStep?, found, workerStep?, Worker.step?, stage,
        retire_of_mayRetire may, withPool]
  | stay found stage mayNot =>
      simp [Server.step?, threadStep?, found, workerStep?, Worker.step?, stage,
        retire_of_not_mayRetire mayNot, withPool]
  | @exchange id worker descriptor granted found stage =>
      cases granted <;>
        simp [Server.step?, threadStep?, found, workerStep?, Worker.step?, stage, withPool]
  | beginSession found stage untold =>
      simp [Server.step?, threadStep?, found, workerStep?, Worker.step?, stage, untold, withPool]
  | skipSession found stage told =>
      simp [Server.step?, threadStep?, found, workerStep?, Worker.step?, stage, told, withPool]
  | finish found stage =>
      simp [Server.step?, threadStep?, found, workerStep?, Worker.step?, stage, withPool]
  | @handOver id worker descriptor queue starts found stage running member first =>
      simp only [Server.step?, threadStep?, found, workerStep?, Worker.step?, stage,
        Option.bind_some, Option.map_some]
      rw [available_setWorker found (by simp)]
      simp only [if_pos (And.intro running member), first]
      rfl
  | @becomeFree id worker starts found stage running member none =>
      simp only [Server.step?, threadStep?, found, workerStep?, Worker.step?, stage,
        Option.bind_some, Option.map_some]
      rw [available_setWorker found (by simp)]
      simp only [if_pos (And.intro running member), none]
      rfl
  | @comeBack id worker starts found stage outside =>
      simp only [Server.step?, threadStep?, found, workerStep?, Worker.step?, stage,
        Option.bind_some, Option.map_some]
      rw [available_setWorker found (by simp)]
      simp only [if_neg outside]
      rfl

end Server

end ConnectionPool
