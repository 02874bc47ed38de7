import ConnectionPool.Proofs.Site.Stop

/-!
Contract: a sweep on a site, in all its turns.

The threads of retired workers have left their rounds, so a sweep never waits for long: it takes over the
retired workers, claims the handle of each, finds its thread ended, and tells how many there were. Each of its
turns changes the server alone. So the whole sweep is one change of the server, and a second one finds nobody.

Owns:
- `Server.swept`, what a sweep makes of a server, and `Server.Reaped`, how that differs from before;
- `Site.sweep_eq`, the whole sweep as one equation.

Does not own: the sweep of a whole directory.
-/

namespace ConnectionPool

/-- A worker for whose thread somebody has waited. -/
def Worker.reaped (worker : Worker) : Worker :=
  { worker with hasHandle := false }

namespace Pool

variable {pool : Pool} {ids : List WorkerId} {id other : WorkerId} {worker : Worker}

/-- Somebody has waited for the threads of these workers. -/
def reap (ids : List WorkerId) (pool : Pool) : Pool :=
  ids.foldl (fun pool id => pool.updateWorker id Worker.reaped) pool

theorem reap_cons (present : pool.worker? id = some worker) :
    pool.reap (id :: ids) = (pool.setWorker worker.reaped id).reap ids := by
  simp only [reap, List.foldl_cons, updateWorker, present]

theorem exists_updateWorker_eq (pool : Pool) (id : WorkerId) (change : Worker → Worker) :
    ∃ workers, pool.updateWorker id change = { pool with workers } := by
  unfold updateWorker
  split
  · exact ⟨pool.workers, rfl⟩
  · cases id
    · exact ⟨pool.workers, rfl⟩
    · exact ⟨_, rfl⟩

theorem exists_reap_eq (pool : Pool) (ids : List WorkerId) :
    ∃ workers, pool.reap ids = { pool with workers } := by
  induction ids generalizing pool with
  | nil => exact ⟨pool.workers, rfl⟩
  | cons id ids inductionHypothesis =>
      obtain ⟨moved, isMoved⟩ := pool.exists_updateWorker_eq id Worker.reaped
      obtain ⟨workers, isLast⟩ := inductionHypothesis (pool.updateWorker id Worker.reaped)
      rw [isMoved] at isLast
      refine ⟨workers, Eq.trans ?_ isLast⟩
      rw [← isMoved]
      rfl

theorem worker?_reap (pool : Pool) (ids : List WorkerId) (other : WorkerId) :
    (pool.reap ids).worker? other =
      if other ∈ ids then (pool.worker? other).map Worker.reaped else pool.worker? other := by
  induction ids generalizing pool with
  | nil => rfl
  | cons id ids inductionHypothesis =>
      have first := inductionHypothesis (pool.updateWorker id Worker.reaped)
      rw [worker?_updateWorker] at first
      refine first.trans ?_
      by_cases same : other = id
      · subst same
        cases pool.worker? other <;> simp [Worker.reaped]
      · simp [same]

end Pool

namespace Server

/-- A server behind a sweep that nobody disturbed. -/
def swept (server : Server) : Server :=
  { server with pool := Pool.reap server.pool.retired { server.pool with retired := [] } }

/-- Nobody is retired any more, and somebody has waited for the threads of those who were. Nothing else has
changed. -/
structure Reaped (before after : Server) : Prop where
  retired : after.pool.retired = []
  workers : ∀ id, after.pool.worker? id =
    if id ∈ before.pool.retired then
      (before.pool.worker? id).map fun worker => { worker with hasHandle := false }
    else before.pool.worker? id
  others : after = { before with
    pool := { before.pool with retired := [], workers := after.pool.workers } }

variable {server : Server}

theorem swept_pool (server : Server) : server.swept.pool =
    { server.pool with retired := [], workers := server.swept.pool.workers } := by
  obtain ⟨workers, isReaped⟩ :=
    Pool.exists_reap_eq { server.pool with retired := [] } server.pool.retired
  have isSwept : server.swept.pool = { server.pool with retired := [], workers } := isReaped
  rw [isSwept]

theorem reaped_swept (server : Server) : server.Reaped server.swept where
  retired := by rw [swept_pool]
  workers := fun id => by
    refine (Pool.worker?_reap { server.pool with retired := [] } server.pool.retired id).trans ?_
    have same : Pool.worker? { server.pool with retired := [] } id = server.pool.worker? id :=
      Pool.worker?_of_workers rfl id
    rw [same]
    rfl
  others := by
    rw [← swept_pool]
    rfl

theorem swept_of_none (none : server.pool.retired = []) : server.swept = server := by
  rw [swept, none]
  obtain ⟨⟨lifecycle, free, staff, retired, queue, workers, forked⟩, _⟩ := server
  obtain rfl : retired = [] := none
  rfl

/-- The threads of retired workers have left their rounds. -/
theorem Sound.allEnded_retired {terms : Terms} (sound : Sound terms server) :
    Site.AllEnded server.pool.retired server.pool := by
  intro id member
  obtain ⟨worker, present⟩ := (sound.roster.retired_known id member).exists_worker
  have outside := (sound.duty id worker present).outside (sound.roster.retired_outside id member)
  exact ⟨worker, present, sound.ended present outside.2⟩

end Server

namespace Site

variable {site : Site} {position : Nat} {live : LiveServer} {server : Server}
  {ids held : List WorkerId}

/-! ## A sweep -/

/-- A server with one sweep in progress. -/
def sweeping (held left : List WorkerId) (pool : Pool) (server : Server) : Server :=
  { server with pool, sweeps := [{ caller, held, left }] }

/-- A sweep claims the handle of a worker and finds its thread ended, or finds the handle claimed. -/
theorem sweep_one {id : WorkerId} {pool : Pool} {worker : Worker}
    (found : site.servers[position]? = some { live with server := sweeping held (id :: ids) pool server })
    (present : pool.worker? id = some worker) (ended : worker.Ended) :
    site.turns position [.sweepClaim 0, .sweepJoined 0] =
      site.replaceServer position (sweeping held ids (pool.setWorker worker.reaped id) server) := by
  let current := if worker.hasHandle then some id else none
  let claimed : Server := { server with
    pool := pool.setWorker worker.reaped id
    sweeps := [{ caller, held, left := ids, current }] }
  have claim : Server.Step live.terms (sweeping held (id :: ids) pool server) (.sweepClaim 0) [] claimed :=
    @Server.Step.sweepClaim live.terms _ 0 { caller, held, left := id :: ids } id ids worker rfl rfl rfl
      present
  have claims := turn_eq_of_silent found claim nofun
  have foundThen := getElem?_replaceServer found claimed
  show ((site.turn position (.sweepClaim 0)).2.turn position (.sweepJoined 0)).2 = _
  rw [claims]
  dsimp only
  cases handle : worker.hasHandle with
  | true =>
      have known : claimed.pool.worker? id = some worker.reaped :=
        Pool.worker?_setWorker_self _ present rfl
      have join : Server.Step live.terms claimed (.sweepJoined 0) [] _ :=
        .sweepJoined (rfl : [_][0]? = some _) (by simp [current, handle]) known (ended.handle handle)
      rw [turn_eq_of_silent foundThen join nofun, replaceServer_replaceServer]
      rfl
  | false =>
      have idle : current = none := by simp [current, handle]
      have nothing : claimed.step? live.terms (.sweepJoined 0) = none := by
        simp only [Server.step?, claimed, idle]
        rfl
      rw [turn_eq_of_none foundThen nothing]
      simp only [claimed, idle]
      rfl

/-- A sweep waits for all the workers that are left to it. -/
theorem sweep_all {pool : Pool}
    (found : site.servers[position]? = some { live with server := sweeping held ids pool server })
    (ended : AllEnded ids pool) :
    site.turns position (List.replicate ids.length [Label.sweepClaim 0, .sweepJoined 0]).flatten =
      site.replaceServer position (sweeping held [] (pool.reap ids) server) := by
  induction ids generalizing site pool with
  | nil => exact (replaceServer_self found).symm
  | cons id ids inductionHypothesis =>
      obtain ⟨worker, present, endedHere⟩ := ended id List.mem_cons_self
      have endedThen : AllEnded ids (pool.setWorker worker.reaped id) := ended.claimed present
      rw [List.length_cons, List.replicate_succ, List.flatten_cons, turns_append,
        sweep_one found present endedHere, Pool.reap_cons present,
        inductionHypothesis (getElem?_replaceServer found _) endedThen,
        replaceServer_replaceServer]

/-- A sweep that nothing else disturbs is one change of its server, and tells how many workers had retired. -/
theorem sweep_eq (found : site.servers[position]? = some live)
    (ended : AllEnded live.server.pool.retired live.server.pool) (alone : live.server.sweeps = []) :
    site.sweep position =
      (live.server.pool.retired.length, site.replaceServer position live.server.swept) := by
  let held := live.server.pool.retired
  let pool : Pool := { live.server.pool with retired := [] }
  have began : site.turn position (.beginSweep caller) =
      ([], site.replaceServer position (sweeping held held pool live.server)) := by
    rw [turn_eq_of_silent found .beginSweep nofun, alone]
    rfl
  have foundThen := getElem?_replaceServer found (sweeping held held pool live.server)
  have endedThen : AllEnded held pool := fun id member => by
    obtain ⟨worker, present, isEnded⟩ := ended id member
    exact ⟨worker, (Pool.worker?_of_workers rfl id).trans present, isEnded⟩
  have foundLast := getElem?_replaceServer found (sweeping held [] (pool.reap held) live.server)
  have ends : Server.Step live.terms (sweeping held [] (pool.reap held) live.server) (.endSweep 0) _ _ :=
    .endSweep (rfl : [_][0]? = some _) rfl rfl
  have answers := turn_eq_of_silent foundLast ends (by simp [observe])
  simp only [sweep, found, began]
  rw [sweep_all foundThen endedThen, replaceServer_replaceServer, answers, replaceServer_replaceServer]
  refine Prod.ext rfl ?_
  show site.replaceServer position { live.server with pool := pool.reap held, sweeps := [] } = _
  rw [← alone]
  rfl

/-- A sweep that finds nobody changes nothing. -/
theorem sweep_of_none_retired (found : site.servers[position]? = some live)
    (none : live.server.pool.retired = []) (alone : live.server.sweeps = []) :
    site.sweep position = (0, site) := by
  have ended : AllEnded live.server.pool.retired live.server.pool := by
    rw [none]
    exact nofun
  rw [sweep_eq found ended alone, Server.swept_of_none none, none, replaceServer_self found]
  rfl

end Site

end ConnectionPool
