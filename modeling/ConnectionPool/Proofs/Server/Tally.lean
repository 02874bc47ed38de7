import ConnectionPool.Proofs.Server.Roster
import Mathlib.Data.List.Range

/-!
Contract: how many workers of a pool have a property.

Every section changes one worker or hires new ones, so a count changes by what that worker counts
for. Workers that have a property which only workers in service have are no more than those in
service.

Owns: `Pool.countWorkers` and its laws.

Does not own: the properties that are counted.
-/

namespace ConnectionPool

namespace Pool

def countWorkers (property : Worker → Bool) (pool : Pool) : Nat :=
  pool.workers.countP property

variable {property : Worker → Bool} {pool base : Pool} {worker changed : Worker} {id : WorkerId}

theorem countWorkers_of_workers (same : base.workers = pool.workers) :
    base.countWorkers property = pool.countWorkers property := by
  rw [countWorkers, countWorkers, same]

/-- A change of one worker changes the count by what that worker counts for. -/
theorem countWorkers_setWorker (property : Worker → Bool) (changed : Worker)
    (found : pool.worker? id = some worker) :
    (pool.setWorker changed id).countWorkers property + (if property worker then 1 else 0) =
      pool.countWorkers property + (if property changed then 1 else 0) := by
  cases id with
  | zero => cases found
  | succ position =>
      simp only [worker?] at found
      obtain ⟨inside, here⟩ := List.getElem?_eq_some_iff.1 found
      have counted : (if property worker then 1 else 0) ≤ pool.workers.countP property := by
        split
        · next holds =>
            exact List.countP_pos_iff.2 ⟨worker, List.mem_of_getElem? found, holds⟩
        · exact Nat.zero_le _
      simp only [countWorkers, setWorker]
      rw [List.countP_set inside, here]
      omega

theorem countWorkers_setWorker_of_eq (found : pool.worker? id = some worker)
    (same : property changed = property worker) :
    (pool.setWorker changed id).countWorkers property = pool.countWorkers property := by
  have counted := countWorkers_setWorker property changed found
  rw [same] at counted
  exact Nat.add_right_cancel counted

theorem countWorkers_updateWorker {change : Worker → Worker}
    (same : ∀ worker, property (change worker) = property worker) :
    (pool.updateWorker id change).countWorkers property = pool.countWorkers property := by
  unfold updateWorker
  cases found : pool.worker? id with
  | none => rfl
  | some worker => exact countWorkers_setWorker_of_eq found (same worker)

theorem countWorkers_hire {terms : Terms} (without : property (pool.newcomer terms) = false) :
    (pool.hire terms).countWorkers property = pool.countWorkers property := by
  simp [countWorkers, hire, without]

theorem countWorkers_hireFree {terms : Terms}
    (without : ∀ pool : Pool, property (pool.newcomer terms) = false) (count : Nat) :
    (hireFree terms count pool).countWorkers property = pool.countWorkers property := by
  induction count generalizing pool with
  | zero => rfl
  | succ count inductionHypothesis =>
      rw [hireFree, inductionHypothesis]
      exact countWorkers_hire (without pool)

/-- Not more workers than those in service have a property that only workers in service have. -/
theorem countWorkers_le_staff
    (inService : ∀ id worker, pool.worker? id = some worker → property worker = true →
      id ∈ pool.staff) : pool.countWorkers property ≤ pool.staff.length := by
  let holders : List (Worker × Nat) := (pool.workers.zipIdx 1).filter fun entry => property entry.1
  have counted : pool.countWorkers property = (holders.map Prod.snd).length := by
    rw [List.length_map, ← List.countP_eq_length_filter, countWorkers]
    conv_lhs => rw [← List.zipIdx_map_fst 1 pool.workers]
    rw [List.countP_map]
    rfl
  have nodup : (holders.map Prod.snd).Nodup := by
    have ascending : ((pool.workers.zipIdx 1).map Prod.snd).Nodup := by
      rw [List.zipIdx_map_snd]
      exact List.nodup_range'
    exact ascending.sublist (List.filter_sublist.map Prod.snd)
  have subset : holders.map Prod.snd ⊆ pool.staff := by
    intro id member
    obtain ⟨⟨worker, position⟩, held, rfl⟩ := List.mem_map.1 member
    obtain ⟨placed, holds⟩ := List.mem_filter.1 held
    obtain ⟨from1, found⟩ := List.mk_mem_zipIdx_iff_le_and_getElem?_sub.1 placed
    refine inService position worker ?_ holds
    obtain ⟨place, rfl⟩ := Nat.exists_eq_add_of_le' from1
    exact found
  rw [counted]
  exact (nodup.subperm subset).length_le

end Pool

end ConnectionPool
