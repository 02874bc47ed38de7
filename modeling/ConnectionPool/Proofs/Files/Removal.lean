import ConnectionPool.Proofs.Files.Tree

/-!
Contract: what becomes of the objects of a tree when sockets come and go.

Owns:
- the objects of a tree behind `erase` and `orphan`;
- `Spares`, a change that removes nothing but sockets, and that binding a socket and removing a stale one are
  such changes;
- `TakesAway`, a change that removes one object, and that removing a file is one.

Does not own: who removes files, and why.
-/

namespace ConnectionPool

def FileNode.isSocket : FileNode → Bool
  | .socket _ => true
  | _ => false

namespace FileTree

variable {tree cleared bound after : FileTree} {place other : Place} {path : String} {node : FileNode}
  {listener : Nat}

/-! ## Objects -/

theorem node?_erase_of_ne (differs : other ≠ place) :
    (tree.erase place).node? other = tree.node? other := by
  unfold node? erase
  split
  · rfl
  · exact (lookup_filter_ne place other tree.nodes).trans (if_neg differs)

theorem node?_erase_self (removable : tree.node? place ≠ some .directory) :
    (tree.erase place).node? place = none := by
  unfold node? at removable ⊢
  split at removable
  · exact absurd rfl removable
  · next notFixed =>
      rw [if_neg notFixed]
      exact (lookup_filter_ne place place tree.nodes).trans (if_pos rfl)

/-- The object after the listener went away. -/
def orphaned (listener : Nat) (node : FileNode) : FileNode :=
  if node = .socket (some listener) then .socket none else node

theorem node?_orphan (listener : Nat) (tree : FileTree) (place : Place) :
    (tree.orphan listener).node? place = (tree.node? place).map (orphaned listener) := by
  unfold node? orphan
  split
  · rfl
  · induction tree.nodes with
    | nil => rfl
    | cons entry nodes inductionHypothesis =>
        rw [List.map_cons, List.lookup_cons, List.lookup_cons]
        by_cases isSocket : entry.2 = .socket (some listener)
        · rw [if_pos isSocket]
          cases place == entry.1 with
          | true => simp [orphaned, isSocket]
          | false => exact inductionHypothesis
        · rw [if_neg isSocket]
          cases place == entry.1 with
          | true => simp [orphaned, isSocket]
          | false => exact inductionHypothesis

theorem orphaned_of_not_socket (notSocket : node.isSocket = false) : orphaned listener node = node := by
  unfold orphaned
  split
  · next isSocket => cases (isSocket ▸ notSocket : FileNode.isSocket (.socket (some listener)) = false)
  · rfl

theorem orphaned_socket (listener : Nat) (behind : Option Nat) :
    ∃ left, orphaned listener (.socket behind) = .socket left := by
  unfold orphaned
  split
  · exact ⟨none, rfl⟩
  · exact ⟨behind, rfl⟩

/-- A path leads to the same place, because directories stay directories and nothing becomes one. -/
theorem follow_orphan (listener : Nat) (tree : FileTree) (start : Place) (parts : List (List Char)) :
    (tree.orphan listener).follow start parts = tree.follow start parts := by
  induction parts generalizing start with
  | nil => rfl
  | cons part parts inductionHypothesis =>
      unfold follow
      rw [node?_orphan]
      cases tree.node? start with
      | none => rfl
      | some node =>
          cases node with
          | directory => simp only [Option.map_some, orphaned, reduceCtorEq, if_false,
              inductionHypothesis]
          | regular content => rfl
          | link => rfl
          | socket behind =>
              obtain ⟨left, isSocket⟩ := orphaned_socket listener behind
              rw [Option.map_some, isSocket]

theorem locate_orphan (listener : Nat) (tree : FileTree) (path : String) :
    (tree.orphan listener).locate path = tree.locate path := by
  unfold locate
  simp only [follow_orphan]

/-! ## Changes that remove nothing but sockets -/

/-- Whatever is no socket stays where it is. -/
def Spares (before after : FileTree) : Prop :=
  ∀ place node, before.node? place = some node → node.isSocket = false →
    after.node? place = some node

theorem Spares.refl (tree : FileTree) : Spares tree tree :=
  fun _ _ standing _ => standing

theorem Spares.trans {before between after : FileTree} (first : Spares before between)
    (second : Spares between after) : Spares before after :=
  fun place node standing notSocket => second place node (first place node standing notSocket) notSocket

theorem spares_put (free : tree.node? place = none) : Spares tree (tree.put place node) := by
  intro other standing isNode _
  have differs : other ≠ place := by
    rintro rfl
    cases free.symm.trans isNode
  rw [node?_put_of_ne differs, isNode]

theorem spares_erase_socket {behind : Option Nat} (isSocket : tree.node? place = some (.socket behind)) :
    Spares tree (tree.erase place) := by
  intro other standing isNode notSocket
  have differs : other ≠ place := by
    rintro rfl
    cases isSocket.symm.trans isNode
    cases notSocket
  rw [node?_erase_of_ne differs, isNode]

theorem spares_orphan (listener : Nat) (tree : FileTree) : Spares tree (tree.orphan listener) := by
  intro place node isNode notSocket
  rw [node?_orphan, isNode, Option.map_some, orphaned_of_not_socket notSocket]

/-! ## Removing a file -/

/-- The object at a place is removed; all others stay. -/
structure TakesAway (place : Place) (before after : FileTree) : Prop where
  gone : after.node? place = none
  others : ∀ other, other ≠ place → after.node? other = before.node? other

theorem takesAway_erase (removable : tree.node? place ≠ some .directory) :
    TakesAway place tree (tree.erase place) where
  gone := node?_erase_self removable
  others _ differs := node?_erase_of_ne differs

/-- A file is removed wherever the path leads to one; directories cannot be removed in this way. -/
theorem removeFile_eq_ok_iff : tree.removeFile path = .ok after ↔
    ∃ place node, tree.locate path = .ok place ∧ tree.node? place = some node ∧
      node ≠ .directory ∧ after = tree.erase place := by
  unfold removeFile
  cases tree.locate path with
  | error cause => simp [Except.bind]
  | ok place =>
      simp only [Except.bind, Except.ok.injEq, exists_and_left, exists_eq_left']
      cases tree.node? place with
      | none => simp
      | some node => cases node <;> simp [eq_comm]

/-! ## Listening -/

theorem look_eq_socket {behind : Option Nat} (isSocket : tree.look path = .ok (some (.socket behind))) :
    ∃ place, tree.locate path = .ok place ∧ tree.node? place = some (.socket behind) := by
  unfold look at isSocket
  cases located : tree.locate path with
  | error cause =>
      rw [located] at isSocket
      cases isSocket
  | ok place =>
      rw [located] at isSocket
      simp only [Except.bind] at isSocket
      refine ⟨place, rfl, ?_⟩
      split at isSocket
      · cases isSocket
      · next node isNode =>
          split at isSocket
          · cases isSocket
          · cases isSocket
            exact isNode
      · cases isSocket

/-- A stale socket is removed only where a socket stands. -/
theorem spares_removeStaleSocket (removed : tree.removeStaleSocket path = .ok cleared) :
    Spares tree cleared := by
  unfold removeStaleSocket at removed
  split at removed
  · cases removed
    exact .refl tree
  · cases removed
  · cases removed
    exact .refl tree
  · next behind isSocket =>
      obtain ⟨place, located, standing⟩ := look_eq_socket isSocket
      split at removed
      · cases removed
      · obtain ⟨other, node, located', _, _, rfl⟩ := removeFile_eq_ok_iff.1 removed
        cases located.symm.trans located'
        exact spares_erase_socket standing
  · cases removed

/-- A socket is bound where nothing stands. -/
theorem put_of_bindSocket (isBound : tree.bindSocket listener path = .ok bound) :
    ∃ place, tree.locate path = .ok place ∧ tree.node? place = none ∧
      bound = tree.put place (.socket (some listener)) := by
  cases located : tree.locate path with
  | error cause =>
      simp only [bindSocket, located, Except.bind] at isBound
      split_ifs at isBound
  | ok place =>
      refine ⟨place, rfl, ?_⟩
      cases isNode : tree.node? place with
      | some node =>
          simp only [bindSocket, located, isNode, Except.bind] at isBound
          split_ifs at isBound
      | none =>
          simp only [bindSocket, located, isNode, Except.bind] at isBound
          split_ifs at isBound
          cases isBound
          exact ⟨rfl, rfl⟩

/-- Behind the binding the path leads to the socket. -/
theorem holds_of_bindSocket (isBound : tree.bindSocket listener path = .ok bound) :
    ∃ place, bound.locate path = .ok place ∧ bound.node? place = some (.socket (some listener)) := by
  obtain ⟨place, located, free, rfl⟩ := put_of_bindSocket isBound
  have notDirectory : tree.node? place ≠ some .directory := by simp [free]
  exact ⟨place, locate_put notDirectory located, node?_put_self notDirectory⟩

end FileTree

end ConnectionPool
