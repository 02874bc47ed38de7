import ConnectionPool.Files.Tree
import ConnectionPool.Proofs.Lookup
import Mathlib.Tactic.SplitIfs

/-!
Contract: what a change to a tree of files leaves as it is.

Owns:
- the objects of a tree behind `put`, and the paths that lead to the same places as before;
- `read_of_write`, a file that was written holds what was written;
- `KeepsFiles`, a change that neither makes nor alters a file, and that making directories is one.

Does not own: sockets and removals.
-/

namespace ConnectionPool.FileTree

section

variable {tree : FileTree} {place other : Place} {node : FileNode}

theorem node?_put_of_ne (differs : other ≠ place) :
    (tree.put place node).node? other = tree.node? other := by
  have notPlace : (other == place) = false := by simpa using differs
  unfold node? put
  split
  · rfl
  · simp only [List.lookup_cons, notPlace]
    exact (lookup_filter_ne place other tree.nodes).trans (if_neg differs)

/-- What is put where no directory stands is there afterwards. -/
theorem node?_put_self (free : tree.node? place ≠ some .directory) :
    (tree.put place node).node? place = some node := by
  unfold node? at free ⊢
  split at free
  · exact absurd rfl free
  · next notFixed => simp [notFixed, put]

/-- A path leads where it led when something is put where no directory stands. -/
theorem follow_put (free : tree.node? place ≠ some .directory) {start found : Place}
    {parts : List (List Char)} (followed : tree.follow start parts = .ok found) :
    (tree.put place node).follow start parts = .ok found := by
  induction parts generalizing start with
  | nil => exact followed
  | cons part parts inductionHypothesis =>
      unfold follow at followed ⊢
      cases isNode : tree.node? start with
      | none => simp [isNode] at followed
      | some standing =>
          cases standing with
          | directory =>
              have differs : start ≠ place := by
                rintro rfl
                exact free isNode
              have stays : (tree.put place node).node? start = some .directory := by
                rw [node?_put_of_ne differs, isNode]
              simp only [isNode, stays] at followed ⊢
              split_ifs at followed ⊢ with isParent isLong
              · exact inductionHypothesis followed
              · exact inductionHypothesis followed
          | regular content => simp [isNode] at followed
          | socket listener => simp [isNode] at followed
          | link => simp [isNode] at followed

theorem locate_put (free : tree.node? place ≠ some .directory) {path : String} {found : Place}
    (located : tree.locate path = .ok found) : (tree.put place node).locate path = .ok found := by
  unfold locate at located ⊢
  dsimp only at located ⊢
  split_ifs at located ⊢ with hasNul isEmpty
  all_goals exact follow_put free located

end

section

variable {tree after : FileTree} {path : String} {content : Bytes}

/-- Where a file was written, neither a directory nor a socket stood, and the path did not ask for a
directory. -/
theorem put_of_write (written : tree.write path content = .ok after) :
    ∃ place, tree.locate path = .ok place ∧ tree.node? place ≠ some .directory ∧
      Path.endsInSlash path.toList = false ∧ after = tree.put place (.regular content) := by
  unfold write at written
  cases located : tree.locate path with
  | error cause =>
      rw [located] at written
      cases written
  | ok place =>
      rw [located] at written
      simp only [Except.bind] at written
      refine ⟨place, rfl, ?_⟩
      split at written
      · cases written
      · cases written
      · next notDirectory notSocket =>
          split_ifs at written with asksDirectory
          cases written
          exact ⟨notDirectory, by simpa using asksDirectory, rfl⟩

theorem read_of_file {place : Place} (located : tree.locate path = .ok place)
    (isFile : tree.node? place = some (.regular content))
    (plain : Path.endsInSlash path.toList = false) : tree.read path = .ok content := by
  simp [read, look, located, isFile, plain, Except.bind]

/-- A file that was written holds what was written. -/
theorem read_of_write (written : tree.write path content = .ok after) :
    after.read path = .ok content := by
  obtain ⟨place, located, free, plain, isAfter⟩ := put_of_write written
  subst isAfter
  exact read_of_file (locate_put free located) (node?_put_self free) plain

/-- Whether a file can be written does not depend on its content. -/
theorem write_ok_of_write_ok (written : tree.write path content = .ok after) (other : Bytes) :
    ∃ otherAfter, tree.write path other = .ok otherAfter := by
  unfold write at written ⊢
  cases located : tree.locate path with
  | error cause =>
      rw [located] at written
      cases written
  | ok place =>
      rw [located] at written
      simp only [Except.bind] at written ⊢
      split at written
      · cases written
      · cases written
      · split_ifs at written ⊢ with asksDirectory
        exact ⟨_, rfl⟩

end

/-! ## Making directories -/

/-- The files are the same ones with the same content, directories stay, and whatever file a path led to, it
still leads to. -/
structure KeepsFiles (before after : FileTree) : Prop where
  files : ∀ place content,
    after.node? place = some (.regular content) ↔ before.node? place = some (.regular content)
  directories : ∀ place, before.node? place = some .directory → after.node? place = some .directory
  reads : ∀ path content, before.read path = .ok content → after.read path = .ok content

namespace KeepsFiles

theorem refl (tree : FileTree) : KeepsFiles tree tree where
  files _ _ := Iff.rfl
  directories _ isDirectory := isDirectory
  reads _ _ isRead := isRead

theorem trans {before between after : FileTree} (first : KeepsFiles before between)
    (second : KeepsFiles between after) : KeepsFiles before after where
  files place content := (second.files place content).trans (first.files place content)
  directories place isDirectory := second.directories place (first.directories place isDirectory)
  reads path content isRead := second.reads path content (first.reads path content isRead)

end KeepsFiles

section

variable {tree after : FileTree} {path : String} {place : Place}

/-- What a path leads to when a file can be read there. -/
theorem file_of_read {content : Bytes} (isRead : tree.read path = .ok content) :
    ∃ place, tree.locate path = .ok place ∧ tree.node? place = some (.regular content) ∧
      Path.endsInSlash path.toList = false := by
  unfold read look at isRead
  cases located : tree.locate path with
  | error cause =>
      rw [located] at isRead
      cases isRead
  | ok place =>
      rw [located] at isRead
      simp only [Except.bind] at isRead
      refine ⟨place, rfl, ?_⟩
      cases isNode : tree.node? place with
      | none => simp [isNode] at isRead
      | some node =>
          rw [isNode] at isRead
          cases node with
          | directory => cases isRead
          | regular standing =>
              dsimp only at isRead
              split_ifs at isRead with asksDirectory
              cases isRead
              exact ⟨rfl, by simpa using asksDirectory⟩
          | socket listener =>
              dsimp only at isRead
              split_ifs at isRead
          | link =>
              dsimp only at isRead
              split_ifs at isRead

theorem keepsFiles_put_directory (free : tree.node? place = none) :
    KeepsFiles tree (tree.put place .directory) := by
  have notDirectory : tree.node? place ≠ some .directory := by simp [free]
  have isMade : (tree.put place .directory).node? place = some .directory := node?_put_self notDirectory
  have filesKept : ∀ other content, (tree.put place .directory).node? other = some (.regular content) ↔
      tree.node? other = some (.regular content) := by
    intro other content
    by_cases isPlace : other = place
    · rw [isPlace, isMade, free]
      simp
    · rw [node?_put_of_ne isPlace]
  refine ⟨filesKept, ?_, ?_⟩
  · intro other isDirectory
    have differs : other ≠ place := by
      rintro rfl
      exact notDirectory isDirectory
    rw [node?_put_of_ne differs, isDirectory]
  · intro path content isRead
    obtain ⟨other, located, isFile, plain⟩ := file_of_read isRead
    exact read_of_file (locate_put notDirectory located) ((filesKept other content).mpr isFile) plain

theorem keepsFiles_of_makeDirectory (made : tree.makeDirectory path = .ok after) :
    KeepsFiles tree after := by
  unfold makeDirectory at made
  cases located : tree.locate path with
  | error cause =>
      rw [located] at made
      cases made
  | ok place =>
      rw [located] at made
      simp only [Except.bind] at made
      split at made
      · cases made
      · next free =>
          cases made
          exact keepsFiles_put_directory free

/-- Directories that are made, even if not all of them can be, keep the files. -/
theorem keepsFiles_makeDirectoriesFor (tree : FileTree) (depth : Nat) (path : List Char) :
    KeepsFiles tree (tree.makeDirectoriesFor depth path).2 := by
  induction depth generalizing tree path with
  | zero => exact .refl tree
  | succ depth inductionHypothesis =>
      unfold makeDirectoriesFor
      split
      · exact .refl tree
      · dsimp only
        split
        · next made => exact keepsFiles_of_makeDirectory made
        · split
          · exact .refl tree
          · next parent _ =>
              have aroundKept := inductionHypothesis tree parent
              split
              · next failed =>
                  rw [failed] at aroundKept
                  exact aroundKept
              · next around isAround =>
                  rw [isAround] at aroundKept
                  split
                  · next made => exact aroundKept.trans (keepsFiles_of_makeDirectory made)
                  · exact aroundKept
        · exact .refl tree

theorem keepsFiles_makeDirectories (tree : FileTree) (path : String) :
    KeepsFiles tree (tree.makeDirectories path).2 :=
  keepsFiles_makeDirectoriesFor tree _ _

end

end ConnectionPool.FileTree
