import ConnectionPool.Directory

/-!
Contract: which names a directory has after a change.

Owns: the names after `place` and `add`, and when a name is found.

Does not own: what an entry stands for.
-/

namespace ConnectionPool.Directory

variable {Entry : Type} {directory : Directory Entry} {name : String}

theorem place_perm (name : String) (entry : Entry) (entries : List (String × Entry)) :
    (place name entry entries).Perm ((name, entry) :: entries) := by
  induction entries with
  | nil => exact .refl _
  | cons head tail inductionHypothesis =>
      unfold place
      split
      · exact .refl _
      · exact (inductionHypothesis.cons head).trans (.swap _ _ tail)

theorem find?_eq_none_iff : directory.find? name = none ↔ name ∉ directory.names := by
  unfold find? names
  rw [List.lookup_eq_none_iff]
  constructor
  · intro differs listed
    obtain ⟨item, isItem, isName⟩ := List.mem_map.1 listed
    simpa [isName] using differs item isItem
  · intro absent item isItem
    have differs : name ≠ item.1 := fun same => absent (List.mem_map.2 ⟨item, isItem, same.symm⟩)
    simpa using differs

/-- Where no name occurs twice, a name leads to its entry. -/
theorem find?_of_mem {entry : Entry} (distinct : directory.names.Nodup)
    (listed : (name, entry) ∈ directory.entries) : directory.find? name = some entry := by
  obtain ⟨entries, default⟩ := directory
  unfold find? names at *
  induction entries with
  | nil => cases listed
  | cons head tail inductionHypothesis =>
      rw [List.map_cons, List.nodup_cons] at distinct
      rcases List.mem_cons.1 listed with rfl | behind
      · exact List.lookup_cons_self
      · have differs : (name == head.1) = false :=
          beq_eq_false_iff_ne.2 fun same => distinct.1 (same ▸ List.mem_map_of_mem behind)
        rw [List.lookup_cons, differs]
        exact inductionHypothesis distinct.2 behind

/-- Removing a name that leads to an entry leaves the other names as they are. -/
theorem remove_of_find? {entry : Entry} (found : directory.find? name = some entry) :
    ∃ rest, directory.remove name = some (entry, rest) ∧
      rest.entries = directory.entries.filter fun item => item.1 ≠ name :=
  ⟨_, by rw [remove, found]; rfl, rfl⟩

/-- The names behind an addition: those before it and the new one. -/
theorem names_perm_of_place (directory : Directory Entry) (name : String) (entry : Entry)
    (default : Option String) :
    (names { entries := place name entry directory.entries, default }).Perm (name :: directory.names) :=
  (place_perm name entry directory.entries).map Prod.fst

theorem setDefault_of_mem (listed : name ∈ directory.names) :
    directory.setDefault name = .ok { directory with default := some name } := by
  unfold setDefault
  split
  · rfl
  · next notFound => exact absurd listed (find?_eq_none_iff.1 notFound)

end ConnectionPool.Directory
