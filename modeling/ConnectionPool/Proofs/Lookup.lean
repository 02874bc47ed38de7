/-!
Contract: entries that are looked up by their keys or by their positions.

Owns: what is found where the entries of one key were dropped, and where no key repeats; what a reading
of all entries shows where one of them was replaced.

Does not own: the order of the entries.
-/

namespace ConnectionPool

/-! ## Positions -/

theorem map_set_of_eq {Whole Part : Type} {read : Whole → Part} {items : List Whole} {number : Nat}
    {item changed : Whole} (found : items[number]? = some item) (same : read changed = read item) :
    (items.set number changed).map read = items.map read := by
  obtain ⟨inside, rfl⟩ := List.getElem?_eq_some_iff.1 found
  have kept := List.set_getElem_self (show number < (items.map read).length by simpa using inside)
  rwa [List.getElem_map, ← same, ← List.map_set] at kept

/-! ## Keys -/

variable {Key Value : Type} [DecidableEq Key] [BEq Key] [LawfulBEq Key]

theorem lookup_filter_ne (key other : Key) (entries : List (Key × Value)) :
    (entries.filter fun entry => entry.1 ≠ key).lookup other =
      if other = key then none else entries.lookup other := by
  induction entries with
  | nil => simp
  | cons entry entries inductionHypothesis =>
      by_cases gone : entry.1 = key
      · rw [List.filter_cons_of_neg (by simpa using gone), inductionHypothesis, List.lookup_cons]
        by_cases same : other = key
        · simp [same]
        · simp [same, beq_false_of_ne (gone ▸ same)]
      · rw [List.filter_cons_of_pos (by simpa using gone), List.lookup_cons, List.lookup_cons,
          inductionHypothesis]
        by_cases same : other = key
        · subst same
          simp [beq_false_of_ne (Ne.symm gone)]
        · simp [same]

/-- Where no key repeats, an entry is found under its key. -/
theorem lookup_eq_some_iff_mem {entries : List (Key × Value)} (distinct : (entries.map Prod.fst).Nodup) {key : Key}
    {value : Value} : entries.lookup key = some value ↔ (key, value) ∈ entries := by
  induction entries with
  | nil => simp
  | cons entry entries inductionHypothesis =>
      obtain ⟨first, found⟩ := entry
      obtain ⟨notLater, laterDistinct⟩ := List.nodup_cons.1 distinct
      rw [List.lookup_cons, List.mem_cons]
      by_cases same : key = first
      · subst same
        have notBehind : (key, value) ∉ entries := fun isBehind => notLater (List.mem_map.2 ⟨_, isBehind, rfl⟩)
        simp [notBehind, eq_comm]
      · simp [same, beq_false_of_ne same, inductionHypothesis laterDistinct]

end ConnectionPool
