import ConnectionPool.Descriptor

/-!
Contract: the table of accepted connections that nobody has taken out yet.

Connections have numbers. One is parked under its descriptor until somebody takes it out: to serve it, to
refuse it or to close it. The table holds one connection under each descriptor, and whoever parks another
one there gets the older one back.

Owns: the type `Parked` with `Parked.park` and `Parked.take`, and their laws.

Does not own: who parks connections, who takes them out, and what the numbers stand for.
-/

namespace ConnectionPool

structure Parked where
  entries : List (Descriptor × Nat) := []
  nodup : (entries.map Prod.fst).Nodup := by exact .nil
deriving Repr

namespace Parked

def keys (parked : Parked) : List Descriptor :=
  parked.entries.map Prod.fst

def find? (descriptor : Descriptor) (parked : Parked) : Option Nat :=
  parked.entries.lookup descriptor

def without (descriptor : Descriptor) (parked : Parked) : Parked where
  entries := parked.entries.filter fun entry => entry.1 ≠ descriptor
  nodup := parked.nodup.sublist (List.filter_sublist.map Prod.fst)

theorem not_mem_keys_without (descriptor : Descriptor) (parked : Parked) :
    descriptor ∉ (parked.without descriptor).keys := by
  intro member
  obtain ⟨entry, kept, same⟩ := List.mem_map.1 member
  exact of_decide_eq_true (List.mem_filter.1 kept).2 same

/-- Parks a connection, and tells which one was parked there before. -/
def park (descriptor : Descriptor) (number : Nat) (parked : Parked) : Option Nat × Parked :=
  (parked.find? descriptor,
    { entries := (descriptor, number) :: (parked.without descriptor).entries
      nodup := List.nodup_cons.2
        ⟨parked.not_mem_keys_without descriptor, (parked.without descriptor).nodup⟩ })

/-- Takes the connection of a descriptor out, if there is one. -/
def take (descriptor : Descriptor) (parked : Parked) : Option Nat × Parked :=
  (parked.find? descriptor, parked.without descriptor)

variable {parked : Parked} {descriptor other : Descriptor} {number : Nat}

theorem nodup_keys (parked : Parked) : parked.keys.Nodup :=
  parked.nodup

theorem keys_without (descriptor : Descriptor) (parked : Parked) :
    (parked.without descriptor).keys = parked.keys.filter fun key => key ≠ descriptor := by
  rw [keys, keys, List.filter_map]
  rfl

theorem find?_eq_none_iff : parked.find? descriptor = none ↔ descriptor ∉ parked.keys := by
  rw [find?, List.lookup_eq_none_iff, keys, List.mem_map]
  constructor
  · rintro absent ⟨entry, member, rfl⟩
    exact bne_iff_ne.1 (absent entry member) rfl
  · intro absent entry member
    exact bne_iff_ne.2 fun same => absent ⟨entry, member, same.symm⟩

theorem find?_isSome_iff : (parked.find? descriptor).isSome ↔ descriptor ∈ parked.keys := by
  rw [← Option.ne_none_iff_isSome, ne_eq, find?_eq_none_iff, Decidable.not_not]

theorem find?_without (descriptor other : Descriptor) (parked : Parked) :
    (parked.without descriptor).find? other =
      if other = descriptor then none else parked.find? other := by
  split
  · next same =>
      subst same
      exact find?_eq_none_iff.2 (parked.not_mem_keys_without other)
  · next different =>
      show (parked.entries.filter fun entry => entry.1 ≠ descriptor).lookup other =
        parked.entries.lookup other
      induction parked.entries with
      | nil => rfl
      | cons entry entries inductionHypothesis =>
          by_cases gone : entry.1 = descriptor
          · rw [List.filter_cons_of_neg (by simpa using gone), inductionHypothesis,
              List.lookup_cons, beq_false_of_ne (gone ▸ different)]
          · rw [List.filter_cons_of_pos (by simpa using gone), List.lookup_cons, List.lookup_cons,
              inductionHypothesis]

theorem find?_park (descriptor other : Descriptor) (number : Nat) (parked : Parked) :
    (parked.park descriptor number).2.find? other =
      if other = descriptor then some number else parked.find? other := by
  have rest := parked.find?_without descriptor other
  show ((descriptor, number) :: (parked.without descriptor).entries).lookup other = _
  rw [List.lookup_cons]
  by_cases same : other = descriptor
  · simp [same]
  · rw [if_neg same] at rest ⊢
    rw [beq_false_of_ne same]
    exact rest

/-- Where nothing was parked, parking adds the descriptor. -/
theorem perm_keys_park (new : parked.find? descriptor = none) (number : Nat) :
    (parked.park descriptor number).2.keys.Perm (descriptor :: parked.keys) := by
  have same : (parked.without descriptor).keys = parked.keys := by
    rw [keys_without]
    refine List.filter_eq_self.2 fun key member => decide_eq_true fun gone => ?_
    exact find?_eq_none_iff.1 new (gone ▸ member)
  show (descriptor :: (parked.without descriptor).keys).Perm _
  rw [same]

/-- Taking out what was found takes its descriptor away. -/
theorem perm_keys_take (found : parked.find? descriptor = some number) :
    parked.keys.Perm (descriptor :: (parked.take descriptor).2.keys) := by
  have member : descriptor ∈ parked.keys :=
    find?_isSome_iff.1 (by rw [found]; rfl)
  have same : (parked.take descriptor).2.keys = parked.keys.erase descriptor := by
    show (parked.without descriptor).keys = _
    rw [keys_without, parked.nodup_keys.erase_eq_filter]
    refine List.filter_congr fun key _ => ?_
    rw [Bool.eq_iff_iff, decide_eq_true_iff, bne_iff_ne]
  rw [same]
  exact List.perm_cons_erase member

end Parked

end ConnectionPool
