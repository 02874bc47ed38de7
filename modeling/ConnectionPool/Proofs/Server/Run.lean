import ConnectionPool.Proofs.Server.Step

/-!
Contract: finite interleavings of the turns of one server.

`Server.Path` keeps the turns that lead from one server to another, each with what it showed; a
`Server.Run` is a path from a new server. What every turn keeps holds along every path.

Owns:
- the type `Turn` and the relations `Server.Path` and `Server.Run`;
- their agreement with `Server.run?`.

Does not own: which properties every turn keeps.
-/

namespace ConnectionPool

/-- A turn that was taken, and what it showed. -/
structure Turn where
  label : Label
  events : List Event
deriving DecidableEq, Repr

/-- What some turns showed, in the order of the turns. -/
def shown (turns : List Turn) : List Event :=
  turns.flatMap Turn.events

@[simp] theorem shown_nil : shown [] = [] :=
  rfl

@[simp] theorem shown_append (front back : List Turn) :
    shown (front ++ back) = shown front ++ shown back := by
  simp [shown]

@[simp] theorem shown_singleton (turn : Turn) : shown [turn] = turn.events := by
  simp [shown]

namespace Server

/-- Some turns lead from one server to another. -/
inductive Path (terms : Terms) (first : Server) : List Turn → Server → Prop where
  | refl : Path terms first [] first
  | turn {turns : List Turn} {last next : Server} {label : Label} {events : List Event}
      (before : Path terms first turns last) (step : Step terms last label events next) :
      Path terms first (turns ++ [⟨label, events⟩]) next

/-- Some turns lead from a new server to this one. -/
abbrev Run (terms : Terms) (turns : List Turn) (server : Server) : Prop :=
  Path terms {} turns server

variable {terms : Terms} {first middle last : Server} {turns more : List Turn}

theorem Path.append (front : Path terms first turns middle) (back : Path terms middle more last) :
    Path terms first (turns ++ more) last := by
  induction back with
  | refl => rwa [List.append_nil]
  | turn _ step inductionHypothesis =>
      rw [← List.append_assoc]
      exact .turn inductionHypothesis step

theorem Path.eq_of_nil (path : Path terms first [] last) : last = first := by
  generalize none : [] = turns at path
  cases path with
  | refl => rfl
  | turn => cases (List.append_eq_nil_iff.1 none.symm).2

/-- The last turn of a path. -/
theorem Path.exists_last {turn : Turn} (path : Path terms first (turns ++ [turn]) last) :
    ∃ middle, Path terms first turns middle ∧ Step terms middle turn.label turn.events last := by
  generalize whole : turns ++ [turn] = all at path
  cases path with
  | refl => cases (List.append_eq_nil_iff.1 whole).2
  | turn before step =>
      obtain ⟨rfl, same⟩ := List.append_inj' whole rfl
      cases same
      exact ⟨_, before, step⟩

theorem Path.split {front back : List Turn} (path : Path terms first (front ++ back) last) :
    ∃ middle, Path terms first front middle ∧ Path terms middle back last := by
  generalize whole : front ++ back = all at path
  induction path generalizing back with
  | refl =>
      obtain ⟨rfl, rfl⟩ := List.append_eq_nil_iff.1 whole
      exact ⟨first, .refl, .refl⟩
  | turn before step inductionHypothesis =>
      rcases List.eq_nil_or_concat back with rfl | ⟨most, turn, rfl⟩
      · rw [List.append_nil] at whole
        subst whole
        exact ⟨_, before.turn step, .refl⟩
      · rw [List.concat_eq_append] at whole ⊢
        rw [← List.append_assoc] at whole
        obtain ⟨same, one⟩ := List.append_inj' whole rfl
        cases one
        obtain ⟨middle, inFront, behind⟩ := inductionHypothesis same
        exact ⟨middle, inFront, behind.turn step⟩

/-- The first turn of a path. -/
theorem Path.exists_first {turn : Turn} (path : Path terms first (turn :: turns) last) :
    ∃ middle, Step terms first turn.label turn.events middle ∧ Path terms middle turns last := by
  rw [← List.singleton_append] at path
  obtain ⟨middle, one, rest⟩ := path.split
  rw [← List.nil_append [turn]] at one
  obtain ⟨start, none, step⟩ := one.exists_last
  rw [none.eq_of_nil] at step
  exact ⟨middle, step, rest⟩

theorem Path.keeps {motive : Server → Prop} (path : Path terms first turns last)
    (holds : motive first)
    (kept : ∀ {server label events next}, ⟨label, events⟩ ∈ turns → motive server →
      Step terms server label events next → motive next) : motive last := by
  induction path with
  | refl => exact holds
  | turn _ step inductionHypothesis =>
      refine kept (List.mem_append_right _ (List.mem_singleton_self _)) ?_ step
      exact inductionHypothesis fun member => kept (List.mem_append_left _ member)

/-- The turns of a path are those that `Server.run?` takes, and show what it shows. -/
theorem path_iff_run? {labels : List Label} {events : List Event} :
    (∃ turns, Path terms first turns last ∧ turns.map Turn.label = labels ∧ shown turns = events) ↔
      first.run? terms labels = some (last, events) := by
  constructor
  · rintro ⟨turns, path, rfl, rfl⟩
    induction path with
    | refl => rfl
    | turn _ step inductionHypothesis =>
        rw [List.map_append, run?_append, inductionHypothesis]
        simp [run?, step.step?]
  · induction labels generalizing first events with
    | nil =>
        intro ran
        cases ran
        exact ⟨[], .refl, rfl, rfl⟩
    | cons label labels inductionHypothesis =>
        intro ran
        simp only [run?] at ran
        split at ran
        · cases ran
        · next next events' taken =>
            obtain ⟨⟨_, rest⟩, ranOn, whole⟩ := Option.map_eq_some_iff.1 ran
            cases whole
            obtain ⟨turns, path, labelled, rfl⟩ := inductionHypothesis ranOn
            have stepped : Path terms first [⟨label, events'⟩] next :=
              .turn .refl (.of_step? taken)
            refine ⟨⟨label, events'⟩ :: turns, stepped.append path, ?_, ?_⟩
            · rw [List.map_cons, labelled]
            · rfl

end Server

end ConnectionPool
