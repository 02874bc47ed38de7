import ConnectionPool.Proofs.Server.Hands
import Mathlib.Data.List.DropRight

/-!
Contract: connections are served in the order in which they were accepted.

While a server runs, what its workers were handed since the start and what still waits is what was
accepted since the start. A connection that waits is never overtaken, because a worker that is free
or that may be hired is looked for before anything is made to wait. The stop that ends the run
closes what waits then, and nothing else.

Owns:
- the readers `assignments` and `acceptances` of what was shown;
- `Server.InOrder` and its proof for every run;
- how the clearance of a stop is followed through later turns.

Does not own: connections that were refused or closed at once.
-/

namespace ConnectionPool

/-! ## What was shown -/

namespace Event

/-- The connection that was accepted: for a worker, or to wait for one. -/
def acceptance? : Event → Option Descriptor
  | .decided descriptor (.reused _) => some descriptor
  | .decided descriptor (.spawned _) => some descriptor
  | .decided descriptor .queued => some descriptor
  | _ => none

def discard? : Event → Option Descriptor
  | .discarded descriptor => some descriptor
  | _ => none

end Event

def assignments (events : List Event) : List Descriptor :=
  (handings events).map Prod.snd

/-- The connections that were accepted, in the order of the decisions. -/
def acceptances (events : List Event) : List Descriptor :=
  events.filterMap Event.acceptance?

@[simp] theorem assignments_append (front back : List Event) :
    assignments (front ++ back) = assignments front ++ assignments back := by
  simp [assignments]

@[simp] theorem acceptances_append (front back : List Event) :
    acceptances (front ++ back) = acceptances front ++ acceptances back :=
  List.filterMap_append

/-- The turns after the last start that succeeded. -/
def sinceStart (turns : List Turn) : List Turn :=
  turns.rtakeWhile fun turn => .startAnswered .started ∉ turn.events

namespace Server

variable {terms : Terms} {server next last : Server} {label : Label} {events : List Event}
  {turns : List Turn}

/-! ## One turn -/

/-- In a turn of a run nothing overtakes what waits: what is handed out comes from the front, and
what is accepted goes to the back. -/
theorem Step.order (step : Step terms server label events next) (sound : Sound terms server)
    (begun : server.pool.lifecycle ≠ .stopped) (goesOn : next.pool.lifecycle ≠ .stopped) :
    assignments events ++ next.pool.queue = server.pool.queue ++ acceptances events := by
  cases step with
  | started stopped | cannotListen stopped => exact absurd stopped begun
  | settle => exact absurd rfl goesOn
  | reused waits running top =>
      have empty : server.pool.queue = [] := by
        refine Decidable.byContradiction fun waiting => ?_
        cases top.symm.trans (sound.roster.queue_full running waiting).1
      simp [empty, assignments, acceptances, handings, List.filterMap_cons, Event.handing?,
        Event.acceptance?]
  | spawned waits running none room =>
      have empty : server.pool.queue = [] := by
        refine Decidable.byContradiction fun waiting => ?_
        have full := (sound.roster.queue_full running waiting).2
        omega
      simp [empty, assignments, acceptances, handings, List.filterMap_cons, Event.handing?,
        Event.acceptance?]
  | handOver found stage running member first =>
      simp [first, assignments, acceptances, handings, List.filterMap_cons, Event.handing?,
        Event.acceptance?]
  | _ => simp [assignments, acceptances, handings, List.filterMap_cons, Event.handing?,
        Event.acceptance?]

/-- Only a start that succeeds begins a run, and nobody waits then. -/
theorem Step.begins (step : Step terms server label events next)
    (stopped : server.pool.lifecycle = .stopped) (begun : next.pool.lifecycle ≠ .stopped) :
    .startAnswered .started ∈ events ∧ next.pool.queue = [] := by
  cases step with
  | started => simp [floored, Pool.fillFloor]
  | cannotListen => exact absurd (floored_lifecycle stopped) begun
  | settle => exact absurd rfl begun
  | _ => simp_all

theorem Step.goesOn (step : Step terms server label events next)
    (begun : server.pool.lifecycle ≠ .stopped) : .startAnswered .started ∉ events := by
  cases step with
  | started stopped | cannotListen stopped => exact absurd stopped begun
  | _ => simp

/-! ## The clearance of a stop -/

/-- Follows a clearance through a turn: what it has closed so far, and its position while it is
under way. -/
def follow : List Descriptor × Option Nat → Turn → List Descriptor × Option Nat
  | (closed, none), _ => (closed, none)
  | (closed, some position), turn =>
      match turn.label with
      | .clear other =>
          if other = position then
            (closed ++ turn.events.filterMap Event.discard?, some position)
          else
            (closed, some position)
      | .endStop other =>
          if other = position then
            (closed, none)
          else if other < position then
            (closed, some (position - 1))
          else
            (closed, some position)
      | _ => (closed, some position)

/-- A clearance that was followed has closed what its stop left from the front on; once it is over,
it has closed all of that. -/
def Clears (server : Server) (clearance : Clearance) : List Descriptor × Option Nat → Prop
  | (closed, none) => closed = clearance.left
  | (closed, some position) => ∃ rest, closed ++ rest = clearance.left ∧
      server.clearances[position]? = some ⟨clearance.caller, rest⟩

theorem Step.clears (step : Step terms server label events next) {clearance : Clearance}
    {followed : List Descriptor × Option Nat} (clears : server.Clears clearance followed) :
    next.Clears clearance (follow followed ⟨label, events⟩) := by
  obtain ⟨closed, _ | position⟩ := followed
  · exact clears
  obtain ⟨rest, whole, present⟩ := clears
  cases step with
  | settle =>
      refine ⟨rest, whole, ?_⟩
      rw [List.getElem?_append_left (List.getElem?_eq_some_iff.1 present).1]
      exact present
  | @clear other caller descriptor left found =>
      by_cases same : other = position
      · subst same
        cases found.symm.trans present
        have inside := (List.getElem?_eq_some_iff.1 found).1
        simp only [follow, if_pos]
        refine ⟨left, ?_, List.getElem?_set_self inside⟩
        rw [List.append_assoc]
        exact whole
      · simp only [follow, if_neg same]
        refine ⟨rest, whole, ?_⟩
        rw [List.getElem?_set_ne same]
        exact present
  | @endStop other caller found =>
      by_cases same : other = position
      · subst same
        cases found.symm.trans present
        simp only [follow, if_pos]
        rwa [List.append_nil] at whole
      · simp only [follow, if_neg same]
        split
        · next earlier =>
            refine ⟨rest, whole, ?_⟩
            rw [List.getElem?_eraseIdx_of_ge (by omega), Nat.sub_add_cancel (by omega)]
            exact present
        · next later =>
            refine ⟨rest, whole, ?_⟩
            rw [List.getElem?_eraseIdx_of_lt (by omega)]
            exact present
  | _ => exact ⟨rest, whole, present⟩

theorem Path.clears {first : Server} {clearance : Clearance} {position : Nat}
    (path : Path terms first turns last) (present : first.clearances[position]? = some clearance) :
    last.Clears clearance (turns.foldl follow ([], some position)) := by
  induction path with
  | refl => exact ⟨clearance.left, rfl, present⟩
  | turn _ step inductionHypothesis =>
      rw [List.foldl_append]
      exact step.clears inductionHypothesis

/-! ## A whole run -/

/-- While a run goes on, what was handed out since the start and what waits is what was accepted. -/
theorem Run.order (run : Run terms turns server) (begun : server.pool.lifecycle ≠ .stopped) :
    assignments (shown (sinceStart turns)) ++ server.pool.queue =
      acceptances (shown (sinceStart turns)) := by
  induction run with
  | refl => exact absurd rfl begun
  | @turn turns server next label events before step inductionHypothesis =>
      -- The equation begins anew with the start that succeeds, and every later turn keeps it.
      by_cases stopped : server.pool.lifecycle = .stopped
      · obtain ⟨opens, empty⟩ := step.begins stopped begun
        rw [sinceStart, List.rtakeWhile_concat_neg _ _ _ (by simpa using opens), empty]
        rfl
      · have within : .startAnswered .started ∉ events := step.goesOn stopped
        have turned := step.order (Run.sound before) stopped begun
        have whole := inductionHypothesis stopped
        rw [sinceStart, List.rtakeWhile_concat_pos _ _ _ (by simpa using within), ← sinceStart]
        simp only [shown_append, shown_singleton, assignments_append, acceptances_append]
        calc assignments (shown (sinceStart turns)) ++ assignments events ++ next.pool.queue
            = assignments (shown (sinceStart turns)) ++
                (server.pool.queue ++ acceptances events) := by rw [List.append_assoc, turned]
          _ = acceptances (shown (sinceStart turns)) ++ acceptances events := by
                rw [← List.append_assoc, whole]

/-- How a run of a server serves what it has accepted since the start. -/
structure InOrder (terms : Terms) (turns : List Turn) (server : Server) : Prop where
  /-- What was handed out, and then what waits, is what was accepted. -/
  served : assignments (shown (sinceStart turns)) ++ server.pool.queue =
    acceptances (shown (sinceStart turns))
  /-- If the run ends now, its stop closes what waits, one connection after the other. -/
  unserved : ∀ ended, Step terms server .settle [] ended → ∃ closing,
    server.closing = some closing ∧ ∀ later last, Path terms ended later last →
      last.Clears ⟨closing.caller, server.pool.queue⟩
        (later.foldl follow ([], some server.clearances.length))

theorem inOrder_of_run (run : Run terms turns server) (begun : server.pool.lifecycle ≠ .stopped) :
    InOrder terms turns server where
  served := Run.order run begun
  unserved := by
    intro ended step
    cases step with
    | @settle closing held active stage =>
        refine ⟨closing, active, fun later last path => path.clears ?_⟩
        rw [List.getElem?_append_right (Nat.le_refl _), Nat.sub_self]
        rfl

/-- With one worker and room for one connection that waits, the second connection waits behind the
first. -/
theorem inOrder_of_second_connection :
    ∃ turns server,
      Run { options := { maxWorkers := 1, maxPending := 1 } } turns server ∧
      server.pool.lifecycle = .running ∧ server.pool.queue = [⟨.network, 8⟩] ∧
      InOrder { options := { maxWorkers := 1, maxPending := 1 } } turns server := by
  obtain ⟨turns, run, _⟩ := path_iff_run?.2
    (show run? { options := { maxWorkers := 1, maxPending := 1 } } {}
      [.start true, .arrive ⟨.network, 7⟩, .decide ⟨.network, 7⟩ true, .arrive ⟨.network, 8⟩,
        .decide ⟨.network, 8⟩ true] = some (_, _) from rfl)
  exact ⟨turns, _, run, rfl, rfl, inOrder_of_run run nofun⟩

end Server

end ConnectionPool
