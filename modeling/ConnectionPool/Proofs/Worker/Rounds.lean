import ConnectionPool.Proofs.Worker.Course

/-!
Contract: a worker serves what it is handed, round by round, under any controller.

The thread goes one round for each connection, in the order in which they were handed over. A round asks for
a channel, holds a session where there is one and no interruption came before, drops the channel and reports.
Between two rounds the thread only asks whether to retire. A connection in the slot comes before a stop and
before the end of the patience; so the thread leaves nothing behind, unless its controller is gone.

Owns:
- the type `Lone.Spell`, what the thread does before it waits again;
- `Lone.Orderly`, what every course has in common.

Does not own: the pool, which is the controller of all its workers; see `Server.Path.serviced`.
-/

namespace ConnectionPool.Lone

/-! ## Spells -/

/-- What the thread does before it waits again: a round for one connection, or a question whether to retire
that is answered with no. -/
inductive Spell where
  /-- There was no channel for the connection. -/
  | unopened (descriptor : Descriptor)
  /-- The worker was interrupted before the session could begin. -/
  | skipped (descriptor : Descriptor)
  | served (descriptor : Descriptor) (ending : SessionEnd)
  | stayed
deriving DecidableEq, Repr

namespace Spell

def descriptor? : Spell → Option Descriptor
  | .unopened descriptor => some descriptor
  | .skipped descriptor => some descriptor
  | .served descriptor _ => some descriptor
  | .stayed => none

def signs : Spell → List Sign
  | .unopened descriptor => [.created descriptor false, .available]
  | .skipped descriptor =>
      [.created descriptor true, .checked descriptor false, .closed descriptor, .available]
  | .served descriptor ending =>
      [.created descriptor true, .checked descriptor true, .began descriptor,
        .ended descriptor ending, .closed descriptor, .available]
  | .stayed => [.finished false]

end Spell

/-- The thread is about to report on this connection, and has done this for it. Without a controller it may
have done nothing. -/
def Returning (hasController : Bool) (doing : List Sign) (taken : Option Descriptor) : Prop :=
  ∃ descriptor, taken = some descriptor ∧
    (hasController = false ∧ doing = [] ∨
      ∃ spell : Spell, spell.descriptor? = some descriptor ∧ spell.signs = doing ++ [.available])

/-- What the thread has done since it waited last, and the connection that it took for it. Only a thread
whose controller is gone leaves a round before its end. -/
def Underway (hasController : Bool) (doing : List Sign) (taken : Option Descriptor) : Stage → Prop
  | .exchanging descriptor => doing = [] ∧ taken = some descriptor
  | .opened descriptor => doing = [.created descriptor true] ∧ taken = some descriptor
  | .serving descriptor =>
      doing = [.created descriptor true, .checked descriptor true, .began descriptor] ∧
        taken = some descriptor
  | .returning => Returning hasController doing taken
  | .exited =>
      (doing = [] ∨ doing = [.finished true]) ∧ taken = none ∨
        hasController = false ∧ Returning hasController doing taken
  | _ => doing = [] ∧ taken = none

section
variable {hasController : Bool} {doing : List Sign} {taken : Option Descriptor} {stage : Stage}
  {next : Worker} {act : Worker.Act}

theorem Returning.dismiss (returning : Returning hasController doing taken) :
    Returning false doing taken := by
  obtain ⟨descriptor, isTaken, ⟨_, none⟩ | spell⟩ := returning
  · exact ⟨descriptor, isTaken, .inl ⟨rfl, none⟩⟩
  · exact ⟨descriptor, isTaken, .inr spell⟩

theorem Underway.dismiss (underway : Underway hasController doing taken stage) :
    Underway false doing taken stage := by
  cases stage with
  | returning => exact Returning.dismiss underway
  | exited => exact underway.imp_right fun cut => ⟨rfl, cut.2.dismiss⟩
  | _ => exact underway

/-- A step of the thread ends whole spells and leaves it with the beginning of another, and what it takes
out of the slot it has in its hands. -/
theorem Underway.step {lone : Lone}
    (underway : Underway lone.hasController doing taken lone.worker.stage)
    (permits : lone.Permits act) (stepped : lone.worker.step? act = some next) :
    ∃ (spells : List Spell) (later : List Sign) (left : Option Descriptor),
      doing ++ (shows lone.worker act ++ drops lone.worker next) =
        spells.flatMap Spell.signs ++ later ∧
      Underway lone.hasController later left next.stage ∧
      spells.filterMap Spell.descriptor? ++ left.toList ++ next.assignment.toList =
        taken.toList ++ lone.worker.assignment.toList := by
  have isStep := Worker.step?_eq_some_iff.1 stepped
  cases act with
  | take =>
      obtain ⟨descriptor, stage, full, rfl⟩ := isStep
      rw [stage] at underway
      obtain ⟨rfl, rfl⟩ := underway
      rw [drops_eq_nil (by rw [stage]; rfl), full]
      exact ⟨[], [], some descriptor, rfl, ⟨rfl, rfl⟩, rfl⟩
  | leave =>
      obtain ⟨stage, empty, -, rfl⟩ := isStep
      rw [stage] at underway
      obtain ⟨rfl, rfl⟩ := underway
      rw [drops_eq_nil (by rw [stage]; rfl)]
      exact ⟨[], [], none, rfl, .inl ⟨.inl rfl, rfl⟩, rfl⟩
  | expire =>
      obtain ⟨stage, empty, -, rfl⟩ := isStep
      rw [stage] at underway
      obtain ⟨rfl, rfl⟩ := underway
      rw [drops_eq_nil (by rw [stage]; rfl)]
      exact ⟨[], [], none, rfl, ⟨rfl, rfl⟩, rfl⟩
  | retire answer =>
      obtain ⟨stage, rfl⟩ := isStep
      rw [stage] at underway
      obtain ⟨rfl, rfl⟩ := underway
      rw [drops_eq_nil (by rw [stage]; rfl), List.append_nil]
      rcases answer with _ | _ | _
      · exact ⟨[], [], none, rfl, .inl ⟨.inl rfl, rfl⟩, rfl⟩
      · exact ⟨[.stayed], [], none, rfl, ⟨rfl, rfl⟩, rfl⟩
      · exact ⟨[], [.finished true], none, rfl, .inl ⟨.inr rfl, rfl⟩, rfl⟩
  | exchange granted =>
      obtain ⟨descriptor, stage, rfl⟩ := isStep
      rw [stage] at underway
      obtain ⟨rfl, rfl⟩ := underway
      rw [drops_eq_nil (by rw [stage]; rfl), List.append_nil]
      rcases granted with _ | _ | _
      · refine ⟨[], [], some descriptor, rfl, ⟨descriptor, rfl, .inl ⟨?_, rfl⟩⟩, rfl⟩
        exact permits.symm
      · refine ⟨[], [.created descriptor false], some descriptor, by simp [shows, stage],
          ⟨descriptor, rfl, .inr ⟨.unopened descriptor, rfl, rfl⟩⟩, rfl⟩
      · exact ⟨[], [.created descriptor true], some descriptor,
          by simp [shows, stage], ⟨rfl, rfl⟩, rfl⟩
  | check =>
      obtain ⟨descriptor, stage, rfl⟩ := isStep
      rw [stage] at underway
      obtain ⟨rfl, rfl⟩ := underway
      cases interrupted : lone.worker.interrupted with
      | true =>
          refine ⟨[], _, some descriptor, rfl, ⟨descriptor, rfl, .inr ⟨.skipped descriptor, rfl, ?_⟩⟩, rfl⟩
          simp [shows, drops, stage, interrupted, Stage.channel?, Spell.signs]
      | false =>
          refine ⟨[], _, some descriptor, rfl, ⟨?_, rfl⟩, rfl⟩
          simp [shows, drops, stage, interrupted, Stage.channel?]
  | finish ending =>
      obtain ⟨descriptor, stage, rfl⟩ := isStep
      rw [stage] at underway
      obtain ⟨rfl, rfl⟩ := underway
      refine ⟨[], _, some descriptor, rfl,
        ⟨descriptor, rfl, .inr ⟨.served descriptor ending, rfl, ?_⟩⟩, rfl⟩
      simp [shows, drops, stage, Stage.channel?, Spell.signs]
  | report heard =>
      obtain ⟨stage, rfl⟩ := isStep
      rw [stage] at underway
      rw [drops_eq_nil (by rw [stage]; rfl), List.append_nil]
      obtain ⟨descriptor, rfl, made⟩ := underway
      cases heard with
      | false =>
          have gone : lone.hasController = false := permits.symm
          exact ⟨[], doing, some descriptor, List.append_nil _,
            .inr ⟨gone, descriptor, rfl, made⟩, rfl⟩
      | true =>
          -- With the controller still there the round was not cut, so the report completes a spell.
          have there : lone.hasController = true := permits.symm
          obtain ⟨spell, isSpell, isWhole⟩ := made.resolve_left fun none => by simp [there] at none
          exact ⟨[spell], [], none, by simp [isWhole, shows], ⟨rfl, rfl⟩,
            by simp [isSpell]⟩
end

/-! ## What each step keeps -/

section
variable {history signs : List Sign} {lone next : Lone}

/-- The thread has gone whole spells and begun another; they and the slot hold the connections that were
handed over, in order, each once. -/
def Served (history : List Sign) (lone : Lone) : Prop :=
  ∃ (spells : List Spell) (doing : List Sign) (taken : Option Descriptor),
    doings history = spells.flatMap Spell.signs ++ doing ∧
      Underway lone.hasController doing taken lone.worker.stage ∧
      spells.filterMap Spell.descriptor? ++ taken.toList ++ lone.worker.assignment.toList =
        assignments history

/-- The worker remembers the stops. -/
structure Signalled (history : List Sign) (lone : Lone) : Prop where
  accepting_iff : lone.worker.accepting = false ↔ ∃ mode, .stopped mode ∈ history
  interrupted_iff : lone.worker.interrupted = true ↔ .stopped .interruptClients ∈ history

/-- Wherever the thread looked whether it may go on, it went on unless it had been interrupted. -/
def Checked (history : List Sign) : Prop :=
  ∀ before descriptor goesOn after, history = before ++ .checked descriptor goesOn :: after →
    (goesOn = true ↔ .stopped .interruptClients ∉ before)

/-- A thread that has left under a controller that is still there was stopped or retired, and left nothing in
the slot. -/
def Emptied (history : List Sign) (lone : Lone) : Prop :=
  lone.hasController = true → lone.worker.stage = .exited →
    lone.worker.assignment = none ∧ ((∃ mode, .stopped mode ∈ history) ∨ .finished true ∈ history)

theorem Step.served (step : Step history lone signs next) (served : Served history lone) :
    Served (history ++ signs) next := by
  obtain ⟨spells, doing, taken, isDone, underway, isHanded⟩ := served
  cases step with
  | @assign worker descriptor starts may assigned =>
      obtain ⟨-, rfl⟩ := Worker.assign?_eq_some_iff.1 assigned
      refine ⟨spells, doing, taken, ?_, ?_, ?_⟩
      · rw [doings_append, isDone]
        exact List.append_nil _
      · show Underway _ _ _ (Worker.stage _)
        rw [Worker.assign_stage]
        split
        · next stage =>
            rw [stage] at underway
            exact underway
        · exact underway
      · rw [may.empty] at isHanded
        rw [assignments_append, ← isHanded, Worker.assign_assignment]
        simp [assignments, Sign.assigned?]
  | unassigned =>
      rw [List.append_nil]
      exact ⟨spells, doing, taken, isDone, underway, isHanded⟩
  | stop mode =>
      refine ⟨spells, doing, taken, ?_, ?_, ?_⟩
      · rw [doings_append, isDone]
        exact List.append_nil _
      · rw [Worker.signal_stage]
        exact underway
      · rw [Worker.signal_assignment, isHanded, assignments_append]
        exact (List.append_nil _).symm
  | dismiss =>
      rw [List.append_nil]
      exact ⟨spells, doing, taken, isDone, underway.dismiss, isHanded⟩
  | @act worker act permits stepped =>
      obtain ⟨more, later, left, goesOn, underwayThen, isTaken⟩ := underway.step permits stepped
      refine ⟨spells ++ more, later, left, ?_, underwayThen, ?_⟩
      · calc doings (history ++ (shows lone.worker act ++ drops lone.worker worker))
            = spells.flatMap Spell.signs ++
                (doing ++ (shows lone.worker act ++ drops lone.worker worker)) := by
              rw [doings_append, isDone, doings_shown, List.append_assoc]
          _ = (spells ++ more).flatMap Spell.signs ++ later := by
              rw [goesOn, List.flatMap_append, List.append_assoc]
      · calc (spells ++ more).filterMap Spell.descriptor? ++ left.toList ++ worker.assignment.toList
            = spells.filterMap Spell.descriptor? ++
                (more.filterMap Spell.descriptor? ++ left.toList ++ worker.assignment.toList) := by
              rw [List.filterMap_append]
              simp only [List.append_assoc]
          _ = assignments history := by rw [isTaken, ← isHanded, List.append_assoc]
          _ = assignments (history ++ (shows lone.worker act ++ drops lone.worker worker)) := by
              rw [assignments_append, assignments_shown, List.append_nil]

theorem Step.signalled (step : Step history lone signs next) (signalled : Signalled history lone) :
    Signalled (history ++ signs) next := by
  cases step with
  | @assign worker descriptor starts may assigned =>
      obtain ⟨-, rfl⟩ := Worker.assign?_eq_some_iff.1 assigned
      exact ⟨by simpa using signalled.accepting_iff, by simpa using signalled.interrupted_iff⟩
  | unassigned =>
      rw [List.append_nil]
      exact signalled
  | stop mode =>
      cases mode with
      | waitClients =>
          refine ⟨iff_of_true rfl ⟨.waitClients, by simp⟩, ?_⟩
          simpa [Worker.signal] using signalled.interrupted_iff
      | interruptClients =>
          exact ⟨iff_of_true rfl ⟨.interruptClients, by simp⟩, iff_of_true rfl (by simp)⟩
  | dismiss =>
      rw [List.append_nil]
      exact ⟨signalled.accepting_iff, signalled.interrupted_iff⟩
  | @act worker act permits stepped =>
      obtain ⟨sameAccepting, sameInterrupted⟩ := Worker.step?_signals stepped
      have noStop (mode : StopMode) : .stopped mode ∉ shows lone.worker act ++ drops lone.worker worker :=
        fun shown => Bool.noConfusion (isThread_of_shown shown)
      have same (mode : StopMode) :
          .stopped mode ∈ history ++ (shows lone.worker act ++ drops lone.worker worker) ↔
            .stopped mode ∈ history :=
        List.mem_append.trans (or_iff_left (noStop mode))
      constructor
      · simpa only [sameAccepting, same] using signalled.accepting_iff
      · simpa only [sameInterrupted, same] using signalled.interrupted_iff

/-- The look at the token comes first of what its step shows, and finds what the token says. -/
theorem shown_of_checked {worker later : Worker} {act : Worker.Act} {descriptor : Descriptor}
    {goesOn : Bool} (looked : .checked descriptor goesOn ∈ shows worker act ++ drops worker later) :
    goesOn = !worker.interrupted ∧ ∃ others, .checked descriptor goesOn ∉ others ∧
      shows worker act ++ drops worker later = .checked descriptor goesOn :: others := by
  have notDropped : .checked descriptor goesOn ∉ drops worker later := by
    unfold drops
    split <;> simp
  have inShows := (List.mem_append.1 looked).resolve_right notDropped
  unfold shows at inShows ⊢
  split at inShows
  · split at inShows <;> simp at inShows
  · split at inShows
    · next interrupted =>
        cases List.mem_singleton.1 inShows
        exact ⟨by rw [interrupted]; rfl, drops worker later, notDropped, rfl⟩
    · next interrupted =>
        obtain ⟨rfl, rfl⟩ : descriptor = _ ∧ goesOn = true := by simpa using inShows
        exact ⟨by rw [interrupted]; rfl, .began descriptor :: drops worker later, by simpa using notDropped, rfl⟩
    · cases inShows
  · split at inShows <;> simp at inShows
  all_goals simp at inShows

theorem Step.looked (step : Step history lone signs next) {front back : List Sign}
    {descriptor : Descriptor} {goesOn : Bool}
    (isLook : signs = front ++ .checked descriptor goesOn :: back) :
    front = [] ∧ goesOn = !lone.worker.interrupted := by
  have member : .checked descriptor goesOn ∈ signs := by
    rw [isLook]
    simp
  cases step with
  | act act permits stepped =>
      obtain ⟨isToken, others, noOther, isShown⟩ := shown_of_checked member
      refine ⟨?_, isToken⟩
      cases front with
      | nil => rfl
      | cons sign front =>
          -- The first sign is a look already, and no step looks twice.
          rw [isShown, List.cons_append, List.cons.injEq] at isLook
          exact absurd (by rw [isLook.2]; simp) noOther
  | _ => simp at member

theorem Step.checked (step : Step history lone signs next) (signalled : Signalled history lone)
    (checked : Checked history) : Checked (history ++ signs) := by
  intro before descriptor goesOn after isWhole
  have token : (!lone.worker.interrupted) = true ↔ .stopped .interruptClients ∉ history := by
    rw [← signalled.interrupted_iff]
    simp
  rcases List.append_eq_append_iff.1 isWhole with ⟨front, rfl, isLook⟩ | ⟨front, rfl, isLook⟩
  · obtain ⟨rfl, rfl⟩ := step.looked isLook
    rw [List.append_nil]
    exact token
  · cases front with
    | nil =>
        have isFirst : signs = [] ++ .checked descriptor goesOn :: after := isLook.symm
        obtain ⟨-, rfl⟩ := step.looked isFirst
        rw [List.append_nil] at token
        exact token
    | cons sign front =>
        rw [List.cons_append, List.cons.injEq] at isLook
        obtain ⟨rfl, -⟩ := isLook
        exact checked before descriptor goesOn front rfl

/-- The thread leaves when it finds a stop and an empty slot, when it is retired, or without a controller. -/
theorem Permits.ending {act : Worker.Act} {worker : Worker} (permits : lone.Permits act)
    (stepped : lone.worker.step? act = some worker) (left : worker.stage = .exited) :
    worker.assignment = lone.worker.assignment ∧
      (act = .leave ∧ lone.worker.assignment = none ∧ lone.worker.accepting = false ∨
        act = .retire (some true) ∧ lone.worker.assignment = none ∨ lone.hasController = false) := by
  have isStep := Worker.step?_eq_some_iff.1 stepped
  cases act with
  | take =>
      obtain ⟨descriptor, -, -, rfl⟩ := isStep
      cases left
  | leave =>
      obtain ⟨-, empty, stopped, rfl⟩ := isStep
      exact ⟨rfl, .inl ⟨rfl, empty, stopped⟩⟩
  | expire =>
      obtain ⟨-, -, -, rfl⟩ := isStep
      cases left
  | retire answer =>
      obtain ⟨-, rfl⟩ := isStep
      refine ⟨rfl, ?_⟩
      rcases answer with _ | _ | _
      · exact .inr (.inr permits.1.symm)
      · cases left
      · exact .inr (.inl ⟨rfl, permits.2 rfl⟩)
  | exchange granted =>
      obtain ⟨descriptor, -, rfl⟩ := isStep
      rcases granted with _ | _ | _ <;> cases left
  | check =>
      obtain ⟨descriptor, -, rfl⟩ := isStep
      dsimp only at left
      split at left <;> cases left
  | finish ending =>
      obtain ⟨descriptor, -, rfl⟩ := isStep
      cases left
  | report heard =>
      obtain ⟨-, rfl⟩ := isStep
      refine ⟨rfl, ?_⟩
      cases heard with
      | false => exact .inr (.inr permits.symm)
      | true => cases left

theorem Step.emptied (step : Step history lone signs next) (signalled : Signalled history lone)
    (emptied : Emptied history lone) : Emptied (history ++ signs) next := by
  intro there left
  cases step with
  | @assign worker descriptor starts may assigned =>
      obtain ⟨-, rfl⟩ := Worker.assign?_eq_some_iff.1 assigned
      have leftBefore : lone.worker.stage = .exited := by
        have isStage := Worker.assign_stage descriptor lone.worker
        split at isStage
        · cases left.symm.trans isStage
        · exact isStage.symm.trans left
      -- Under its controller the thread had left for a reason that forbids another assignment.
      obtain ⟨-, ⟨mode, stopped⟩ | retired⟩ := emptied there leftBefore
      · exact absurd stopped (may.notStopped mode)
      · exact absurd retired may.notRetired
  | unassigned =>
      rw [List.append_nil]
      exact emptied there left
  | stop mode =>
      rw [Worker.signal_stage] at left
      exact ⟨(Worker.signal_assignment ..).trans (emptied there left).1, .inl ⟨mode, by simp⟩⟩
  | dismiss => cases there
  | @act worker act permits stepped =>
      obtain ⟨same, ⟨-, empty, stopped⟩ | ⟨rfl, empty⟩ | gone⟩ := permits.ending stepped left
      · obtain ⟨mode, shown⟩ := signalled.accepting_iff.1 stopped
        exact ⟨same.trans empty, .inl ⟨mode, List.mem_append_left _ shown⟩⟩
      · exact ⟨same.trans empty, .inr (by simp [shows])⟩
      · cases there.symm.trans gone

end

/-! ## Every course -/

section
variable {history : List Sign} {lone : Lone}

theorem Course.kept (course : Course history lone) :
    Served history lone ∧ Signalled history lone ∧ Checked history ∧ Emptied history lone := by
  induction course with
  | new protocol =>
      refine ⟨⟨[], [], none, rfl, ⟨rfl, rfl⟩, rfl⟩, ⟨?_, ?_⟩, ?_, nofun⟩
      · simp
      · simp
      · intro before descriptor goesOn after isEmpty
        simp at isEmpty
  | step before step inductionHypothesis =>
      obtain ⟨served, signalled, checked, emptied⟩ := inductionHypothesis
      exact ⟨step.served served, step.signalled signalled, step.checked signalled checked,
        step.emptied signalled emptied⟩

/-- A thread that was started and has not left can take a step, whatever its controller answers. -/
theorem exists_step (lone : Lone) (started : lone.worker.stage ≠ .unstarted)
    (stays : lone.worker.stage ≠ .exited) :
    ∃ act next, lone.Permits act ∧ lone.worker.step? act = some next := by
  cases stage : lone.worker.stage with
  | unstarted => exact absurd stage started
  | waiting =>
      cases slot : lone.worker.assignment with
      | some descriptor =>
          exact ⟨.take, _, trivial, Worker.step?_take_eq_some_iff.2 ⟨descriptor, stage, slot, rfl⟩⟩
      | none =>
          cases accepting : lone.worker.accepting with
          | true =>
              exact ⟨.expire, _, trivial, Worker.step?_expire_eq_some_iff.2 ⟨stage, slot, accepting, rfl⟩⟩
          | false =>
              exact ⟨.leave, _, trivial, Worker.step?_leave_eq_some_iff.2 ⟨stage, slot, accepting, rfl⟩⟩
  | expired =>
      cases there : lone.hasController with
      | true =>
          exact ⟨.retire (some false), _, ⟨there.symm, nofun⟩,
            Worker.step?_retire_eq_some_iff.2 ⟨stage, rfl⟩⟩
      | false =>
          exact ⟨.retire none, _, ⟨there.symm, nofun⟩, Worker.step?_retire_eq_some_iff.2 ⟨stage, rfl⟩⟩
  | exchanging descriptor =>
      cases there : lone.hasController with
      | true =>
          exact ⟨.exchange (some true), _, there.symm,
            Worker.step?_exchange_eq_some_iff.2 ⟨descriptor, stage, rfl⟩⟩
      | false =>
          exact ⟨.exchange none, _, there.symm,
            Worker.step?_exchange_eq_some_iff.2 ⟨descriptor, stage, rfl⟩⟩
  | opened descriptor =>
      exact ⟨.check, _, trivial, Worker.step?_check_eq_some_iff.2 ⟨descriptor, stage, rfl⟩⟩
  | serving descriptor =>
      exact ⟨.finish .returned, _, trivial,
        Worker.step?_finish_eq_some_iff.2 ⟨descriptor, stage, rfl⟩⟩
  | returning =>
      exact ⟨.report lone.hasController, _, rfl, Worker.step?_report_eq_some_iff.2 ⟨stage, rfl⟩⟩
  | exited => exact absurd stage stays

/-- What the owner of a worker and its controller may expect. -/
structure Orderly (history : List Sign) (lone : Lone) : Prop where
  /-- The thread goes round after round for the connections that were handed over, in order; none is left out
  and none comes twice. -/
  served : Served history lone
  /-- With a channel a session is held, unless an interrupting stop came before the look. -/
  checked : Checked history
  /-- A connection in the slot comes before a stop and before the end of the patience. -/
  takes_first : ∀ {descriptor act next}, lone.worker.stage = .waiting →
    lone.worker.assignment = some descriptor → lone.worker.step? act = some next → act = .take
  /-- The thread never hangs. -/
  goesOn : lone.worker.stage ≠ .unstarted → lone.worker.stage ≠ .exited →
    ∃ act next, lone.Permits act ∧ lone.worker.step? act = some next
  /-- Whatever became of its rounds, the thread leaves only when it finds a stop and an empty slot, when it is
  retired, or when its controller is gone. -/
  leaves : ∀ {act next}, lone.Permits act → lone.worker.step? act = some next → next.stage = .exited →
    act = .leave ∧ lone.worker.assignment = none ∧ (∃ mode, .stopped mode ∈ history) ∨
      act = .retire (some true) ∧ lone.worker.assignment = none ∨ lone.hasController = false
  /-- When it has left a controller that is still there, every connection had its whole round. -/
  complete : lone.hasController = true → lone.worker.stage = .exited →
    ∃ (spells : List Spell) (answers : List Sign),
      doings history = spells.flatMap Spell.signs ++ answers ∧
        (answers = [] ∨ answers = [.finished true]) ∧
        spells.filterMap Spell.descriptor? = assignments history

/-- However a controller answers, whenever it goes away, however sessions end and whenever the worker is
stopped or handed a connection, within the discipline. -/
theorem orderly_of_course (course : Course history lone) : Orderly history lone := by
  obtain ⟨served, signalled, checked, emptied⟩ := course.kept
  refine ⟨served, checked, ?_, exists_step lone, ?_, ?_⟩
  · intro descriptor act next waiting full stepped
    have isStep := Worker.step?_eq_some_iff.1 stepped
    cases act with
    | take => rfl
    | leave | expire => cases full.symm.trans isStep.2.1
    | retire | report => cases waiting.symm.trans isStep.1
    | exchange | check | finish =>
        obtain ⟨other, stage, -⟩ := isStep
        cases waiting.symm.trans stage
  · intro act next permits stepped left
    rcases (permits.ending stepped left).2 with ⟨isLeave, empty, stopped⟩ | retired | gone
    · exact .inl ⟨isLeave, empty, signalled.accepting_iff.1 stopped⟩
    · exact .inr (.inl retired)
    · exact .inr (.inr gone)
  · intro there left
    obtain ⟨spells, doing, taken, isDone, underway, isHanded⟩ := served
    rw [there, left] at underway
    obtain ⟨answers, rfl⟩ | ⟨gone, -⟩ := underway
    · rw [(emptied there left).1] at isHanded
      exact ⟨spells, doing, isDone, answers, by simpa using isHanded⟩
    · cases gone

end

/-- Two connections under one controller: the session on the first panics, an interruption comes before the
session on the second, and then the thread leaves. -/
theorem orderly_of_interruption :
    ∃ (first second : Descriptor) (history : List Sign) (lone : Lone), first ≠ second ∧
      Course history lone ∧ lone.hasController = true ∧ lone.worker.stage = .exited ∧
      assignments history = [first, second] ∧
      doings history = [.created first true, .checked first true, .began first,
        .ended first .panicked, .closed first, .available, .created second true,
        .checked second false, .closed second, .available] ∧
      Orderly history lone := by
  have course := Course.new .prototype
    |>.step (.assign ⟨.custom, 1⟩ true ⟨rfl, nofun, nofun, nofun⟩ rfl)
    |>.step (.act .take trivial rfl)
    |>.step (.act (.exchange (some true)) rfl rfl)
    |>.step (.act .check trivial rfl)
    |>.step (.act (.finish .panicked) trivial rfl)
    |>.step (.act (.report true) rfl rfl)
    |>.step (.assign ⟨.custom, 2⟩ true ⟨rfl, nofun, by rintro (_ | _) <;> decide, by decide⟩ rfl)
    |>.step (.stop .interruptClients)
    |>.step (.act .take trivial rfl)
    |>.step (.act (.exchange (some true)) rfl rfl)
    |>.step (.act .check trivial rfl)
    |>.step (.act (.report true) rfl rfl)
    |>.step (.act .leave trivial rfl)
  exact ⟨⟨.custom, 1⟩, ⟨.custom, 2⟩, _, _, by decide, course, rfl, rfl, rfl, rfl,
    orderly_of_course course⟩

/-- A thread does leave without any stop, when its controller lets it retire. -/
theorem not_stopped_of_retired :
    ¬ ∀ history lone, Course history lone → lone.worker.stage = .exited →
      ∃ mode, Sign.stopped mode ∈ history := by
  intro stopped
  have course := Course.new .prototype
    |>.step (.assign ⟨.custom, 1⟩ true ⟨rfl, nofun, nofun, nofun⟩ rfl)
    |>.step (.act .take trivial rfl)
    |>.step (.act (.exchange (some false)) rfl rfl)
    |>.step (.act (.report true) rfl rfl)
    |>.step (.act .expire trivial rfl)
    |>.step (.act (.retire (some true)) ⟨rfl, fun _ => rfl⟩ rfl)
  obtain ⟨mode, shown⟩ := stopped _ _ course rfl
  cases mode <;> revert shown <;> decide

end ConnectionPool.Lone
