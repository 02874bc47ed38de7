import ConnectionPool.Line
import ConnectionPool.Proofs.Session.Discipline

/-!
Contract: a refusal tells its message once, from the front, and then is over.

The channel answers as it likes, within its contract. A refusal offers what was not taken yet, again and again,
until all is taken or a write fails for good; only a message that was taken as a whole is pushed out, and only
once. It asks for nothing else, so it is over after as many answers as the message has bytes, and one, and one
for every interrupted write.

Owns:
- `Refusal.Course`, refusals up to some moment, and `Refusal.Tells`, what every course keeps to;
- that a line is refused by a course that comes to its end.

Does not own: which connections are refused; see `Desk`.
-/

namespace ConnectionPool

namespace SessionEvent

def isFlush : SessionEvent → Bool
  | .flush _ => true
  | _ => false

/-- A write that takes nothing, or fails and is not merely interrupted. -/
def breaks : SessionEvent → Bool
  | .write _ outcome => outcome.breaks
  | _ => false

/-- A write that is made again as it was. -/
def isInterrupted : SessionEvent → Bool
  | .write _ (.failed .interrupted) => true
  | _ => false

/-- The bytes that the channel took in some events. -/
def accepted (events : List SessionEvent) : Bytes :=
  events.flatMap taken

@[simp] theorem accepted_append (front back : List SessionEvent) :
    accepted (front ++ back) = accepted front ++ accepted back :=
  List.flatMap_append

@[simp] theorem accepted_singleton (event : SessionEvent) : accepted [event] = event.taken :=
  List.flatMap_singleton ..

end SessionEvent

open SessionEvent

namespace Refusal

/-- A refusal up to some moment: all that it did, and where it stands. -/
inductive Course (message : Bytes) : List SessionEvent → Refusal → Prop where
  | start : Course message [] (start message)
  | step {events : List SessionEvent} {event : SessionEvent} {state next : Refusal}
      (before : Course message events state) (meets : state.request.Meets event next) :
      Course message (events ++ [event]) next

/-- What a refused connection may expect, and the thread that refuses it. -/
structure Tells (message : Bytes) (events : List SessionEvent) (state : Refusal) : Prop where
  isPrefix : accepted events <+: message
  /-- A refusal that is over told all of the message, unless a write failed. -/
  whole_iff : state = .finished → (accepted events = message ↔ events.any SessionEvent.breaks = false)
  /-- Every write offers all that was not taken yet. -/
  offers : ∀ before offered outcome after, events = before ++ .write offered outcome :: after →
    accepted before ++ offered = message
  /-- Behind a write that failed nothing is done. -/
  broken : ∀ before event after, events = before ++ event :: after → event.breaks = true → after = []
  /-- The message is pushed out behind its last byte and then nothing is done, so it is pushed out once. -/
  flushes : ∀ before outcome after, events = before ++ .flush outcome :: after →
    accepted before = message ∧ after = []
  flush_once : events.countP SessionEvent.isFlush ≤ 1
  /-- Nothing is read, and the token is not asked. -/
  uses : ∀ event ∈ events, (∃ offered outcome, event = .write offered outcome) ∨
    ∃ outcome, event = .flush outcome
  over_iff : state = .finished ↔
    ∃ event, events.getLast? = some event ∧ (event.isFlush = true ∨ event.breaks = true)
  inTime : events.length ≤ message.length + 1 + events.countP SessionEvent.isInterrupted

/-! ## Where a refusal stands -/

/-- How many of these bytes are still to be taken, and whether they are still to be pushed out. -/
def owes : Refusal → Nat
  | .telling rest => rest.length + 1
  | .flushing => 1
  | .finished => 0

/-- What is so behind some events, state by state. A refusal is over behind its flush, or behind a write that
failed with something left to tell. -/
def Stands (message : Bytes) (events : List SessionEvent) : Refusal → Prop
  | .telling rest => rest ≠ [] ∧ accepted events ++ rest = message ∧
      ∀ event ∈ events, event.isFlush = false ∧ event.breaks = false
  | .flushing => accepted events = message ∧
      ∀ event ∈ events, event.isFlush = false ∧ event.breaks = false
  | .finished => ∃ before event, events = before ++ [event] ∧
      (∀ other ∈ before, other.isFlush = false ∧ other.breaks = false) ∧
      ((∃ outcome, event = .flush outcome) ∧ accepted events = message ∨
        ∃ rest outcome, event = .write rest outcome ∧ outcome.breaks = true ∧ rest ≠ [] ∧
          accepted events ++ rest = message)

variable {message : Bytes} {events before after : List SessionEvent} {event : SessionEvent}
  {state next : Refusal}

theorem start_stands (message : Bytes) : Stands message [] (start message) := by
  cases message with
  | nil => exact ⟨rfl, nofun⟩
  | cons byte bytes => exact ⟨by simp, rfl, nofun⟩

theorem quiet_append_singleton (quiet : ∀ other ∈ events, other.isFlush = false ∧ other.breaks = false)
    (last : event.isFlush = false ∧ event.breaks = false) :
    ∀ other ∈ events ++ [event], other.isFlush = false ∧ other.breaks = false := by
  intro other member
  obtain earlier | isLast := List.mem_append.1 member
  · exact quiet other earlier
  · rwa [List.mem_singleton.1 isLast]

theorem Stands.write {rest : Bytes} {outcome : WriteOutcome} (stands : Stands message events (.telling rest)) :
    Stands message (events ++ [.write rest outcome]) (afterWrite rest outcome) := by
  obtain ⟨some, whole, quiet⟩ := stands
  have goesOn (unbroken : Delivery.advance rest outcome ≠ .broken) :
      ∀ other ∈ events ++ [.write rest outcome], other.isFlush = false ∧ other.breaks = false := by
    refine quiet_append_singleton quiet ⟨rfl, ?_⟩
    rwa [ne_eq, Delivery.advance_eq_broken_iff, Bool.not_eq_true] at unbroken
  unfold afterWrite
  split
  · next complete =>
      refine ⟨?_, goesOn (by simp [complete])⟩
      rw [accepted_append, accepted_singleton, taken, Delivery.taken_of_complete complete, whole]
  · next left unfinished =>
      refine ⟨Delivery.remaining_ne_nil some unfinished, ?_, goesOn (by simp [unfinished])⟩
      rw [accepted_append, accepted_singleton, taken, List.append_assoc,
        Delivery.taken_append_of_remaining unfinished, whole]
  · next broken =>
      have breaks := Delivery.advance_eq_broken_iff.1 broken
      refine ⟨events, _, rfl, quiet, .inr ⟨rest, outcome, rfl, breaks, some, ?_⟩⟩
      rw [accepted_append, accepted_singleton, taken, Delivery.taken_of_breaks breaks, List.append_nil, whole]

theorem Stands.step (stands : Stands message events state) (meets : state.request.Meets event next) :
    Stands message (events ++ [event]) next := by
  cases state with
  | telling rest =>
      cases meets with
      | write => exact stands.write
  | flushing =>
      cases meets with
      | flush _ outcome =>
          refine ⟨events, _, rfl, stands.2, .inl ⟨⟨outcome, rfl⟩, ?_⟩⟩
          simpa [taken] using stands.1
  | finished => cases meets

theorem Course.stands (course : Course message events state) : Stands message events state := by
  induction course with
  | start => exact start_stands message
  | step _ meets inductionHypothesis => exact inductionHypothesis.step meets

/-! ## One step of a course -/

/-- A course up to one of its events, with the state in front of it. -/
theorem Course.split (course : Course message (before ++ event :: after) state) :
    ∃ middle next, Course message before middle ∧ middle.request.Meets event next ∧
      (next = .finished → after = [] ∧ state = .finished) := by
  induction after using List.reverseRecOn generalizing state with
  | nil =>
      generalize whole : before ++ [event] = all at course
      cases course with
      | start => cases (List.append_eq_nil_iff.1 whole).2
      | step earlier meets =>
          obtain ⟨rfl, same⟩ := List.append_inj' whole rfl
          cases same
          exact ⟨_, _, earlier, meets, fun isOver => ⟨rfl, isOver⟩⟩
  | append_singleton after last inductionHypothesis =>
      generalize whole : before ++ event :: (after ++ [last]) = all at course
      cases course with
      | start => cases (List.append_eq_nil_iff.1 whole).2
      | step earlier meets =>
          rw [← List.cons_append, ← List.append_assoc] at whole
          obtain ⟨rfl, same⟩ := List.append_inj' whole rfl
          obtain ⟨middle, next, front, met, ended⟩ := inductionHypothesis earlier
          refine ⟨middle, next, front, met, fun isOver => ?_⟩
          obtain ⟨-, rfl⟩ := ended isOver
          cases meets

theorem owes_start_le (message : Bytes) : (start message).owes ≤ message.length + 1 := by
  cases message with
  | nil => exact Nat.le_refl 1
  | cons byte bytes => exact Nat.le_refl _

/-- An answer to a write leaves less to be done, unless the write was interrupted. -/
theorem owes_afterWrite {rest : Bytes} (some : rest ≠ []) (outcome : WriteOutcome) :
    (afterWrite rest outcome).owes + 1 ≤
      (telling rest).owes + (SessionEvent.write rest outcome).isInterrupted.toNat := by
  have positive := List.length_pos_iff.2 some
  cases outcome with
  | accepted count =>
      by_cases nothing : count = 0
      · simp only [afterWrite, Delivery.advance, if_pos nothing, owes]
        omega
      · by_cases part : count < rest.length
        · simp only [afterWrite, Delivery.advance, if_neg nothing, if_pos part, owes, List.length_drop]
          omega
        · simp only [afterWrite, Delivery.advance, if_neg nothing, if_neg part, owes]
          omega
  | failed kind => cases kind <;> simp [afterWrite, Delivery.advance, owes, SessionEvent.isInterrupted]

theorem Course.length_add_owes_le (course : Course message events state) :
    events.length + state.owes ≤ message.length + 1 + events.countP SessionEvent.isInterrupted := by
  induction course with
  | start => simpa using owes_start_le message
  | step before meets inductionHypothesis =>
      have stands := before.stands
      rename_i state next
      cases state with
      | telling rest =>
          cases meets with
          | write _ _ outcome =>
              have less := owes_afterWrite stands.1 outcome
              rw [List.length_append, List.length_singleton, List.countP_append, List.countP_singleton]
              cases interrupted : (SessionEvent.write rest outcome).isInterrupted with
              | true =>
                  rw [interrupted, Bool.toNat_true] at less
                  rw [if_pos rfl]
                  omega
              | false =>
                  rw [interrupted, Bool.toNat_false] at less
                  rw [if_neg Bool.false_ne_true]
                  omega
      | flushing =>
          cases meets
          simp only [owes] at inductionHypothesis ⊢
          simp
          omega
      | finished => cases meets

/-- A refusal is over exactly behind an answer to its flush or a write that failed. -/
theorem eq_finished_iff (meets : state.request.Meets event next) :
    next = .finished ↔ event.isFlush = true ∨ event.breaks = true := by
  cases state with
  | telling rest =>
      cases meets with
      | write _ _ outcome =>
          simp only [SessionEvent.isFlush, SessionEvent.breaks, Bool.false_eq_true, false_or]
          rw [← Delivery.advance_eq_broken_iff, afterWrite]
          cases Delivery.advance rest outcome <;> simp
  | flushing =>
      cases meets
      exact iff_of_true rfl (.inl rfl)
  | finished => cases meets

theorem Course.uses (course : Course message (before ++ event :: after) state) :
    (∃ offered outcome, event = .write offered outcome) ∨ ∃ outcome, event = .flush outcome := by
  obtain ⟨middle, _, -, meets, -⟩ := course.split
  cases middle with
  | telling rest =>
      cases meets with
      | write _ _ outcome => exact .inl ⟨_, outcome, rfl⟩
  | flushing =>
      cases meets with
      | flush _ outcome => exact .inr ⟨outcome, rfl⟩
  | finished => cases meets

theorem Course.offers {offered : Bytes} {outcome : WriteOutcome}
    (course : Course message (before ++ .write offered outcome :: after) state) :
    accepted before ++ offered = message := by
  obtain ⟨middle, _, front, meets, -⟩ := course.split
  cases middle with
  | telling rest =>
      cases meets
      exact front.stands.2.1
  | flushing | finished => cases meets

theorem Course.flushes {outcome : FlushOutcome}
    (course : Course message (before ++ .flush outcome :: after) state) :
    accepted before = message ∧ after = [] := by
  obtain ⟨middle, _, front, meets, ended⟩ := course.split
  cases middle with
  | flushing => exact ⟨front.stands.1, (ended ((eq_finished_iff meets).2 (.inl rfl))).1⟩
  | telling | finished => cases meets

theorem Course.flush_once (course : Course message events state) :
    events.countP SessionEvent.isFlush ≤ 1 := by
  have none {quiet : List SessionEvent}
      (isQuiet : ∀ other ∈ quiet, other.isFlush = false ∧ other.breaks = false) :
      quiet.countP SessionEvent.isFlush = 0 :=
    List.countP_eq_zero.2 fun other member => by simp [(isQuiet other member).1]
  have stands := course.stands
  cases state with
  | telling => rw [none stands.2.2]; exact Nat.zero_le 1
  | flushing => rw [none stands.2]; exact Nat.zero_le 1
  | finished =>
      obtain ⟨before, event, rfl, quiet, -⟩ := stands
      rw [List.countP_append, none quiet, Nat.zero_add]
      exact List.countP_le_length

theorem Course.over_iff (course : Course message events state) : state = .finished ↔
    ∃ event, events.getLast? = some event ∧ (event.isFlush = true ∨ event.breaks = true) := by
  cases course with
  | start =>
      refine iff_of_false ?_ (by rintro ⟨_, none, -⟩; cases none)
      cases message <;> nofun
  | step before meets => simp [eq_finished_iff meets]

theorem Course.isPrefix (course : Course message events state) : accepted events <+: message := by
  have stands := course.stands
  cases state with
  | telling rest => exact ⟨rest, stands.2.1⟩
  | flushing => exact stands.1 ▸ List.prefix_rfl
  | finished =>
      obtain ⟨_, _, -, -, ⟨-, whole⟩ | ⟨rest, -, -, -, -, whole⟩⟩ := stands
      · exact whole ▸ List.prefix_rfl
      · exact ⟨rest, whole⟩

theorem Course.whole_iff (course : Course message events .finished) :
    accepted events = message ↔ events.any SessionEvent.breaks = false := by
  obtain ⟨before, event, rfl, quiet, ends⟩ := course.stands
  have earlier : before.any SessionEvent.breaks = false :=
    List.any_eq_false.2 fun other member => by simp [(quiet other member).2]
  rw [List.any_append, earlier, Bool.false_or, List.any_cons, List.any_nil, Bool.or_false]
  obtain ⟨⟨outcome, rfl⟩, whole⟩ | ⟨rest, outcome, rfl, breaks, some, whole⟩ := ends
  · exact iff_of_true whole rfl
  · refine iff_of_false (fun all => some ?_) (by simp [SessionEvent.breaks, breaks])
    simpa [all] using whole

theorem Course.tells (course : Course message events state) : Tells message events state where
  isPrefix := course.isPrefix
  whole_iff := by rintro rfl; exact course.whole_iff
  offers := by rintro before offered outcome after rfl; exact course.offers
  broken := by
    rintro before event after rfl breaks
    obtain ⟨_, _, -, meets, ended⟩ := course.split
    exact (ended ((eq_finished_iff meets).2 (.inr breaks))).1
  flushes := by rintro before outcome after rfl; exact course.flushes
  flush_once := course.flush_once
  uses := by
    intro event member
    obtain ⟨before, after, rfl⟩ := List.append_of_mem member
    exact course.uses
  over_iff := course.over_iff
  inTime := (Nat.le_add_right ..).trans course.length_add_owes_le

end Refusal

/-! ## Lines -/

namespace Line

open Refusal

/-- A line takes what it can of what it is offered, and never interrupts. -/
theorem write_answer (data : Bytes) (line : Line) :
    (line.write data).1.count ≤ data.length ∧
      (SessionEvent.write data (line.write data).1).isInterrupted = false ∧
      (line.write data).2.outbound = line.outbound ++ Delivery.taken data (line.write data).1 := by
  unfold write
  split
  · exact ⟨Nat.le_refl _, rfl, by simp [Delivery.taken]⟩
  · exact ⟨Nat.zero_le _, rfl, by simp [Delivery.taken]⟩
  · exact ⟨List.length_take_le' .., rfl, by simp [Delivery.taken, List.take_eq_take_iff]⟩

/-- A refusal that may go on for as many requests as it can still make comes to its end, since a line never
interrupts a write. -/
theorem refuseFor_course {message : Bytes} {events : List SessionEvent} {state : Refusal} (line : Line)
    {fuel : Nat} (course : Course message events state)
    (uninterrupted : events.countP SessionEvent.isInterrupted = 0)
    (enough : message.length + 2 ≤ events.length + fuel) :
    ∃ later, Course message (events ++ later) .finished ∧
      (refuseFor fuel state line).outbound = line.outbound ++ accepted later := by
  induction fuel generalizing events state line with
  | zero =>
      have inTime := course.tells.inTime
      omega
  | succ fuel inductionHypothesis =>
      cases state with
      | telling rest =>
          obtain ⟨within, whole, isTaken⟩ := line.write_answer rest
          have told := course.step (.write rest _ _ within)
          obtain ⟨later, ended, isWritten⟩ := inductionHypothesis (line.write rest).2 told
            (by rw [List.countP_append, uninterrupted, List.countP_singleton, whole]; rfl)
            (by rw [List.length_append, List.length_singleton]; omega)
          refine ⟨.write rest (line.write rest).1 :: later, by simpa using ended, ?_⟩
          show (refuseFor fuel _ _).outbound = _
          rw [isWritten, isTaken, List.append_assoc]
          rfl
      | flushing =>
          have pushed := course.step (.flush _ .done)
          obtain ⟨later, ended, isWritten⟩ := inductionHypothesis line pushed
            (by rw [List.countP_append, uninterrupted]; rfl)
            (by rw [List.length_append, List.length_singleton]; omega)
          exact ⟨.flush .done :: later, by simpa using ended, isWritten⟩
      | finished => exact ⟨[], by simpa using course, (List.append_nil _).symm⟩

/-- A line is refused by a course that comes to its end, and is closed behind it. -/
theorem refuse_course (message : Bytes) (line : Line) :
    ∃ events, Course message events .finished ∧
      (line.refuse message).outbound = line.outbound ++ accepted events ∧
      (line.refuse message).isOpen = false := by
  have enough : message.length + 2 ≤ ([] : List SessionEvent).length + (message.length + 2) :=
    Nat.le_add_left ..
  obtain ⟨events, course, isWritten⟩ := refuseFor_course line .start rfl enough
  exact ⟨events, by simpa using course, isWritten, rfl⟩

end Line

end ConnectionPool
