import ConnectionPool.Proofs.Session.Echo

/-!
Contract: the echo session asks for things in the right order.

A session goes round in rounds: it asks the token, reads once, writes back what it read, bytes that were not
taken offered again, and flushes once. The first answer that leaves it nothing to go on with ends it, and it
does nothing more.

Owns:
- `SessionEvent.Ends`, the events that end a session;
- `Echo.Disciplined`, what is asked of its order, and `Echo.disciplined_of_goes`.

Does not own: what a session does at all, with its questions to the token; see `Echo.Goes`. That no byte is
lost; see `Echo.Faithful`.
-/

namespace ConnectionPool

namespace SessionEvent

def isRead : SessionEvent → Bool
  | .read .. => true
  | _ => false

/-- The events that end an echo session: the token says no, the stream ends, or something fails for good. An
interrupted flush is a failed one. -/
inductive Ends : SessionEvent → Prop where
  | stopped : Ends (.poll false)
  | endOfStream (limit : Nat) : Ends (.read limit (.bytes []))
  | readFailed (limit : Nat) (kind : IoKind) (notInterrupted : kind ≠ .interrupted) :
      Ends (.read limit (.failed kind))
  | tookNothing (offered : Bytes) : Ends (.write offered (.accepted 0))
  | writeFailed (offered : Bytes) (kind : IoKind) (notInterrupted : kind ≠ .interrupted) :
      Ends (.write offered (.failed kind))
  | flushFailed (kind : IoKind) : Ends (.flush (.failed kind))

end SessionEvent

namespace Echo

/-! ## What is asked of the order -/

/-- What follows a question to the token, a read or a flush begins with a question to the token, if anything
follows at all. -/
def AsksNext (later : List SessionEvent) : Prop :=
  ∀ event, later.head? = some event → event.isPoll = true

/-- What follows a read that gave bytes, while some of them are left: writes that offer exactly these, until
all are taken, and then one flush, unless something ends the session or nothing more has happened yet. -/
inductive WritesBack : Bytes → List SessionEvent → Prop where
  | notYet (left : Bytes) : WritesBack left []
  /-- An interrupted write is made again. -/
  | interrupted {left : Bytes} {later : List SessionEvent} (again : WritesBack left later) :
      WritesBack left (.write left (.failed .interrupted) :: later)
  /-- What a write did not take is offered next. -/
  | partly {left : Bytes} {count : Nat} {later : List SessionEvent} (some : 0 < count)
      (notAll : count < left.length) (rest : WritesBack (left.drop count) later) :
      WritesBack left (.write left (.accepted count) :: later)
  /-- A write that takes nothing, or fails and is not merely interrupted, is the last thing done. -/
  | broken {left : Bytes} {outcome : WriteOutcome} (breaks : outcome.breaks = true) :
      WritesBack left [.write left outcome]
  | whole (left : Bytes) : WritesBack left [.write left (.accepted left.length)]
  | flushed {left : Bytes} {later : List SessionEvent} (asks : AsksNext later) :
      WritesBack left (.write left (.accepted left.length) :: .flush .done :: later)
  | unflushed (left : Bytes) (kind : IoKind) :
      WritesBack left [.write left (.accepted left.length), .flush (.failed kind)]

/-- What is asked of the order in which a session does things up to some moment. -/
structure Disciplined (events : List SessionEvent) (state : Echo) : Prop where
  /-- A read asks for at most 4096 bytes, and the token said yes just before. Between two reads it is asked
  once. -/
  reads : ∀ before limit outcome after, events = before ++ .read limit outcome :: after →
    limit ≤ 4096 ∧ before.getLast? = some (.poll true) ∧
      before.countP SessionEvent.isPoll = before.countP SessionEvent.isRead + 1
  writes : ∀ before limit data after, events = before ++ .read limit (.bytes data) :: after →
    data ≠ [] → WritesBack data after
  interrupted : ∀ before limit after, events = before ++ .read limit (.failed .interrupted) :: after →
    AsksNext after
  /-- The session is over exactly behind an event that ends it. -/
  over_iff : state = .finished ↔ ∃ event, events.getLast? = some event ∧ event.Ends
  /-- Behind such an event nothing is done, so that it is the first one. -/
  last : ∀ before event after, events = before ++ event :: after → event.Ends → after = []
  polls : state = .finished → events.countP SessionEvent.isPoll =
    events.countP SessionEvent.isRead + if events.getLast? = some (.poll false) then 1 else 0

variable {state next final middle : Echo} {event : SessionEvent} {events before after : List SessionEvent}

/-! ## Steps -/

theorem afterWrite_eq_finished_iff {rest : Bytes} {outcome : WriteOutcome} :
    afterWrite rest outcome = .finished ↔ outcome.breaks = true := by
  rw [← Delivery.advance_eq_broken_iff]
  unfold afterWrite
  cases Delivery.advance rest outcome <;> simp

theorem ends_write_iff {rest : Bytes} {outcome : WriteOutcome} :
    (SessionEvent.write rest outcome).Ends ↔ outcome.breaks = true := by
  constructor
  · intro ends
    cases ends with
    | tookNothing => rfl
    | writeFailed _ kind notInterrupted =>
        cases kind with
        | interrupted => exact absurd rfl notInterrupted
        | _ => rfl
  · intro breaks
    cases outcome with
    | accepted count =>
        have none : count = 0 := by simpa [WriteOutcome.breaks] using breaks
        subst none
        exact .tookNothing rest
    | failed kind =>
        refine .writeFailed rest kind ?_
        rintro rfl
        cases breaks

/-- A session is over behind an event exactly where the event ends it. -/
theorem eq_finished_iff (meets : state.request.Meets event next) : next = .finished ↔ event.Ends := by
  cases state with
  | asking =>
      cases meets with
      | poll _ goOn =>
          cases goOn with
          | true => exact iff_of_false nofun nofun
          | false => exact iff_of_true rfl .stopped
  | reading =>
      cases meets with
      | read limit _ outcome =>
          cases outcome with
          | bytes data =>
              cases data with
              | nil => exact iff_of_true rfl (.endOfStream _)
              | cons byte bytes => exact iff_of_false nofun nofun
          | failed kind =>
              cases kind with
              | interrupted =>
                  refine iff_of_false nofun fun ends => ?_
                  cases ends with
                  | readFailed _ _ notInterrupted => exact notInterrupted rfl
              | _ => exact iff_of_true rfl (.readFailed _ _ (by decide))
  | writing rest =>
      cases meets with
      | write => rw [afterWrite_eq_finished_iff, ends_write_iff]
  | flushing =>
      cases meets with
      | flush _ outcome =>
          cases outcome with
          | done => exact iff_of_false nofun nofun
          | failed kind => exact iff_of_true rfl (.flushFailed kind)
  | finished => cases meets

theorem Goes.nil_of_finished (goes : Goes .finished events final) : events = [] ∧ final = .finished := by
  cases goes with
  | here => exact ⟨rfl, rfl⟩
  | on meets => cases meets

/-- An event among others met the request of the state in front of it. -/
theorem Goes.split (goes : Goes state (before ++ event :: after) final) :
    ∃ middle next, Goes state before middle ∧ middle.request.Meets event next ∧
      Goes next after final := by
  obtain ⟨middle, goesBefore, goesAfter⟩ := goes_append_iff.1 goes
  cases goesAfter with
  | on meets goesAfter => exact ⟨middle, _, goesBefore, meets, goesAfter⟩

theorem Goes.exists_last (goes : Goes state events final) : events = [] ∧ state = final ∨
    ∃ before event, ∃ middle : Echo, events = before ++ [event] ∧ middle.request.Meets event final := by
  obtain rfl | ⟨before, event, rfl⟩ := List.eq_nil_or_concat' events
  · cases goes
    exact .inl ⟨rfl, rfl⟩
  · obtain ⟨middle, next, -, meets, goes⟩ := goes.split
    cases goes
    exact .inr ⟨before, event, middle, rfl, meets⟩

/-! ## Rounds -/

theorem Goes.asksNext (goes : Goes .asking events final) : AsksNext events := by
  intro event isHead
  cases goes with
  | here => cases isHead
  | on meets =>
      obtain rfl := Option.some.inj isHead
      cases meets
      rfl

/-- A session that is about to read has used no answer of the token yet for it. -/
def owed : Echo → Nat
  | .reading => 1
  | _ => 0

@[simp] theorem owed_afterRead (outcome : ReadOutcome) : (afterRead outcome).owed = 0 := by
  cases outcome with
  | bytes data => cases data <;> rfl
  | failed kind => cases kind <;> rfl

@[simp] theorem owed_afterWrite (rest : Bytes) (outcome : WriteOutcome) :
    (afterWrite rest outcome).owed = 0 := by
  unfold afterWrite
  cases Delivery.advance rest outcome <;> rfl

@[simp] theorem owed_afterFlush (outcome : FlushOutcome) : (afterFlush outcome).owed = 0 := by
  cases outcome <;> rfl

/-- A session is about to read only where it has just been told that it may go on. -/
theorem eq_poll_of_owed (meets : state.request.Meets event next) (isOwed : next.owed = 1) :
    event = .poll true := by
  cases state with
  | asking =>
      cases meets with
      | poll _ goOn =>
          cases goOn with
          | true => rfl
          | false => cases isOwed
  | reading =>
      cases meets
      simp at isOwed
  | writing rest =>
      cases meets
      simp at isOwed
  | flushing =>
      cases meets
      simp at isOwed
  | finished => cases meets

theorem Goes.getLast?_of_reading (goes : Goes .asking events .reading) :
    events.getLast? = some (.poll true) := by
  obtain ⟨-, isReading⟩ | ⟨before, event, middle, rfl, meets⟩ := goes.exists_last
  · cases isReading
  · rw [List.getLast?_concat, eq_poll_of_owed meets rfl]

/-- The answers of the token by which a session ended. -/
def stops (events : List SessionEvent) : Nat :=
  if events.getLast? = some (.poll false) then 1 else 0

theorem stops_cons (others : event ≠ .poll false) : stops (event :: events) = stops events := by
  unfold stops
  cases events with
  | nil => simp [others]
  | cons next events => rw [List.getLast?_cons_cons]

/-- An answer of the token is used for a read, is still to be used, or ends the session. -/
theorem owed_step (meets : state.request.Meets event next) :
    event.isPoll.toNat + state.owed =
      event.isRead.toNat + next.owed + if event = .poll false then 1 else 0 := by
  cases state with
  | asking =>
      cases meets with
      | poll _ goOn => cases goOn <;> rfl
  | reading =>
      cases meets with
      | read _ _ outcome => rw [owed_afterRead]; rfl
  | writing rest =>
      cases meets with
      | write _ _ outcome => rw [owed_afterWrite]; rfl
  | flushing =>
      cases meets with
      | flush _ outcome => rw [owed_afterFlush]; rfl
  | finished => cases meets

theorem Goes.polls (goes : Goes state events final) :
    events.countP SessionEvent.isPoll + state.owed =
      events.countP SessionEvent.isRead + final.owed + stops events := by
  induction goes with
  | here => simp [stops]
  | @on state next final event later meets goes inductionHypothesis =>
      have step := owed_step meets
      have polled : (event :: later).countP SessionEvent.isPoll =
          later.countP SessionEvent.isPoll + event.isPoll.toNat := by
        cases isPoll : event.isPoll <;> simp [isPoll]
      have read : (event :: later).countP SessionEvent.isRead =
          later.countP SessionEvent.isRead + event.isRead.toNat := by
        cases isRead : event.isRead <;> simp [isRead]
      rw [polled, read]
      by_cases stopped : event = .poll false
      · -- the token said no, and nothing followed
        have isOver : next = .finished := (eq_finished_iff meets).2 (stopped ▸ .stopped)
        subst isOver stopped
        obtain ⟨rfl, rfl⟩ := goes.nil_of_finished
        exact step
      · rw [stops_cons stopped]
        rw [if_neg stopped] at step
        omega

theorem afterWrite_of_part {left : Bytes} {count : Nat} (some : 0 < count) (notAll : count < left.length) :
    afterWrite left (.accepted count) = .writing (left.drop count) := by
  have notNone : count ≠ 0 := by omega
  simp [afterWrite, Delivery.advance, notNone, notAll]

theorem afterWrite_of_all {left : Bytes} (some : left ≠ []) :
    afterWrite left (.accepted left.length) = .flushing := by
  have notNone : left.length ≠ 0 := by simpa using some
  simp [afterWrite, Delivery.advance, notNone]

theorem Goes.flushed {left : Bytes} (goes : Goes .flushing events final) :
    WritesBack left (.write left (.accepted left.length) :: events) := by
  cases goes with
  | here => exact .whole left
  | on meets goes =>
      cases meets with
      | flush _ outcome =>
          cases outcome with
          | done => exact .flushed goes.asksNext
          | failed kind =>
              obtain ⟨rfl, -⟩ := goes.nil_of_finished
              exact .unflushed left kind

theorem Goes.writesBack {left : Bytes} (some : left ≠ []) (goes : Goes (.writing left) events final) :
    WritesBack left events := by
  generalize isState : Echo.writing left = state at goes
  induction goes generalizing left with
  | here => exact .notYet left
  | @on state next final event later meets goes inductionHypothesis =>
      subst isState
      by_cases ends : event.Ends
      · obtain rfl := (eq_finished_iff meets).2 ends
        obtain ⟨rfl, -⟩ := goes.nil_of_finished
        generalize isNext : Echo.finished = next at meets
        cases meets with
        | write => exact .broken (ends_write_iff.1 ends)
      · cases meets with
        | write _ _ outcome within =>
            cases outcome with
            | failed kind =>
                obtain rfl : kind = .interrupted := by
                  by_contra notInterrupted
                  exact ends (.writeFailed left kind notInterrupted)
                exact .interrupted (inductionHypothesis some rfl)
            | accepted count =>
                have someTaken : 0 < count := by
                  apply Nat.pos_of_ne_zero
                  rintro rfl
                  exact ends (.tookNothing left)
                have fits : count ≤ left.length := within
                obtain notAll | isAll := Nat.lt_or_eq_of_le fits
                · have isNext := afterWrite_of_part someTaken notAll
                  have leftOver : left.drop count ≠ [] := by simpa using notAll
                  exact .partly someTaken notAll (inductionHypothesis leftOver isNext.symm)
                · subst isAll
                  rw [afterWrite_of_all some] at goes
                  exact goes.flushed

/-! ## A whole session -/

theorem Goes.disciplined (goes : Goes .asking events final) : Disciplined events final where
  reads := by
    rintro before limit outcome after rfl
    obtain ⟨middle, next, goesBefore, meets, -⟩ := goes.split
    obtain rfl : middle = .reading := by
      cases middle <;> first | rfl | cases meets
    have asked := goesBefore.getLast?_of_reading
    have polls := goesBefore.polls
    have notStopped : stops before = 0 := by simp [stops, asked]
    cases meets
    refine ⟨Nat.le_refl bufferSize, asked, ?_⟩
    simpa [owed, notStopped] using polls
  writes := by
    rintro before limit data after rfl some
    obtain ⟨middle, next, -, meets, goesAfter⟩ := goes.split
    obtain rfl : middle = .reading := by
      cases middle <;> first | rfl | cases meets
    obtain ⟨byte, bytes, rfl⟩ := List.exists_cons_of_ne_nil some
    cases meets
    exact goesAfter.writesBack some
  interrupted := by
    rintro before limit after rfl
    obtain ⟨middle, next, -, meets, goesAfter⟩ := goes.split
    obtain rfl : middle = .reading := by
      cases middle <;> first | rfl | cases meets
    cases meets
    exact goesAfter.asksNext
  over_iff := by
    obtain ⟨rfl, rfl⟩ | ⟨before, event, middle, rfl, meets⟩ := goes.exists_last
    · exact iff_of_false nofun fun ⟨event, isLast, _⟩ => by cases isLast
    · rw [eq_finished_iff meets]
      simp
  last := by
    rintro before event after rfl ends
    obtain ⟨middle, next, -, meets, goesAfter⟩ := goes.split
    obtain rfl := (eq_finished_iff meets).2 ends
    exact goesAfter.nil_of_finished.1
  polls := by
    rintro rfl
    exact goes.polls

/-! ## All together -/

/-- Over any channel and with any token, a session does things in the right order up to any moment, and so
every course comes about; over a script, a session comes to its end in this way. -/
theorem disciplined_of_goes :
    (∀ {events state}, Goes .asking events state → Disciplined events state) ∧
      (∀ {calls accepted state}, Course calls accepted state → ∃ events, Disciplined events state ∧
        calls = events.flatMap SessionEvent.calls ∧ accepted = events.flatMap SessionEvent.taken) ∧
      ∀ script, ∃ events, Disciplined events .finished ∧ Records (session script) events := by
  refine ⟨Goes.disciplined, fun course => ?_, fun script => ?_⟩
  · obtain ⟨events, goes, calls, accepted⟩ := course
    exact ⟨events, goes.disciplined, calls, accepted⟩
  · obtain ⟨events, goes, records⟩ := exists_goes_play script .asking
    exact ⟨events, goes.disciplined, records⟩

/-- An interrupted read and an interrupted write are made again, a write takes a part, and an interrupted flush
ends the session. -/
theorem disciplined_of_interruptions :
    ∃ events, Goes .asking events .finished ∧
      events = [.poll true, .read 4096 (.failed .interrupted), .poll true, .read 4096 (.bytes [1, 2, 3]),
        .write [1, 2, 3] (.failed .interrupted), .write [1, 2, 3] (.accepted 1), .write [2, 3] (.accepted 2),
        .flush (.failed .interrupted)] ∧
      Disciplined events .finished ∧
      (∃ calls accepted, Course calls accepted .finished ∧ ∃ others, Disciplined others .finished ∧
        calls = others.flatMap SessionEvent.calls ∧ accepted = others.flatMap SessionEvent.taken) := by
  have goes : Goes .asking [.poll true, .read 4096 (.failed .interrupted), .poll true,
      .read 4096 (.bytes [1, 2, 3]), .write [1, 2, 3] (.failed .interrupted), .write [1, 2, 3] (.accepted 1),
      .write [2, 3] (.accepted 2), .flush (.failed .interrupted)] .finished :=
    .on (.poll _ true) <| .on (.read _ _ _ (by decide)) <| .on (.poll _ true) <|
      .on (.read _ _ _ (by decide)) <| .on (.write _ _ _ (by decide)) <| .on (.write _ _ _ (by decide)) <|
        .on (.write _ _ _ (by decide)) <| .on (.flush _ _) .here
  have course := Course.start.step (.poll _ false)
  exact ⟨_, goes, rfl, disciplined_of_goes.1 goes, _, _, course, disciplined_of_goes.2.1 course⟩

end Echo

end ConnectionPool
