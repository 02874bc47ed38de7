import ConnectionPool.Proofs.Session.Answers
import Mathlib.Data.List.Infix

/-!
Contract: the echo session loses, adds and reorders nothing.

At every moment of a session, whatever its surroundings answer, the channel has taken all that was read, less
an end of the last read. A session that is over lacks such an end exactly where a write broke it off. So over
a channel that carries an input to its end the output is the input, however it was cut.

Owns:
- `Echo.Goes`, what a session does, and `Echo.Course`, what the channel sees of it up to some moment;
- `Echo.Faithful`, what every course keeps to;
- `Echo.exists_goes_play`, what a session over a script does, and the induction along such a session.

Does not own: the order in which a session does things; see `Echo.Disciplined`. Whether it comes to its end
over a live line; see `Line.converse_ends_or_waits`.
-/

namespace ConnectionPool

namespace Echo

/-! ## The course of a session -/

/-- What a session does from one state on, up to some moment. -/
inductive Goes : Echo → List SessionEvent → Echo → Prop where
  | here {state : Echo} : Goes state [] state
  | on {state next last : Echo} {event : SessionEvent} {later : List SessionEvent}
      (meets : state.request.Meets event next) (goes : Goes next later last) : Goes state (event :: later) last

/-- What the channel sees of a session up to some moment: its uses so far, the bytes that it took, and where
the session stands. -/
def Course (calls : List ChannelCall) (accepted : Bytes) (state : Echo) : Prop :=
  ∃ events, Goes .asking events state ∧ calls = events.flatMap SessionEvent.calls ∧
    accepted = events.flatMap SessionEvent.taken

/-- The bytes of the last read that the session has still to write. -/
def held : Echo → Bytes
  | .writing rest => rest
  | _ => []

/-- All that was read was taken, less these bytes at the end of the last read. -/
def Lacks (calls : List ChannelCall) (accepted lost : Bytes) : Prop :=
  ∃ earlier delivered, received calls = earlier ++ [delivered ++ lost] ∧
    accepted = earlier.flatten ++ delivered

/-- Between two rounds nothing is lacking; within a round the bytes that are still to be written are. A
session that a write broke off lacks some bytes for good. -/
def Balanced (calls : List ChannelCall) (accepted : Bytes) : Echo → Prop
  | .asking => accepted = (received calls).flatten ∧ ¬ BrokenOff calls
  | .writing rest => rest ≠ [] ∧ Lacks calls accepted rest
  | .finished =>
      accepted = (received calls).flatten ∧ ¬ BrokenOff calls ∨
        BrokenOff calls ∧ ∃ lost, lost ≠ [] ∧ Lacks calls accepted lost
  | _ => accepted = (received calls).flatten

variable {calls : List ChannelCall} {accepted : Bytes} {state next middle final : Echo}
  {event : SessionEvent} {events before after : List SessionEvent}

theorem goes_append_iff : Goes state (before ++ after) final ↔
    ∃ middle, Goes state before middle ∧ Goes middle after final := by
  constructor
  · intro goes
    induction before generalizing state with
    | nil => exact ⟨state, .here, goes⟩
    | cons event before inductionHypothesis =>
        cases goes with
        | on meets goes =>
            obtain ⟨middle, goesBefore, goesAfter⟩ := inductionHypothesis goes
            exact ⟨middle, .on meets goesBefore, goesAfter⟩
  · rintro ⟨middle, goesBefore, goesAfter⟩
    induction goesBefore with
    | here => exact goesAfter
    | on meets _ inductionHypothesis => exact .on meets (inductionHypothesis goesAfter)

theorem Goes.snoc (goes : Goes state events middle) (meets : middle.request.Meets event final) :
    Goes state (events ++ [event]) final :=
  goes_append_iff.2 ⟨middle, goes, .on meets .here⟩

theorem Course.start : Course [] [] .asking :=
  ⟨[], .here, rfl, rfl⟩

theorem Course.step (course : Course calls accepted state) (meets : state.request.Meets event next) :
    Course (calls ++ event.calls) (accepted ++ event.taken) next := by
  obtain ⟨events, goes, rfl, rfl⟩ := course
  exact ⟨events ++ [event], goes.snoc meets, by simp, by simp⟩

/-! ## Balance -/

theorem Lacks.eq_append {lost : Bytes} (lacks : Lacks calls accepted lost) :
    (received calls).flatten = accepted ++ lost := by
  obtain ⟨earlier, delivered, isReceived, rfl⟩ := lacks
  simp [isReceived]

/-- Whatever is lacking is lacking of the last read. -/
theorem Lacks.dropLast_isPrefix {lost : Bytes} (lacks : Lacks calls accepted lost) :
    (received calls).dropLast.flatten <+: accepted := by
  obtain ⟨earlier, delivered, isReceived, rfl⟩ := lacks
  rw [isReceived, List.dropLast_concat]
  exact List.prefix_append _ _

theorem balanced_afterRead {limit : Nat} {outcome : ReadOutcome}
    (even : accepted = (received calls).flatten) :
    Balanced (calls ++ [.read limit outcome]) accepted (afterRead outcome) := by
  have whole : ¬ BrokenOff (calls ++ [.read limit outcome]) := by simp [BrokenOff]
  cases outcome with
  | bytes data =>
      cases data with
      | nil => exact .inl ⟨by simp [even, ReadOutcome.data], whole⟩
      | cons byte bytes =>
          exact ⟨by simp, received calls, [], by simp [ReadOutcome.data], by simp [even]⟩
  | failed kind =>
      have same : accepted = (received (calls ++ [.read limit (.failed kind)])).flatten := by
        simp [even, ReadOutcome.data]
      cases kind with
      | interrupted => exact ⟨same, whole⟩
      | _ => exact .inl ⟨same, whole⟩

theorem balanced_afterWrite {rest : Bytes} {offered : Nat} {outcome : WriteOutcome}
    (some : rest ≠ []) (lacks : Lacks calls accepted rest) :
    Balanced (calls ++ [.write offered outcome]) (accepted ++ Delivery.taken rest outcome)
      (afterWrite rest outcome) := by
  unfold afterWrite
  split
  · next finished =>
      show accepted ++ _ = _
      rw [Delivery.taken_of_complete finished, received_append, received_write, List.append_nil]
      exact lacks.eq_append.symm
  · next left unfinished =>
      refine ⟨Delivery.remaining_ne_nil some unfinished, ?_⟩
      obtain ⟨earlier, delivered, isReceived, rfl⟩ := lacks
      refine ⟨earlier, delivered ++ Delivery.taken rest outcome, ?_, List.append_assoc ..⟩
      rw [received_append, received_write, List.append_nil, isReceived, List.append_assoc,
        Delivery.taken_append_of_remaining unfinished]
  · next broken =>
      have breaks := Delivery.advance_eq_broken_iff.1 broken
      refine .inr ⟨brokenOff_snoc_iff.2 breaks, rest, some, ?_⟩
      simpa [Lacks, Delivery.taken_of_breaks breaks] using lacks

theorem balanced_afterFlush {outcome : FlushOutcome} (even : accepted = (received calls).flatten) :
    Balanced (calls ++ [.flush outcome]) accepted (afterFlush outcome) := by
  have same : accepted = (received (calls ++ [.flush outcome])).flatten := by simpa using even
  have whole : ¬ BrokenOff (calls ++ [.flush outcome]) := by simp [BrokenOff]
  cases outcome with
  | done => exact ⟨same, whole⟩
  | failed kind => exact .inl ⟨same, whole⟩

/-- Every answer to every request keeps the balance. -/
theorem Balanced.step (balanced : Balanced calls accepted state)
    (meets : state.request.Meets event next) :
    Balanced (calls ++ event.calls) (accepted ++ event.taken) next := by
  cases state with
  | asking =>
      cases meets with
      | poll _ goOn =>
          simp only [SessionEvent.calls, SessionEvent.taken, List.append_nil]
          cases goOn with
          | true => exact balanced.1
          | false => exact .inl balanced
  | reading =>
      cases meets with
      | read =>
          simp only [SessionEvent.taken, List.append_nil]
          exact balanced_afterRead balanced
  | writing rest =>
      cases meets with
      | write => exact balanced_afterWrite balanced.1 balanced.2
  | flushing =>
      cases meets with
      | flush =>
          simp only [SessionEvent.taken, List.append_nil]
          exact balanced_afterFlush balanced
  | finished => cases meets

theorem Goes.balanced (goes : Goes state events final) (balanced : Balanced calls accepted state) :
    Balanced (calls ++ events.flatMap SessionEvent.calls)
      (accepted ++ events.flatMap SessionEvent.taken) final := by
  induction goes generalizing calls accepted with
  | here => simpa using balanced
  | on meets goes inductionHypothesis =>
      simpa only [List.flatMap_cons, List.append_assoc] using inductionHypothesis (balanced.step meets)

theorem Course.balanced (course : Course calls accepted state) : Balanced calls accepted state := by
  obtain ⟨events, goes, rfl, rfl⟩ := course
  have atFirst : Balanced [] [] .asking := ⟨rfl, by simp [BrokenOff]⟩
  exact goes.balanced atFirst

/-- What the two ends of a connection may expect of an echo session. -/
structure Faithful (calls : List ChannelCall) (accepted : Bytes) (state : Echo) : Prop where
  /-- Nothing is added and nothing is reordered. -/
  isPrefix : accepted <+: (received calls).flatten
  /-- Only bytes of the last read can be lacking. -/
  covers : (received calls).dropLast.flatten <+: accepted
  /-- A session that is over wrote all that it read, unless a write broke it off. -/
  complete_iff : state = .finished → (accepted = (received calls).flatten ↔ ¬ BrokenOff calls)

theorem Balanced.faithful (balanced : Balanced calls accepted state) :
    Faithful calls accepted state := by
  have ofEven (even : accepted = (received calls).flatten)
      (whole : state = .finished → ¬ BrokenOff calls) : Faithful calls accepted state :=
    { isPrefix := even ▸ List.prefix_rfl
      covers := even ▸ (List.dropLast_prefix _).flatten
      complete_iff := fun isOver => iff_of_true even (whole isOver) }
  cases state with
  | asking => exact ofEven balanced.1 nofun
  | reading | flushing => exact ofEven balanced nofun
  | writing rest =>
      exact
        { isPrefix := ⟨rest, balanced.2.eq_append.symm⟩
          covers := balanced.2.dropLast_isPrefix
          complete_iff := nofun }
  | finished =>
      rcases balanced with ⟨even, whole⟩ | ⟨broken, lost, some, lacks⟩
      · exact ofEven even fun _ => whole
      · refine
          { isPrefix := ⟨lost, lacks.eq_append.symm⟩
            covers := lacks.dropLast_isPrefix
            complete_iff := fun _ => iff_of_false (fun even => some ?_) (not_not_intro broken) }
        simpa [lacks.eq_append] using even

/-! ## Scripted channels -/

theorem play_reading (script : Script) :
    play script .reading =
      { play (script.read bufferSize).2 (afterRead (script.read bufferSize).1) with
        calls := .read bufferSize (script.read bufferSize).1 ::
          (play (script.read bufferSize).2 (afterRead (script.read bufferSize).1)).calls } := by
  rw [play]
  dsimp only
  split
  · next isEnd => simp [isEnd, afterRead, play]
  · next isBytes => simp [isBytes, afterRead]
  · next isFailure => simp [isFailure]

/-- An induction along a session over a script: what holds behind the answer to a request holds before it. -/
theorem play_induction {motive : Script → Echo → Prop}
    (asking : ∀ script, motive script.poll.2 (if script.poll.1 then .reading else .finished) →
      motive script .asking)
    (reading : ∀ script, motive (script.read bufferSize).2 (afterRead (script.read bufferSize).1) →
      motive script .reading)
    (writing : ∀ script rest, motive (script.write rest.length).2
      (afterWrite rest (script.write rest.length).1) → motive script (.writing rest))
    (flushing : ∀ script, motive script.flush.2 (afterFlush script.flush.1) → motive script .flushing)
    (finished : ∀ script, motive script .finished) (script : Script) (state : Echo) :
    motive script state := by
  fun_induction play script state with
  | case1 script _ _ inductionHypothesis => exact asking script inductionHypothesis
  | case2 script answer _ ofBytes ofFailure =>
      -- Behind the end of the stream nothing is played; the session is finished there all the same.
      apply reading script
      cases isAnswer : (script.read bufferSize).1 with
      | bytes data =>
          cases data with
          | nil => exact finished _
          | cons byte bytes => exact ofBytes byte bytes isAnswer
      | failed kind => exact ofFailure kind isAnswer
  | case3 script rest _ _ inductionHypothesis => exact writing script rest inductionHypothesis
  | case4 script _ _ inductionHypothesis => exact flushing script inductionHypothesis
  | case5 script => exact finished script

/-- A transcript tells what happened. -/
structure Records (transcript : Transcript) (events : List SessionEvent) : Prop where
  calls : transcript.calls = events.flatMap SessionEvent.calls
  accepted : transcript.accepted = events.flatMap SessionEvent.taken
  polls : transcript.polls = events.countP SessionEvent.isPoll

/-- Whatever the script, the session comes to its end. -/
theorem exists_goes_play (script : Script) (state : Echo) :
    ∃ events, Goes state events .finished ∧ Records (play script state) events := by
  induction script, state using play_induction with
  | asking script inductionHypothesis =>
      obtain ⟨events, goes, calls, accepted, polls⟩ := inductionHypothesis
      refine ⟨.poll script.poll.1 :: events, .on (.poll _ _) goes, ?_⟩
      rw [play]
      exact ⟨calls, accepted, by rw [polls, List.countP_cons_of_pos rfl]⟩
  | reading script inductionHypothesis =>
      obtain ⟨events, goes, calls, accepted, polls⟩ := inductionHypothesis
      have meets := Request.Meets.read bufferSize afterRead _ (script.length_data_read_le bufferSize)
      refine ⟨.read bufferSize (script.read bufferSize).1 :: events, .on meets goes, ?_⟩
      rw [play_reading]
      exact ⟨congrArg _ calls, accepted, polls⟩
  | writing script rest inductionHypothesis =>
      obtain ⟨events, goes, calls, accepted, polls⟩ := inductionHypothesis
      have meets := Request.Meets.write rest (afterWrite rest) _ (script.count_write_le rest.length)
      refine ⟨.write rest (script.write rest.length).1 :: events, .on meets goes, ?_⟩
      rw [play]
      exact ⟨congrArg _ calls, congrArg _ accepted, polls⟩
  | flushing script inductionHypothesis =>
      obtain ⟨events, goes, calls, accepted, polls⟩ := inductionHypothesis
      refine ⟨.flush script.flush.1 :: events, .on (.flush _ _) goes, ?_⟩
      rw [play]
      exact ⟨congrArg _ calls, accepted, polls⟩
  | finished script =>
      rw [play]
      exact ⟨[], .here, rfl, rfl, rfl⟩

theorem Course.session (script : Script) :
    Course (session script).calls (session script).accepted .finished := by
  obtain ⟨events, goes, records⟩ := exists_goes_play script .asking
  exact ⟨events, goes, records.calls, records.accepted⟩

/-- The session is not over, and wherever it is about to write it has something to write. -/
def Busy : Echo → Prop
  | .writing rest => rest ≠ []
  | .finished => False
  | _ => True

/-- A write that does not break the delivery off leaves the session with what it did not take. -/
theorem afterWrite_of_not_breaks {rest : Bytes} {outcome : WriteOutcome} (some : rest ≠ [])
    (whole : outcome.breaks = false) :
    (afterWrite rest outcome).Busy ∧
      Delivery.taken rest outcome ++ (afterWrite rest outcome).held = rest := by
  unfold afterWrite
  split
  · next finished =>
      refine ⟨trivial, ?_⟩
      rw [Delivery.taken_of_complete finished]
      exact List.append_nil rest
  · next left unfinished =>
      exact ⟨Delivery.remaining_ne_nil some unfinished,
        Delivery.taken_append_of_remaining unfinished⟩
  · next broken =>
      rw [Delivery.advance_eq_broken_iff, whole] at broken
      cases broken

/-- Over a script that carries an input to its end, the session writes what it holds and then the input. -/
theorem accepted_play {script : Script} {input : Bytes} (delivers : script.Delivers input)
    (busy : state.Busy) : (play script state).accepted = state.held ++ input := by
  induction script, state using play_induction generalizing input with
  | asking script inductionHypothesis =>
      rw [play]
      rw [delivers.poll] at inductionHypothesis ⊢
      exact inductionHypothesis delivers trivial
  | reading script inductionHypothesis =>
      have room : 0 < bufferSize := by decide
      rw [play_reading]
      rcases delivers.read room with
        ⟨isEnd, rfl⟩ | ⟨interrupted, later⟩ | ⟨data, left, some, isData, rfl, later⟩
      · rw [isEnd]
        simp [afterRead, play, held]
      · rw [interrupted] at inductionHypothesis ⊢
        exact inductionHypothesis later trivial
      · obtain ⟨byte, bytes, rfl⟩ := List.exists_cons_of_ne_nil some
        rw [isData] at inductionHypothesis ⊢
        exact inductionHypothesis later some
  | writing script rest inductionHypothesis =>
      obtain ⟨whole, later⟩ := delivers.write (List.length_pos_iff.2 busy)
      obtain ⟨stillBusy, isWhole⟩ := afterWrite_of_not_breaks busy whole
      rw [play]
      show Delivery.taken rest _ ++ _ = rest ++ input
      rw [inductionHypothesis later stillBusy, ← List.append_assoc, isWhole]
  | flushing script inductionHypothesis =>
      obtain ⟨isDone, later⟩ := delivers.flush
      rw [play]
      rw [isDone] at inductionHypothesis ⊢
      exact inductionHypothesis later trivial
  | finished script => exact busy.elim

theorem accepted_session {script : Script} {input : Bytes} (delivers : script.Delivers input) :
    (session script).accepted = input :=
  accepted_play delivers trivial

/-- Over any channel and with any token, a session loses, adds and reorders nothing; over a script it comes
to its end; and what it writes over a script that carries an input to its end depends on the input alone. -/
theorem faithful_of_course :
    (∀ {calls accepted state}, Course calls accepted state → Faithful calls accepted state) ∧
      (∀ script, Course (session script).calls (session script).accepted .finished) ∧
      ∀ {first second : Script} {input : Bytes}, first.Delivers input → second.Delivers input →
        (session first).accepted = (session second).accepted := by
  refine ⟨fun course => course.balanced.faithful, Course.session, fun ofFirst ofSecond => ?_⟩
  rw [accepted_session ofFirst, accepted_session ofSecond]

/-- One session is broken off when a byte of its second read is still to be written. Two others get the same
input, one of them in pieces, and write the same. -/
theorem faithful_of_pieces :
    (∃ calls accepted, Course calls accepted .finished ∧ BrokenOff calls ∧
      received calls = [[1, 2], [3, 4]] ∧ accepted = [1, 2, 3] ∧ Faithful calls accepted .finished) ∧
    ∃ pieces whole : Script,
      pieces.reads = [.bytes [1], .failed .interrupted, .bytes [2, 3]] ∧
      pieces.writes = [.failing .interrupted, .everything, .atMost 1] ∧
      whole.reads = [.bytes [1, 2, 3]] ∧ whole.writes = [] ∧
      (session pieces).accepted = (session whole).accepted := by
  constructor
  · have course := Course.start
      |>.step (.poll _ true)
      |>.step (.read bufferSize _ (.bytes [1, 2]) (by decide))
      |>.step (.write [1, 2] _ (.accepted 2) (by decide))
      |>.step (.flush _ .done)
      |>.step (.poll _ true)
      |>.step (.read bufferSize _ (.bytes [3, 4]) (by decide))
      |>.step (.write [3, 4] _ (.accepted 1) (by decide))
      |>.step (.write [4] _ (.failed .brokenPipe) (by decide))
    exact ⟨_, _, course, ⟨1, .failed .brokenPipe, rfl, rfl⟩, rfl, rfl, faithful_of_course.1 course⟩
  · let pieces : Script :=
      { reads := [.bytes [1], .failed .interrupted, .bytes [2, 3]]
        writes := [.failing .interrupted, .everything, .atMost 1] }
    let whole : Script := { reads := [.bytes [1, 2, 3]] }
    have ofPieces : pieces.Delivers [1, 2, 3] :=
      ⟨.piece [1] (by decide) (.interrupted (.piece [2, 3] (by decide) .done)), by decide, by decide, rfl⟩
    have ofWhole : whole.Delivers [1, 2, 3] :=
      ⟨.piece [1, 2, 3] (by decide) .done, by decide, by decide, rfl⟩
    exact ⟨pieces, whole, rfl, rfl, rfl, rfl, faithful_of_course.2.2 ofPieces ofWhole⟩

end Echo

end ConnectionPool
