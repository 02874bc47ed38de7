import ConnectionPool.Line

/-!
Contract: what sessions and refusals do to a connection in memory.

Neither a session nor a refusal opens or closes the line it is held on; a refused line is closed when the
far end was told. The end of the stream is never read away, so a session over a line whose far end has hung
up comes to its own end, with the fuel that `Line.converse` gives it.

Owns:
- `Line.Kept` and `Line.Lasts`, what a change leaves of a line;
- `Line.converse_ends_or_waits`, what a session on a line comes to.

Does not own: when a line is closed; see `Site.disengage`.
-/

namespace ConnectionPool

/-- A line belongs to the same server, only that server may have closed it, nobody opens it again, and a
far end that has hung up stays away. -/
structure Line.Kept (position : Nat) (before after : Line) : Prop where
  server : after.server = before.server
  isOpen : before.server ≠ position → after.isOpen = before.isOpen
  closed : after.isOpen = true → before.isOpen = true
  hungUp : .hangUp ∈ before.inbound → .hangUp ∈ after.inbound

theorem Line.Kept.refl (position : Nat) (line : Line) : line.Kept position line :=
  ⟨rfl, fun _ => rfl, id, id⟩

theorem Line.Kept.trans {position : Nat} {first second third : Line}
    (earlier : first.Kept position second) (later : second.Kept position third) :
    first.Kept position third where
  server := later.server.trans earlier.server
  isOpen := fun other =>
    (later.isOpen (by rwa [earlier.server])).trans (earlier.isOpen other)
  closed := earlier.closed ∘ later.closed
  hungUp := later.hungUp ∘ earlier.hungUp

namespace Line

/-- A line stays open, or closed, with the same server. -/
structure Lasts (before after : Line) : Prop where
  server : after.server = before.server
  isOpen : after.isOpen = before.isOpen
  hungUp : .hangUp ∈ before.inbound → .hangUp ∈ after.inbound

theorem Lasts.refl (line : Line) : line.Lasts line :=
  ⟨rfl, rfl, id⟩

theorem Lasts.trans {first second third : Line} (earlier : first.Lasts second)
    (later : second.Lasts third) : first.Lasts third :=
  ⟨later.server.trans earlier.server, later.isOpen.trans earlier.isOpen,
    later.hungUp ∘ earlier.hungUp⟩

theorem Lasts.kept {before after : Line} (lasts : before.Lasts after) (position : Nat) :
    before.Kept position after :=
  ⟨lasts.server, fun _ => lasts.isOpen, fun isOpen => lasts.isOpen ▸ isOpen, lasts.hungUp⟩

theorem receive_lasts (line : Line) (event : Inbound) : line.Lasts (line.receive event) :=
  ⟨rfl, rfl, fun there => List.mem_append_left _ there⟩

/-- The end of the stream is never taken off a line. -/
theorem read_lasts (line : Line) (limit : Nat) : line.Lasts (line.read limit).2 := by
  unfold read
  split
  case h_2 data inbound isInbound =>
    split <;> exact ⟨rfl, rfl, by rw [isInbound]; simp⟩
  case h_3 kind inbound isInbound => exact ⟨rfl, rfl, by rw [isInbound]; simp⟩
  case h_4 inbound isInbound => exact ⟨rfl, rfl, by rw [isInbound]; simp⟩
  all_goals exact .refl line

theorem write_lasts (line : Line) (data : Bytes) : line.Lasts (line.write data).2 := by
  unfold write
  split <;> exact ⟨rfl, rfl, id⟩

/-- What the near end has written is no part of what there is to read. -/
theorem collect_lasts (line : Line) (limit : Option Nat) : line.Lasts (line.collect limit).2 := by
  unfold collect
  split <;> exact ⟨rfl, rfl, id⟩

theorem converseFor_lasts (line : Line) (mayContinue : Bool) (fuel : Nat) (dialogue : Dialogue) :
    line.Lasts (converseFor mayContinue fuel dialogue line).2 := by
  induction fuel generalizing dialogue line with
  | zero => exact .refl line
  | succ fuel inductionHypothesis =>
      unfold converseFor
      split
      · exact inductionHypothesis ..
      · next limit next isRead =>
          have read := line.read_lasts limit
          split
          · next outcome after answered =>
              rw [answered] at read
              exact read.trans (inductionHypothesis ..)
          · next after answered =>
              rw [answered] at read
              exact read
          · next after answered =>
              rw [answered] at read
              split
              · exact read.trans (inductionHypothesis ..)
              · exact read
      · exact (line.write_lasts _).trans (inductionHypothesis ..)
      · exact inductionHypothesis ..
      · exact .refl line

theorem refuseFor_lasts (line : Line) (fuel : Nat) (refusal : Refusal) :
    line.Lasts (refuseFor fuel refusal line) := by
  induction fuel generalizing refusal line with
  | zero => exact .refl line
  | succ fuel inductionHypothesis =>
      unfold refuseFor
      split
      · exact (line.write_lasts _).trans (inductionHypothesis ..)
      · exact inductionHypothesis ..
      all_goals exact .refl line

/-- Only a line of the server itself is closed. -/
theorem close_kept {line : Line} {position : Nat} (isOwn : line.server = position) :
    line.Kept position line.close :=
  ⟨rfl, fun other => absurd isOwn other, nofun, id⟩

theorem refuse_kept {line : Line} {position : Nat} (isOwn : line.server = position)
    (message : Bytes) : line.Kept position (line.refuse message) := by
  have told := line.refuseFor_lasts (message.length + 2) (Refusal.start message)
  exact (told.kept position).trans (close_kept (told.server.trans isOwn))

end Line

/-! ## The end of a session -/

namespace Line

variable {line : Line}

/-- How many requests a session makes at most until it ends or has read something, on a line of this
capacity. A line with a limit breaks a delivery at the latest when the second part of it is offered. -/
def cost (capacity : Option Nat) : Dialogue → Nat
  | .echo .finished => 1
  | .echo .reading => 2
  | .echo .asking => 3
  | .echo .flushing => 4
  | .echo (.writing _) => if capacity = some 0 then 2 else 6
  | .counted .finished => 1
  | .counted (.saying _ true) => if capacity = some 0 then 2 else 3
  | .counted .reading => 4
  | .counted .asking => 5
  | .counted (.saying _ false) => if capacity = some 0 then 6 else 7

theorem cost_le (capacity : Option Nat) (dialogue : Dialogue) : cost capacity dialogue ≤ 7 := by
  unfold cost
  split <;> (try split) <;> omega

theorem cost_pos (capacity : Option Nat) (dialogue : Dialogue) : 0 < cost capacity dialogue := by
  unfold cost
  split <;> (try split) <;> omega

theorem cost_leave_le (capacity : Option Nat) (words : Bytes) :
    cost capacity (.counted (Counted.say words true)) ≤ 3 := by
  unfold Counted.say
  split
  · exact (by decide : 1 ≤ 3)
  · simp only [cost]
    split <;> omega

theorem read_capacity (line : Line) (limit : Nat) : (line.read limit).2.capacity = line.capacity := by
  unfold read
  split
  case h_2 => split <;> rfl
  all_goals rfl

/-- Behind a hang-up a read never waits: it takes something off the line, or finds the end of the stream,
or makes the session collapse. -/
theorem read_of_hungUp {limit : Nat} (positive : 0 < limit) (hungUp : .hangUp ∈ line.inbound) :
    (line.read limit).1 = .collapsed ∨
      ((line.read limit).1 = .outcome (.bytes []) ∧ (line.read limit).2 = line) ∨
      (∃ outcome, (line.read limit).1 = .outcome outcome) ∧
        (line.read limit).2.unread < line.unread := by
  unfold read
  split
  · next isEmpty =>
      rw [isEmpty] at hungUp
      cases hungUp
  · next data inbound isInbound =>
      right; right
      split
      · exact ⟨⟨_, rfl⟩, by simp [unread, isInbound]⟩
      · next rest isRest =>
          refine ⟨⟨_, rfl⟩, ?_⟩
          have left : (data.drop limit).length = data.length - limit := List.length_drop
          have some : 0 < (data.drop limit).length := List.length_pos_iff.2 isRest
          simp only [unread, isInbound, List.foldr_cons]
          omega
  · next kind inbound isInbound =>
      right; right
      exact ⟨⟨_, rfl⟩, by simp [unread, isInbound]⟩
  · exact .inl rfl
  · exact .inr (.inl ⟨rfl, rfl⟩)

theorem write_inbound (line : Line) (data : Bytes) : (line.write data).2.inbound = line.inbound := by
  unfold write
  split <;> rfl

/-- What an offer on a line leaves of a message. -/
theorem advance_write (line : Line) (rest : Bytes) :
    Delivery.advance rest (line.write rest).1 = .broken ∨
      line.capacity ≠ some 0 ∧ (Delivery.advance rest (line.write rest).1 = .complete ∨
        (line.write rest).2.capacity = some 0 ∧
          ∃ left, Delivery.advance rest (line.write rest).1 = .remaining left) := by
  unfold write
  split
  · next unlimited =>
      by_cases none : rest.length = 0 <;> simp [Delivery.advance, unlimited, none]
  · exact .inl rfl
  · next left limited =>
      have whole : (rest.take (left + 1)).length = min (left + 1) rest.length := List.length_take
      simp only [Delivery.advance, limited]
      by_cases none : (rest.take (left + 1)).length = 0
      · simp [none]
      by_cases part : (rest.take (left + 1)).length < rest.length
      · -- The limit is reached: the next offer breaks the delivery.
        have reached : left + 1 - (rest.take (left + 1)).length = 0 := by omega
        rw [if_neg none, if_pos part, reached]
        simp
      · rw [if_neg none, if_neg part]
        simp

/-- A request is within a budget: whatever the answer, the session has less left to do then, and what it
reads pays for a round more. -/
def Affords (line : Line) (budget : Nat) : Request Dialogue → Prop
  | .poll next => ∀ answer, cost line.capacity (next answer) < budget
  | .read limit next => 0 < limit ∧ cost line.capacity (next (.bytes [])) < budget ∧
      ∀ outcome, cost line.capacity (next outcome) < budget + 8
  | .write data next => cost (line.write data).2.capacity (next (line.write data).1) < budget
  | .flush next => cost line.capacity (next .done) < budget
  | .finish => 0 < budget

theorem affords_echo (line : Line) (state : Echo) :
    line.Affords (cost line.capacity (.echo state)) (Dialogue.echo state).request := by
  cases state with
  | asking =>
      intro goOn
      cases goOn
      · exact (by decide : 1 < 3)
      · exact (by decide : 2 < 3)
  | reading =>
      refine ⟨by decide, (by decide : 1 < 2), fun outcome => ?_⟩
      exact Nat.lt_of_le_of_lt (cost_le _ _) (by decide : 7 < 2 + 8)
  | writing rest =>
      show cost _ (.echo (Echo.afterWrite rest _)) < if line.capacity = some 0 then 2 else 6
      rw [Echo.afterWrite]
      rcases line.advance_write rest with broken | ⟨takes, complete | ⟨exhausted, left, remains⟩⟩
      · rw [broken]
        show 1 < _
        split <;> omega
      · rw [complete, if_neg takes]
        exact (by decide : 4 < 6)
      · rw [remains, exhausted, if_neg takes]
        exact (by decide : 2 < 6)
  | flushing => exact (by decide : 3 < 4)
  | finished => exact (by decide : 0 < 1)

theorem affords_counted (line : Line) (state : Counted) :
    line.Affords (cost line.capacity (.counted state)) (Dialogue.counted state).request := by
  cases state with
  | asking =>
      intro goOn
      cases goOn
      · exact Nat.lt_of_le_of_lt (cost_leave_le _ _) (by decide : 3 < 5)
      · exact (by decide : 4 < 5)
  | reading =>
      refine ⟨by decide, Nat.lt_of_le_of_lt (cost_leave_le _ _) (by decide : 3 < 4), fun outcome => ?_⟩
      exact Nat.lt_of_le_of_lt (cost_le _ _) (by decide : 7 < 4 + 8)
  | saying rest last =>
      have saved := line.advance_write rest
      show cost _ (.counted (Counted.afterWrite rest last _)) < cost _ _
      rw [Counted.afterWrite]
      cases last
      · show _ < if line.capacity = some 0 then 6 else 7
        rcases saved with broken | ⟨takes, complete | ⟨exhausted, left, remains⟩⟩
        · rw [broken]
          show 5 < _
          split <;> omega
        · rw [complete, if_neg takes]
          exact (by decide : 5 < 7)
        · rw [remains, exhausted, if_neg takes]
          exact (by decide : 6 < 7)
      · show _ < if line.capacity = some 0 then 2 else 3
        rcases saved with broken | ⟨takes, complete | ⟨exhausted, left, remains⟩⟩
        · rw [broken]
          show 1 < _
          split <;> omega
        · rw [complete, if_neg takes]
          exact (by decide : 1 < 3)
        · rw [remains, exhausted, if_neg takes]
          exact (by decide : 2 < 3)
  | finished => exact (by decide : 0 < 1)

theorem affords (line : Line) (dialogue : Dialogue) :
    line.Affords (cost line.capacity dialogue) dialogue.request := by
  cases dialogue with
  | echo state => exact line.affords_echo state
  | counted state => exact line.affords_counted state

/-- Once its far end has hung up, a session comes to its end. -/
theorem converseFor_ends (mayContinue : Bool) {fuel : Nat} {dialogue : Dialogue}
    (hungUp : .hangUp ∈ line.inbound)
    (enough : 8 * line.unread + cost line.capacity dialogue ≤ fuel) :
    ∃ ending, (converseFor mayContinue fuel dialogue line).1 = .ended ending := by
  induction fuel generalizing dialogue line with
  | zero =>
      have positive := cost_pos line.capacity dialogue
      omega
  | succ fuel inductionHypothesis =>
      have affordable := line.affords dialogue
      unfold converseFor
      cases request : dialogue.request with
      | poll next =>
          rw [request] at affordable
          have less := affordable mayContinue
          exact inductionHypothesis hungUp (by omega)
      | read limit next =>
          rw [request] at affordable
          obtain ⟨positive, atEnd, more⟩ := affordable
          have lasts := (line.read_lasts limit).hungUp hungUp
          have capacity := line.read_capacity limit
          have outcome := read_of_hungUp positive hungUp
          dsimp only
          revert lasts capacity outcome
          rcases line.read limit with ⟨answer, after⟩
          rintro lasts capacity (rfl | ⟨rfl, rfl⟩ | ⟨⟨outcome, rfl⟩, less⟩)
          · exact ⟨_, rfl⟩
          · dsimp only at *
            exact inductionHypothesis lasts (by omega)
          · dsimp only at *
            have pays := more outcome
            refine inductionHypothesis lasts ?_
            rw [capacity]
            omega
      | write data next =>
          rw [request] at affordable
          have less : cost (line.write data).2.capacity (next (line.write data).1) < _ := affordable
          have same : (line.write data).2.unread = line.unread := by
            simp only [unread, write_inbound]
          exact inductionHypothesis (by rw [write_inbound]; exact hungUp) (by omega)
      | flush next =>
          rw [request] at affordable
          have less : cost line.capacity (next .done) < _ := affordable
          exact inductionHypothesis hungUp (by omega)
      | finish => exact ⟨_, rfl⟩

/-- A session ends or waits; it does not wait for a far end that has hung up. -/
theorem converse_ends_or_waits (line : Line) (mayContinue : Bool) (dialogue : Dialogue) :
    (∃ ending, (line.converse mayContinue dialogue).1 = .ended ending) ∨
      (∃ later, (line.converse mayContinue dialogue).1 = .blocked later) ∧ .hangUp ∉ line.inbound := by
  have enough : 8 * line.unread + cost line.capacity dialogue ≤ 8 * (line.unread + 4) := by
    have few := cost_le line.capacity dialogue
    omega
  cases isPause : (line.converse mayContinue dialogue).1 with
  | ended ending => exact .inl ⟨ending, rfl⟩
  | blocked later =>
      refine .inr ⟨⟨later, rfl⟩, fun hungUp => ?_⟩
      obtain ⟨ending, ended⟩ := converseFor_ends mayContinue hungUp enough
      cases ended.symm.trans isPause

/-- An echo session that stands still is still an echo session. -/
theorem converseFor_echo (line : Line) (mayContinue : Bool) (fuel : Nat) (state : Echo) {later : Dialogue}
    (waits : (converseFor mayContinue fuel (.echo state) line).1 = .blocked later) :
    ∃ state, later = .echo state := by
  induction fuel generalizing state line with
  | zero => exact ⟨state, (Pause.blocked.inj waits).symm⟩
  | succ fuel inductionHypothesis =>
      unfold converseFor at waits
      cases state with
      | asking | writing | flushing => exact inductionHypothesis _ _ waits
      | reading =>
          simp only [Dialogue.request, Echo.request, Request.map] at waits
          revert waits
          rcases line.read Echo.bufferSize with ⟨answer, after⟩
          intro waits
          cases answer with
          | outcome => exact inductionHypothesis _ _ waits
          | collapsed => cases waits
          | blocked => exact ⟨.reading, (Pause.blocked.inj waits).symm⟩
      | finished => cases waits

theorem converse_lasts (line : Line) (mayContinue : Bool) (dialogue : Dialogue) :
    line.Lasts (line.converse mayContinue dialogue).2 :=
  line.converseFor_lasts mayContinue _ dialogue

end Line

end ConnectionPool
