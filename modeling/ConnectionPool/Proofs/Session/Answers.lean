import ConnectionPool.Session.Echo

/-!
Contract: what the surroundings of a session may answer.

Whoever holds a session meets a channel that reads and writes as it likes, within its contract, and a token
that says what it likes. A script is such a channel; some scripts carry an input to its end, cut in any way.

Owns:
- `SessionEvent`, what a session does, and `Request.Meets`, a request with an answer to it;
- the readers `received` and `BrokenOff` of the uses of a channel, and what one write leaves of a message;
- `Script.Delivers`, the scripts that carry an input to its end.

Does not own: what a session makes of the answers; see `Echo.Course`.
-/

namespace ConnectionPool

/-! ## Answers of a channel -/

/-- The bytes that a read gave. -/
def ReadOutcome.data : ReadOutcome → Bytes
  | .bytes data => data
  | .failed _ => []

/-- How many bytes a write took. -/
def WriteOutcome.count : WriteOutcome → Nat
  | .accepted count => count
  | .failed _ => 0

/-- A write that took nothing, or failed and was not merely interrupted. -/
def WriteOutcome.breaks : WriteOutcome → Bool
  | .accepted count => count = 0
  | .failed .interrupted => false
  | .failed _ => true

/-- One thing that a session does, with what comes of it. -/
inductive SessionEvent where
  | poll (goOn : Bool)
  | read (limit : Nat) (outcome : ReadOutcome)
  | write (offered : Bytes) (outcome : WriteOutcome)
  | flush (outcome : FlushOutcome)
deriving DecidableEq, Repr

namespace SessionEvent

/-- The use of the channel that an event is, if any. -/
def calls : SessionEvent → List ChannelCall
  | .poll _ => []
  | .read limit outcome => [.read limit outcome]
  | .write offered outcome => [.write offered.length outcome]
  | .flush outcome => [.flush outcome]

/-- The bytes that the channel took in an event. -/
def taken : SessionEvent → Bytes
  | .write offered outcome => Delivery.taken offered outcome
  | _ => []

/-- A question to the token. -/
def isPoll : SessionEvent → Bool
  | .poll _ => true
  | _ => false

end SessionEvent

/-- A request with an answer that its surroundings may give, and the state behind it. A read gives no more
bytes than there is room for, a write takes no more than it is offered. -/
inductive Request.Meets {State : Type} : Request State → SessionEvent → State → Prop where
  | poll (next : Bool → State) (goOn : Bool) : Meets (.poll next) (.poll goOn) (next goOn)
  | read (limit : Nat) (next : ReadOutcome → State) (outcome : ReadOutcome)
      (fits : outcome.data.length ≤ limit) : Meets (.read limit next) (.read limit outcome) (next outcome)
  | write (data : Bytes) (next : WriteOutcome → State) (outcome : WriteOutcome)
      (within : outcome.count ≤ data.length) : Meets (.write data next) (.write data outcome) (next outcome)
  | flush (next : FlushOutcome → State) (outcome : FlushOutcome) :
      Meets (.flush next) (.flush outcome) (next outcome)

/-- What the reads among these uses of a channel gave, read by read. -/
def received (calls : List ChannelCall) : List Bytes :=
  calls.filterMap fun call =>
    match call with
    | .read _ outcome => some outcome.data
    | _ => none

@[simp] theorem received_nil : received [] = [] :=
  rfl

@[simp] theorem received_append (earlier later : List ChannelCall) :
    received (earlier ++ later) = received earlier ++ received later :=
  List.filterMap_append

@[simp] theorem received_read (limit : Nat) (outcome : ReadOutcome) :
    received [.read limit outcome] = [outcome.data] :=
  rfl

@[simp] theorem received_write (offered : Nat) (outcome : WriteOutcome) :
    received [.write offered outcome] = [] :=
  rfl

@[simp] theorem received_flush (outcome : FlushOutcome) : received [.flush outcome] = [] :=
  rfl

/-- The last use of the channel is a write that breaks the delivery. -/
def BrokenOff (calls : List ChannelCall) : Prop :=
  ∃ offered outcome, calls.getLast? = some (.write offered outcome) ∧ outcome.breaks = true

theorem brokenOff_snoc_iff {calls : List ChannelCall} {offered : Nat} {outcome : WriteOutcome} :
    BrokenOff (calls ++ [.write offered outcome]) ↔ outcome.breaks = true := by
  constructor
  · rintro ⟨_, _, isLast, breaks⟩
    rw [List.getLast?_concat] at isLast
    cases isLast
    exact breaks
  · exact fun breaks => ⟨offered, outcome, List.getLast?_concat .., breaks⟩

theorem Delivery.advance_eq_broken_iff {rest : Bytes} {outcome : WriteOutcome} :
    advance rest outcome = .broken ↔ outcome.breaks = true := by
  cases outcome with
  | accepted count =>
      by_cases none : count = 0
      · simp [advance, WriteOutcome.breaks, none]
      · by_cases part : count < rest.length <;> simp [advance, WriteOutcome.breaks, none, part]
  | failed kind => cases kind <;> simp [advance, WriteOutcome.breaks]

theorem Delivery.taken_of_breaks {rest : Bytes} {outcome : WriteOutcome}
    (breaks : outcome.breaks = true) : taken rest outcome = [] := by
  cases outcome with
  | accepted count =>
      have none : count = 0 := by simpa [WriteOutcome.breaks] using breaks
      simp [taken, none]
  | failed kind => rfl

/-- What remains of a message is never nothing. -/
theorem Delivery.remaining_ne_nil {rest left : Bytes} {outcome : WriteOutcome} (some : rest ≠ [])
    (unfinished : advance rest outcome = .remaining left) : left ≠ [] := by
  unfold advance at unfinished
  split at unfinished
  · next count =>
      split at unfinished
      · contradiction
      · split at unfinished
        · next part =>
            cases unfinished
            simpa using part
        · contradiction
  · cases unfinished
    exact some
  · contradiction

/-! ## Scripts -/

/-- The items of a script carry these bytes and then the end of the stream, cut in any way and with
interrupted reads anywhere between them. -/
inductive Carries : List ReadOutcome → Bytes → Prop where
  | done : Carries [] []
  /-- Nobody reads on behind an empty read. -/
  | ends (reads : List ReadOutcome) : Carries (.bytes [] :: reads) []
  | interrupted {reads : List ReadOutcome} {input : Bytes} (others : Carries reads input) :
      Carries (.failed .interrupted :: reads) input
  | piece {reads : List ReadOutcome} {input : Bytes} (data : Bytes) (some : data ≠ [])
      (others : Carries reads input) : Carries (.bytes data :: reads) (data ++ input)

/-- A write that takes something or is interrupted. -/
def WritePlan.progresses : WritePlan → Bool
  | .everything => true
  | .atMost count => count ≠ 0
  | .failing kind => kind = .interrupted

/-- The channel carries the input to its end without a failure that would end a session, and the token
always continues. -/
structure Script.Delivers (script : Script) (input : Bytes) : Prop where
  carries : Carries script.reads input
  writes : ∀ plan ∈ script.writes, plan.progresses = true
  flushes : ∀ outcome ∈ script.flushes, outcome = .done
  continues : script.continues = none

namespace Script

variable {script : Script} {input : Bytes} {limit size : Nat}

theorem length_data_read_le (script : Script) (limit : Nat) :
    (script.read limit).1.data.length ≤ limit := by
  unfold read
  split
  · exact Nat.zero_le _
  · exact Nat.zero_le _
  · split
    · assumption
    · exact List.length_take_le ..

theorem count_write_le (script : Script) (size : Nat) : (script.write size).1.count ≤ size := by
  unfold write
  split
  · exact Nat.le_refl _
  · exact Nat.le_refl _
  · exact Nat.min_le_right ..
  · exact Nat.zero_le _

/-- A read finds the end of the input, is interrupted, or gives its next bytes. -/
theorem Delivers.read (delivers : script.Delivers input) (positive : 0 < limit) :
    (script.read limit).1 = .bytes [] ∧ input = [] ∨
      (script.read limit).1 = .failed .interrupted ∧ (script.read limit).2.Delivers input ∨
      ∃ data left, data ≠ [] ∧ (script.read limit).1 = .bytes data ∧ input = data ++ left ∧
        (script.read limit).2.Delivers left := by
  obtain ⟨carries, writes, flushes, continues⟩ := delivers
  unfold Script.read
  rcases script with ⟨reads, _, _, _⟩
  cases carries with
  | done => exact .inl ⟨rfl, rfl⟩
  | ends reads => exact .inl ⟨by simp, rfl⟩
  | interrupted others => exact .inr (.inl ⟨rfl, others, writes, flushes, continues⟩)
  | piece data some others =>
      refine .inr (.inr ?_)
      dsimp only
      split
      · exact ⟨data, _, some, rfl, rfl, others, writes, flushes, continues⟩
      · next long =>
          have someLeft : data.drop limit ≠ [] := by simpa using long
          have someTaken : data.take limit ≠ [] := by
            simp [some]
            omega
          refine ⟨data.take limit, _, someTaken, rfl, ?_, .piece _ someLeft others, writes, flushes,
            continues⟩
          rw [← List.append_assoc, List.take_append_drop]

theorem Delivers.poll (delivers : script.Delivers input) : script.poll = (true, script) := by
  simp only [Script.poll, delivers.continues]

theorem Delivers.write (delivers : script.Delivers input) (positive : 0 < size) :
    (script.write size).1.breaks = false ∧ (script.write size).2.Delivers input := by
  obtain ⟨carries, writes, flushes, continues⟩ := delivers
  have ofItem {plan : WritePlan} {plans : List WritePlan} (isItem : script.writes = plan :: plans) :
      plan.progresses = true ∧ Delivers { script with writes := plans } input := by
    rw [isItem] at writes
    exact ⟨writes plan List.mem_cons_self,
      carries, fun other later => writes other (List.mem_cons_of_mem _ later), flushes, continues⟩
  have some : size ≠ 0 := Nat.ne_of_gt positive
  unfold Script.write
  split
  · exact ⟨by simp [WriteOutcome.breaks, some], carries, writes, flushes, continues⟩
  · next isItem => exact ⟨by simp [WriteOutcome.breaks, some], (ofItem isItem).2⟩
  · next count plans isItem =>
      have someTaken : count ≠ 0 := by simpa [WritePlan.progresses] using (ofItem isItem).1
      refine ⟨?_, (ofItem isItem).2⟩
      simp only [WriteOutcome.breaks, decide_eq_false_iff_not]
      omega
  · next kind plans isItem =>
      have interrupted : kind = .interrupted := by
        simpa [WritePlan.progresses] using (ofItem isItem).1
      exact ⟨by rw [interrupted]; rfl, (ofItem isItem).2⟩

theorem Delivers.flush (delivers : script.Delivers input) :
    script.flush.1 = .done ∧ script.flush.2.Delivers input := by
  obtain ⟨carries, writes, flushes, continues⟩ := delivers
  unfold Script.flush
  split
  · exact ⟨rfl, carries, writes, flushes, continues⟩
  · next isItem =>
      rw [isItem] at flushes
      exact ⟨flushes _ List.mem_cons_self, carries, writes,
        fun other later => flushes other (List.mem_cons_of_mem _ later), continues⟩

end Script

end ConnectionPool
