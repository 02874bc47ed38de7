import ConnectionPool.CommandLine.Reading
import ConnectionPool.Proofs.Text.Fields
import Mathlib.Data.List.Forall2

/-!
Contract: a command line is read as the flags it gives, one after another, and then the environment as those it
gives besides.

Owns:
- `Typed` and `TypedAll`, the ways to write flags with their values as arguments;
- `Reading.acceptAll`, a reading that accepts the values of flags, and `readAll_typed`, that a command line is
  read like that;
- `inherited`, the flags whose values come from the environment, and `readEnvironment_eq`;
- `read_of_acceptAll`, both together.

Does not own: what the values mean.
-/

namespace ConnectionPool.CommandLine

open Text

/-! ## Arguments -/

/-- A flag with its value as arguments: behind an equals sign, or as an argument of its own that does not look
like a flag. The flag without a value stands alone. -/
inductive Typed : Flag × String → List String → Prop
  | attached {flag : Flag} (text : String) (takes : flag.takesValue = true) :
      Typed (flag, text) ["--" ++ flag.word ++ "=" ++ text]
  | apart {flag : Flag} {text : String} (takes : flag.takesValue = true) (plain : Word.ofText text = .plain) :
      Typed (flag, text) ["--" ++ flag.word, text]
  | alone : Typed (.interruptClients, "true") ["--" ++ Flag.interruptClients.word]

/-- Flags with their values, one behind another. -/
inductive TypedAll : List (Flag × String) → List String → Prop
  | nil : TypedAll [] []
  | cons {given : Flag × String} {more : List (Flag × String)} {words texts : List String}
      (typed : Typed given words) (rest : TypedAll more texts) : TypedAll (given :: more) (words ++ texts)

theorem ofWord?_word (flag : Flag) : Flag.ofWord? flag.word = some flag := by
  cases flag <;> decide

theorem equals_not_mem_word (flag : Flag) : '=' ∉ flag.word.toList := by
  cases flag <;> decide

theorem word_ne_nil (flag : Flag) : flag.word.toList ≠ [] := by
  cases flag <;> decide

theorem ofText_attached (flag : Flag) (text : String) :
    Word.ofText ("--" ++ flag.word ++ "=" ++ text) = .long flag.word (some text) := by
  have isCut : cut? ['='] (flag.word.toList ++ ('=' :: text.toList)) = some (flag.word.toList, text.toList) :=
    cut?_append_separator (equals_not_mem_word flag) text.toList
  have characters : ("--" ++ flag.word ++ "=" ++ text).toList =
      '-' :: '-' :: (flag.word.toList ++ ('=' :: text.toList)) := by
    simp
  have shown : flag.word.toList ++ ('=' :: text.toList) ≠ [] := by simp
  unfold Word.ofText
  rw [characters]
  generalize flag.word.toList ++ ('=' :: text.toList) = body at isCut shown
  cases body with
  | nil => exact absurd rfl shown
  | cons first body => simp [isCut]

theorem ofText_flag (flag : Flag) : Word.ofText ("--" ++ flag.word) = .long flag.word none := by
  have isUncut : cut? ['='] flag.word.toList = none := cut?_of_not_mem (equals_not_mem_word flag)
  have characters : ("--" ++ flag.word).toList = '-' :: '-' :: flag.word.toList := by simp
  have shown := word_ne_nil flag
  have isWord : String.ofList flag.word.toList = flag.word := String.ofList_toList
  unfold Word.ofText
  rw [characters]
  generalize flag.word.toList = body at isUncut shown isWord
  cases body with
  | nil => exact absurd rfl shown
  | cons first body => simp [isUncut, isWord]

namespace Reading

variable {flag : Flag} {text : String} {reading resolved next final : Reading}

/-- Accepts flags with their values, one after another. -/
def acceptAll (given : List (Flag × String)) (reading : Reading) : Except UsageError Reading :=
  match given with
  | [] => .ok reading
  | (flag, text) :: more => (reading.accept flag text).bind (acceptAll more)

theorem acceptAll_append (first second : List (Flag × String)) (reading : Reading) :
    acceptAll (first ++ second) reading = (acceptAll first reading).bind (acceptAll second) := by
  induction first generalizing reading with
  | nil => rfl
  | cons given first inductionHypothesis =>
      simp only [List.cons_append, acceptAll]
      cases reading.accept given.1 given.2 with
      | error => rfl
      | ok next => exact inductionHypothesis next

theorem accept_eq_ok_iff : reading.accept flag text = .ok next ↔ flag ∉ reading.given ∧
    ∃ arguments, reading.arguments.set flag text = .ok arguments ∧
      next = { reading with arguments, given := flag :: reading.given } := by
  unfold accept
  by_cases isGiven : flag ∈ reading.given
  · simp [isGiven]
  · cases isSet : reading.arguments.set flag text <;> simp [isGiven, Except.map, eq_comm]

theorem pending_accept (accepted : reading.accept flag text = .ok next) : next.pending = reading.pending := by
  obtain ⟨-, arguments, -, rfl⟩ := accept_eq_ok_iff.1 accepted
  rfl

theorem pending_resolve (settled : reading.resolve = .ok resolved) : resolved.pending = none := by
  unfold resolve at settled
  split at settled
  · next isNone =>
      cases settled
      exact isNone
  · cases settled
  · exact pending_accept settled

theorem resolve_of_pending_none (isNone : reading.pending = none) : reading.resolve = .ok reading := by
  simp [resolve, isNone]

theorem readAll_cons {word : String} {texts : List String} (noSeparator : Word.ofText word ≠ .separator) :
    reading.readAll (word :: texts) = (reading.step word).bind fun next => next.readAll texts := by
  cases isWord : Word.ofText word with
  | separator => exact absurd isWord noSeparator
  | _ => simp only [readAll, isWord]

theorem step_flag {word name : String} {value : Option String} (isLong : Word.ofText word = .long name value)
    (isFlag : Flag.ofWord? name = some flag) :
    reading.step word = (reading.readFlag flag value).mapError .misuse := by
  simp [step, isLong, isFlag]

/-- The arguments of a flag leave a reading that has accepted its value, once what is pending is resolved. -/
theorem readAll_words {given : Flag × String} {words : List String} (typed : Typed given words)
    (settled : reading.resolve = .ok resolved) (accepted : resolved.accept given.1 given.2 = .ok next) :
    ∃ later : Reading, later.resolve = .ok next ∧ ∀ texts, reading.readAll (words ++ texts) = later.readAll texts := by
  have resolvedPending := pending_resolve settled
  cases typed with
  | @attached flag text takes =>
      have nextPending : next.pending = none := (pending_accept accepted).trans resolvedPending
      have isStep : reading.step ("--" ++ flag.word ++ "=" ++ text) = .ok next := by
        rw [step_flag (ofText_attached flag text) (ofWord?_word flag)]
        simp only [readFlag, takes, settled, Except.bind]
        rw [accepted]
        rfl
      refine ⟨next, resolve_of_pending_none nextPending, fun texts => ?_⟩
      rw [List.singleton_append, readAll_cons (by rw [ofText_attached]; simp), isStep]
      rfl
  | @apart flag text takes plain =>
      have isFirst : reading.step ("--" ++ flag.word) = .ok { resolved with pending := some (flag, none) } := by
        rw [step_flag (ofText_flag flag) (ofWord?_word flag)]
        simp only [readFlag, takes, settled, Except.map]
        rfl
      have isSecond : ({ resolved with pending := some (flag, none) } : Reading).step text =
          .ok { resolved with pending := some (flag, some text) } := by
        simp [step, plain]
      refine ⟨{ resolved with pending := some (flag, some text) }, ?_, fun texts => ?_⟩
      · have same : ({ resolved with pending := none } : Reading) = resolved := by rw [← resolvedPending]
        simp only [resolve, same]
        exact accepted
      · rw [List.cons_append, readAll_cons (by rw [ofText_flag]; simp), isFirst, List.singleton_append]
        simp only [Except.bind]
        rw [readAll_cons (by rw [plain]; simp), isSecond]
        rfl
  | alone =>
      have nextPending : next.pending = none := (pending_accept accepted).trans resolvedPending
      have isStep : reading.step ("--" ++ Flag.interruptClients.word) = .ok next := by
        have takesNone : Flag.interruptClients.takesValue = false := rfl
        rw [step_flag (ofText_flag .interruptClients) (ofWord?_word .interruptClients)]
        simp only [readFlag, takesNone, settled, Except.bind]
        rw [accepted]
        rfl
      refine ⟨next, resolve_of_pending_none nextPending, fun texts => ?_⟩
      rw [List.singleton_append, readAll_cons (by rw [ofText_flag]; simp), isStep]
      rfl

/-- A command line is read as the flags that were typed, if they can be accepted. -/
theorem readAll_typed {given : List (Flag × String)} {texts : List String} (typed : TypedAll given texts)
    (settled : reading.resolve = .ok resolved) (accepted : resolved.acceptAll given = .ok final) :
    reading.readAll texts = .ok final := by
  induction typed generalizing reading resolved with
  | nil =>
      cases accepted
      simp [readAll, settled, Except.mapError]
  | @cons first more words texts typed _ inductionHypothesis =>
      rw [acceptAll] at accepted
      cases isNext : resolved.accept first.1 first.2 with
      | error =>
          rw [isNext] at accepted
          cases accepted
      | ok next =>
          rw [isNext] at accepted
          obtain ⟨later, laterSettled, isRead⟩ := readAll_words typed settled isNext
          rw [isRead]
          exact inductionHypothesis laterSettled accepted

/-! ## The environment -/

/-- The flags whose values come from the environment: those that were not given otherwise. -/
def inherited (environment : List (String × String)) (given flags : List Flag) : List (Flag × String) :=
  flags.filterMap fun flag =>
    if flag ∈ given then none else (environment.lookup flag.environmentName).map fun text => (flag, text)

theorem mem_inherited {environment : List (String × String)} {given flags : List Flag} :
    (flag, text) ∈ inherited environment given flags ↔
      flag ∈ flags ∧ flag ∉ given ∧ environment.lookup flag.environmentName = some text := by
  simp only [inherited, List.mem_filterMap]
  constructor
  · rintro ⟨other, isOther, isValue⟩
    split at isValue
    · cases isValue
    · next notGiven =>
        obtain ⟨value, isText, paired⟩ := Option.map_eq_some_iff.1 isValue
        cases paired
        exact ⟨isOther, notGiven, isText⟩
  · rintro ⟨isFlag, notGiven, isText⟩
    exact ⟨flag, isFlag, by simp [notGiven, isText]⟩

theorem given_accept (accepted : reading.accept flag text = .ok next) : next.given = flag :: reading.given := by
  obtain ⟨-, arguments, -, rfl⟩ := accept_eq_ok_iff.1 accepted
  rfl

theorem given_acceptAll {given : List (Flag × String)} (accepted : reading.acceptAll given = .ok final) :
    final.given = (given.map Prod.fst).reverse ++ reading.given := by
  induction given generalizing reading with
  | nil =>
      cases accepted
      rfl
  | cons first more inductionHypothesis =>
      rw [acceptAll] at accepted
      cases isNext : reading.accept first.1 first.2 with
      | error =>
          rw [isNext] at accepted
          cases accepted
      | ok next =>
          rw [isNext] at accepted
          rw [inductionHypothesis accepted, given_accept isNext]
          simp

theorem inherited_sublist (environment : List (String × String)) (given flags : List Flag) :
    ((inherited environment given flags).map Prod.fst).Sublist flags := by
  induction flags with
  | nil => exact .slnil
  | cons flag flags inductionHypothesis =>
      rw [inherited, List.filterMap_cons]
      split
      · exact inductionHypothesis.cons flag
      · next value isValue =>
          have isFlag : value.1 = flag := by
            split at isValue
            · cases isValue
            · obtain ⟨text, -, rfl⟩ := Option.map_eq_some_iff.1 isValue
              rfl
          rw [List.map_cons, isFlag]
          exact inductionHypothesis.cons_cons flag

/-- The environment is read as the flags that it gives besides those that were given. -/
theorem readEnvironment_eq (environment : List (String × String)) {flags : List Flag} (distinct : flags.Nodup) :
    reading.readEnvironment environment flags = reading.acceptAll (inherited environment reading.given flags) := by
  induction flags generalizing reading with
  | nil => rfl
  | cons flag flags inductionHypothesis =>
      obtain ⟨notLater, laterDistinct⟩ := List.nodup_cons.1 distinct
      rw [readEnvironment]
      by_cases isGiven : flag ∈ reading.given
      · simp [isGiven, inherited, inductionHypothesis laterDistinct]
      · cases isText : environment.lookup flag.environmentName with
        | none => simp [isGiven, isText, inherited, inductionHypothesis laterDistinct]
        | some text =>
            have sameLater : ∀ next : Reading, next.given = flag :: reading.given →
                inherited environment next.given flags = inherited environment reading.given flags := by
              intro next isNext
              refine List.filterMap_congr fun other isOther => ?_
              have differs : other ≠ flag := fun same => notLater (same ▸ isOther)
              simp [isNext, differs]
            have first : inherited environment reading.given (flag :: flags) =
                (flag, text) :: inherited environment reading.given flags := by
              simp [inherited, isGiven, isText]
            rw [if_neg isGiven, first, acceptAll]
            simp only
            cases isNext : reading.accept flag text with
            | error => rfl
            | ok next =>
                simp only [Except.bind]
                rw [inductionHypothesis laterDistinct, sameLater next (given_accept isNext)]

/-- A command line is read as the flags that were typed, and then as those that are inherited. -/
theorem read_of_acceptAll {given : List (Flag × String)} {texts : List String} (typed : TypedAll given texts)
    {environment : List (String × String)}
    (accepted : ({} : Reading).acceptAll
      (given ++ inherited environment (given.map Prod.fst).reverse Flag.all) = .ok final) :
    CommandLine.read texts environment = final.checkCompanions.mapError .misuse := by
  rw [acceptAll_append] at accepted
  cases isMiddle : ({} : Reading).acceptAll given with
  | error =>
      rw [isMiddle] at accepted
      cases accepted
  | ok middle =>
      rw [isMiddle] at accepted
      have isTypedRead : ({} : Reading).readAll texts = .ok middle := readAll_typed typed rfl isMiddle
      have middleGiven : middle.given = (given.map Prod.fst).reverse := by
        simpa using given_acceptAll isMiddle
      have isInheritedRead : middle.readEnvironment environment Flag.all = .ok final := by
        rw [readEnvironment_eq environment (by decide), middleGiven]
        exact accepted
      simp only [CommandLine.read, isTypedRead, isInheritedRead, Except.bind]

end Reading

end ConnectionPool.CommandLine
