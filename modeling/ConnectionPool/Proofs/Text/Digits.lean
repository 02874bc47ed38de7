import Mathlib.Data.List.Induction
import Mathlib.Tactic.IntervalCases
import ConnectionPool.Proofs.Text.Numeral

/-!
Contract: which texts are numerals, and which numbers they stand for.

Owns:
- `Digit` and `Denotes`, the digits of a base in either case and the numerals made of them;
- `value?_eq_some_iff`: exactly the numerals are read, as the numbers that they stand for;
- how large a numeral of some length is, and one without a leading zero.

Does not own: the sizes that a reader of numerals admits.
-/

namespace ConnectionPool.Text.Numeral

/-- A digit of a base and what it counts. Digits above nine are letters of either case. -/
structure Digit (base : Nat) (char : Char) (value : Nat) : Prop where
  value_lt : value < base
  written : char = Nat.digitChar value ∨ char = (Nat.digitChar value).toUpper

/-- A numeral is a digit, or a numeral with one more digit behind it. -/
inductive Denotes (base : Nat) : List Char → Nat → Prop where
  | digit {char : Char} {value : Nat} (isDigit : Digit base char value) : Denotes base [char] value
  | snoc {front : List Char} {char : Char} {number value : Nat} (denotes : Denotes base front number)
      (isDigit : Digit base char value) : Denotes base (front ++ [char]) (number * base + value)

section

variable {base value number : Nat} {char : Char} {text : List Char}

/-- The characters between two others, by their codes. -/
theorem exists_code {low high : Char} (between : low ≤ char ∧ char ≤ high) :
    ∃ code, low.toNat ≤ code ∧ code ≤ high.toNat ∧ char = Char.ofNat code :=
  ⟨char.toNat, between.1, between.2, char.ofNat_toNat.symm⟩

theorem digit_of_digitValue? (isDigit : digitValue? base char = some value) : Digit base char value := by
  unfold digitValue? at isDigit
  dsimp only at isDigit
  split_ifs at isDigit with decimal below small below capital below noDigit <;>
    obtain rfl := Option.some.inj isDigit
  · refine ⟨below, .inl ?_⟩
    obtain ⟨code, low, high, rfl⟩ := exists_code decimal
    change 48 ≤ code at low
    change code ≤ 57 at high
    interval_cases code <;> rfl
  · refine ⟨below, .inl ?_⟩
    obtain ⟨code, low, high, rfl⟩ := exists_code small
    change 97 ≤ code at low
    change code ≤ 102 at high
    interval_cases code <;> rfl
  · refine ⟨below, .inr ?_⟩
    obtain ⟨code, low, high, rfl⟩ := exists_code capital
    change 65 ≤ code at low
    change code ≤ 70 at high
    interval_cases code <;> rfl
  · exact absurd noDigit (Nat.lt_irrefl base)

theorem digitValue?_of_digit (baseSmall : base ≤ 16) (isDigit : Digit base char value) :
    digitValue? base char = some value := by
  obtain ⟨below, rfl | rfl⟩ := isDigit
  · exact digitValue?_digitChar below baseSmall
  · have small : value < 16 := Nat.lt_of_lt_of_le below baseSmall
    have counts : (if '0' ≤ (Nat.digitChar value).toUpper ∧ (Nat.digitChar value).toUpper ≤ '9' then
          (Nat.digitChar value).toUpper.toNat - '0'.toNat
        else if 'a' ≤ (Nat.digitChar value).toUpper ∧ (Nat.digitChar value).toUpper ≤ 'f' then
          (Nat.digitChar value).toUpper.toNat - 'a'.toNat + 10
        else if 'A' ≤ (Nat.digitChar value).toUpper ∧ (Nat.digitChar value).toUpper ≤ 'F' then
          (Nat.digitChar value).toUpper.toNat - 'A'.toNat + 10
        else base) = value := by
      clear below
      interval_cases value <;> rfl
    simp only [digitValue?, counts, if_pos below]

theorem digitValue?_eq_some_iff (baseSmall : base ≤ 16) :
    digitValue? base char = some value ↔ Digit base char value :=
  ⟨digit_of_digitValue?, digitValue?_of_digit baseSmall⟩

/-- Reading goes on behind what has been read, one digit at a time. -/
theorem valueFrom?_snoc {seen : Nat} {front : List Char} : valueFrom? base seen (front ++ [char]) =
    (valueFrom? base seen front).bind fun number =>
      (digitValue? base char).map fun value => number * base + value := by
  rw [valueFrom?_append]
  congr 1
  funext number
  simp only [valueFrom?]
  cases digitValue? base char <;> rfl

theorem Denotes.ne_nil (denotes : Denotes base text number) : text ≠ [] := by
  cases denotes <;> simp

/-- Exactly the numerals are read. -/
theorem value?_eq_some_iff (baseSmall : base ≤ 16) :
    value? base text = some number ↔ Denotes base text number := by
  constructor
  · intro isNumber
    unfold value? at isNumber
    split_ifs at isNumber with isEmpty
    -- a numeral grows at its end, where the reader reads on
    induction text using List.reverseRec generalizing number with
    | nil => exact absurd rfl isEmpty
    | append_singleton front char inductionHypothesis =>
        rw [valueFrom?_snoc] at isNumber
        obtain ⟨seen, isSeen, isDigit⟩ := Option.bind_eq_some_iff.1 isNumber
        obtain ⟨value, isValue, rfl⟩ := Option.map_eq_some_iff.1 isDigit
        have digit := (digitValue?_eq_some_iff baseSmall).1 isValue
        cases front with
        | nil =>
            obtain rfl := Option.some.inj isSeen
            simpa using Denotes.digit digit
        | cons head front => exact (inductionHypothesis (by simp) isSeen).snoc digit
  · intro denotes
    have shown : text.isEmpty = false := by simpa using denotes.ne_nil
    simp only [value?, shown, Bool.false_eq_true, if_false]
    clear shown
    induction denotes with
    | digit isDigit => simp [valueFrom?, digitValue?_of_digit baseSmall isDigit]
    | snoc denotes isDigit inductionHypothesis =>
        rw [valueFrom?_snoc, inductionHypothesis, digitValue?_of_digit baseSmall isDigit]
        rfl

theorem Denotes.digit_of_mem (denotes : Denotes base text number) (shown : char ∈ text) :
    ∃ value, Digit base char value := by
  induction denotes with
  | digit isDigit =>
      obtain rfl := List.mem_singleton.1 shown
      exact ⟨_, isDigit⟩
  | snoc denotes isDigit inductionHypothesis =>
      obtain inFront | isLast := List.mem_append.1 shown
      · exact inductionHypothesis inFront
      · obtain rfl := List.mem_singleton.1 isLast
        exact ⟨_, isDigit⟩

/-- No character outside the digits occurs in a numeral; separators are such characters. -/
theorem Denotes.not_mem (baseSmall : base ≤ 16) (denotes : Denotes base text number)
    (noDigit : digitValue? base char = none) : char ∉ text := by
  intro shown
  obtain ⟨value, isDigit⟩ := denotes.digit_of_mem shown
  exact absurd (noDigit.symm.trans (digitValue?_of_digit baseSmall isDigit)) (by simp)

theorem Denotes.lt_pow_length (denotes : Denotes base text number) : number < base ^ text.length := by
  induction denotes with
  | digit isDigit => simpa using isDigit.value_lt
  | @snoc front char number value denotes isDigit inductionHypothesis =>
      calc number * base + value
          < number * base + base := Nat.add_lt_add_left isDigit.value_lt _
        _ = (number + 1) * base := (Nat.succ_mul number base).symm
        _ ≤ base ^ front.length * base := Nat.mul_le_mul_right base inductionHypothesis
        _ = base ^ (front ++ [char]).length := by rw [List.length_append, List.length_singleton, Nat.pow_succ]

/-- A numeral that does not begin with a zero is at least as large as its length says. -/
theorem Denotes.le_of_head?_ne_zero (denotes : Denotes base text number) (plain : text.head? ≠ some '0') :
    base ^ (text.length - 1) ≤ number := by
  induction denotes with
  | @digit char value isDigit =>
      have positive : value ≠ 0 := by
        rintro rfl
        obtain isZero | isZero := isDigit.written <;> exact plain (by rw [isZero]; rfl)
      simpa using Nat.one_le_iff_ne_zero.2 positive
  | @snoc front char number value denotes isDigit inductionHypothesis =>
      have frontShown : 0 < front.length := List.length_pos_iff.2 denotes.ne_nil
      have frontPlain : front.head? ≠ some '0' := by
        intro isZero
        exact plain (by rw [List.head?_append, isZero]; rfl)
      calc base ^ ((front ++ [char]).length - 1)
          = base ^ (front.length - 1) * base := by
            rw [← Nat.pow_succ]
            congr 1
            simp
            omega
        _ ≤ number * base := Nat.mul_le_mul_right base (inductionHypothesis frontPlain)
        _ ≤ number * base + value := Nat.le_add_right _ _

end

end ConnectionPool.Text.Numeral
