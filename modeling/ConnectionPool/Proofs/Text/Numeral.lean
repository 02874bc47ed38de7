import Mathlib.Tactic.IntervalCases
import ConnectionPool.Text.Numeral

/-!
Contract: a rendered numeral is read back as the number it was rendered from.

Owns:
- the law of one digit, `digitValue?_digitChar`, and of a whole numeral, `value?_render`;
- what a rendered numeral looks like: its characters, its length and its first digit.

Does not own: the sizes that a reader of numerals admits.
-/

namespace ConnectionPool.Text.Numeral

/-- A decimal digit or one of the six small letters behind them. -/
def IsDigit (char : Char) : Prop :=
  char.isDigit ∨ ('a' ≤ char ∧ char ≤ 'f')

section

variable {base number : Nat}

theorem digitValue?_digitChar {digit : Nat} (isDigit : digit < base) (baseSmall : base ≤ 16) :
    digitValue? base (Nat.digitChar digit) = some digit := by
  have small : digit < 16 := Nat.lt_of_lt_of_le isDigit baseSmall
  have value : (if '0' ≤ Nat.digitChar digit ∧ Nat.digitChar digit ≤ '9' then
        (Nat.digitChar digit).toNat - '0'.toNat
      else if 'a' ≤ Nat.digitChar digit ∧ Nat.digitChar digit ≤ 'f' then
        (Nat.digitChar digit).toNat - 'a'.toNat + 10
      else if 'A' ≤ Nat.digitChar digit ∧ Nat.digitChar digit ≤ 'F' then
        (Nat.digitChar digit).toNat - 'A'.toNat + 10
      else base) = digit := by
    clear isDigit
    interval_cases digit <;> rfl
  simp only [digitValue?, value, if_pos isDigit]

theorem isDigit_digitChar {digit : Nat} (small : digit < 16) : IsDigit (Nat.digitChar digit) := by
  interval_cases digit <;> simp [IsDigit] <;> decide

/-- The last digit apart, a numeral of two digits or more is the numeral of the number without it. -/
theorem render_of_base_le (baseLarge : 1 < base) (large : base ≤ number) :
    render base number = render base (number / base) ++ [Nat.digitChar (number % base)] :=
  Nat.toDigits_of_base_le baseLarge large

theorem valueFrom?_render (baseLarge : 1 < base) (baseSmall : base ≤ 16) :
    valueFrom? base 0 (render base number) = some number := by
  induction number using Nat.strongRecOn with
  | ind number inductionHypothesis =>
      by_cases small : number < base
      · have oneDigit : render base number = [Nat.digitChar number] := Nat.toDigits_of_lt_base small
        simp [oneDigit, valueFrom?, digitValue?_digitChar small baseSmall]
      · have large : base ≤ number := Nat.le_of_not_lt small
        have shorter : number / base < number :=
          Nat.div_lt_self (Nat.lt_of_lt_of_le (by omega) large) baseLarge
        have lastIsDigit : number % base < base := Nat.mod_lt number (by omega)
        rw [render_of_base_le baseLarge large, valueFrom?_append,
          inductionHypothesis (number / base) shorter]
        simp [valueFrom?, digitValue?_digitChar lastIsDigit baseSmall, Nat.div_add_mod']

theorem render_ne_nil : render base number ≠ [] :=
  Nat.toDigits_ne_nil

/-- The law of numerals: what is rendered is read back. -/
theorem value?_render (baseLarge : 1 < base) (baseSmall : base ≤ 16) :
    value? base (render base number) = some number := by
  simp [value?, render_ne_nil, valueFrom?_render baseLarge baseSmall]

theorem isDigit_of_mem_render (baseLarge : 1 < base) (baseSmall : base ≤ 16) {char : Char}
    (shown : char ∈ render base number) : IsDigit char := by
  induction number using Nat.strongRecOn with
  | ind number inductionHypothesis =>
      by_cases small : number < base
      · have oneDigit : render base number = [Nat.digitChar number] := Nat.toDigits_of_lt_base small
        rw [oneDigit, List.mem_singleton] at shown
        subst shown
        exact isDigit_digitChar (by omega)
      · have large : base ≤ number := Nat.le_of_not_lt small
        have shorter : number / base < number :=
          Nat.div_lt_self (Nat.lt_of_lt_of_le (by omega) large) baseLarge
        have lastIsDigit : number % base < base := Nat.mod_lt number (by omega)
        rw [render_of_base_le baseLarge large, List.mem_append, List.mem_singleton] at shown
        obtain earlier | last := shown
        · exact inductionHypothesis (number / base) shorter earlier
        · subst last
          exact isDigit_digitChar (by omega)

/-- No character outside the digits occurs in a numeral; separators are such characters. -/
theorem not_mem_render (baseLarge : 1 < base) (baseSmall : base ≤ 16) {char : Char}
    (noDigit : ¬ IsDigit char) : char ∉ render base number :=
  fun shown => noDigit (isDigit_of_mem_render baseLarge baseSmall shown)

theorem length_render_le (baseLarge : 1 < base) {count : Nat} (positive : 0 < count)
    (small : number < base ^ count) : (render base number).length ≤ count :=
  (Nat.length_toDigits_le_iff baseLarge positive).2 small

theorem head?_render_ne_zero (baseLarge : 1 < base) (positive : 0 < number) :
    (render base number).head? ≠ some '0' := by
  induction number using Nat.strongRecOn with
  | ind number inductionHypothesis =>
      by_cases small : number < base
      · have oneDigit : render base number = [Nat.digitChar number] := Nat.toDigits_of_lt_base small
        simp [oneDigit]
        omega
      · have large : base ≤ number := Nat.le_of_not_lt small
        have shorter : number / base < number := Nat.div_lt_self positive baseLarge
        have frontPositive : 0 < number / base := Nat.div_pos large (by omega)
        have frontShown : (render base (number / base)).head?.isSome := by simp [render_ne_nil]
        rw [render_of_base_le baseLarge large, List.head?_append, Option.or_of_isSome frontShown]
        exact inductionHypothesis (number / base) shorter frontPositive

/-- A numeral begins with a zero only where it is that zero. -/
theorem length_render_eq_one_or_head?_ne_zero (baseLarge : 1 < base) :
    (render base number).length = 1 ∨ (render base number).head? ≠ some '0' := by
  obtain zero | positive := Nat.eq_zero_or_pos number
  · subst zero
    exact .inl (by simp [render])
  · exact .inr (head?_render_ne_zero baseLarge positive)

end

end ConnectionPool.Text.Numeral
