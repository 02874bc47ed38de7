/-!
Contract: unsigned numerals in a base up to sixteen.

Owns:
- `value?`, the number that a non-empty run of digits stands for;
- `render`, the digits of a number without leading zeros.

Does not own: signs, separators between digits and limits on the size of a number.
-/

namespace ConnectionPool.Text.Numeral

/-- What one digit of `base` counts; letters of either case stand for ten and above. -/
def digitValue? (base : Nat) (digit : Char) : Option Nat :=
  let value :=
    if '0' ≤ digit ∧ digit ≤ '9' then digit.toNat - '0'.toNat
    else if 'a' ≤ digit ∧ digit ≤ 'f' then digit.toNat - 'a'.toNat + 10
    else if 'A' ≤ digit ∧ digit ≤ 'F' then digit.toNat - 'A'.toNat + 10
    else base
  if value < base then some value else none

/-- The number written by `digits` behind a number `seen` already read. -/
def valueFrom? (base : Nat) (seen : Nat) : List Char → Option Nat
  | [] => some seen
  | digit :: digits =>
      match digitValue? base digit with
      | none => none
      | some value => valueFrom? base (seen * base + value) digits

/-- The number that a non-empty run of digits stands for; leading zeros are allowed. -/
def value? (base : Nat) (digits : List Char) : Option Nat :=
  if digits.isEmpty then none else valueFrom? base 0 digits

/-- The digits of a number, without leading zeros and with small letters. -/
def render (base : Nat) (number : Nat) : List Char :=
  Nat.toDigits base number

def decimal (number : Nat) : String :=
  String.ofList (render 10 number)

theorem valueFrom?_append (base seen : Nat) (front back : List Char) :
    valueFrom? base seen (front ++ back) =
      (valueFrom? base seen front).bind fun value => valueFrom? base value back := by
  induction front generalizing seen with
  | nil => rfl
  | cons digit front inductionHypothesis =>
      simp only [List.cons_append, valueFrom?]
      split
      · rfl
      · exact inductionHypothesis _

end ConnectionPool.Text.Numeral
