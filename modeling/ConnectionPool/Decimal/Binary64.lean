/-!
Contract: floating-point numbers of sixty-four bits as exact values.

Owns:
- the type `Binary64`;
- `Binary64.ofDecimal`, the number nearest to a decimal, with a tie going to the even neighbour.

Does not own: the text of a number; see `Decimal.Shortest`.
-/

namespace ConnectionPool

/-- A floating-point number. A finite one is `mantissa` times two to the power of `exponent`, with a mantissa
below `2 ^ 53` and an exponent of at least -1074. -/
inductive Binary64 where
  | finite (negative : Bool) (mantissa : Nat) (exponent : Int)
  | infinite (negative : Bool)
  | nan
deriving DecidableEq, Repr

namespace Binary64

def leastExponent : Int := -1074

def greatestExponent : Int := 971

/-- The quotient rounded to the nearest whole number; a tie goes to the even one. -/
def roundDiv (numerator denominator : Nat) : Nat :=
  let quotient := numerator / denominator
  let twice := 2 * (numerator % denominator)
  if denominator < twice ∨ (twice = denominator ∧ quotient % 2 = 1) then quotient + 1 else quotient

/-- The fraction divided by two to the power of `exponent`, as a numerator and a denominator. -/
def scaled (numerator denominator : Nat) (exponent : Int) : Nat × Nat :=
  if exponent < 0 then (numerator * Nat.pow 2 (-exponent).toNat, denominator)
  else (numerator, denominator * Nat.pow 2 exponent.toNat)

/-- The exponent at which the fraction has a mantissa of fifty-three bits, or the smallest one. -/
def exponentOf (numerator denominator : Nat) : Int :=
  let guess : Int := (Nat.log2 numerator : Int) - (Nat.log2 denominator : Int) - 52
  let ratio := scaled numerator denominator guess
  let exponent := if ratio.1 / ratio.2 < Nat.pow 2 52 then guess - 1 else guess
  max exponent leastExponent

def ofFraction (negative : Bool) (numerator denominator : Nat) : Binary64 :=
  let exponent := exponentOf numerator denominator
  let ratio := scaled numerator denominator exponent
  let mantissa := roundDiv ratio.1 ratio.2
  let carried := if mantissa = Nat.pow 2 53 then (Nat.pow 2 52, exponent + 1) else (mantissa, exponent)
  if greatestExponent < carried.2 then .infinite negative
  else .finite negative carried.1 carried.2

/-- The number nearest to `digits` times ten to the power of `exponent`. Where the decimal has its first
digit so far out that the answer is clear, no large power is computed. -/
def ofDecimal (negative : Bool) (digits : Nat) (exponent : Int) : Binary64 :=
  let first := ((Nat.toDigits 10 digits).length : Int) + exponent
  if digits = 0 ∨ first < -326 then .finite negative 0 leastExponent
  else if 310 < first then .infinite negative
  else if exponent < 0 then ofFraction negative digits (Nat.pow 10 (-exponent).toNat)
  else ofFraction negative (digits * Nat.pow 10 exponent.toNat) 1

end Binary64

end ConnectionPool
