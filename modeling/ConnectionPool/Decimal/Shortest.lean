import ConnectionPool.Decimal.Binary64
import ConnectionPool.Text.Numeral

/-!
Contract: the shortest decimal that stands for a floating-point number.

Owns:
- `Binary64.shortest`, the fewest digits that read back, and of those the nearest;
- `Binary64.text`, which writes them without an exponent and always with a point.

Does not own: the numbers; see `Decimal.Binary64`.
-/

namespace ConnectionPool.Binary64

open Text

/-- The reals that round to a number, as multiples of `1 / unit`: the number itself lies at `value`, and
the ends belong to the interval if `closed` is set. -/
structure Interval where
  low : Nat
  value : Nat
  high : Nat
  unit : Nat
  closed : Bool
deriving Repr

/-- The interval of a positive finite number. Below a power of two the numbers lie twice as close. -/
def interval (mantissa : Nat) (exponent : Int) : Interval :=
  let up := if exponent < 0 then 1 else Nat.pow 2 exponent.toNat
  let unit := if exponent < 0 then 4 * Nat.pow 2 (-exponent).toNat else 4
  let below := if mantissa = Nat.pow 2 52 ∧ leastExponent < exponent then 1 else 2
  { low := (4 * mantissa - below) * up
    value := 4 * mantissa * up
    high := (4 * mantissa + 2) * up
    unit
    closed := mantissa % 2 = 0 }

/-- `digits` times ten to the power of `exponent`, and the interval, over a common unit. -/
def Interval.onGrid (interval : Interval) (exponent : Int) : Nat × Interval :=
  if exponent < 0 then
    let factor := Nat.pow 10 (-exponent).toNat
    (interval.unit, { interval with
      low := interval.low * factor, value := interval.value * factor, high := interval.high * factor })
  else
    (interval.unit * Nat.pow 10 exponent.toNat, interval)

def Interval.holds (interval : Interval) (position : Nat) : Bool :=
  if interval.closed then interval.low ≤ position ∧ position ≤ interval.high
  else interval.low < position ∧ position < interval.high

/-- The multiple of ten to the power of `exponent` that stands for the number, if one does; of two, the
nearer. -/
def Interval.onGrid? (interval : Interval) (exponent : Int) : Option Nat :=
  let (step, scaled) := interval.onGrid exponent
  let down := scaled.value / step
  let lower := down * step
  let upper := (down + 1) * step
  match scaled.holds lower, scaled.holds upper with
  | true, true => if scaled.value - lower < upper - scaled.value then some down else some (down + 1)
  | true, false => some down
  | false, true => some (down + 1)
  | false, false => none

/-- Looks for the coarsest grid with a hit, from ten to the power of `exponent` downwards. -/
def Interval.search (interval : Interval) (exponent : Int) : Nat → Nat × Int
  | 0 => (0, exponent)
  | fuel + 1 =>
      match interval.onGrid? exponent with
      | some 0 => interval.search (exponent - 1) fuel
      | some digits => (digits, exponent)
      | none => interval.search (exponent - 1) fuel

/-- The shortest digits that stand for a positive finite number, and the exponent of ten that goes with
them. No number reaches ten to the power of 309, and 345 grids below that every number is on the grid to
seventeen places. -/
def shortest (mantissa : Nat) (exponent : Int) : Nat × Int :=
  (interval mantissa exponent).search 309 700

def positional (digits : List Char) (exponent : Int) : List Char :=
  if 0 ≤ exponent then
    digits ++ List.replicate exponent.toNat '0'
  else
    let places := (-exponent).toNat
    let padded := List.replicate (places + 1 - digits.length) '0' ++ digits
    padded.take (padded.length - places) ++ '.' :: padded.drop (padded.length - places)

/-- The text of a number. A whole number gets a zero behind the point. -/
def text : Binary64 → String
  | .nan => "NaN"
  | .infinite negative => if negative then "-inf" else "inf"
  | .finite negative mantissa exponent =>
      let sign := if negative then ['-'] else []
      let written :=
        if mantissa = 0 then ['0']
        else
          let decimal := shortest mantissa exponent
          positional (Numeral.render 10 decimal.1) decimal.2
      let pointed := if '.' ∈ written then written else written ++ ['.', '0']
      String.ofList (sign ++ pointed)

end ConnectionPool.Binary64
