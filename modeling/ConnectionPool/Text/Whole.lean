import ConnectionPool.Text.Numeral

/-!
Contract: whole numbers of bounded size in decimal digits, possibly with a sign.

Owns: `Whole.readSigned` and `Whole.readUnsigned`, which report the first fault from the left.

Does not own: ranges narrower than the size.
-/

namespace ConnectionPool.Text.Whole

/-- Why a text is no number of the size. -/
inductive Fault where
  | empty
  | invalidDigit
  | tooLarge
  | tooSmall
deriving DecidableEq, Repr

def Fault.message : Fault → String
  | .empty => "cannot parse integer from empty string"
  | .invalidDigit => "invalid digit found in string"
  | .tooLarge => "number too large to fit in target type"
  | .tooSmall => "number too small to fit in target type"

/-- The number written by `digits` behind a number `seen` already read. It must not exceed the limit. -/
def magnitudeFrom (limit : Nat) (excess : Fault) (seen : Nat) : List Char → Except Fault Nat
  | [] => .ok seen
  | digit :: digits =>
      match Numeral.digitValue? 10 digit with
      | none => .error .invalidDigit
      | some value =>
          let next := seen * 10 + value
          if limit < next then .error excess else magnitudeFrom limit excess next digits

/-- The number of a run of digits, of which there has to be one at least. -/
def magnitude (limit : Nat) (excess : Fault) (digits : List Char) : Except Fault Nat :=
  if digits.isEmpty then .error .invalidDigit else magnitudeFrom limit excess 0 digits

/-- A number without a minus sign that does not exceed the limit. -/
def readUnsigned (limit : Nat) (text : String) : Except Fault Nat :=
  match text.toList with
  | [] => .error .empty
  | '+' :: digits => magnitude limit .tooLarge digits
  | digits => magnitude limit .tooLarge digits

/-- A number from `-limit - 1` to `limit`. -/
def readSigned (limit : Nat) (text : String) : Except Fault Int :=
  match text.toList with
  | [] => .error .empty
  | '+' :: digits => (magnitude limit .tooLarge digits).map Int.ofNat
  | '-' :: digits => (magnitude (limit + 1) .tooSmall digits).map fun size => - Int.ofNat size
  | digits => (magnitude limit .tooLarge digits).map Int.ofNat

/-- A number of 64 bits. -/
def readWord64 (text : String) : Except Fault UInt64 :=
  (readUnsigned 18446744073709551615 text).map UInt64.ofNat

/-- A number of 63 bits with a sign. -/
def readInteger64 (text : String) : Except Fault Int :=
  readSigned 9223372036854775807 text

end ConnectionPool.Text.Whole
