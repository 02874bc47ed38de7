import ConnectionPool.Text.Numeral

/-!
Contract: dates and times of a TOML document.

Owns: `readMoment`, which recognises a date, a time, or both with or without an offset, and gives the text
behind it.

Does not own: what they mean; no setting is a date or a time.
-/

namespace ConnectionPool.Toml

open Text

/-- A number of exactly `count` decimal digits. -/
def fixedDigits? (count : Nat) (text : List Char) : Option (Nat × List Char) :=
  let digits := text.take count
  if digits.length = count then
    (Numeral.value? 10 digits).map fun value => (value, text.drop count)
  else
    none

/-- A number of exactly two decimal digits within bounds. -/
def twoDigits? (least greatest : Nat) (text : List Char) : Option (Nat × List Char) :=
  (fixedDigits? 2 text).bind fun number =>
    if least ≤ number.1 ∧ number.1 ≤ greatest then some number else none

def expect? (wanted : Char) : List Char → Option (List Char)
  | char :: rest => if char = wanted then some rest else none
  | [] => none

/-- A year that is divisible by four, but by a hundred only if also by four hundred. -/
def isLeapYear (year : Nat) : Bool :=
  year % 4 = 0 && (year % 100 ≠ 0 || year % 400 = 0)

def daysInMonth (year month : Nat) : Nat :=
  if month = 2 then (if isLeapYear year then 29 else 28)
  else if month ∈ [4, 6, 9, 11] then 30
  else 31

/-- A date such as `2000-02-29`. -/
def readDate (text : List Char) : Option (List Char) := do
  let (year, text) ← fixedDigits? 4 text
  let text ← expect? '-' text
  let (month, text) ← twoDigits? 1 12 text
  let text ← expect? '-' text
  let (_, text) ← twoDigits? 1 (daysInMonth year month) text
  pure text

/-- Digits behind the point of a second, if there is a point. -/
def readSecondPart : List Char → Option (List Char)
  | '.' :: rest =>
      let tail := rest.dropWhile Char.isDigit
      if tail.length = rest.length then none else some tail
  | text => some text

/-- A time such as `07:32:00.999`. -/
def readTime (text : List Char) : Option (List Char) := do
  let (_, text) ← twoDigits? 0 23 text
  let text ← expect? ':' text
  let (_, text) ← twoDigits? 0 59 text
  let text ← expect? ':' text
  let (_, text) ← twoDigits? 0 60 text
  readSecondPart text

/-- An offset such as `Z` or `+01:00`, if there is one. -/
def readOffset : List Char → Option (List Char)
  | [] => some []
  | char :: rest =>
      if char = 'Z' ∨ char = 'z' then some rest
      else if char = '+' ∨ char = '-' then do
        let (_, text) ← twoDigits? 0 23 rest
        let text ← expect? ':' text
        let (_, text) ← twoDigits? 0 59 text
        pure text
      else some (char :: rest)

/-- Two digits and a colon: where this stands behind a date, a time must follow. -/
def beginsTime (text : List Char) : Bool :=
  match twoDigits? 0 23 text with
  | some (_, ':' :: _) => true
  | _ => false

/-- A date with a time and an offset, a date alone, or a time alone. -/
def readMoment (text : List Char) : Option (List Char) :=
  match readDate text with
  | some [] => some []
  | some (char :: rest) =>
      if (char = 'T' ∨ char = 't' ∨ char = ' ') ∧ beginsTime rest then
        (readTime rest).bind readOffset
      else
        some (char :: rest)
  | none => readTime text

end ConnectionPool.Toml
