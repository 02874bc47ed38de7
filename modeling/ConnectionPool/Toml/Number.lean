import ConnectionPool.Decimal.Binary64
import ConnectionPool.Text.Numeral

/-!
Contract: numbers of a TOML document.

Owns: `Number.read?`, which takes the longest number at the start of a text.

A decimal number has no leading zeros, single underscores only between digits, and becomes a float by a
point or an exponent. Whole numbers may also be written in base sixteen, eight or two, without a sign.

Does not own: dates and times, which begin with digits too.
-/

namespace ConnectionPool.Toml

open Text

/-- A number. -/
inductive Number where
  | integer (value : Int)
  | float (value : Binary64)
deriving DecidableEq, Repr

namespace Number

def isDigit (base : Nat) (char : Char) : Bool :=
  (Numeral.digitValue? base char).isSome

/-- The digits behind a first digit, with the text behind them. An underscore counts as part of the number
only in front of a digit. -/
def moreDigits (base : Nat) : List Char → List Char × List Char
  | '_' :: digit :: rest =>
      if isDigit base digit then
        let more := moreDigits base rest
        (digit :: more.1, more.2)
      else
        ([], '_' :: digit :: rest)
  | char :: rest =>
      if isDigit base char then
        let more := moreDigits base rest
        (char :: more.1, more.2)
      else
        ([], char :: rest)
  | [] => ([], [])

def digits? (base : Nat) : List Char → Option (List Char × List Char)
  | [] => none
  | first :: rest =>
      if isDigit base first then
        let more := moreDigits base rest
        some (first :: more.1, more.2)
      else
        none

def wholeDigits? : List Char → Option (List Char × List Char)
  | '0' :: rest => some (['0'], rest)
  | text => digits? 10 text

/-- A sign, if there is one, as whether it is a minus. -/
def sign : List Char → Option Bool × List Char
  | '+' :: rest => (some false, rest)
  | '-' :: rest => (some true, rest)
  | text => (none, text)

def fraction? : List Char → Option (List Char × List Char)
  | '.' :: rest => digits? 10 rest
  | text => some ([], text)

/-- The exponent, if there is one; otherwise zero. -/
def exponent? : List Char → Option (Int × List Char)
  | [] => some (0, [])
  | char :: rest =>
      if char = 'e' ∨ char = 'E' then
        let signed := sign rest
        (digits? 10 signed.2).bind fun digits =>
          (Numeral.value? 10 digits.1).map fun value =>
            (if signed.1 = some true then -(value : Int) else value, digits.2)
      else
        some (0, char :: rest)

/-- Whole numbers that fit into sixty-four bits with a sign. -/
def inRange (value : Int) : Bool :=
  -9223372036854775808 ≤ value && value ≤ 9223372036854775807

def based? (base : Nat) (text : List Char) : Option (Number × List Char) :=
  (digits? base text).bind fun digits =>
    (Numeral.value? base digits.1).bind fun value =>
      if inRange value then some (.integer value, digits.2) else none

/-- A float from its parts. A number too large for a float is refused, unless it is negative. -/
def float? (negative : Bool) (whole part : List Char) (exponent : Int) : Option Number :=
  (Numeral.value? 10 (whole ++ part)).bind fun digits =>
    match Binary64.ofDecimal negative digits (exponent - part.length) with
    | .infinite false => none
    | value => some (.float value)

def decimal? (negative : Bool) (text : List Char) : Option (Number × List Char) :=
  (wholeDigits? text).bind fun whole =>
    (fraction? whole.2).bind fun part =>
      (exponent? part.2).bind fun exponent =>
        if exponent.2.length = whole.2.length then
          (Numeral.value? 10 whole.1).bind fun value =>
            let value : Int := if negative then -(value : Int) else value
            if inRange value then some (.integer value, whole.2) else none
        else
          (float? negative whole.1 part.1 exponent.1).map fun number => (number, exponent.2)

/-- A number at the start of a text, with the text behind it. -/
def read? (text : List Char) : Option (Number × List Char) :=
  let signed := sign text
  let negative := signed.1 = some true
  match signed.2 with
  | 'i' :: 'n' :: 'f' :: rest => some (.float (.infinite negative), rest)
  | 'n' :: 'a' :: 'n' :: rest => some (.float .nan, rest)
  | '0' :: 'x' :: rest => if signed.1.isSome then decimal? negative signed.2 else based? 16 rest
  | '0' :: 'o' :: rest => if signed.1.isSome then decimal? negative signed.2 else based? 8 rest
  | '0' :: 'b' :: rest => if signed.1.isSome then decimal? negative signed.2 else based? 2 rest
  | rest => decimal? negative rest

end Number

end ConnectionPool.Toml
