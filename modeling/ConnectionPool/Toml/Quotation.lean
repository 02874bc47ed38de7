import ConnectionPool.Toml.Layout
import ConnectionPool.Text.Numeral

/-!
Contract: strings of a TOML document.

There are four written forms: with escapes between double quotes, verbatim between single quotes, and each of
them over several lines between triple quotes.

Owns:
- a reader for each form, which starts behind the opening quotes and gives the content and the text behind
  the closing ones;
- `Quotation.render`, which picks the plainest form for a content.

Does not own: keys, which may be written in the one-line forms too.
-/

namespace ConnectionPool.Toml.Quotation

open Text

/-! ## Reading -/

/-- The character of a code point written in hexadecimal digits. -/
def codePoint? (digits : List Char) : Option Char :=
  match Numeral.value? 16 digits with
  | none => none
  | some code => if code.isValidChar then some (Char.ofNat code) else none

/-- The character of an escape with a single letter. -/
def escaped? : Char → Option Char
  | 'b' => some '\x08'
  | 't' => some '\t'
  | 'n' => some '\n'
  | 'f' => some '\x0c'
  | 'r' => some '\r'
  | '"' => some '"'
  | '\\' => some '\\'
  | _ => none

/-- A character in front of a content that was read, if both were. -/
def prepend (char : Option Char) (rest : Option (List Char × List Char)) :
    Option (List Char × List Char) :=
  match char, rest with
  | some char, some (content, rest) => some (char :: content, rest)
  | _, _ => none

def readBasic : List Char → Option (List Char × List Char)
  | [] => none
  | '"' :: rest => some ([], rest)
  | '\\' :: 'u' :: a :: b :: c :: d :: rest =>
      prepend (codePoint? [a, b, c, d]) (readBasic rest)
  | '\\' :: 'U' :: a :: b :: c :: d :: e :: f :: g :: h :: rest =>
      prepend (codePoint? [a, b, c, d, e, f, g, h]) (readBasic rest)
  | '\\' :: letter :: rest => prepend (escaped? letter) (readBasic rest)
  | char :: rest =>
      if isPlain char ∧ char ≠ '\\' then prepend (some char) (readBasic rest) else none

def readLiteral : List Char → Option (List Char × List Char)
  | [] => none
  | '\'' :: rest => some ([], rest)
  | char :: rest => if isPlain char then prepend (some char) (readLiteral rest) else none

/-- What a backslash at the end of a line does to the characters behind it. -/
inductive Folding where
  /-- There is no such backslash. -/
  | none
  /-- Behind the backslash only blanks may stand on the line. -/
  | toLineEnd
  /-- Blanks and line ends are skipped. -/
  | toText
deriving DecidableEq, Repr

/-- The rest of a string between triple double quotes. Up to two quotes in front of the closing ones belong
to the content. -/
def readBasicLines : Folding → List Char → Option (List Char × List Char)
  | _, [] => none
  | .toLineEnd, '\n' :: rest => readBasicLines .toText rest
  | .toLineEnd, '\r' :: '\n' :: rest => readBasicLines .toText rest
  | .toLineEnd, char :: rest => if isBlank char then readBasicLines .toLineEnd rest else none
  | _, '"' :: '"' :: '"' :: '"' :: '"' :: rest => some (['"', '"'], rest)
  | _, '"' :: '"' :: '"' :: '"' :: rest => some (['"'], rest)
  | _, '"' :: '"' :: '"' :: rest => some ([], rest)
  | .toText, '\n' :: rest => readBasicLines .toText rest
  | .toText, '\r' :: '\n' :: rest => readBasicLines .toText rest
  | .none, '\n' :: rest => prepend (some '\n') (readBasicLines .none rest)
  | .none, '\r' :: '\n' :: rest => prepend (some '\n') (readBasicLines .none rest)
  | _, '\\' :: 'u' :: a :: b :: c :: d :: rest =>
      prepend (codePoint? [a, b, c, d]) (readBasicLines .none rest)
  | _, '\\' :: 'U' :: a :: b :: c :: d :: e :: f :: g :: h :: rest =>
      prepend (codePoint? [a, b, c, d, e, f, g, h]) (readBasicLines .none rest)
  | _, '\\' :: '\n' :: rest => readBasicLines .toText rest
  | _, '\\' :: '\r' :: '\n' :: rest => readBasicLines .toText rest
  | _, '\\' :: letter :: rest =>
      if isBlank letter then readBasicLines .toLineEnd rest
      else prepend (escaped? letter) (readBasicLines .none rest)
  | folding, char :: rest =>
      if folding = .toText ∧ isBlank char then readBasicLines .toText rest
      else if isPlain char ∧ char ≠ '\\' then prepend (some char) (readBasicLines .none rest)
      else none

/-- The rest of a string between triple single quotes. -/
def readLiteralLines : List Char → Option (List Char × List Char)
  | [] => none
  | '\'' :: '\'' :: '\'' :: '\'' :: '\'' :: rest => some (['\'', '\''], rest)
  | '\'' :: '\'' :: '\'' :: '\'' :: rest => some (['\''], rest)
  | '\'' :: '\'' :: '\'' :: rest => some ([], rest)
  | '\n' :: rest => prepend (some '\n') (readLiteralLines rest)
  | '\r' :: '\n' :: rest => prepend (some '\n') (readLiteralLines rest)
  | char :: rest => if isPlain char then prepend (some char) (readLiteralLines rest) else none

/-- A line end directly behind opening triple quotes does not belong to the content. -/
def skipFirstNewline (text : List Char) : List Char :=
  (newline? text).getD text

def read : List Char → Option (List Char × List Char)
  | '"' :: '"' :: '"' :: rest => readBasicLines .none (skipFirstNewline rest)
  | '"' :: rest => readBasic rest
  | '\'' :: '\'' :: '\'' :: rest => readLiteralLines (skipFirstNewline rest)
  | '\'' :: rest => readLiteral rest
  | _ => none

/-- A string in a one-line form, with its opening quote. -/
def readLine : List Char → Option (List Char × List Char)
  | '"' :: rest => readBasic rest
  | '\'' :: rest => readLiteral rest
  | _ => none

/-! ## Writing -/

/-- A control character other than tab and line feed; no form can hold it without an escape. -/
def isControl (char : Char) : Bool :=
  (char < ' ' && char ≠ '\t' && char ≠ '\n') || char = '\x7f'

/-- The longest run of a character, where the text in front ended with a run of `current`. -/
def longestRun (wanted : Char) (current : Nat) : List Char → Nat
  | [] => current
  | char :: rest =>
      if char = wanted then longestRun wanted (current + 1) rest
      else max current (longestRun wanted 0 rest)

/-- The written forms. -/
inductive Form where
  | basic
  | literal
  | basicLines
  | literalLines
deriving DecidableEq, Repr

/-- The plainest form for a content: one that needs no escape, on one line before several, and only then
one with escapes. -/
def form (content : List Char) : Form :=
  let hasControl := content.any isControl
  let hasBackslash := content.any (· == '\\')
  let hasNewline := content.any (· == '\n')
  let doubles := longestRun '"' 0 content
  let singles := longestRun '\'' 0 content
  if !hasControl && !hasBackslash && !hasNewline && doubles == 0 then .basic
  else if !hasControl && !hasNewline && singles == 0 then .literal
  else if !hasControl && !hasBackslash && doubles ≤ 2 then .basicLines
  else if !hasControl && singles ≤ 2 then .literalLines
  else if hasNewline then .basicLines
  else .basic

/-- A code point in four capital hexadecimal digits. -/
def fourDigits (code : Nat) : List Char :=
  let digits := (Numeral.render 16 code).map Char.toUpper
  List.replicate (4 - digits.length) '0' ++ digits

/-- A character other than a quote and a line feed in a form with escapes. -/
def escapeChar (char : Char) : List Char :=
  if char = '\x08' then ['\\', 'b']
  else if char = '\t' then ['\\', 't']
  else if char = '\x0c' then ['\\', 'f']
  else if char = '\r' then ['\\', 'r']
  else if char = '\\' then ['\\', '\\']
  else if char < ' ' ∨ char = '\x7f' then '\\' :: 'u' :: fourDigits char.toNat
  else [char]

def escapeBasic (char : Char) : List Char :=
  if char = '"' then ['\\', '"']
  else if char = '\n' then ['\\', 'n']
  else escapeChar char

/-- A content between triple double quotes: every third quote of a run is escaped. `run` quotes stand
directly in front. -/
def escapeLines (run : Nat) : List Char → List Char
  | [] => []
  | '"' :: rest =>
      if run = 2 then '\\' :: '"' :: escapeLines 0 rest else '"' :: escapeLines (run + 1) rest
  | '\n' :: rest => '\n' :: escapeLines 0 rest
  | char :: rest => escapeChar char ++ escapeLines 0 rest

/-- The line end that follows opening triple quotes when the content has several lines. -/
def firstNewline (content : List Char) : List Char :=
  if content.any (· == '\n') then ['\n'] else []

/-- A content in its plainest form, with its quotes. -/
def render (content : List Char) : List Char :=
  match form content with
  | .basic => '"' :: (content.flatMap escapeBasic ++ ['"'])
  | .literal => '\'' :: (content ++ ['\''])
  | .basicLines => ['"', '"', '"'] ++ firstNewline content ++ escapeLines 0 content ++ ['"', '"', '"']
  | .literalLines => ['\'', '\'', '\''] ++ firstNewline content ++ content ++ ['\'', '\'', '\'']

end ConnectionPool.Toml.Quotation
