/-!
Contract: the characters between the parts of a TOML document.

Owns: blanks, line ends and comments, each as a function that gives the text behind it.

Does not own: keys and values.
-/

namespace ConnectionPool.Toml

/-- Space and tab. -/
def isBlank (char : Char) : Bool := char = ' ' || char = '\t'

/-- A character that may stand in comments and in strings without an escape: anything but a control
character, except that a tab may. -/
def isPlain (char : Char) : Bool :=
  char = '\t' || (' ' ≤ char && char ≠ '\x7f')

def skipBlanks (text : List Char) : List Char :=
  text.dropWhile isBlank

/-- The text behind a line end. A carriage return counts only together with a line feed. -/
def newline? : List Char → Option (List Char)
  | '\n' :: rest => some rest
  | '\r' :: '\n' :: rest => some rest
  | _ => none

/-- The text behind the end of a line or of the document, possibly behind a comment. -/
def lineEnd? (text : List Char) : Option (List Char) :=
  let tail :=
    match skipBlanks text with
    | '#' :: comment => comment.dropWhile isPlain
    | tail => tail
  if tail.isEmpty then some [] else newline? tail

/-- The text behind blanks, line ends and comments. A comment that does not end with a line end leaves
something that nothing can begin with. -/
def skipTrivia (inComment : Bool) : List Char → List Char
  | [] => []
  | '\n' :: rest => skipTrivia false rest
  | '\r' :: '\n' :: rest => skipTrivia false rest
  | char :: rest =>
      if inComment then
        if isPlain char then skipTrivia true rest else char :: rest
      else if char = '#' then skipTrivia true rest
      else if isBlank char then skipTrivia false rest
      else char :: rest

end ConnectionPool.Toml
