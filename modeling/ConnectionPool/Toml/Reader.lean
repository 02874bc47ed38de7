import ConnectionPool.Toml.Item
import ConnectionPool.Toml.Moment
import ConnectionPool.Toml.Quotation

/-!
Contract: reading a TOML document.

Owns: `read?`, which gives the entries of a well-formed document and nothing for any other text.

Values are nested at most seventy-nine deep and keys have at most seventy-nine parts.

Does not own: the rules by which sections make up a document; see `Item`.
-/

namespace ConnectionPool.Toml

/-! ## Keys -/

def isBareKey (char : Char) : Bool :=
  char.isAlphanum || char = '_' || char = '-'

def readKey (text : List Char) : Option (String × List Char) :=
  match Quotation.readLine text with
  | some (content, rest) => some (String.ofList content, rest)
  | none =>
      let bare := text.takeWhile isBareKey
      if bare.isEmpty then none else some (String.ofList bare, text.dropWhile isBareKey)

/-- A key of at most so many parts with dots between them. -/
def readPath : Nat → List Char → Option (List String × List Char)
  | 0, _ => none
  | more + 1, text =>
      (readKey (skipBlanks text)).bind fun key =>
        match skipBlanks key.2 with
        | '.' :: rest =>
            (readPath more rest).map fun path => (key.1 :: path.1, path.2)
        | rest => some ([key.1], rest)

/-- The most parts of a key, and the deepest nesting of values. -/
def nestingLimit : Nat := 79

/-- A key as the path in front of its last part, and that part. -/
def readDottedKey (text : List Char) : Option ((List String × String) × List Char) :=
  (readPath nestingLimit text).bind fun path =>
    path.1.getLast?.map fun last => ((path.1.dropLast, last), path.2)

/-! ## Values -/

abbrev ValueReader := List Char → Option (Item × List Char)

def readScalar (text : List Char) : Option (Item × List Char) :=
  match text with
  | '"' :: _ => (Quotation.read text).map fun string =>
      (.scalar (.string (String.ofList string.1)), string.2)
  | '\'' :: _ => (Quotation.read text).map fun string =>
      (.scalar (.string (String.ofList string.1)), string.2)
  | 't' :: 'r' :: 'u' :: 'e' :: rest => some (.scalar (.boolean true), rest)
  | 'f' :: 'a' :: 'l' :: 's' :: 'e' :: rest => some (.scalar (.boolean false), rest)
  | _ =>
      match readMoment text with
      | some rest => some (.scalar .moment, rest)
      | none => (Number.read? text).map fun number => (.scalar (.number number.1), number.2)

/-- The values of an array up to its closing bracket. A comma may stand behind the last one. -/
def readElements (reader : ValueReader) : Nat → List Char → Option (List Item × List Char)
  | 0, _ => none
  | fuel + 1, text =>
      match skipTrivia false text with
      | ']' :: rest => some ([], rest)
      | text =>
          (reader text).bind fun value =>
            match skipTrivia false value.2 with
            | ',' :: rest =>
                (readElements reader fuel rest).map fun more => (value.1 :: more.1, more.2)
            | ']' :: rest => some ([value.1], rest)
            | _ => none

def readPair (reader : ValueReader) (text : List Char) : Option (Pair × List Char) :=
  (readDottedKey text).bind fun key =>
    match key.2 with
    | '=' :: rest =>
        (reader (skipBlanks rest)).map fun value => (⟨key.1.1, key.1.2, value.1⟩, value.2)
    | _ => none

/-- The pairs between braces, at least one, up to the closing brace. -/
def readPairs (reader : ValueReader) : Nat → List Char → Option (List Pair × List Char)
  | 0, _ => none
  | fuel + 1, text =>
      (readPair reader text).bind fun pair =>
        match skipBlanks pair.2 with
        | ',' :: rest => (readPairs reader fuel rest).map fun more => (pair.1 :: more.1, more.2)
        | '}' :: rest => some ([pair.1], rest)
        | _ => none

def readBraces (reader : ValueReader) (text : List Char) : Option (Item × List Char) :=
  match skipBlanks text with
  | '}' :: rest => some (.table .braces [], rest)
  | text =>
      (readPairs reader (text.length + 1) text).bind fun pairs =>
        (fill pairs.1 []).map fun entries => (.table .braces entries, pairs.2)

/-- A value in which arrays and tables are nested at most so deep. -/
def readValue : Nat → ValueReader
  | 0, text =>
      match text with
      | '[' :: _ => none
      | '{' :: _ => none
      | text => readScalar text
  | depth + 1, text =>
      match text with
      | '[' :: rest =>
          (readElements (readValue depth) (rest.length + 1) rest).map fun items =>
            (.array items.1, items.2)
      | '{' :: rest => readBraces (readValue depth) rest
      | text => readScalar text

/-! ## Lines -/

/-- What a line adds to a document. -/
inductive Line where
  | nothing
  | pair (pair : Pair)
  | header (header : Header)
deriving Repr

/-- A header behind its opening brackets; `closing` are its closing ones. -/
def readHeader (closing : List Char) (make : List String → String → Header) (text : List Char) :
    Option (Line × List Char) :=
  (readDottedKey text).bind fun key =>
    if closing.isPrefixOf key.2 then
      (lineEnd? (key.2.drop closing.length)).map fun rest => (.header (make key.1.1 key.1.2), rest)
    else
      none

/-- One line of a document, without the blanks in front of it. -/
def readLine (text : List Char) : Option (Line × List Char) :=
  match text with
  | '#' :: _ => (lineEnd? text).map fun rest => (.nothing, rest)
  | '\n' :: rest => some (.nothing, rest)
  | '\r' :: '\n' :: rest => some (.nothing, rest)
  | '[' :: '[' :: rest => readHeader [']', ']'] .element rest
  | '[' :: rest => readHeader [']'] .table rest
  | text =>
      (readPair (readValue nestingLimit) text).bind fun pair =>
        (lineEnd? pair.2).map fun rest => (.pair pair.1, rest)

def readLines : Nat → List Char → Option (List Line)
  | 0, _ => none
  | fuel + 1, text =>
      let text := skipBlanks text
      if text.isEmpty then
        some []
      else
        (readLine text).bind fun line =>
          (readLines fuel line.2).map fun lines => line.1 :: lines

/-- The pairs in front of the first header, and the sections behind them. -/
def group : List Line → List Pair × List Section
  | [] => ([], [])
  | .nothing :: lines => group lines
  | .pair pair :: lines =>
      let later := group lines
      (pair :: later.1, later.2)
  | .header header :: lines =>
      let later := group lines
      ([], ⟨header, later.1⟩ :: later.2)

/-- A byte-order mark may stand at the start. -/
def withoutMark : List Char → List Char
  | '\ufeff' :: rest => rest
  | text => text

def read? (text : String) : Option Entries :=
  let characters := withoutMark text.toList
  (readLines (characters.length + 1) characters).bind fun lines =>
    let grouped := group lines
    assemble grouped.1 grouped.2

end ConnectionPool.Toml
