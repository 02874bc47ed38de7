import ConnectionPool.Text.Fields

/-!
Contract: the text of file paths.

Owns:
- `Path.steps`, the parts of a path that lead somewhere;
- `Path.parent?`, the path of the directory around an object;
- `Path.directory?`, that directory where the path names it.

Does not own: what stands at a path; see `Files.Tree`.
-/

namespace ConnectionPool.Path

open Text

/-- The parts of a path between slashes, without empty ones and those that stay where they are. -/
def steps (path : List Char) : List (List Char) :=
  (fields '/' path).filter fun part => !part.isEmpty && part != ['.']

/-- The path starts at the root. -/
def isAbsolute (path : List Char) : Bool :=
  path.head? = some '/'

/-- The path ends in a slash, so that only a directory can stand there. -/
def endsInSlash (path : List Char) : Bool :=
  path.getLast? = some '/'

/-- Drops slashes, and parts that stay where they are, at the front of a reversed path. A dot that is the
whole path stays. -/
def trimReversed : List Char → List Char
  | [] => []
  | '/' :: rest => trimReversed rest
  | '.' :: '/' :: rest => trimReversed rest
  | part => part

/-- The path without slashes and parts that stay where they are at its end. -/
def trimmed (path : List Char) : List Char :=
  (trimReversed path.reverse).reverse

/-- The path without its last part; the root and the empty path have none. -/
def parent? (path : List Char) : Option (List Char) :=
  let body := trimmed path
  if body.isEmpty then
    none
  else
    let front := (body.reverse.dropWhile (· != '/')).reverse
    let parent := trimmed front
    if parent.isEmpty ∧ isAbsolute path then some ['/'] else some parent

/-- The directory around an object, if the path names one. -/
def directory? (path : String) : Option String :=
  match parent? path.toList with
  | none => none
  | some [] => none
  | some parent => some (String.ofList parent)

end ConnectionPool.Path
