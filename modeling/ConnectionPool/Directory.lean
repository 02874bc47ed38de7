/-!
Contract: servers by name, with one of the names as the default.

Owns:
- the type `Directory`, whose names are kept in increasing order;
- adding, removing and looking up, and the causes for which a name is refused.

Does not own: the entries, which it only hands out. A removed entry is neither stopped nor changed.
-/

namespace ConnectionPool

/-- Why a directory refuses a name. -/
inductive DirectoryError where
  | duplicateName (name : String)
  | unknownName (name : String)
deriving DecidableEq, Repr

def DirectoryError.message : DirectoryError → String
  | .duplicateName name => "a server named '" ++ name ++ "' is already registered"
  | .unknownName name => "no server named '" ++ name ++ "' is registered"

/-- Entries by name. -/
structure Directory (Entry : Type) where
  /-- The entries in the order of their names. -/
  entries : List (String × Entry) := []
  default : Option String := none
deriving Repr

namespace Directory

variable {Entry : Type}

/-- Puts an entry in front of the first larger name. -/
def place (name : String) (entry : Entry) : List (String × Entry) → List (String × Entry)
  | [] => [(name, entry)]
  | head :: tail =>
      if name < head.1 then (name, entry) :: head :: tail else head :: place name entry tail

def names (directory : Directory Entry) : List String :=
  directory.entries.map Prod.fst

/-- The entries in the order of their names; an entry with two names occurs twice. -/
def values (directory : Directory Entry) : List Entry :=
  directory.entries.map Prod.snd

def size (directory : Directory Entry) : Nat :=
  directory.entries.length

def find? (directory : Directory Entry) (name : String) : Option Entry :=
  directory.entries.lookup name

def defaultEntry? (directory : Directory Entry) : Option Entry :=
  directory.default.bind directory.find?

/-- Adds an entry under a new name. The name becomes the default if there is none. -/
def add (name : String) (entry : Entry) (directory : Directory Entry) :
    Except DirectoryError (Directory Entry) :=
  match directory.find? name with
  | some _ => .error (.duplicateName name)
  | none => .ok {
      entries := place name entry directory.entries
      default := directory.default.or (some name) }

/-- Removes a name and gives its entry. Without its name there is no default until the next one is set or
added. -/
def remove (name : String) (directory : Directory Entry) : Option (Entry × Directory Entry) :=
  (directory.find? name).map fun entry =>
    (entry, {
      entries := directory.entries.filter fun item => item.1 ≠ name
      default := if directory.default = some name then none else directory.default })

def setDefault (name : String) (directory : Directory Entry) :
    Except DirectoryError (Directory Entry) :=
  match directory.find? name with
  | some _ => .ok { directory with default := some name }
  | none => .error (.unknownName name)

/-- Removes all names and gives their entries. -/
def clear (directory : Directory Entry) : List Entry × Directory Entry :=
  (directory.values, {})

end Directory

end ConnectionPool
