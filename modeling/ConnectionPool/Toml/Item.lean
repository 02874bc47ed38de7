import ConnectionPool.Toml.Number

/-!
Contract: what a TOML document says.

Owns:
- the types `Scalar` and `Item`, with tables as lists of entries in the order of the document;
- putting entries into tables by dotted keys and by headers, with the rules that keep a table from being
  defined twice.

Does not own: the written form; see `Reader`.
-/

namespace ConnectionPool.Toml

/-- A value without parts. -/
inductive Scalar where
  | string (text : String)
  | number (value : Number)
  | boolean (value : Bool)
  /-- A date, a time or both. -/
  | moment
deriving DecidableEq, Repr

/-- What made a table, which decides who may add to it. -/
inductive TableOrigin where
  /-- Braces; nothing may be added. -/
  | braces
  /-- A header of its own. -/
  | header
  /-- The header of a table inside it. -/
  | implied
  /-- A dotted key. -/
  | dotted
deriving DecidableEq, Repr

/-- A value, a table, or an array of tables made by headers in double brackets. -/
inductive Item where
  | scalar (value : Scalar)
  | array (items : List Item)
  | table (origin : TableOrigin) (entries : List (String × Item))
  | tables (elements : List (List (String × Item)))
deriving Repr

/-- The entries of a table in the order of the document. -/
abbrev Entries := List (String × Item)

namespace Entries

def replace (key : String) (item : Item) (entries : Entries) : Entries :=
  entries.map fun entry => if entry.1 = key then (key, item) else entry

def insert? (key : String) (item : Item) (entries : Entries) : Option Entries :=
  match entries.lookup key with
  | none => some (entries ++ [(key, item)])
  | some _ => none

def changeLast (change : Entries → Option Entries) :
    List (List (String × Item)) → Option (List (List (String × Item)))
  | [] => none
  | [last] => (change last).map fun last => [last]
  | first :: next :: rest => (changeLast change (next :: rest)).map fun rest => first :: rest

/-- Puts an item under the last part of a dotted key. The tables on the way are those that dotted keys
made, and new ones; a table that a header implied may only be passed. -/
def putDotted (item : Item) : (path : List String) → (key : String) → Entries → Option Entries
  | [], key, entries => entries.insert? key item
  | step :: path, key, entries =>
      match entries.lookup step with
      | none =>
          (putDotted item path key []).map fun inner => entries ++ [(step, .table .dotted inner)]
      | some (.table .dotted inner) =>
          (putDotted item path key inner).map fun inner =>
            Entries.replace step (.table .dotted inner) entries
      | some (.table .implied inner) =>
          if path.isEmpty then none
          else (putDotted item path key inner).map fun inner =>
            Entries.replace step (.table .implied inner) entries
      | some (.tables elements) =>
          if path.isEmpty then none
          else (changeLast (putDotted item path key) elements).map fun elements =>
            Entries.replace step (.tables elements) entries
      | some _ => none

/-- Changes the table at the end of a header's path. Tables on the way that do not exist are implied; of an
array of tables the last one is meant. -/
def changeAt (change : Entries → Option Entries) : (path : List String) → Entries → Option Entries
  | [], entries => change entries
  | step :: path, entries =>
      match entries.lookup step with
      | none => (changeAt change path []).map fun inner => entries ++ [(step, .table .implied inner)]
      | some (.table .braces _) => none
      | some (.table origin inner) =>
          (changeAt change path inner).map fun inner =>
            Entries.replace step (.table origin inner) entries
      | some (.tables elements) =>
          (changeLast (changeAt change path) elements).map fun elements =>
            Entries.replace step (.tables elements) entries
      | some _ => none

end Entries

/-- A dotted key with its value; the last part of the key stands apart. -/
structure Pair where
  path : List String
  key : String
  item : Item
deriving Repr

def fill : List Pair → Entries → Option Entries
  | [], entries => some entries
  | pair :: pairs, entries =>
      (Entries.putDotted pair.item pair.path pair.key entries).bind (fill pairs)

/-- A line in brackets, which says where the pairs below it belong. -/
inductive Header where
  /-- A table of its own. -/
  | table (path : List String) (name : String)
  /-- The next table of an array. -/
  | element (path : List String) (name : String)
deriving DecidableEq, Repr

/-- A header with the pairs below it. -/
structure Section where
  header : Header
  pairs : List Pair
deriving Repr

/-- Puts the table of a header into the table around it. A table that was only implied so far keeps its
entries and moves to the end. -/
def placeTable (name : String) (pairs : List Pair) (entries : Entries) : Option Entries :=
  match entries.lookup name with
  | none => (fill pairs []).map fun inner => entries ++ [(name, .table .header inner)]
  | some (.table .implied inner) =>
      (fill pairs inner).map fun inner =>
        entries.filter (fun entry => entry.1 ≠ name) ++ [(name, .table .header inner)]
  | some _ => none

/-- Puts the table of a header at the end of its array. -/
def placeElement (name : String) (pairs : List Pair) (entries : Entries) : Option Entries :=
  match entries.lookup name with
  | none => (fill pairs []).map fun inner => entries ++ [(name, .tables [inner])]
  | some (.tables elements) =>
      (fill pairs []).map fun inner =>
        Entries.replace name (.tables (elements ++ [inner])) entries
  | some _ => none

def place (piece : Section) : Entries → Option Entries :=
  match piece.header with
  | .table path name => Entries.changeAt (placeTable name piece.pairs) path
  | .element path name => Entries.changeAt (placeElement name piece.pairs) path

/-- The document of the pairs in front of the first header and the sections behind them. -/
def assemble (pairs : List Pair) (sections : List Section) : Option Entries :=
  (fill pairs []).bind fun entries =>
    sections.foldlM (fun entries piece => place piece entries) entries

end ConnectionPool.Toml
