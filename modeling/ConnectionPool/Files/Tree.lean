import ConnectionPool.Bytes
import ConnectionPool.Files.Path

/-!
Contract: the files below a working directory.

Owns:
- the types `FileNode` and `FileTree`, and the causes for which an operation on files fails;
- reading, writing, making directories, binding sockets and removing.

Does not own: the content of files.
-/

namespace ConnectionPool

open Text

/-- What stands at a path. -/
inductive FileNode where
  | regular (content : Bytes)
  | directory
  /-- A socket, with the number of the listener behind it if there still is one. -/
  | socket (listener : Option Nat)
  /-- A symbolic link that leads nowhere. -/
  | link
deriving DecidableEq, Repr

/-- Why an operation on files fails. -/
inductive FileError where
  | notFound
  | notDirectory
  | isDirectory
  | exists
  | nameTooLong
  | noDevice
  | addressInUse
  /-- The path holds a character that no file name can hold. -/
  | nulInPath
  /-- The content is no text. -/
  | notText
  /-- The path is too long for a socket. -/
  | socketPathTooLong
  /-- Something that is no socket stands where a socket is to be bound. -/
  | notSocket
  /-- Somebody listens on the socket that is to be bound. -/
  | socketServed
deriving DecidableEq, Repr

def FileError.message : FileError → String
  | .notFound => "No such file or directory (os error 2)"
  | .notDirectory => "Not a directory (os error 20)"
  | .isDirectory => "Is a directory (os error 21)"
  | .exists => "File exists (os error 17)"
  | .nameTooLong => "File name too long (os error 36)"
  | .noDevice => "No such device or address (os error 6)"
  | .addressInUse => "Address already in use (os error 98)"
  | .nulInPath => "file name contained an unexpected NUL byte"
  | .notText => "stream did not contain valid UTF-8"
  | .socketPathTooLong => "path must be shorter than SUN_LEN"
  | .notSocket => "path exists and is not a socket"
  | .socketServed => "another process is listening on this socket"

/-- A place below the working directory, or below the root, by the names that lead to it, the last one in
front. -/
abbrev Place := List String

/-- Objects by their places. The working directory and the root are always there. -/
structure FileTree where
  nodes : List (Place × FileNode) := []
deriving Repr

namespace FileTree

/-- The name under which the root, or the directory around the working directory, starts a place. -/
def outside (name : String) : Place := [name]

def node? (tree : FileTree) (place : Place) : Option FileNode :=
  if place = [] ∨ place = outside "/" ∨ place = outside ".." then some .directory
  else tree.nodes.lookup place

/-- Puts an object at a place, whatever stood there. -/
def put (tree : FileTree) (place : Place) (node : FileNode) : FileTree where
  nodes := (place, node) :: tree.nodes.filter fun entry => entry.1 ≠ place

def erase (tree : FileTree) (place : Place) : FileTree where
  nodes := tree.nodes.filter fun entry => entry.1 ≠ place

/-- The directory around a place. What is around the root or outside is the same again. -/
def around : Place → Place
  | [] => outside ".."
  | [name] => if name = "/" ∨ name = ".." then [name] else []
  | _ :: place => place

def nameLimit : Nat := 255

/-- Follows the parts of a path, all but the last of which must lead to directories. -/
def follow (tree : FileTree) : (place : Place) → List (List Char) → Except FileError Place
  | place, [] => .ok place
  | place, part :: parts =>
      match tree.node? place with
      | some .directory =>
          if part = ['.', '.'] then
            tree.follow (around place) parts
          else
            let name := String.ofList part
            if nameLimit < name.utf8ByteSize then .error .nameTooLong
            else tree.follow (name :: place) parts
      | none => .error .notFound
      | some .link => .error .notFound
      | some (.regular _) => .error .notDirectory
      | some (.socket _) => .error .notDirectory

def locate (tree : FileTree) (path : String) : Except FileError Place :=
  let text := path.toList
  if '\x00' ∈ text then .error .nulInPath
  else if text.isEmpty then .error .notFound
  else tree.follow (if Path.isAbsolute text then outside "/" else []) (Path.steps text)

def look (tree : FileTree) (path : String) : Except FileError (Option FileNode) :=
  (tree.locate path).bind fun place =>
    match tree.node? place with
    | some .directory => .ok (some .directory)
    | some node => if Path.endsInSlash path.toList then .error .notDirectory else .ok (some node)
    | none => .ok none

def hasObject (tree : FileTree) (path : String) : Bool :=
  match tree.look path with
  | .ok (some _) => true
  | .ok none => false
  | .error _ => false

def isDirectory (tree : FileTree) (path : String) : Bool :=
  match tree.look path with
  | .ok (some .directory) => true
  | .ok _ => false
  | .error _ => false

def read (tree : FileTree) (path : String) : Except FileError Bytes :=
  (tree.look path).bind fun
    | some (.regular content) => .ok content
    | some .directory => .error .isDirectory
    | some (.socket _) => .error .noDevice
    | some .link => .error .notFound
    | none => .error .notFound

def readText (tree : FileTree) (path : String) : Except FileError String :=
  (tree.read path).bind fun content =>
    match Bytes.text? content with
    | some text => .ok text
    | none => .error .notText

/-- Writes a file, whatever it held. -/
def write (tree : FileTree) (path : String) (content : Bytes) : Except FileError FileTree :=
  (tree.locate path).bind fun place =>
    match tree.node? place with
    | some .directory => .error .isDirectory
    | some (.socket _) => .error .noDevice
    | node =>
        if Path.endsInSlash path.toList then
          .error (if node.isSome then .notDirectory else .isDirectory)
        else
          .ok (tree.put place (.regular content))

/-- Makes a directory in one that is there. -/
def makeDirectory (tree : FileTree) (path : String) : Except FileError FileTree :=
  (tree.locate path).bind fun place =>
    match tree.node? place with
    | some _ => .error .exists
    | none => .ok (tree.put place .directory)

/-- Makes a directory, and first those around it that are missing. `depth` bounds how many there can be.
Gives the tree also where it fails: directories that were made by then stay. -/
def makeDirectoriesFor (tree : FileTree) : Nat → List Char → Except FileError Unit × FileTree
  | 0, _ => (.error .notFound, tree)
  | depth + 1, path =>
      if path.isEmpty then
        (.ok (), tree)
      else
        let text := String.ofList path
        match tree.makeDirectory text with
        | .ok tree => (.ok (), tree)
        | .error .notFound =>
            match Path.parent? path with
            | none => (.error .notFound, tree)
            | some parent =>
                match makeDirectoriesFor tree depth parent with
                | (.error cause, tree) => (.error cause, tree)
                | (.ok (), tree) =>
                    match tree.makeDirectory text with
                    | .ok tree => (.ok (), tree)
                    | .error cause => (if tree.isDirectory text then .ok () else .error cause, tree)
        | .error cause => (if tree.isDirectory text then .ok () else .error cause, tree)

/-- Makes a directory and those around it. Every path has fewer parts than characters. -/
def makeDirectories (tree : FileTree) (path : String) : Except FileError Unit × FileTree :=
  tree.makeDirectoriesFor (path.length + 1) path.toList

/-- Puts a directory, or a file with a content, at a path. The directories around it are made where they are
missing. -/
def install (path : String) (content : Option Bytes) (tree : FileTree) : Except FileError FileTree :=
  let prepared : Except FileError Unit × FileTree :=
    match Path.directory? path with
    | none => (.ok (), tree)
    | some directory => tree.makeDirectories directory
  match prepared, content with
  | (.error cause, _), _ => .error cause
  | (.ok (), tree), none => tree.makeDirectory path
  | (.ok (), tree), some content => tree.write path content

def removeFile (tree : FileTree) (path : String) : Except FileError FileTree :=
  (tree.locate path).bind fun place =>
    match tree.node? place with
    | none => .error .notFound
    | some .directory => .error .isDirectory
    | some _ => .ok (tree.erase place)

/-! ## Sockets -/

/-- A socket's path, with one byte to end it, takes at most this many bytes. -/
def socketPathLimit : Nat := 108

/-- No socket can have the path. -/
def isUnfitForSocket (path : String) : Bool :=
  '\x00' ∈ path.toList || socketPathLimit ≤ path.utf8ByteSize

/-- Binds a socket for a listener where nothing stands. -/
def bindSocket (tree : FileTree) (listener : Nat) (path : String) : Except FileError FileTree :=
  if '\x00' ∈ path.toList then .error .nulInPath
  else if socketPathLimit ≤ path.utf8ByteSize then .error .socketPathTooLong
  else
    (tree.locate path).bind fun place =>
      match tree.node? place with
      | some _ => .error .addressInUse
      | none =>
          if Path.endsInSlash path.toList then .error .notFound
          else .ok (tree.put place (.socket (some listener)))

/-- The listener that a client of the path reaches. -/
def listenerAt? (tree : FileTree) (path : String) : Option Nat :=
  if isUnfitForSocket path then
    none
  else
    match tree.look path with
    | .ok (some (.socket listener)) => listener
    | .ok _ => none
    | .error _ => none

/-- A listener goes away. Its sockets stay behind with nobody to listen on them. -/
def orphan (listener : Nat) (tree : FileTree) : FileTree where
  nodes := tree.nodes.map fun entry =>
    if entry.2 = .socket (some listener) then (entry.1, .socket none) else entry

/-- Removes a socket that no client of the path can reach. Anything else that stands at the path stays and
is a failure. -/
def removeStaleSocket (tree : FileTree) (path : String) : Except FileError FileTree :=
  match tree.look path with
  | .error .notFound => .ok tree
  | .error cause => .error cause
  | .ok none => .ok tree
  | .ok (some (.socket _)) =>
      if (tree.listenerAt? path).isSome then .error .socketServed else tree.removeFile path
  | .ok (some _) => .error .notSocket

end FileTree

end ConnectionPool
