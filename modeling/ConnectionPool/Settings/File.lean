import ConnectionPool.Files.Tree
import ConnectionPool.Settings.Document

/-!
Contract: settings in a file.

Owns: `Settings.load`, `Settings.saveIn` and `Settings.save`, and the causes for which they fail.

Does not own: the text in the file; see `Settings.Document`.
-/

namespace ConnectionPool

/-- Why settings cannot be loaded, saved or used. -/
inductive SettingsError where
  /-- The file or a directory at the path cannot be read or written. -/
  | file (path : String) (cause : FileError)
  | document (cause : DocumentError)
  /-- A number is too large for the format. -/
  | tooLarge
  | entry (cause : EntryError)
deriving DecidableEq, Repr

namespace SettingsError

def documentText : DocumentError → String
  | .syntaxFault => "not a TOML document"
  | .schemaFault cause => cause.message

def message : SettingsError → String
  | .file path cause => "I/O error accessing config at " ++ path ++ ": " ++ cause.message
  | .document cause => "failed to parse config TOML: " ++ documentText cause
  | .tooLarge => "failed to serialize config: out-of-range value for u64 type"
  | .entry cause => cause.message

/-- The messages of the deeper causes, the nearest first. -/
def causes : SettingsError → List String
  | .file _ cause => [cause.message]
  | .document cause => [documentText cause]
  | .tooLarge => ["out-of-range value for u64 type"]
  | .entry _ => []

end SettingsError

namespace Settings

/-- The settings in a file. Without a file they are the default ones. -/
def load (tree : FileTree) (path : String) : Except SettingsError Settings :=
  match tree.readText path with
  | .ok text => (parse text).mapError .document
  | .error .notFound => .ok {}
  | .error cause => .error (.file path cause)

/-- Makes the directory around a file. Gives the tree also where that fails. -/
def prepare (tree : FileTree) (path : String) : Except SettingsError Unit × FileTree :=
  match Path.directory? path with
  | none => (.ok (), tree)
  | some directory =>
      let made := tree.makeDirectories directory
      (made.1.mapError fun cause => .file directory cause, made.2)

/-- Saves settings. First the directory is made, then the text, and only then the file is written. Gives the
tree also where that fails. -/
def saveIn (tree : FileTree) (path : String) (settings : Settings) :
    Except SettingsError Unit × FileTree :=
  match prepare tree path with
  | (.error cause, tree) => (.error cause, tree)
  | (.ok (), tree) =>
      match settings.render with
      | none => (.error .tooLarge, tree)
      | some text =>
          match tree.write path (Bytes.ofText text) with
          | .error cause => (.error (.file path cause), tree)
          | .ok tree => (.ok (), tree)

/-- The tree in which settings were saved. -/
def save (tree : FileTree) (path : String) (settings : Settings) : Except SettingsError FileTree :=
  match saveIn tree path settings with
  | (.error cause, _) => .error cause
  | (.ok (), tree) => .ok tree

end Settings

end ConnectionPool
