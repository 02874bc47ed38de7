import ConnectionPool.CommandLine.Arguments
import ConnectionPool.Text.Fields

/-!
Contract: reading a command line and the environment.

A value that stands as an argument of its own is read when the next flag or the end is reached, so that an
argument that nobody expects is reported before a fault of the value in front of it.

Owns:
- the type `Word`, what an argument looks like;
- `CommandLine.read`, which gives the values of all flags or the reason to stop.

Does not own: what the values mean.
-/

namespace ConnectionPool.CommandLine

open Text

/-- Why a command line gives no values. -/
inductive Halt where
  | help
  | version
  | misuse (error : UsageError)
deriving DecidableEq, Repr

/-- What an argument looks like. -/
inductive Word where
  /-- Two dashes alone: everything behind them is taken literally. -/
  | separator
  | long (name : String) (value : Option String)
  /-- A dash with letters, of which the first one counts. -/
  | short (letter : Char)
  | plain
deriving DecidableEq, Repr

/-- Tells arguments apart by their dashes. -/
def Word.ofText (text : String) : Word :=
  match text.toList with
  | ['-', '-'] => .separator
  | '-' :: '-' :: body =>
      match cut? ['='] body with
      | none => .long (String.ofList body) none
      | some (name, value) => .long (String.ofList name) (some (String.ofList value))
  | '-' :: letter :: _ => .short letter
  | _ => .plain

/-- How far a command line was read. -/
structure Reading where
  arguments : Arguments := {}
  given : List Flag := []
  /-- A flag whose value was not read yet, with that value if it has come. -/
  pending : Option (Flag × Option String) := none
deriving DecidableEq, Repr

namespace Reading

/-- Gives a flag its value. A flag can be given once. -/
def accept (flag : Flag) (text : String) (reading : Reading) : Except UsageError Reading :=
  if flag ∈ reading.given then
    .error (.repeated flag)
  else
    (reading.arguments.set flag text).map fun arguments =>
      { reading with arguments, given := flag :: reading.given }

def resolve (reading : Reading) : Except UsageError Reading :=
  match reading.pending with
  | none => .ok reading
  | some (flag, none) => .error (.missingValue flag)
  | some (flag, some text) => { reading with pending := none }.accept flag text

/-- Reads a flag together with what follows an equals sign. -/
def readFlag (flag : Flag) (value : Option String) (reading : Reading) : Except UsageError Reading :=
  match flag.takesValue, value with
  | false, some value => .error (.unexpectedValue value flag.text)
  | false, none => reading.resolve.bind fun resolved => resolved.accept flag "true"
  | true, some value => reading.resolve.bind fun resolved => resolved.accept flag value
  | true, none => reading.resolve.map fun resolved => { resolved with pending := some (flag, none) }

/-- Stops for a reason, unless the value that is pending has a fault. -/
def stop (reason : Halt) (reading : Reading) : Except Halt Reading :=
  match reading.resolve with
  | .ok _ => .error reason
  | .error error => .error (.misuse error)

/-- Stops because of a long word that is no flag of the server. -/
def stopAt (option : String) (reason : Halt) (value : Option String) (reading : Reading) :
    Except Halt Reading :=
  match value with
  | some value => .error (.misuse (.unexpectedValue value option))
  | none => reading.stop reason

def step (reading : Reading) (text : String) : Except Halt Reading :=
  match Word.ofText text with
  | .long name value =>
      match Flag.ofWord? name with
      | some flag => (reading.readFlag flag value).mapError .misuse
      | none =>
          if name = "help" then reading.stopAt "--help" .help value
          else if name = "version" then reading.stopAt "--version" .version value
          else .error (.misuse (.unexpectedArgument ("--" ++ name)))
  | .short letter =>
      if letter = 'h' then reading.stop .help
      else if letter = 'V' then reading.stop .version
      else .error (.misuse (.unexpectedArgument (String.ofList ['-', letter])))
  | .separator => .error (.misuse (.unexpectedArgument text))
  | .plain =>
      match reading.pending with
      | some (flag, none) => .ok { reading with pending := some (flag, some text) }
      | some (_, some _) => .error (.misuse (.unexpectedArgument text))
      | none => .error (.misuse (.unexpectedArgument text))

/-- Reads arguments. Nothing is expected behind a separator. -/
def readAll (reading : Reading) : List String → Except Halt Reading
  | [] => reading.resolve.mapError .misuse
  | text :: texts =>
      match Word.ofText text, texts with
      | .separator, [] => reading.resolve.mapError .misuse
      | .separator, next :: _ => .error (.misuse (.unexpectedArgument next))
      | _, _ => (reading.step text).bind fun next => next.readAll texts

/-- Takes the values of flags that were not given from the environment. -/
def readEnvironment (environment : List (String × String)) (reading : Reading) :
    List Flag → Except UsageError Reading
  | [] => .ok reading
  | flag :: flags =>
      if flag ∈ reading.given then
        reading.readEnvironment environment flags
      else
        match environment.lookup flag.environmentName with
        | none => reading.readEnvironment environment flags
        | some text =>
            (reading.accept flag text).bind fun next => next.readEnvironment environment flags

/-- A certificate needs a key and a key needs a certificate. -/
def checkCompanions (reading : Reading) : Except UsageError Arguments :=
  if .tlsCert ∈ reading.given ∧ .tlsKey ∉ reading.given then
    .error (.missingCompanion .tlsKey)
  else if .tlsKey ∈ reading.given ∧ .tlsCert ∉ reading.given then
    .error (.missingCompanion .tlsCert)
  else
    .ok reading.arguments

end Reading

/-- The values of all flags: from the command line, else from the environment, else the default ones. -/
def read (texts : List String) (environment : List (String × String)) : Except Halt Arguments :=
  (({} : Reading).readAll texts).bind fun reading =>
    ((reading.readEnvironment environment Flag.all).bind Reading.checkCompanions).mapError .misuse

/-! ## Texts for the user -/

def programName : String := "netpool-server"

def versionText : String := programName ++ " 0.1.0\n"

def usageText : String := "Usage: " ++ programName ++ " [OPTIONS]\n"

def helpLine (flag : Flag) : String :=
  "      " ++ flag.text ++ "\n          " ++ flag.purpose ++ " [env: " ++ flag.environmentName ++ "=]\n"

def helpText : String :=
  "Threaded connection-pool server with TCP, TLS and local-socket transports\n\n" ++ usageText ++
    "\nOptions:\n" ++ String.join (Flag.all.map helpLine) ++
    "  -h, --help\n          Print help\n  -V, --version\n          Print version\n"

def misuseText (error : UsageError) : String :=
  "error: " ++ error.message ++ "\n\n" ++ usageText ++ "\nFor more information, try '--help'.\n"

end ConnectionPool.CommandLine
