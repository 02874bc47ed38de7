/-!
Contract: the flags of the command line.

Owns:
- the type `Flag` with the word, the placeholder and the environment variable of each flag;
- the type `UsageError`, what can be wrong with a command line.

Does not own: the order in which faults are found; see `CommandLine.Reading`.
-/

namespace ConnectionPool.CommandLine

/-- A flag. -/
inductive Flag where
  | config
  | address
  | name
  | minWorkers
  | maxWorkers
  | idleTimeout
  | maxPending
  | busyMessage
  | tlsCert
  | tlsKey
  | interruptClients
deriving DecidableEq, Repr

namespace Flag

/-- All flags in the order in which the environment is asked. -/
def all : List Flag :=
  [.config, .address, .name, .minWorkers, .maxWorkers, .idleTimeout, .maxPending, .busyMessage,
    .tlsCert, .tlsKey, .interruptClients]

def word : Flag → String
  | .config => "config"
  | .address => "address"
  | .name => "name"
  | .minWorkers => "min-workers"
  | .maxWorkers => "max-workers"
  | .idleTimeout => "idle-timeout-ms"
  | .maxPending => "max-pending"
  | .busyMessage => "busy-message"
  | .tlsCert => "tls-cert"
  | .tlsKey => "tls-key"
  | .interruptClients => "interrupt-clients"

def ofWord? (word : String) : Option Flag :=
  all.find? fun flag => flag.word == word

def takesValue (flag : Flag) : Bool :=
  flag ≠ .interruptClients

/-- What stands for the value: the word in capitals. -/
def placeholder (flag : Flag) : String :=
  flag.word.map fun char => if char = '-' then '_' else char.toUpper

/-- The environment variable that gives the value when the command line does not. -/
def environmentName (flag : Flag) : String :=
  "NETPOOL_" ++ flag.placeholder

def text (flag : Flag) : String :=
  if flag.takesValue then "--" ++ flag.word ++ " <" ++ flag.placeholder ++ ">"
  else "--" ++ flag.word

def purpose : Flag → String
  | .config => "TOML configuration file. Missing files are treated as empty"
  | .address => "Address of the server built from flags"
  | .name => "Registry name of the server built from flags"
  | .minWorkers => "Workers kept alive while idle"
  | .maxWorkers => "Concurrent sessions"
  | .idleTimeout => "Idle time before a surplus worker retires"
  | .maxPending => "Connections queued while all workers are busy"
  | .busyMessage => "Sent to connections refused for lack of capacity"
  | .tlsCert => "PEM certificate chain for ssl://"
  | .tlsKey => "PEM private key for ssl://"
  | .interruptClients => "Cancel running sessions on shutdown instead of waiting for them"

end Flag

/-- What can be wrong with a command line. -/
inductive UsageError where
  | unexpectedArgument (argument : String)
  /-- A value was given to something that takes none. -/
  | unexpectedValue (value option : String)
  | missingValue (flag : Flag)
  | repeated (flag : Flag)
  | invalidValue (value : String) (flag : Flag) (why : Option String)
  /-- A flag was given without another one that it needs. -/
  | missingCompanion (flag : Flag)
deriving DecidableEq, Repr

def UsageError.message : UsageError → String
  | .unexpectedArgument argument => "unexpected argument '" ++ argument ++ "' found"
  | .unexpectedValue value option =>
      "unexpected value '" ++ value ++ "' for '" ++ option ++ "' found; no more were expected"
  | .missingValue flag =>
      "a value is required for '" ++ flag.text ++ "' but none was supplied"
  | .repeated flag => "the argument '" ++ flag.text ++ "' cannot be used multiple times"
  | .invalidValue value flag none => "invalid value '" ++ value ++ "' for '" ++ flag.text ++ "'"
  | .invalidValue value flag (some why) =>
      "invalid value '" ++ value ++ "' for '" ++ flag.text ++ "': " ++ why
  | .missingCompanion flag =>
      "the following required arguments were not provided:\n  " ++ flag.text

end ConnectionPool.CommandLine
