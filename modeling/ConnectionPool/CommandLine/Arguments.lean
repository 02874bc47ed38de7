import ConnectionPool.CommandLine.Flag
import ConnectionPool.Settings.Entry
import ConnectionPool.Text.Whole

/-!
Contract: what the flags of a command line say.

Owns:
- the type `Arguments` with its default values;
- `Arguments.set`, which reads the value of a flag;
- `Arguments.serverEntry`, the entry that the flags describe.

Does not own: where the values come from.
-/

namespace ConnectionPool.CommandLine

open Text

/-- The values of all flags. -/
structure Arguments where
  config : Option String := none
  address : String := "tcp://127.0.0.1:7878"
  name : String := "echo"
  minWorkers : UInt32 := 0
  maxWorkers : UInt32 := 10
  idleMilliseconds : UInt64 := 15000
  maxPending : UInt64 := 0
  busyMessage : Option String := none
  tlsCert : Option String := none
  tlsKey : Option String := none
  interruptClients : Bool := false
deriving DecidableEq, Repr

/-- The path that the value of a flag is. It must not be empty. -/
def readPath (flag : Flag) (text : String) : Except UsageError String :=
  if text.isEmpty then .error (.missingValue flag) else .ok text

/-- The largest number of 32 bits. -/
def word32Limit : Nat := 4294967295

/-- The number of 32 bits that the value of a flag is. It is read as a larger number first. -/
def readWord32 (flag : Flag) (text : String) : Except UsageError UInt32 :=
  match Whole.readInteger64 text with
  | .error fault => .error (.invalidValue text flag (some fault.message))
  | .ok number =>
      if 0 ≤ number ∧ number ≤ word32Limit then
        .ok (UInt32.ofNat number.toNat)
      else
        .error (.invalidValue text flag
          (some (toString number ++ " is not in 0..=" ++ Numeral.decimal word32Limit)))

/-- The number of 64 bits that the value of a flag is. -/
def readWord64 (flag : Flag) (text : String) : Except UsageError UInt64 :=
  (Whole.readWord64 text).mapError fun fault =>
    .invalidValue text flag (some fault.message)

def readChoice (flag : Flag) (text : String) : Except UsageError Bool :=
  if text = "true" then .ok true
  else if text = "false" then .ok false
  else if text.isEmpty then .error (.missingValue flag)
  else .error (.invalidValue text flag none)

namespace Arguments

def set (flag : Flag) (text : String) (arguments : Arguments) : Except UsageError Arguments :=
  match flag with
  | .config => (readPath flag text).map fun path => { arguments with config := some path }
  | .address => .ok { arguments with address := text }
  | .name => .ok { arguments with name := text }
  | .minWorkers => (readWord32 flag text).map fun minWorkers => { arguments with minWorkers }
  | .maxWorkers => (readWord32 flag text).map fun maxWorkers => { arguments with maxWorkers }
  | .idleTimeout =>
      (readWord64 flag text).map fun idleMilliseconds => { arguments with idleMilliseconds }
  | .maxPending => (readWord64 flag text).map fun maxPending => { arguments with maxPending }
  | .busyMessage => .ok { arguments with busyMessage := some text }
  | .tlsCert => (readPath flag text).map fun path => { arguments with tlsCert := some path }
  | .tlsKey => (readPath flag text).map fun path => { arguments with tlsKey := some path }
  | .interruptClients =>
      (readChoice flag text).map fun interruptClients => { arguments with interruptClients }

def tlsFiles (arguments : Arguments) : Option TlsFiles :=
  match arguments.tlsCert, arguments.tlsKey with
  | some certPath, some keyPath => some { certPath, keyPath }
  | some _, none => none
  | none, _ => none

/-- The entry that the flags describe. Its server is the default. -/
def serverEntry (arguments : Arguments) : ServerEntry where
  name := arguments.name
  address := arguments.address
  minWorkers := arguments.minWorkers
  maxWorkers := arguments.maxWorkers
  idleMilliseconds := arguments.idleMilliseconds
  maxPending := arguments.maxPending
  busyMessage := arguments.busyMessage
  isDefault := true
  shutdownMode := if arguments.interruptClients then .interruptClients else .waitClients
  tls := arguments.tlsFiles

end Arguments

end ConnectionPool.CommandLine
