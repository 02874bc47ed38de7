import ConnectionPool.Address.ServerAddress
import ConnectionPool.Options
import ConnectionPool.Tls.Settings
import ConnectionPool.Text.Blank

/-!
Contract: the settings of a process.

Owns:
- the types `Settings`, `ServerEntry` and `TlsFiles` with their default values;
- what an entry means: its address and its options;
- `Settings.validate`, which blames the first entry that cannot be used beside those in front of it, and
  `Settings.Valid`, what it means for the settings to be usable.

Does not own: the file in which settings are kept.
-/

namespace ConnectionPool

open Text

/-- The certificate files of an encrypted server. -/
structure TlsFiles where
  certPath : String
  keyPath : String
  handshakeMilliseconds : UInt64 := UInt64.ofNat defaultHandshakeMilliseconds
deriving DecidableEq, Repr

/-- The settings of one server. -/
structure ServerEntry where
  name : String
  address : String
  minWorkers : UInt32 := 0
  maxWorkers : UInt32 := 10
  idleMilliseconds : UInt64 := 15000
  maxPending : UInt64 := 0
  /-- What refused connections are told. -/
  busyMessage : Option String := none
  /-- The server of this entry becomes the default. -/
  isDefault : Bool := false
  /-- How the sessions of this server are treated at the end of the process. -/
  shutdownMode : StopMode := .waitClients
  /-- Needed for an encrypted address and unused otherwise. -/
  tls : Option TlsFiles := none
deriving DecidableEq, Repr

/-- All settings. -/
structure Settings where
  /-- Which messages are logged. -/
  logLevel : String := "info"
  servers : List ServerEntry := []
deriving DecidableEq, Repr

/-- An entry that cannot be used, and why. -/
structure EntryError where
  name : String
  reason : String
deriving DecidableEq, Repr

def EntryError.message (error : EntryError) : String :=
  "server '" ++ error.name ++ "': " ++ error.reason

namespace ServerEntry

/-- Blames the entry. -/
def invalid (entry : ServerEntry) (reason : String) : EntryError where
  name := entry.name
  reason

/-- Where the server listens. -/
def serverAddress (entry : ServerEntry) : Except EntryError ServerAddress :=
  (ServerAddress.parse entry.address).mapError fun cause => entry.invalid cause.message

/-- The limits of the server as the entry gives them. -/
def limits (entry : ServerEntry) : Options where
  minWorkers := entry.minWorkers.toNat
  maxWorkers := entry.maxWorkers.toNat
  idleNanoseconds := entry.idleMilliseconds.toNat * Options.nanosecondsPerMillisecond
  maxPending := entry.maxPending.toNat
  busyMessage := entry.busyMessage.map Bytes.ofText

/-- The limits of the server, if they are in range. -/
def options (entry : ServerEntry) : Except EntryError Options :=
  match entry.limits.validate with
  | .ok () => .ok entry.limits
  | .error cause => .error (entry.invalid cause.message)

/-- The checks of an entry that do not depend on the entries in front of it, in their order. -/
def check (entry : ServerEntry) : Except EntryError Unit :=
  match entry.serverAddress with
  | .error cause => .error cause
  | .ok address =>
      match entry.options with
      | .error cause => .error cause
      | .ok _ =>
          if address.isEncrypted ∧ entry.tls = none then
            .error (entry.invalid "ssl:// address requires a [servers.tls] table")
          else
            .ok ()

/-- The entry can be used by itself. -/
structure Usable (entry : ServerEntry) : Prop where
  name_not_blank : isBlankText entry.name = false
  address_parses : ∃ address, ServerAddress.parse entry.address = .ok address ∧
    (address.isEncrypted = true → entry.tls ≠ none)
  limits_valid : entry.limits.Valid

end ServerEntry

namespace Settings

/-- Checks entries behind others with these names, one of which may be the default. -/
def validateFrom (names : List String) (hasDefault : Bool) :
    List ServerEntry → Except EntryError Unit
  | [] => .ok ()
  | entry :: entries =>
      if isBlankText entry.name then
        .error (entry.invalid "name must not be empty")
      else if entry.name ∈ names then
        .error (entry.invalid "duplicate server name")
      else if entry.isDefault ∧ hasDefault then
        .error (entry.invalid "more than one server is marked default")
      else
        match entry.check with
        | .error cause => .error cause
        | .ok () => validateFrom (entry.name :: names) (hasDefault || entry.isDefault) entries

def validate (settings : Settings) : Except EntryError Unit :=
  validateFrom [] false settings.servers

/-- The settings can be used: every entry can, no two have the same name, and at most one is the default. -/
structure Valid (settings : Settings) : Prop where
  usable : ∀ entry ∈ settings.servers, entry.Usable
  names_distinct : (settings.servers.map ServerEntry.name).Nodup
  one_default : settings.servers.Pairwise fun entry later =>
    ¬ (entry.isDefault = true ∧ later.isDefault = true)

/-- The entry marked as the default, or else the first one. -/
def defaultEntry? (settings : Settings) : Option ServerEntry :=
  (settings.servers.find? ServerEntry.isDefault).or settings.servers.head?

end Settings

end ConnectionPool
