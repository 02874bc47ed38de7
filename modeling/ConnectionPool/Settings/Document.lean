import ConnectionPool.Settings.Schema
import ConnectionPool.Toml.Quotation
import ConnectionPool.Toml.Reader

/-!
Contract: settings as the text of a document.

Owns:
- `Settings.render`, which writes settings, and fails where a number is too large for the format;
- `Settings.parse`, which reads them.

Does not own: the file that holds the text.
-/

namespace ConnectionPool

open Text

/-- Why a text holds no settings. -/
inductive DocumentError where
  /-- The text is no document. -/
  | syntaxFault
  /-- The document holds no settings. -/
  | schemaFault (cause : SchemaError)
deriving DecidableEq, Repr

namespace Settings

/-! ## Writing -/

/-- The largest whole number that a document can hold. -/
def integerLimit : Nat := 9223372036854775807

/-- The numbers of an entry that the format might not hold. -/
def largeNumbers (entry : ServerEntry) : List UInt64 :=
  [entry.idleMilliseconds, entry.maxPending] ++
    match entry.tls with
    | none => []
    | some files => [files.handshakeMilliseconds]

def fits (settings : Settings) : Bool :=
  settings.servers.all fun entry =>
    (largeNumbers entry).all fun number => number.toNat ≤ integerLimit

def pairLine (key : String) (value : List Char) : List Char :=
  key.toList ++ ' ' :: '=' :: ' ' :: value ++ ['\n']

def textLine (key text : String) : List Char :=
  pairLine key (Toml.Quotation.render text.toList)

def numberLine (key : String) (number : Nat) : List Char :=
  pairLine key (Numeral.render 10 number)

def booleanLine (key : String) (value : Bool) : List Char :=
  pairLine key (if value then "true".toList else "false".toList)

/-- The lines of the TLS files, with the header in front. -/
def tlsLines (files : TlsFiles) : List Char :=
  "\n[servers.tls]\n".toList ++
    textLine "cert_path" files.certPath ++
    textLine "key_path" files.keyPath ++
    numberLine "handshake_timeout_ms" files.handshakeMilliseconds.toNat

/-- The lines of an entry, with the header in front. -/
def entryLines (entry : ServerEntry) : List Char :=
  "\n[[servers]]\n".toList ++
    textLine "name" entry.name ++
    textLine "address" entry.address ++
    numberLine "min_workers" entry.minWorkers.toNat ++
    numberLine "max_workers" entry.maxWorkers.toNat ++
    numberLine "worker_idle_timeout_ms" entry.idleMilliseconds.toNat ++
    numberLine "max_pending_connections" entry.maxPending.toNat ++
    (match entry.busyMessage with
      | none => []
      | some message => textLine "busy_message" message) ++
    booleanLine "default" entry.isDefault ++
    textLine "shutdown_mode" entry.shutdownMode.word ++
    (match entry.tls with
      | none => []
      | some files => tlsLines files)

/-- The lines in front of the first entry. Without entries the empty list is written out. -/
def headLines (settings : Settings) : List Char :=
  (if settings.servers.isEmpty then "servers = []\n\n".toList else []) ++
    "[logging]\n".toList ++ textLine "level" settings.logLevel

def document (settings : Settings) : List Char :=
  settings.headLines ++ settings.servers.flatMap entryLines

/-- The text of settings, if the format holds all their numbers. -/
def render (settings : Settings) : Option String :=
  if settings.fits then some (String.ofList settings.document) else none

/-! ## Reading -/

def parse (text : String) : Except DocumentError Settings :=
  match Toml.read? text with
  | none => .error .syntaxFault
  | some entries => (Settings.ofEntries entries).mapError .schemaFault

end Settings

end ConnectionPool
