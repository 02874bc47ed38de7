import ConnectionPool.Decimal.Shortest
import ConnectionPool.Settings.Entry
import ConnectionPool.Text.Quoted
import ConnectionPool.Toml.Item

/-!
Contract: settings out of the entries of a document.

A record may be given as a table, or as an array of its fields in their order. Keys that no field has are
passed over. The first fault in the order of the document is reported; that a field is missing shows at the
end of its table.

Owns:
- the type `SchemaError` with its messages;
- `Settings.ofEntries`.

Does not own: the syntax of the document.
-/

namespace ConnectionPool

open Text Toml

/-- What stands where something else was expected. -/
inductive Found where
  | integer (value : Int)
  | float (value : Binary64)
  | boolean (value : Bool)
  | string (text : String)
  | sequence
  | map
deriving DecidableEq, Repr

/-- Why a document holds no settings. -/
inductive SchemaError where
  | missingField (name : String)
  | invalidType (found : Found) (expected : String)
  | invalidInteger (value : Int) (expected : String)
  | tooShort (length : Nat) (expected : String)
  | unknownVariant (name : String)
  | neitherStringNorTable
  | noVariant
  | severalVariants
  | payloadNotEmptyTable
  | payloadNotEmptyArray
  | payloadNotTable (found : String)
deriving DecidableEq, Repr

namespace Found

def text : Found → String
  | .integer value => "integer `" ++ toString value ++ "`"
  | .float value => "floating point `" ++ value.text ++ "`"
  | .boolean value => "boolean `" ++ toString value ++ "`"
  | .string text => "string " ++ quoted text
  | .sequence => "sequence"
  | .map => "map"

/-- The kind of an item. Dates and times count as maps. -/
def ofItem : Item → Found
  | .scalar (.string text) => .string text
  | .scalar (.number (.integer value)) => .integer value
  | .scalar (.number (.float value)) => .float value
  | .scalar (.boolean value) => .boolean value
  | .scalar .moment => .map
  | .array _ => .sequence
  | .tables _ => .sequence
  | .table _ _ => .map

end Found

def SchemaError.message : SchemaError → String
  | .missingField name => "missing field `" ++ name ++ "`"
  | .invalidType found expected => "invalid type: " ++ found.text ++ ", expected " ++ expected
  | .invalidInteger value expected =>
      "invalid value: integer `" ++ toString value ++ "`, expected " ++ expected
  | .tooShort length expected =>
      "invalid length " ++ toString length ++ ", expected " ++ expected
  | .unknownVariant name =>
      "unknown variant `" ++ name ++ "`, expected `wait_clients` or `interrupt_clients`"
  | .neitherStringNorTable => "wanted string or table"
  | .noVariant => "wanted exactly 1 element, found 0 elements"
  | .severalVariants => "wanted exactly 1 element, more than 1 element"
  | .payloadNotEmptyTable => "expected empty table"
  | .payloadNotEmptyArray => "expected empty array"
  | .payloadNotTable found => "expected table, found " ++ found

/-! ## Fields -/

abbrev Decoder (α : Type) := Item → Except SchemaError α

def decodeString (expected : String) : Decoder String
  | .scalar (.string text) => .ok text
  | item => .error (.invalidType (.ofItem item) expected)

def decodeBoolean : Decoder Bool
  | .scalar (.boolean value) => .ok value
  | item => .error (.invalidType (.ofItem item) "a boolean")

def decodeNatural (bound : Nat) (expected : String) : Decoder Nat
  | .scalar (.number (.integer value)) =>
      if 0 ≤ value ∧ value < bound then .ok value.toNat
      else .error (.invalidInteger value expected)
  | item => .error (.invalidType (.ofItem item) expected)

def decodeWord32 : Decoder UInt32 :=
  fun item => (decodeNatural UInt32.size "u32" item).map UInt32.ofNat

/-- A whole number of sixty-four bits, which messages call by its purpose. -/
def decodeWord64 (expected : String) : Decoder UInt64 :=
  fun item => (decodeNatural UInt64.size expected item).map UInt64.ofNat

def StopMode.word : StopMode → String
  | .waitClients => "wait_clients"
  | .interruptClients => "interrupt_clients"

def StopMode.ofWord (word : String) : Except SchemaError StopMode :=
  if word = "wait_clients" then .ok .waitClients
  else if word = "interrupt_clients" then .ok .interruptClients
  else .error (.unknownVariant word)

/-- What may stand behind a word that is used as a key: nothing. -/
def checkPayload : Item → Except SchemaError Unit
  | .table _ [] => .ok ()
  | .table _ _ => .error .payloadNotEmptyTable
  | .array [] => .ok ()
  | .array _ => .error .payloadNotEmptyTable
  | .tables [] => .ok ()
  | .tables _ => .error .payloadNotEmptyArray
  | .scalar (.string _) => .error (.payloadNotTable "string")
  | .scalar (.number (.integer _)) => .error (.payloadNotTable "integer")
  | .scalar (.number (.float _)) => .error (.payloadNotTable "float")
  | .scalar (.boolean _) => .error (.payloadNotTable "boolean")
  | .scalar .moment => .error (.payloadNotTable "datetime")

/-- A word, or a table with the word as its only key. -/
def decodeStopMode : Decoder StopMode
  | .scalar (.string word) => StopMode.ofWord word
  | .table _ [] => .error .noVariant
  | .table _ [(word, payload)] =>
      (StopMode.ofWord word).bind fun mode => (checkPayload payload).map fun _ => mode
  | .table _ _ => .error .severalVariants
  | _ => .error .neitherStringNorTable

/-! ## Records -/

/-- The fields of a record in their order; the first `required` of them must be given. -/
structure RecordSchema (α : Type) where
  name : String
  required : Nat
  fields : List (String × (Item → α → Except SchemaError α))

namespace RecordSchema

variable {α : Type}

def field {β : Type} (decode : Decoder β) (store : β → α → α) :
    Item → α → Except SchemaError α :=
  fun item record => (decode item).map fun value => store value record

/-- Stores the entries of a table one after another. -/
def storeEntries (schema : RecordSchema α) : Entries → α → Except SchemaError α
  | [], record => .ok record
  | (key, item) :: entries, record =>
      match schema.fields.lookup key with
      | none => schema.storeEntries entries record
      | some store => (store item record).bind (schema.storeEntries entries)

/-- Stores items in the order of the fields. Items behind the last field are passed over. -/
def storeItems : List (String × (Item → α → Except SchemaError α)) → List Item → α →
    Except SchemaError α
  | (_, store) :: fields, item :: items, record => (store item record).bind (storeItems fields items)
  | _, _, record => .ok record

/-- The first required field that is no key of the table. -/
def missing? (schema : RecordSchema α) (entries : Entries) : Option String :=
  ((schema.fields.take schema.required).map Prod.fst).find? fun key => (entries.lookup key).isNone

/-- A record out of the entries of a table, with `initial` for all that is not given. -/
def ofEntries (schema : RecordSchema α) (initial : α) (entries : Entries) : Except SchemaError α :=
  (schema.storeEntries entries initial).bind fun record =>
    match schema.missing? entries with
    | none => .ok record
    | some name => .error (.missingField name)

def ofItems (schema : RecordSchema α) (initial : α) (items : List Item) : Except SchemaError α :=
  (storeItems schema.fields items initial).bind fun record =>
    if items.length < schema.required then
      .error (.tooShort items.length
        (schema.name ++ " with " ++ toString schema.fields.length ++ " elements"))
    else
      .ok record

def decode (schema : RecordSchema α) (initial : α) : Decoder α
  | .table _ entries => schema.ofEntries initial entries
  | .array items => schema.ofItems initial items
  | .tables elements => schema.ofItems initial (elements.map (.table .header))
  | .scalar .moment => schema.ofEntries initial []
  | item => .error (.invalidType (.ofItem item) schema.name)

end RecordSchema

open RecordSchema in
def tlsSchema : RecordSchema TlsFiles where
  name := "struct TlsEntry"
  required := 2
  fields := [
    ("cert_path", field (decodeString "path string") fun value files =>
      { files with certPath := value }),
    ("key_path", field (decodeString "path string") fun value files =>
      { files with keyPath := value }),
    ("handshake_timeout_ms", field (decodeWord64 "u64") fun value files =>
      { files with handshakeMilliseconds := value })]

open RecordSchema in
def serverSchema : RecordSchema ServerEntry where
  name := "struct ServerEntry"
  required := 2
  fields := [
    ("name", field (decodeString "a string") fun value entry => { entry with name := value }),
    ("address", field (decodeString "a string") fun value entry => { entry with address := value }),
    ("min_workers", field decodeWord32 fun value entry =>
      { entry with minWorkers := value }),
    ("max_workers", field decodeWord32 fun value entry =>
      { entry with maxWorkers := value }),
    ("worker_idle_timeout_ms", field (decodeWord64 "u64") fun value entry =>
      { entry with idleMilliseconds := value }),
    ("max_pending_connections", field (decodeWord64 "usize") fun value entry =>
      { entry with maxPending := value }),
    ("busy_message", field (decodeString "a string") fun value entry =>
      { entry with busyMessage := some value }),
    ("default", field decodeBoolean fun value entry => { entry with isDefault := value }),
    ("shutdown_mode", field decodeStopMode fun value entry => { entry with shutdownMode := value }),
    ("tls", field (tlsSchema.decode { certPath := "", keyPath := "" }) fun value entry =>
      { entry with tls := some value })]

open RecordSchema in
/-- The fields of the logging table, of which only the level is kept. -/
def loggingSchema : RecordSchema String where
  name := "struct LoggingConfig"
  required := 0
  fields := [("level", field (decodeString "a string") fun value _ => value)]

def decodeServer : Decoder ServerEntry :=
  serverSchema.decode { name := "", address := "" }

def decodeServers : Decoder (List ServerEntry)
  | .array items => items.mapM decodeServer
  | .tables elements => elements.mapM fun entries => decodeServer (.table .header entries)
  | item => .error (.invalidType (.ofItem item) "a sequence")

open RecordSchema in
def settingsSchema : RecordSchema Settings where
  name := "struct AppConfig"
  required := 0
  fields := [
    ("logging", field (loggingSchema.decode ({} : Settings).logLevel) fun value settings =>
      { settings with logLevel := value }),
    ("servers", field decodeServers fun value settings => { settings with servers := value })]

/-- The settings that the entries of a document give. -/
def Settings.ofEntries (entries : Entries) : Except SchemaError Settings :=
  settingsSchema.ofEntries {} entries

end ConnectionPool
