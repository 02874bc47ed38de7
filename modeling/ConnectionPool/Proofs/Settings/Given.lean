import ConnectionPool.Settings.Schema
import Mathlib.Data.List.Nodup
import Mathlib.Data.List.Perm.Basic

/-!
Contract: a record has the values that its table gives, and the initial ones for all that the table leaves out.

Owns:
- `RecordSchema.StoresAs`, an entry of a table as a change of the record, and `RecordSchema.decode_changes`,
  the record that the changes of a table make in any order;
- `Setting`, a setting of a server with its value, what it replaces in an entry, and how a table shows it;
- `ServerTable`, a table that gives some settings of a server, with the entry it stands for, and
  `decodeServer_shown`: that entry is what the table is read as;
- `ofEntries_shown`, the same for whole documents.

Does not own: the text of the tables, and the flags that give settings on a command line.
-/

namespace ConnectionPool

open Text Toml

/-! ## Tables as changes of a record -/

namespace RecordSchema

variable {α β : Type} {schema : RecordSchema α} {entries shown : Entries} {changes : List (α → α)}

/-- The schema stores the entry of a table as the change. What stands under the key of no field changes
nothing. -/
def StoresAs (schema : RecordSchema α) (entry : String × Item) (change : α → α) : Prop :=
  match schema.fields.lookup entry.1 with
  | none => change = id
  | some store => ∀ record, store entry.2 record = .ok (change record)

theorem field_of_decode {decode : Decoder β} {keep : β → α → α} {item : Item} (value : β)
    (decoded : decode item = .ok value) (record : α) :
    field decode keep item record = .ok (keep value record) := by
  simp [field, decoded, Except.map]

/-- One change after another. -/
def changeAll (changes : List (α → α)) (record : α) : α :=
  changes.foldl (fun record change => change record) record

theorem changeAll_append (first second : List (α → α)) (record : α) :
    changeAll (first ++ second) record = changeAll second (changeAll first record) :=
  List.foldl_append

theorem storeEntries_changes (stored : List.Forall₂ schema.StoresAs entries changes) (record : α) :
    schema.storeEntries entries record = .ok (changeAll changes record) := by
  induction stored generalizing record with
  | nil => rfl
  | @cons entry change entries changes first _ inductionHypothesis =>
      unfold StoresAs at first
      cases isField : schema.fields.lookup entry.1 with
      | none =>
          rw [isField] at first
          simp only [storeEntries, isField, first, inductionHypothesis, changeAll, List.foldl_cons, id_eq]
      | some store =>
          rw [isField] at first
          simp only [storeEntries, isField, first, inductionHypothesis, changeAll, List.foldl_cons,
            Except.bind]

theorem missing?_eq_none (complete : ∀ key ∈ (schema.fields.take schema.required).map Prod.fst,
    key ∈ entries.map Prod.fst) : schema.missing? entries = none := by
  unfold missing?
  rw [List.find?_eq_none]
  intro key isRequired
  obtain ⟨entry, isEntry, rfl⟩ := List.mem_map.1 (complete key isRequired)
  have found : entries.lookup entry.1 ≠ none := by
    rw [Ne, List.lookup_eq_none_iff]
    intro absent
    have differs := absent entry isEntry
    simp at differs
  simpa [Option.isNone_iff_eq_none] using found

/-- A table that holds all required fields is read as the changes of its entries, whatever their order, where
no change gets into the way of another. -/
theorem decode_changes (order : entries.Perm shown) (stored : List.Forall₂ schema.StoresAs shown changes)
    (commute : ∀ first ∈ changes, ∀ second ∈ changes, ∀ record,
      second (first record) = first (second record))
    (complete : ∀ key ∈ (schema.fields.take schema.required).map Prod.fst, key ∈ shown.map Prod.fst)
    (origin : TableOrigin) (initial : α) :
    schema.decode initial (.table origin entries) = .ok (changeAll changes initial) := by
  obtain ⟨ordered, storedInOrder, sameChanges⟩ := List.perm_comp_forall₂ order stored
  have isStored := storeEntries_changes storedInOrder initial
  have sameRecord : changeAll ordered initial = changeAll changes initial := by
    refine sameChanges.foldl_eq' (fun first isFirst second isSecond record => ?_) initial
    exact commute first (sameChanges.mem_iff.1 isFirst) second (sameChanges.mem_iff.1 isSecond) record
  have isComplete : schema.missing? entries = none :=
    missing?_eq_none fun key isRequired => (order.map Prod.fst).mem_iff.2 (complete key isRequired)
  simp only [decode, ofEntries, isStored, sameRecord, isComplete, Except.bind]

end RecordSchema

/-! ## Values -/

def textItem (text : String) : Item := .scalar (.string text)

def numberItem (number : Nat) : Item := .scalar (.number (.integer number))

def booleanItem (value : Bool) : Item := .scalar (.boolean value)

theorem decodeNatural_numberItem {bound number : Nat} (small : number < bound) (expected : String) :
    decodeNatural bound expected (numberItem number) = .ok number := by
  simp [decodeNatural, numberItem, small]

theorem decodeWord32_numberItem (number : UInt32) :
    decodeWord32 (numberItem number.toNat) = .ok number := by
  have isRead : decodeNatural UInt32.size "u32" (numberItem number.toNat) = .ok number.toNat :=
    decodeNatural_numberItem number.toNat_lt_size "u32"
  change (decodeNatural UInt32.size "u32" (numberItem number.toNat)).map UInt32.ofNat = .ok number
  rw [isRead]
  exact congrArg Except.ok UInt32.ofNat_toNat

theorem decodeWord64_numberItem (expected : String) (number : UInt64) :
    decodeWord64 expected (numberItem number.toNat) = .ok number := by
  have isRead : decodeNatural UInt64.size expected (numberItem number.toNat) = .ok number.toNat :=
    decodeNatural_numberItem number.toNat_lt_size expected
  change (decodeNatural UInt64.size expected (numberItem number.toNat)).map UInt64.ofNat = .ok number
  rw [isRead]
  exact congrArg Except.ok UInt64.ofNat_toNat

theorem decodeStopMode_textItem (mode : StopMode) : decodeStopMode (textItem mode.word) = .ok mode := by
  cases mode <;> rfl

/-! ## Settings of a server -/

/-- A setting of a server with its value. The bound of the handshakes may be left out of the TLS files. -/
inductive Setting where
  | name (text : String)
  | address (text : String)
  | minWorkers (value : UInt32)
  | maxWorkers (value : UInt32)
  | idleMilliseconds (value : UInt64)
  | maxPending (value : UInt64)
  | busyMessage (text : String)
  | isDefault (value : Bool)
  | shutdownMode (mode : StopMode)
  | tls (certPath keyPath : String) (handshakeMilliseconds : Option UInt64)
deriving DecidableEq, Repr

/-- The TLS files, with the default bound of the handshakes unless there is another. -/
def TlsFiles.given (certPath keyPath : String) : Option UInt64 → TlsFiles
  | none => { certPath, keyPath }
  | some handshakeMilliseconds => { certPath, keyPath, handshakeMilliseconds }

/-- The entries of a TLS table. -/
def tlsEntries (certPath keyPath : String) (handshakeMilliseconds : Option UInt64) : Entries :=
  [("cert_path", textItem certPath), ("key_path", textItem keyPath)] ++
    handshakeMilliseconds.toList.map fun value => ("handshake_timeout_ms", numberItem value.toNat)

namespace Setting

def key : Setting → String
  | name _ => "name"
  | address _ => "address"
  | minWorkers _ => "min_workers"
  | maxWorkers _ => "max_workers"
  | idleMilliseconds _ => "worker_idle_timeout_ms"
  | maxPending _ => "max_pending_connections"
  | busyMessage _ => "busy_message"
  | isDefault _ => "default"
  | shutdownMode _ => "shutdown_mode"
  | tls _ _ _ => "tls"

/-- Replaces the field of an entry that the setting is about. -/
def replace : Setting → ServerEntry → ServerEntry
  | name text, entry => { entry with name := text }
  | address text, entry => { entry with address := text }
  | minWorkers value, entry => { entry with minWorkers := value }
  | maxWorkers value, entry => { entry with maxWorkers := value }
  | idleMilliseconds value, entry => { entry with idleMilliseconds := value }
  | maxPending value, entry => { entry with maxPending := value }
  | busyMessage text, entry => { entry with busyMessage := some text }
  | isDefault value, entry => { entry with isDefault := value }
  | shutdownMode mode, entry => { entry with shutdownMode := mode }
  | tls certPath keyPath handshakeMilliseconds, entry =>
      { entry with tls := some (.given certPath keyPath handshakeMilliseconds) }

def replaceAll (settings : List Setting) (entry : ServerEntry) : ServerEntry :=
  settings.foldl (fun entry setting => setting.replace entry) entry

/-- How a table shows a setting. The TLS files are a table of their own, in any order of its keys. -/
inductive Shows : Setting → String × Item → Prop
  | name (text : String) : Shows (name text) ("name", textItem text)
  | address (text : String) : Shows (address text) ("address", textItem text)
  | minWorkers (value : UInt32) : Shows (minWorkers value) ("min_workers", numberItem value.toNat)
  | maxWorkers (value : UInt32) : Shows (maxWorkers value) ("max_workers", numberItem value.toNat)
  | idleMilliseconds (value : UInt64) :
      Shows (idleMilliseconds value) ("worker_idle_timeout_ms", numberItem value.toNat)
  | maxPending (value : UInt64) :
      Shows (maxPending value) ("max_pending_connections", numberItem value.toNat)
  | busyMessage (text : String) : Shows (busyMessage text) ("busy_message", textItem text)
  | isDefault (value : Bool) : Shows (isDefault value) ("default", booleanItem value)
  | shutdownMode (mode : StopMode) : Shows (shutdownMode mode) ("shutdown_mode", textItem mode.word)
  | tls {certPath keyPath : String} {handshakeMilliseconds : Option UInt64} {entries : Entries}
      (order : entries.Perm (tlsEntries certPath keyPath handshakeMilliseconds)) (origin : TableOrigin) :
      Shows (tls certPath keyPath handshakeMilliseconds) ("tls", .table origin entries)

/-- A limit of the server, or what refused connections are told. -/
def IsLimit : Setting → Prop
  | minWorkers _ | maxWorkers _ | idleMilliseconds _ | maxPending _ | busyMessage _ => True
  | _ => False

section

variable {setting other : Setting} {settings others : List Setting} {shown : String × Item}

theorem Shows.key_eq (shows : setting.Shows shown) : shown.1 = setting.key := by
  cases shows <;> rfl

/-- Settings under different keys do not get into each other's way. -/
theorem replace_comm (differs : setting.key ≠ other.key) (entry : ServerEntry) :
    other.replace (setting.replace entry) = setting.replace (other.replace entry) := by
  cases setting <;> cases other <;> first | rfl | exact absurd rfl differs

theorem eq_of_key_eq (distinct : (settings.map key).Nodup) (isFirst : setting ∈ settings)
    (isSecond : other ∈ settings) (same : setting.key = other.key) : setting = other :=
  List.inj_on_of_nodup_map distinct isFirst isSecond same

theorem replace_comm_of_mem (distinct : (settings.map key).Nodup) (isFirst : setting ∈ settings)
    (isSecond : other ∈ settings) (entry : ServerEntry) :
    other.replace (setting.replace entry) = setting.replace (other.replace entry) := by
  by_cases same : setting.key = other.key
  · rw [eq_of_key_eq distinct isFirst isSecond same]
  · exact replace_comm same entry

/-- The order of settings does not matter. -/
theorem replaceAll_perm (distinct : (settings.map key).Nodup) (same : settings.Perm others)
    (entry : ServerEntry) : replaceAll settings entry = replaceAll others entry :=
  same.foldl_eq' (fun _ isFirst _ isSecond entry => replace_comm_of_mem distinct isFirst isSecond entry) entry

theorem limits_replaceAll (unlimited : ∀ setting ∈ settings, ¬ setting.IsLimit) (entry : ServerEntry) :
    (replaceAll settings entry).limits = entry.limits := by
  induction settings generalizing entry with
  | nil => rfl
  | cons setting settings inductionHypothesis =>
      have kept : (setting.replace entry).limits = entry.limits := by
        have noLimit := unlimited setting List.mem_cons_self
        cases setting <;> first | exact absurd trivial noLimit | rfl
      have later := inductionHypothesis (fun other isOther => unlimited other (List.mem_cons_of_mem _ isOther))
        (setting.replace entry)
      exact later.trans kept

end

/-! ## How they are read -/

open RecordSchema

/-- TLS files are read in any order of their keys, with the default bound of the handshakes where none is
given. -/
theorem decode_tls {certPath keyPath : String} {handshakeMilliseconds : Option UInt64} {entries : Entries}
    (order : entries.Perm (tlsEntries certPath keyPath handshakeMilliseconds)) (origin : TableOrigin) :
    tlsSchema.decode { certPath := "", keyPath := "" } (.table origin entries) =
      .ok (.given certPath keyPath handshakeMilliseconds) := by
  have stored : List.Forall₂ tlsSchema.StoresAs (tlsEntries certPath keyPath handshakeMilliseconds)
      ([fun files => { files with certPath }, fun files => { files with keyPath }] ++
        handshakeMilliseconds.toList.map fun value files => { files with handshakeMilliseconds := value }) := by
    cases handshakeMilliseconds with
    | none => exact .cons (field_of_decode certPath rfl) (.cons (field_of_decode keyPath rfl) .nil)
    | some value =>
        exact .cons (field_of_decode certPath rfl) (.cons (field_of_decode keyPath rfl)
          (.cons (field_of_decode value (decodeWord64_numberItem "u64" value)) .nil))
  rw [decode_changes order stored ?_ ?_ origin]
  · cases handshakeMilliseconds <;> rfl
  · cases handshakeMilliseconds <;> simp
  · cases handshakeMilliseconds <;> simp [tlsSchema, tlsEntries]

/-- An entry that shows a setting is stored as the setting. -/
theorem Shows.storesAs {setting : Setting} {shown : String × Item} (shows : setting.Shows shown) :
    serverSchema.StoresAs shown setting.replace := by
  cases shows with
  | name text => exact field_of_decode text rfl
  | address text => exact field_of_decode text rfl
  | minWorkers value => exact field_of_decode value (decodeWord32_numberItem value)
  | maxWorkers value => exact field_of_decode value (decodeWord32_numberItem value)
  | idleMilliseconds value => exact field_of_decode value (decodeWord64_numberItem "u64" value)
  | maxPending value => exact field_of_decode value (decodeWord64_numberItem "usize" value)
  | busyMessage text => exact field_of_decode text rfl
  | isDefault value => exact field_of_decode value rfl
  | shutdownMode mode => exact field_of_decode mode (decodeStopMode_textItem mode)
  | tls order origin => exact field_of_decode _ (decode_tls order origin)

end Setting

/-! ## Tables of servers -/

/-- Entries and options agree on the default limits. -/
theorem ServerEntry.limits_new (name address : String) : ({ name, address : ServerEntry }).limits = {} := by
  have noWorkers : (0 : UInt32).toNat = 0 := by decide
  have tenWorkers : (10 : UInt32).toNat = 10 := by decide
  have idle : (15000 : UInt64).toNat = 15000 := by decide
  have noneWaiting : (0 : UInt64).toNat = 0 := by decide
  simp only [limits, Options.nanosecondsPerMillisecond, noWorkers, tenWorkers, idle, noneWaiting,
    Option.map_none]

/-- A table that gives the name and the address of a server, and some of the other settings. -/
structure ServerTable where
  name : String
  address : String
  given : List Setting
  distinct : (given.map Setting.key).Nodup
  gives_name : .name name ∈ given
  gives_address : .address address ∈ given

namespace ServerTable

variable (table : ServerTable)

/-- The entry with this name and this address, every other setting at its default, in which the settings that
are given are replaced. -/
def entry : ServerEntry :=
  Setting.replaceAll table.given { name := table.name, address := table.address }

/-- The table has these entries, in any order. -/
def Shows (entries : Entries) : Prop :=
  ∃ shown, entries.Perm shown ∧ List.Forall₂ Setting.Shows table.given shown

/-- The settings that are given besides the name and the address. -/
theorem exists_others : ∃ others, table.given.Perm (.name table.name :: .address table.address :: others) := by
  have withoutName := List.perm_cons_erase table.gives_name
  have isAddress : .address table.address ∈ table.given.erase (.name table.name) :=
    (List.mem_erase_of_ne (by simp)).2 table.gives_address
  exact ⟨_, withoutName.trans ((List.perm_cons_erase isAddress).cons _)⟩

/-- Since the name and the address are given, it does not matter what they are at first. -/
theorem replaceAll_given (name address : String) :
    Setting.replaceAll table.given { name, address } = table.entry := by
  obtain ⟨others, order⟩ := table.exists_others
  unfold entry
  rw [Setting.replaceAll_perm table.distinct order, Setting.replaceAll_perm table.distinct order]
  rfl

variable {table}

theorem keys_of_shown {given : List Setting} {shown : Entries}
    (shows : List.Forall₂ Setting.Shows given shown) : shown.map Prod.fst = given.map Setting.key := by
  induction shows with
  | nil => rfl
  | cons first _ inductionHypothesis =>
      rw [List.map_cons, List.map_cons, inductionHypothesis, first.key_eq]

/-- A table of a server is read as its entry, in any order of its keys. -/
theorem decodeServer_shown {entries : Entries} (shows : table.Shows entries) (origin : TableOrigin) :
    decodeServer (.table origin entries) = .ok table.entry := by
  obtain ⟨shown, order, shows⟩ := shows
  have stored : List.Forall₂ serverSchema.StoresAs shown (table.given.map Setting.replace) := by
    rw [List.forall₂_map_right_iff]
    exact (shows.imp fun _ _ shows => shows.storesAs).flip
  have commute : ∀ first ∈ table.given.map Setting.replace, ∀ second ∈ table.given.map Setting.replace,
      ∀ entry, second (first entry) = first (second entry) := by
    intro first isFirst second isSecond entry
    obtain ⟨setting, isSetting, rfl⟩ := List.mem_map.1 isFirst
    obtain ⟨other, isOther, rfl⟩ := List.mem_map.1 isSecond
    exact Setting.replace_comm_of_mem table.distinct isSetting isOther entry
  have complete : ∀ key ∈ (serverSchema.fields.take serverSchema.required).map Prod.fst,
      key ∈ shown.map Prod.fst := by
    have hasName : "name" ∈ table.given.map Setting.key := List.mem_map_of_mem table.gives_name
    have hasAddress : "address" ∈ table.given.map Setting.key := List.mem_map_of_mem table.gives_address
    rw [keys_of_shown shows]
    simpa [serverSchema] using And.intro hasName hasAddress
  have decoded := RecordSchema.decode_changes order stored commute complete origin
    { name := "", address := "" }
  have replaced : RecordSchema.changeAll (table.given.map Setting.replace) { name := "", address := "" } =
      table.entry := by
    rw [RecordSchema.changeAll, List.foldl_map]
    exact table.replaceAll_given "" ""
  rw [← replaced]
  exact decoded

/-- A table without limits and without a busy message stands for the default options. -/
theorem options_of_unlimited (unlimited : ∀ setting ∈ table.given, ¬ setting.IsLimit) :
    table.entry.options = .ok {} := by
  have limits : table.entry.limits = {} := by
    rw [entry, Setting.limits_replaceAll unlimited, ServerEntry.limits_new]
  have valid : ({} : Options).validate = .ok () :=
    (Options.validate_eq_ok_iff {}).2 ⟨by decide, by decide, by decide, by decide⟩
  simp only [ServerEntry.options, limits, valid]

end ServerTable

/-! ## Documents -/

/-- How a document gives a log level, or leaves it out. -/
inductive ShowsLevel : Option String → Entries → Prop
  | leftOut : ShowsLevel none []
  | emptyTable (origin : TableOrigin) : ShowsLevel none [("logging", .table origin [])]
  | given (level : String) (origin : TableOrigin) :
      ShowsLevel (some level) [("logging", .table origin [("level", textItem level)])]

/-- How a document gives servers. -/
inductive ShowsServers : List ServerTable → Entries → Prop
  | leftOut : ShowsServers [] []
  | emptyList : ShowsServers [] [("servers", .array [])]
  | tables {tables : List ServerTable} {elements : List Entries}
      (shows : List.Forall₂ ServerTable.Shows tables elements) :
      ShowsServers tables [("servers", .tables elements)]

/-- The document has these tables of servers and this log level, beside entries that no setting is read from,
in any order. -/
def ShowsDocument (level : Option String) (tables : List ServerTable) (document : Entries) : Prop :=
  ∃ logging servers others, document.Perm (logging ++ servers ++ others) ∧ ShowsLevel level logging ∧
    ShowsServers tables servers ∧ ∀ entry ∈ others, entry.1 ≠ "logging" ∧ entry.1 ≠ "servers"

/-- The settings of a document, the log level at its default unless one is given. -/
def givenSettings (level : Option String) (tables : List ServerTable) : Settings where
  logLevel := level.getD ({} : Settings).logLevel
  servers := tables.map ServerTable.entry

section

open RecordSchema

variable {level : Option String} {tables : List ServerTable}

theorem decodeServers_tables {elements : List Entries}
    (shows : List.Forall₂ ServerTable.Shows tables elements) :
    decodeServers (.tables elements) = .ok (tables.map ServerTable.entry) := by
  change elements.mapM (fun entries => decodeServer (.table .header entries)) = _
  induction shows with
  | nil => rfl
  | cons first _ inductionHypothesis =>
      rw [List.map_cons, List.mapM_cons, ServerTable.decodeServer_shown first]
      simp only [bind, Except.bind] at inductionHypothesis ⊢
      rw [inductionHypothesis]
      rfl

def setLevel (level : Option String) (settings : Settings) : Settings :=
  { settings with logLevel := level.getD ({} : Settings).logLevel }

def setServers (tables : List ServerTable) (settings : Settings) : Settings :=
  { settings with servers := tables.map ServerTable.entry }

/-- Entries that are stored as one change each. -/
theorem stored_of_forall {schema : RecordSchema Settings} {entries : Entries} {change : Settings → Settings}
    (stored : ∀ entry ∈ entries, schema.StoresAs entry change) :
    List.Forall₂ schema.StoresAs entries (entries.map fun _ => change) := by
  rw [List.forall₂_map_right_iff, List.forall₂_same]
  exact stored

theorem ShowsLevel.stored {logging : Entries} (shows : ShowsLevel level logging) :
    ∀ entry ∈ logging, settingsSchema.StoresAs entry (setLevel level) := by
  have read (entries : Entries) (origin : TableOrigin) (changes : List (String → String))
      (stored : List.Forall₂ loggingSchema.StoresAs entries changes)
      (isLevel : changeAll changes ({} : Settings).logLevel = level.getD ({} : Settings).logLevel)
      (commute : ∀ first ∈ changes, ∀ second ∈ changes, ∀ record,
        second (first record) = first (second record)) :
      settingsSchema.StoresAs ("logging", .table origin entries) (setLevel level) := by
    have decoded := decode_changes (List.Perm.refl entries) stored commute (by simp [loggingSchema]) origin
      ({} : Settings).logLevel
    rw [isLevel] at decoded
    exact field_of_decode _ decoded
  intro entry isEntry
  cases shows with
  | leftOut => cases isEntry
  | emptyTable origin =>
      obtain rfl := List.mem_singleton.1 isEntry
      exact read [] origin [] .nil rfl (by simp)
  | given level origin =>
      obtain rfl := List.mem_singleton.1 isEntry
      exact read _ origin [fun _ => level] (.cons (field_of_decode level rfl) .nil) rfl (by simp)

theorem ShowsServers.stored {servers : Entries} (shows : ShowsServers tables servers) :
    ∀ entry ∈ servers, settingsSchema.StoresAs entry (setServers tables) := by
  intro entry isEntry
  cases shows with
  | leftOut => cases isEntry
  | emptyList =>
      obtain rfl := List.mem_singleton.1 isEntry
      exact field_of_decode [] rfl
  | tables shows =>
      obtain rfl := List.mem_singleton.1 isEntry
      exact field_of_decode _ (decodeServers_tables shows)

/-- A document is read as the settings it gives. -/
theorem ofEntries_shown {document : Entries} (shows : ShowsDocument level tables document) :
    Settings.ofEntries document = .ok (givenSettings level tables) := by
  obtain ⟨logging, servers, others, order, showsLevel, showsServers, unknown⟩ := shows
  have othersStored : ∀ entry ∈ others, settingsSchema.StoresAs entry id := by
    intro entry isOther
    have noField : settingsSchema.fields.lookup entry.1 = none := by
      obtain ⟨noLevel, noServers⟩ := unknown entry isOther
      simp [settingsSchema, List.lookup_cons, beq_false_of_ne noLevel, beq_false_of_ne noServers]
    simp only [StoresAs, noField]
  have stored : List.Forall₂ settingsSchema.StoresAs (logging ++ servers ++ others)
      ((logging.map fun _ => setLevel level) ++ (servers.map fun _ => setServers tables) ++
        others.map fun _ => id) :=
    List.rel_append (List.rel_append (stored_of_forall showsLevel.stored)
      (stored_of_forall showsServers.stored)) (stored_of_forall othersStored)
  have commute : ∀ first ∈ (logging.map fun _ => setLevel level) ++ (servers.map fun _ => setServers tables) ++
      others.map fun _ => id, ∀ second ∈ (logging.map fun _ => setLevel level) ++
        (servers.map fun _ => setServers tables) ++ others.map fun _ => id,
      ∀ settings, second (first settings) = first (second settings) := by
    simp only [List.mem_append, List.mem_map]
    rintro _ ((⟨_, _, rfl⟩ | ⟨_, _, rfl⟩) | ⟨_, _, rfl⟩) _ ((⟨_, _, rfl⟩ | ⟨_, _, rfl⟩) | ⟨_, _, rfl⟩) _ <;>
      rfl
  have levelSet : changeAll (logging.map fun _ => setLevel level) {} = setLevel level {} := by
    cases showsLevel <;> rfl
  have serversSet : changeAll (servers.map fun _ => setServers tables) (setLevel level {}) =
      givenSettings level tables := by
    cases showsServers <;> rfl
  have othersPassed (settings : Settings) : changeAll (others.map fun _ => id) settings = settings := by
    rw [changeAll, List.foldl_map]
    exact List.foldl_fixed others
  have decoded := decode_changes order stored commute (by simp [settingsSchema]) .header {}
  have passed : changeAll ((logging.map fun _ => setLevel level) ++ (servers.map fun _ => setServers tables) ++
      others.map fun _ => id) {} = givenSettings level tables := by
    rw [changeAll_append, changeAll_append, levelSet, serversSet, othersPassed]
  rw [passed] at decoded
  exact decoded

end

end ConnectionPool
