import ConnectionPool.Proofs.Settings.Given
import ConnectionPool.Proofs.Toml.Lines
import ConnectionPool.Settings.Document

/-!
Contract: settings that were written are read back.

Owns:
- the entries of the document that settings are written as, and the lines of its text;
- `Settings.Layout`, a table of a server as lines, those of its TLS files below a header of their own;
- `readsAs_document`, the text as lines, `assemble_document`, the lines as entries, and
  `ofEntries_document`, the entries as settings;
- `Settings.parse_document`, the law of documents.

Does not own: the file that holds the text, and the numbers that are too large to be written.
-/

namespace ConnectionPool

open Text Toml

/-! ## Flat tables -/

namespace Toml

/-- The lines of a table whose keys have no dots. -/
def pairLines (entries : Entries) : List Line :=
  entries.map fun entry => .pair ⟨[], entry.1, entry.2⟩

/-- The pairs of a table whose keys have no dots. -/
def flatPairs (entries : Entries) : List Pair :=
  entries.map fun entry => ⟨[], entry.1, entry.2⟩

/-- Pairs with keys that do not repeat make up a table in their order. -/
theorem fill_flatPairs {entries before : Entries} (distinct : ((before ++ entries).map Prod.fst).Nodup) :
    fill (flatPairs entries) before = some (before ++ entries) := by
  induction entries generalizing before with
  | nil => simp [flatPairs, fill]
  | cons entry entries inductionHypothesis =>
      have absent : before.lookup entry.1 = none := by
        rw [List.lookup_eq_none_iff]
        intro other isOther
        have differs : entry.1 ≠ other.1 := by
          intro same
          rw [List.map_append] at distinct
          have apart := (List.nodup_append.1 distinct).2.2 other.1 (List.mem_map_of_mem isOther) entry.1
            (by simp)
          exact apart same.symm
        simpa using differs
      have later : fill (flatPairs entries) (before ++ [entry]) = some (before ++ [entry] ++ entries) :=
        inductionHypothesis (by simpa using distinct)
      have put : Entries.putDotted entry.2 [] entry.1 before = some (before ++ [entry]) := by
        simp [Entries.putDotted, Entries.insert?, absent]
      simp only [flatPairs, List.map_cons, fill] at later ⊢
      rw [put]
      simpa using later

theorem group_pairLines (entries : Entries) (lines : List Line) :
    group (pairLines entries ++ lines) = (flatPairs entries ++ (group lines).1, (group lines).2) := by
  induction entries with
  | nil => rfl
  | cons entry entries inductionHypothesis =>
      simp only [pairLines, List.map_cons, List.cons_append, group] at inductionHypothesis ⊢
      rw [inductionHypothesis]
      rfl

theorem changeLast_append (change : Entries → Option Entries) (elements : List Entries) (last : Entries) :
    Entries.changeLast change (elements ++ [last]) =
      (change last).map fun last => elements ++ [last] := by
  induction elements with
  | nil => rfl
  | cons first elements inductionHypothesis =>
      cases elements with
      | nil => simp [Entries.changeLast, Option.map_map, Function.comp_def]
      | cons second elements =>
          simp only [List.cons_append] at inductionHypothesis ⊢
          rw [Entries.changeLast, inductionHypothesis]
          simp [Option.map_map, Function.comp_def]

/-- Nothing is replaced where the key is no key of the table. -/
theorem replace_of_lookup_eq_none {key : String} {item : Item} {entries : Entries}
    (absent : entries.lookup key = none) : Entries.replace key item entries = entries := by
  rw [List.lookup_eq_none_iff] at absent
  unfold Entries.replace
  rw [List.map_congr_left (g := id) fun entry isEntry => ?_, List.map_id]
  have differs : key ≠ entry.1 := by simpa using absent entry isEntry
  exact if_neg differs.symm

end Toml

namespace Settings

/-! ## The entries of a document -/

def tlsItems (files : TlsFiles) : Entries := [
  ("cert_path", textItem files.certPath),
  ("key_path", textItem files.keyPath),
  ("handshake_timeout_ms", numberItem files.handshakeMilliseconds.toNat)]

def busyItems (entry : ServerEntry) : Entries :=
  match entry.busyMessage with
  | none => []
  | some message => [("busy_message", textItem message)]

/-- The entries of a server's table except for its TLS table. -/
def plainItems (entry : ServerEntry) : Entries :=
  [("name", textItem entry.name),
    ("address", textItem entry.address),
    ("min_workers", numberItem entry.minWorkers.toNat),
    ("max_workers", numberItem entry.maxWorkers.toNat),
    ("worker_idle_timeout_ms", numberItem entry.idleMilliseconds.toNat),
    ("max_pending_connections", numberItem entry.maxPending.toNat)] ++ busyItems entry ++
  [("default", booleanItem entry.isDefault),
    ("shutdown_mode", textItem entry.shutdownMode.word)]

/-- The table of a server as a document lays it out: the entries below its header, and those below the
header of its TLS table. -/
structure Layout where
  plain : Entries
  tls : Option Entries

def Layout.entries (layout : Layout) : Entries :=
  layout.plain ++
    match layout.tls with
    | none => []
    | some files => [("tls", .table .header files)]

/-- No key of the table repeats. -/
structure Layout.Distinct (layout : Layout) : Prop where
  plain : (layout.plain.map Prod.fst).Nodup
  noTls : layout.plain.lookup "tls" = none
  tls : ∀ files, layout.tls = some files → (files.map Prod.fst).Nodup

def serverLayout (entry : ServerEntry) : Layout where
  plain := plainItems entry
  tls := entry.tls.map tlsItems

def serverItems (entry : ServerEntry) : Entries :=
  (serverLayout entry).entries

/-- The entries that give a log level, if there is one. -/
def levelItems : Option String → Entries
  | none => []
  | some level => [("logging", .table .header [("level", textItem level)])]

/-- The document with these entries at its start and these tables of servers so far. -/
def documentItems (start : Entries) (elements : List Entries) : Entries :=
  start ++
    match elements with
    | [] => []
    | elements => [("servers", .tables elements)]

/-! ## Its lines -/

def Layout.lines (layout : Layout) : List Line :=
  [.nothing, .header (.element [] "servers")] ++ pairLines layout.plain ++
    match layout.tls with
    | none => []
    | some files => [.nothing, .header (.table ["servers"] "tls")] ++ pairLines files

def levelLines : Option String → List Line
  | none => []
  | some level => [.header (.table [] "logging")] ++ pairLines [("level", textItem level)]

def documentLines (settings : Settings) : List Line :=
  (if settings.servers.isEmpty then pairLines [("servers", .array [])] ++ [.nothing] else []) ++
    levelLines (some settings.logLevel) ++ (settings.servers.map serverLayout).flatMap Layout.lines

/-- How a value without parts is written. -/
def itemText : Item → List Char
  | .scalar (.string text) => Toml.Quotation.render text.toList
  | .scalar (.number (.integer number)) => Numeral.render 10 number.toNat
  | .scalar (.boolean value) => if value then "true".toList else "false".toList
  | _ => []

def entriesText (entries : Entries) : List Char :=
  entries.flatMap fun entry => pairLine entry.1 (itemText entry.2)

def Layout.text (layout : Layout) : List Char :=
  "\n[[servers]]\n".toList ++ entriesText layout.plain ++
    match layout.tls with
    | none => []
    | some files => "\n[servers.tls]\n".toList ++ entriesText files

def levelText : Option String → List Char
  | none => []
  | some level => "[logging]\n".toList ++ textLine "level" level

/-- The entry can be written on a line: its key needs no quotes, and what is written of its item is read as
the item. -/
structure Legible (entry : String × Item) : Prop where
  named : entry.1 ≠ ""
  bare : entry.1.toList.all isBareKey = true
  denotes : Denotes (itemText entry.2) entry.2

structure Layout.Legible (layout : Layout) : Prop where
  plain : ∀ entry ∈ layout.plain, Settings.Legible entry
  tls : ∀ files, layout.tls = some files → ∀ entry ∈ files, Settings.Legible entry

section

variable {key : String}

theorem legible_text (named : key ≠ "") (bare : key.toList.all isBareKey = true) (text : String) :
    Legible (key, textItem text) :=
  ⟨named, bare, denotes_string text⟩

theorem legible_boolean (named : key ≠ "") (bare : key.toList.all isBareKey = true) (value : Bool) :
    Legible (key, booleanItem value) :=
  ⟨named, bare, denotes_boolean value⟩

theorem legible_number (named : key ≠ "") (bare : key.toList.all isBareKey = true) {number : Nat}
    (small : number ≤ integerLimit) : Legible (key, numberItem number) :=
  ⟨named, bare, denotes_number small⟩

theorem Legible.readsAs {entry : String × Item} (legible : Legible entry) :
    ReadsAs (pairLine entry.1 (itemText entry.2)) (pairLines [entry]) := by
  have shown : entry.1.toList ≠ [] := by simpa using legible.named
  have isLine := isLine_pair shown (List.all_eq_true.mp legible.bare) legible.denotes
  rw [String.ofList_toList] at isLine
  exact isLine.readsAs

theorem readsAs_entriesText {entries : Entries} (legible : ∀ entry ∈ entries, Legible entry) :
    ReadsAs (entriesText entries) (pairLines entries) := by
  induction entries with
  | nil => exact readsAs_nil
  | cons entry entries inductionHypothesis =>
      have first := (legible entry List.mem_cons_self).readsAs
      have rest := inductionHypothesis fun other isOther => legible other (List.mem_cons_of_mem _ isOther)
      exact first.append rest

end

theorem readsAs_header {header : Header} (text : List Char)
    (begins : text.head? = some '[') (reads : ∀ rest, readLine (text ++ rest) = some (.header header, rest)) :
    ReadsAs text [.header header] :=
  IsLine.readsAs ⟨⟨'[', begins, by decide⟩, reads⟩

theorem readsAs_logging : ReadsAs "[logging]\n".toList [.header (.table [] "logging")] :=
  readsAs_header _ rfl fun _ => rfl

theorem readsAs_servers : ReadsAs "\n[[servers]]\n".toList [.nothing, .header (.element [] "servers")] :=
  isLine_blank.readsAs.append (readsAs_header "[[servers]]\n".toList rfl fun _ => rfl)

theorem readsAs_tls : ReadsAs "\n[servers.tls]\n".toList [.nothing, .header (.table ["servers"] "tls")] :=
  isLine_blank.readsAs.append (readsAs_header "[servers.tls]\n".toList rfl fun _ => rfl)

theorem readsAs_noServers :
    ReadsAs "servers = []\n\n".toList (pairLines [("servers", .array [])] ++ [.nothing]) := by
  have isLine : IsLine "servers = []\n".toList (.pair ⟨[], "servers", .array []⟩) :=
    ⟨⟨'s', rfl, by decide⟩, fun rest => rfl⟩
  exact isLine.readsAs.append isLine_blank.readsAs

theorem Layout.Legible.readsAs {layout : Layout} (legible : layout.Legible) :
    ReadsAs layout.text layout.lines := by
  have plain := readsAs_servers.append (readsAs_entriesText legible.plain)
  obtain ⟨entries, tls⟩ := layout
  cases tls with
  | none => exact plain.append readsAs_nil
  | some files => exact plain.append (readsAs_tls.append (readsAs_entriesText (legible.tls files rfl)))

theorem readsAs_layouts {layouts : List Layout} (legible : ∀ layout ∈ layouts, layout.Legible) :
    ReadsAs (layouts.flatMap Layout.text) (layouts.flatMap Layout.lines) := by
  induction layouts with
  | nil => exact readsAs_nil
  | cons layout layouts inductionHypothesis =>
      exact (legible layout List.mem_cons_self).readsAs.append
        (inductionHypothesis fun other isOther => legible other (List.mem_cons_of_mem _ isOther))

/-- The lines of an entry are those of its layout. -/
theorem text_serverLayout (entry : ServerEntry) : (serverLayout entry).text = entryLines entry := by
  unfold Layout.text serverLayout entryLines plainItems busyItems tlsLines
  generalize "\n[[servers]]\n".toList = header, "\n[servers.tls]\n".toList = tlsHeader
  cases entry.busyMessage <;> cases entry.tls <;>
    simp only [Option.map_none, Option.map_some, tlsItems, entriesText, List.cons_append,
      List.nil_append, List.flatMap_cons, List.flatMap_nil, List.append_nil, List.append_assoc, itemText,
      textItem, numberItem, booleanItem, textLine, numberLine, booleanLine, Int.toNat_natCast]

theorem readsAs_levelText (level : Option String) : ReadsAs (levelText level) (levelLines level) := by
  cases level with
  | none => exact readsAs_nil
  | some level => exact readsAs_logging.append (legible_text (by decide) (by decide) level).readsAs

theorem word32_le_integerLimit (number : UInt32) : number.toNat ≤ integerLimit := by
  have small : number.toNat < 4294967296 := number.toNat_lt
  unfold integerLimit
  omega

theorem legible_serverLayout {entry : ServerEntry}
    (small : ∀ number ∈ largeNumbers entry, number.toNat ≤ integerLimit) :
    (serverLayout entry).Legible where
  plain := by
    have idle : entry.idleMilliseconds.toNat ≤ integerLimit := small _ (by simp [largeNumbers])
    have pending : entry.maxPending.toNat ≤ integerLimit := small _ (by simp [largeNumbers])
    have busy : ∀ item ∈ busyItems entry, Legible item := by
      unfold busyItems
      cases entry.busyMessage with
      | none => simp
      | some message => simpa using legible_text (by decide) (by decide) message
    simp only [serverLayout, plainItems, List.cons_append, List.nil_append, List.forall_mem_cons,
      List.forall_mem_append]
    exact ⟨legible_text (by decide) (by decide) _, legible_text (by decide) (by decide) _,
      legible_number (by decide) (by decide) (word32_le_integerLimit _),
      legible_number (by decide) (by decide) (word32_le_integerLimit _),
      legible_number (by decide) (by decide) idle, legible_number (by decide) (by decide) pending,
      busy, legible_boolean (by decide) (by decide) _, legible_text (by decide) (by decide) _,
      List.forall_mem_nil _⟩
  tls := by
    intro files isFiles
    obtain ⟨written, isTls, rfl⟩ := Option.map_eq_some_iff.1 isFiles
    have handshake : written.handshakeMilliseconds.toNat ≤ integerLimit :=
      small _ (by simp [largeNumbers, isTls])
    simp only [tlsItems, List.forall_mem_cons]
    exact ⟨legible_text (by decide) (by decide) _, legible_text (by decide) (by decide) _,
      legible_number (by decide) (by decide) handshake, List.forall_mem_nil _⟩

/-- The text of a document is read as its lines. -/
theorem readsAs_document {settings : Settings} (fits : settings.fits = true) :
    ReadsAs settings.document (documentLines settings) := by
  have top : ReadsAs (if settings.servers.isEmpty then "servers = []\n\n".toList else [])
      (if settings.servers.isEmpty then pairLines [("servers", .array [])] ++ [.nothing] else []) := by
    split
    · exact readsAs_noServers
    · exact readsAs_nil
  have allFit : ∀ entry ∈ settings.servers, ∀ number ∈ largeNumbers entry,
      number.toNat ≤ integerLimit := by
    simpa [Settings.fits] using fits
  have entries : ReadsAs (settings.servers.flatMap entryLines)
      ((settings.servers.map serverLayout).flatMap Layout.lines) := by
    have layouts : ReadsAs ((settings.servers.map serverLayout).flatMap Layout.text)
        ((settings.servers.map serverLayout).flatMap Layout.lines) := by
      apply readsAs_layouts
      intro layout isLayout
      obtain ⟨entry, isEntry, rfl⟩ := List.mem_map.1 isLayout
      exact legible_serverLayout (allFit entry isEntry)
    simpa only [List.flatMap_map, text_serverLayout] using layouts
  have whole := (top.append (readsAs_levelText (some settings.logLevel))).append entries
  have isWhole : settings.document = (if settings.servers.isEmpty then "servers = []\n\n".toList else []) ++
      levelText (some settings.logLevel) ++ settings.servers.flatMap entryLines := by
    unfold document headLines levelText
    generalize "[logging]\n".toList = header, "servers = []\n\n".toList = noServers
    simp only [List.append_assoc]
  rw [isWhole]
  exact whole

/-! ## From lines to entries -/

/-- The sections that the lines of a table make up. -/
def Layout.sections (layout : Layout) : List Section :=
  ⟨.element [] "servers", flatPairs layout.plain⟩ ::
    match layout.tls with
    | none => []
    | some files => [⟨.table ["servers"] "tls", flatPairs files⟩]

theorem group_lines (layout : Layout) {lines : List Line} (noPair : (group lines).1 = []) :
    group (layout.lines ++ lines) = ([], layout.sections ++ (group lines).2) := by
  unfold Layout.lines Layout.sections
  cases layout.tls with
  | none => simp [group, group_pairLines, noPair]
  | some files => simp [group, group_pairLines, noPair]

theorem group_flatMap (layouts : List Layout) :
    group (layouts.flatMap Layout.lines) = ([], layouts.flatMap Layout.sections) := by
  induction layouts with
  | nil => rfl
  | cons layout layouts inductionHypothesis =>
      rw [List.flatMap_cons, group_lines layout (by rw [inductionHypothesis]), inductionHypothesis]
      rfl

section

variable {start : Entries} {elements : List Entries}

theorem lookup_documentItems (absent : start.lookup "servers" = none) (last : Entries) :
    (documentItems start (elements ++ [last])).lookup "servers" = some (.tables (elements ++ [last])) := by
  cases elements <;> simp [documentItems, List.lookup_append, absent]

theorem replace_documentItems (absent : start.lookup "servers" = none) (last : Entries)
    (changed : List Entries) (nonempty : changed ≠ []) :
    Entries.replace "servers" (.tables changed) (documentItems start (elements ++ [last])) =
      documentItems start changed := by
  have kept : Entries.replace "servers" (.tables changed) start = start := replace_of_lookup_eq_none absent
  unfold Entries.replace at kept
  cases elements <;> cases changed <;>
    simp_all [documentItems, Entries.replace]

/-- A new table goes behind the tables that are there. -/
theorem placeElement_documentItems (absent : start.lookup "servers" = none) {pairs : List Pair}
    {inner : Entries} (filled : fill pairs [] = some inner) :
    placeElement "servers" pairs (documentItems start elements) =
      some (documentItems start (elements ++ [inner])) := by
  obtain rfl | ⟨before, last, rfl⟩ := List.eq_nil_or_concat elements
  · simp [documentItems, placeElement, filled, absent]
  · rw [List.concat_eq_append, placeElement, lookup_documentItems absent]
    simp only [filled, Option.map_some]
    rw [replace_documentItems absent last _ (by simp)]

/-- A table inside the last table goes behind what that holds. -/
theorem changeAt_documentItems (absent : start.lookup "servers" = none) {pairs : List Pair}
    {last inner : Entries} (filled : fill pairs [] = some inner) (noTls : last.lookup "tls" = none) :
    Entries.changeAt (placeTable "tls" pairs) ["servers"] (documentItems start (elements ++ [last])) =
      some (documentItems start (elements ++ [last ++ [("tls", .table .header inner)]])) := by
  have changed : Entries.changeLast (Entries.changeAt (placeTable "tls" pairs) [])
      (elements ++ [last]) = some (elements ++ [last ++ [("tls", .table .header inner)]]) := by
    rw [changeLast_append]
    simp [Entries.changeAt, placeTable, noTls, filled]
  rw [Entries.changeAt, lookup_documentItems absent]
  simp only [changed, Option.map_some]
  rw [replace_documentItems absent last _ (by simp)]

/-- The table of a server is placed behind the servers that are there. -/
theorem place_sections (absent : start.lookup "servers" = none) {layout : Layout}
    (distinct : layout.Distinct) :
    layout.sections.foldlM (fun entries piece => place piece entries) (documentItems start elements) =
      some (documentItems start (elements ++ [layout.entries])) := by
  have plain : fill (flatPairs layout.plain) [] = some layout.plain := fill_flatPairs distinct.plain
  have placed : place ⟨.element [] "servers", flatPairs layout.plain⟩ (documentItems start elements) =
      some (documentItems start (elements ++ [layout.plain])) :=
    placeElement_documentItems absent plain
  unfold Layout.sections Layout.entries
  cases isTls : layout.tls with
  | none => simp [placed]
  | some files =>
      have tls : fill (flatPairs files) [] = some files := fill_flatPairs (distinct.tls files isTls)
      have placedTls : place ⟨.table ["servers"] "tls", flatPairs files⟩
          (documentItems start (elements ++ [layout.plain])) = _ :=
        changeAt_documentItems absent tls distinct.noTls
      simp [placed, placedTls]

theorem place_flatMap (absent : start.lookup "servers" = none) {layouts : List Layout}
    (distinct : ∀ layout ∈ layouts, layout.Distinct) (elements : List Entries) :
    (layouts.flatMap Layout.sections).foldlM (fun entries piece => place piece entries)
        (documentItems start elements) =
      some (documentItems start (elements ++ layouts.map Layout.entries)) := by
  induction layouts generalizing elements with
  | nil => simp
  | cons layout layouts inductionHypothesis =>
      have placed := inductionHypothesis
        (fun other isOther => distinct other (List.mem_cons_of_mem _ isOther))
        (elements ++ [layout.entries])
      rw [List.flatMap_cons, List.foldlM_append, place_sections absent (distinct layout List.mem_cons_self)]
      simpa using placed

end

theorem distinct_serverLayout (entry : ServerEntry) : (serverLayout entry).Distinct where
  plain := by
    unfold serverLayout plainItems busyItems
    cases entry.busyMessage <;> simp
  noTls := by
    unfold serverLayout plainItems busyItems
    cases entry.busyMessage <;> simp [List.lookup_cons]
  tls := by
    intro files isFiles
    obtain ⟨written, -, rfl⟩ := Option.map_eq_some_iff.1 isFiles
    simp [tlsItems]

/-- The entries that the lines of a document make up. Without servers the empty list stands in front. -/
def allItems (settings : Settings) : Entries :=
  (if settings.servers.isEmpty then [("servers", .array [])] else []) ++
    documentItems (levelItems (some settings.logLevel)) (settings.servers.map serverItems)

theorem group_levelLines (level : Option String) {lines : List Line} (noPair : (group lines).1 = []) :
    group (levelLines level ++ lines) = ([], (group (levelLines level)).2 ++ (group lines).2) := by
  cases level with
  | none =>
      rw [levelLines, List.nil_append, ← noPair]
      rfl
  | some level => simp [levelLines, group, pairLines, noPair]

/-- The log level is placed behind what stands in front of it. -/
theorem place_level {start : Entries} (absent : start.lookup "logging" = none) (level : Option String) :
    (group (levelLines level)).2.foldlM (fun entries piece => place piece entries) start =
      some (start ++ levelItems level) := by
  cases level with
  | none => simp [levelLines, levelItems, group]
  | some level =>
      have filled : fill (flatPairs [("level", textItem level)]) [] = some [("level", textItem level)] :=
        fill_flatPairs (by simp)
      have grouped : (group (levelLines (some level))).2 =
          [⟨.table [] "logging", flatPairs [("level", textItem level)]⟩] := rfl
      simp [grouped, place, Entries.changeAt, placeTable, absent, filled, levelItems]

/-- The lines of a log level and of tables, behind pairs without them, make up the document. -/
theorem assemble_layouts {before : Entries} (distinctBefore : (before.map Prod.fst).Nodup)
    (noLevel : before.lookup "logging" = none) (level : Option String) {layouts : List Layout}
    (noServers : layouts ≠ [] → before.lookup "servers" = none)
    (distinct : ∀ layout ∈ layouts, layout.Distinct) :
    assemble (group (pairLines before ++ (levelLines level ++ layouts.flatMap Layout.lines))).1
        (group (pairLines before ++ (levelLines level ++ layouts.flatMap Layout.lines))).2 =
      some (documentItems (before ++ levelItems level) (layouts.map Layout.entries)) := by
  have grouped : group (levelLines level ++ layouts.flatMap Layout.lines) =
      ([], (group (levelLines level)).2 ++ layouts.flatMap Layout.sections) := by
    rw [group_levelLines level (by rw [group_flatMap]), group_flatMap]
  have filled : fill (flatPairs before) [] = some before := fill_flatPairs distinctBefore
  simp only [group_pairLines, grouped, assemble, List.append_nil, filled, Option.bind_some,
    List.foldlM_append, place_level noLevel level, Option.bind_eq_bind]
  cases layouts with
  | nil => simp [documentItems]
  | cons layout layouts =>
      have absent : (before ++ levelItems level).lookup "servers" = none := by
        rw [List.lookup_append, noServers (by simp)]
        cases level <;> rfl
      simpa [documentItems] using place_flatMap absent distinct []

/-- The lines of a document make up its entries. -/
theorem assemble_document (settings : Settings) :
    assemble (group (documentLines settings)).1 (group (documentLines settings)).2 =
      some settings.allItems := by
  have distinct : ∀ layout ∈ settings.servers.map serverLayout, layout.Distinct := by
    intro layout isLayout
    obtain ⟨written, -, rfl⟩ := List.mem_map.1 isLayout
    exact distinct_serverLayout written
  have shown : (settings.servers.map serverLayout).map Layout.entries = settings.servers.map serverItems := by
    rw [List.map_map]
    rfl
  unfold documentLines allItems
  rw [← shown]
  cases isServers : settings.servers with
  | nil =>
      rw [isServers] at distinct
      have noLevel : ([("servers", .array [])] : Entries).lookup "logging" = none := rfl
      exact assemble_layouts (by simp) noLevel (some settings.logLevel) (by simp) distinct
  | cons entry servers =>
      rw [isServers] at distinct
      have noLevel : ([] : Entries).lookup "logging" = none := rfl
      have isWhole := assemble_layouts (by simp) noLevel (some settings.logLevel) (fun _ => rfl) distinct
      simpa [pairLines] using isWhole

/-! ## From entries to settings -/

/-- All settings of an entry. -/
def settingsOf (entry : ServerEntry) : List Setting :=
  [.name entry.name, .address entry.address, .minWorkers entry.minWorkers, .maxWorkers entry.maxWorkers,
    .idleMilliseconds entry.idleMilliseconds, .maxPending entry.maxPending] ++
  entry.busyMessage.toList.map Setting.busyMessage ++
  [.isDefault entry.isDefault, .shutdownMode entry.shutdownMode] ++
  entry.tls.toList.map fun files => .tls files.certPath files.keyPath (some files.handshakeMilliseconds)

/-- The table that gives all settings of an entry. -/
def wholeTable (entry : ServerEntry) : ServerTable where
  name := entry.name
  address := entry.address
  given := settingsOf entry
  distinct := by
    unfold settingsOf
    cases entry.busyMessage <;> cases entry.tls <;> simp [Setting.key]
  gives_name := by simp [settingsOf]
  gives_address := by simp [settingsOf]

theorem entry_wholeTable (entry : ServerEntry) : (wholeTable entry).entry = entry := by
  obtain ⟨name, address, minWorkers, maxWorkers, idle, pending, busyMessage, isDefault, mode, tls⟩ := entry
  cases busyMessage <;> cases tls <;> rfl

theorem shows_serverItems (entry : ServerEntry) : (wholeTable entry).Shows (serverItems entry) := by
  refine ⟨_, .refl _, ?_⟩
  have busy : List.Forall₂ Setting.Shows (entry.busyMessage.toList.map Setting.busyMessage)
      (busyItems entry) := by
    unfold busyItems
    cases entry.busyMessage with
    | none => exact .nil
    | some message => exact .cons (.busyMessage message) .nil
  have plain := List.rel_append (List.rel_append
    (.cons (.name entry.name) (.cons (.address entry.address) (.cons (.minWorkers entry.minWorkers)
      (.cons (.maxWorkers entry.maxWorkers) (.cons (.idleMilliseconds entry.idleMilliseconds)
        (.cons (.maxPending entry.maxPending) .nil)))))) busy)
    (.cons (.isDefault entry.isDefault) (.cons (.shutdownMode entry.shutdownMode) .nil))
  have tls : List.Forall₂ Setting.Shows
      (entry.tls.toList.map fun files =>
        Setting.tls files.certPath files.keyPath (some files.handshakeMilliseconds))
      (match entry.tls.map tlsItems with
        | none => []
        | some files => [("tls", .table .header files)]) := by
    cases entry.tls with
    | none => exact .nil
    | some files => exact .cons (.tls (.refl _) .header) .nil
  exact List.rel_append plain tls

/-- The entries of a document give the settings. -/
theorem ofEntries_document (settings : Settings) : Settings.ofEntries settings.allItems = .ok settings := by
  have whole : (settings.servers.map wholeTable).map ServerTable.entry = settings.servers := by
    simp [Function.comp_def, entry_wholeTable]
  have given : givenSettings (some settings.logLevel) (settings.servers.map wholeTable) = settings := by
    rw [givenSettings, whole]
    rfl
  have shows : ShowsDocument (some settings.logLevel) (settings.servers.map wholeTable) settings.allItems := by
    have logging : ShowsLevel (some settings.logLevel) (levelItems (some settings.logLevel)) := .given _ .header
    have elements : List.Forall₂ ServerTable.Shows (settings.servers.map wholeTable)
        (settings.servers.map serverItems) := by
      rw [List.forall₂_map_left_iff, List.forall₂_map_right_iff, List.forall₂_same]
      exact fun entry _ => shows_serverItems entry
    unfold allItems
    cases isServers : settings.servers with
    | nil =>
        refine ⟨_, [("servers", .array [])], [], ?_, logging, .emptyList, by simp⟩
        have swapped : ([("servers", Item.array [])] ++ levelItems (some settings.logLevel)).Perm
            (levelItems (some settings.logLevel) ++ [("servers", .array [])]) := List.perm_append_comm
        simpa [documentItems] using swapped
    | cons entry servers =>
        rw [isServers] at elements
        exact ⟨_, _, [], by simp [documentItems], logging, .tables elements, by simp⟩
  rw [ofEntries_shown shows, given]

/-! ## The law of documents -/

theorem withoutMark_document (settings : Settings) :
    withoutMark settings.document = settings.document := by
  unfold document headLines
  cases settings.servers <;> rfl

/-- The text of settings whose numbers fit is read back as the settings. -/
theorem parse_document {settings : Settings} (fits : settings.fits = true) :
    parse (String.ofList settings.document) = .ok settings := by
  have isRead : Toml.read? (String.ofList settings.document) = some settings.allItems := by
    simp only [Toml.read?, String.toList_ofList, withoutMark_document,
      (readsAs_document fits).whole, Option.bind_some]
    exact assemble_document settings
  simp only [parse, isRead, ofEntries_document, Except.mapError]

end Settings

end ConnectionPool
