import ConnectionPool.Proofs.CommandLine.Given
import ConnectionPool.Proofs.Settings.Omission

/-!
Contract: a setting that is left out has its default value, wherever the other settings come from.

Owns: `DefaultsWhereOmitted` and `defaultsWhereOmitted`, the law of defaults for tables, documents, their texts,
command lines, and documents that were saved.

Does not own: how each of them is read.
-/

namespace ConnectionPool

open Toml

/-- What is asked of settings that are left out: where a document gives a log level or not and these tables of
servers, and where a command line gives some settings of one server. -/
structure DefaultsWhereOmitted (level : Option String) (tables : List ServerTable) (chosen : List Setting) :
    Prop where
  /-- A table is read as a new entry in which the settings that are given are replaced, in any order. -/
  tables_read : ∀ table ∈ tables, ∀ entries, table.Shows entries → ∀ origin,
    decodeServer (.table origin entries) = .ok table.entry
  documents_read : ∀ text document, Toml.read? text = some document → ShowsDocument level tables document →
    Settings.parse text = .ok (givenSettings level tables)
  texts_read : (∀ table ∈ tables, ∀ setting ∈ table.given, setting.Fits) →
    ∀ layouts, List.Forall₂ ServerTable.LaidOut tables layouts →
      Settings.parse (String.ofList (Settings.writtenText level layouts)) = .ok (givenSettings level tables)
  options_default : ∀ table ∈ tables, (∀ setting ∈ table.given, ¬ setting.IsLimit) → table.entry.options = .ok {}
  flags_read : ∀ texts environment, CommandLine.Gives texts environment chosen →
    ∃ arguments, CommandLine.read texts environment = .ok arguments ∧ arguments.serverEntry =
      Setting.replaceAll chosen { name := "echo", address := "tcp://127.0.0.1:7878", isDefault := true }
  /-- Leaving out what has its default value anyway does not change how a saved document is read. -/
  saved_read : ∀ settings : Settings, settings.fits = true →
    level.getD ({} : Settings).logLevel = settings.logLevel →
    List.Forall₂ (fun entry table => Setting.LeavesOut (Settings.settingsOf entry) table.given)
      settings.servers tables →
    ∀ layouts, List.Forall₂ ServerTable.LaidOut tables layouts →
      Settings.parse (String.ofList (Settings.writtenText level layouts)) =
        Settings.parse (String.ofList settings.document)

/-- Settings that are left out have their default values. -/
theorem defaultsWhereOmitted (level : Option String) (tables : List ServerTable) (chosen : List Setting) :
    DefaultsWhereOmitted level tables chosen where
  tables_read := fun _ _ _ shows origin => ServerTable.decodeServer_shown shows origin
  documents_read := fun text document isRead shows => by
    simp only [Settings.parse, isRead, ofEntries_shown shows, Except.mapError]
  texts_read := fun fits _ laidOut => Settings.parse_written laidOut fits
  options_default := fun _ _ unlimited => ServerTable.options_of_unlimited unlimited
  flags_read := fun _ _ gives => CommandLine.serverEntry_of_gives gives
  saved_read := fun _ fits isLevel leavesOut _ laidOut => Settings.parse_abridged fits isLevel leavesOut laidOut

/-- A table with one setting besides the name and the address, which stand behind it, and a command line with the
same setting. -/
theorem defaultsWhereOmitted_of_one_setting :
    Settings.parse (String.ofList (Settings.writtenText none [⟨[("max_pending_connections", numberItem 5),
        ("address", textItem "tcp://127.0.0.1:7000"), ("name", textItem "echo")], none⟩])) =
      .ok { servers := [{ name := "echo", address := "tcp://127.0.0.1:7000", maxPending := 5 }] } ∧
    ∃ arguments, CommandLine.read ["--" ++ CommandLine.Flag.maxPending.word ++ "=" ++ "5"] [] = .ok arguments ∧
      arguments.serverEntry =
        { name := "echo", address := "tcp://127.0.0.1:7878", maxPending := 5, isDefault := true } := by
  let table : ServerTable :=
    { name := "echo", address := "tcp://127.0.0.1:7000"
      given := [.maxPending 5, .address "tcp://127.0.0.1:7000", .name "echo"]
      distinct := by decide
      gives_name := by simp
      gives_address := by simp }
  have law := defaultsWhereOmitted none [table] [.maxPending 5]
  constructor
  · refine law.texts_read (by simp [table, Setting.Fits, Settings.integerLimit]) _ (.cons ⟨⟨_, .refl _, ?_⟩, ?_⟩ .nil)
    · exact .cons (.maxPending 5) (.cons (.address _) (.cons (.name _) .nil))
    · simp
  · refine law.flags_read _ _ ⟨[(.maxPending, "5")], [[(.maxPending, "5")]], .cons (.attached "5" rfl) .nil, by simp,
      .cons (.maxPending rfl) .nil, by simp, fun flag text => ?_⟩
    by_cases same : flag = .maxPending
    · simp [CommandLine.given?, same, eq_comm]
    · simp [CommandLine.given?, List.lookup_cons, beq_false_of_ne same, same]

end ConnectionPool
