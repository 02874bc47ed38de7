import ConnectionPool.Proofs.Settings.Document

/-!
Contract: what a text leaves out has its default value.

Owns:
- `ServerTable.LaidOut`, the tables that a text can give line by line, and `Settings.parse_written`, the
  settings that such a text is read as;
- `Setting.LeavesOut`, how settings with default values can be left out of those of an entry, and
  `entry_of_leavesOut`: the entry stays the same;
- `Settings.parse_abridged`, the same for a document that was saved.

Does not own: how a table is read.
-/

namespace ConnectionPool

open Text Toml

/-! ## Tables on lines -/

/-- A document holds the numbers of the setting. -/
def Setting.Fits : Setting → Prop
  | idleMilliseconds value | maxPending value | tls _ _ (some value) => value.toNat ≤ Settings.integerLimit
  | _ => True

namespace Setting

theorem exists_of_mem_shown {given : List Setting} {shown : Entries} {entry : String × Item}
    (shows : List.Forall₂ Shows given shown) (isShown : entry ∈ shown) : ∃ setting ∈ given, setting.Shows entry := by
  induction shows with
  | nil => cases isShown
  | @cons setting _ _ _ first _ inductionHypothesis =>
      obtain rfl | later := List.mem_cons.1 isShown
      · exact ⟨setting, List.mem_cons_self, first⟩
      · obtain ⟨other, isOther, shows⟩ := inductionHypothesis later
        exact ⟨other, List.mem_cons_of_mem _ isOther, shows⟩

theorem Shows.exists_tls {setting : Setting} {origin : TableOrigin} {files : Entries}
    (shows : setting.Shows ("tls", .table origin files)) :
    ∃ certPath keyPath handshakeMilliseconds, setting = .tls certPath keyPath handshakeMilliseconds ∧
      files.Perm (tlsEntries certPath keyPath handshakeMilliseconds) := by
  generalize isShown : ("tls", Item.table origin files) = shown at shows
  cases shows with
  | tls order _ =>
      cases isShown
      exact ⟨_, _, _, rfl, order⟩
  | _ => cases congrArg Prod.snd isShown

theorem legible_tls {certPath keyPath : String} {handshakeMilliseconds : Option UInt64} {files : Entries}
    (order : files.Perm (tlsEntries certPath keyPath handshakeMilliseconds))
    (fits : (tls certPath keyPath handshakeMilliseconds).Fits) :
    ∀ entry ∈ files, Settings.Legible entry := by
  intro entry isEntry
  have isGiven := order.mem_iff.1 isEntry
  cases handshakeMilliseconds with
  | none =>
      simp only [tlsEntries, Option.toList_none, List.map_nil, List.append_nil, List.mem_cons,
        List.not_mem_nil, or_false] at isGiven
      rcases isGiven with rfl | rfl
      · exact Settings.legible_text (by decide) (by decide) certPath
      · exact Settings.legible_text (by decide) (by decide) keyPath
  | some value =>
      simp only [tlsEntries, Option.toList_some, List.map_cons, List.map_nil, List.cons_append,
        List.nil_append, List.mem_cons, List.not_mem_nil, or_false] at isGiven
      rcases isGiven with rfl | rfl | rfl
      · exact Settings.legible_text (by decide) (by decide) certPath
      · exact Settings.legible_text (by decide) (by decide) keyPath
      · exact Settings.legible_number (by decide) (by decide) fits

/-- A setting other than the TLS files can be written on a line. -/
theorem Shows.legible {setting : Setting} {entry : String × Item} (shows : setting.Shows entry)
    (fits : setting.Fits) (noTls : entry.1 ≠ "tls") : Settings.Legible entry := by
  open Settings in
  cases shows with
  | name text => exact legible_text (by decide) (by decide) text
  | address text => exact legible_text (by decide) (by decide) text
  | minWorkers value => exact legible_number (by decide) (by decide) (word32_le_integerLimit value)
  | maxWorkers value => exact legible_number (by decide) (by decide) (word32_le_integerLimit value)
  | idleMilliseconds value => exact legible_number (by decide) (by decide) fits
  | maxPending value => exact legible_number (by decide) (by decide) fits
  | busyMessage text => exact legible_text (by decide) (by decide) text
  | isDefault value => exact legible_boolean (by decide) (by decide) value
  | shutdownMode mode => exact legible_text (by decide) (by decide) mode.word
  | tls order origin => exact absurd rfl noTls

end Setting

namespace ServerTable

/-- The table is laid out with its settings on lines in any order, the TLS files below a header of their own. -/
structure LaidOut (table : ServerTable) (layout : Settings.Layout) : Prop where
  shows : table.Shows layout.entries
  apart : ∀ entry ∈ layout.plain, entry.1 ≠ "tls"

variable {table : ServerTable} {layout : Settings.Layout} {entry : String × Item} {entries : Entries}

theorem exists_setting_of_shown (shows : table.Shows entries) (isEntry : entry ∈ entries) :
    ∃ setting ∈ table.given, setting.Shows entry := by
  obtain ⟨shown, order, shows⟩ := shows
  exact Setting.exists_of_mem_shown shows (order.mem_iff.1 isEntry)

theorem keys_nodup (shows : table.Shows entries) : (entries.map Prod.fst).Nodup := by
  obtain ⟨shown, order, shows⟩ := shows
  rw [(order.map Prod.fst).nodup_iff, keys_of_shown shows]
  exact table.distinct

theorem LaidOut.exists_tls (laidOut : table.LaidOut layout) {files : Entries} (isTls : layout.tls = some files) :
    ∃ certPath keyPath handshakeMilliseconds, .tls certPath keyPath handshakeMilliseconds ∈ table.given ∧
      files.Perm (tlsEntries certPath keyPath handshakeMilliseconds) := by
  have isEntry : ("tls", .table .header files) ∈ layout.entries := by
    simp [Settings.Layout.entries, isTls]
  obtain ⟨setting, isSetting, shows⟩ := exists_setting_of_shown laidOut.shows isEntry
  obtain ⟨certPath, keyPath, handshakeMilliseconds, rfl, order⟩ := shows.exists_tls
  exact ⟨certPath, keyPath, handshakeMilliseconds, isSetting, order⟩

theorem LaidOut.distinct (laidOut : table.LaidOut layout) : layout.Distinct where
  plain := by
    have all := keys_nodup laidOut.shows
    rw [Settings.Layout.entries, List.map_append] at all
    exact (List.nodup_append.1 all).1
  noTls := by
    rw [List.lookup_eq_none_iff]
    intro entry isEntry
    simpa using (laidOut.apart entry isEntry).symm
  tls := by
    intro files isTls
    obtain ⟨_, _, handshakeMilliseconds, -, order⟩ := laidOut.exists_tls isTls
    rw [(order.map Prod.fst).nodup_iff]
    cases handshakeMilliseconds <;> simp [tlsEntries]

theorem LaidOut.legible (laidOut : table.LaidOut layout) (fits : ∀ setting ∈ table.given, setting.Fits) :
    layout.Legible where
  plain := by
    intro entry isEntry
    have inTable : entry ∈ layout.entries := List.mem_append_left _ isEntry
    obtain ⟨setting, isSetting, shows⟩ := exists_setting_of_shown laidOut.shows inTable
    exact shows.legible (fits setting isSetting) (laidOut.apart entry isEntry)
  tls := by
    intro files isTls
    obtain ⟨certPath, keyPath, handshakeMilliseconds, isSetting, order⟩ := laidOut.exists_tls isTls
    exact Setting.legible_tls order (fits _ isSetting)

end ServerTable

namespace Settings

/-! ## Texts with the tables -/

/-- The text with this log level and these tables. -/
def writtenText (level : Option String) (layouts : List Layout) : List Char :=
  levelText level ++ layouts.flatMap Layout.text

section

variable {level : Option String} {tables : List ServerTable} {layouts : List Layout}

theorem read?_writtenText (legible : ∀ layout ∈ layouts, layout.Legible)
    (distinct : ∀ layout ∈ layouts, layout.Distinct) :
    Toml.read? (String.ofList (writtenText level layouts)) =
      some (documentItems (levelItems level) (layouts.map Layout.entries)) := by
  have reads : ReadsAs (writtenText level layouts) (levelLines level ++ layouts.flatMap Layout.lines) :=
    (readsAs_levelText level).append (readsAs_layouts legible)
  have unmarked : withoutMark (writtenText level layouts) = writtenText level layouts := by
    cases level <;> cases layouts <;> rfl
  have noLevel : ([] : Entries).lookup "logging" = none := rfl
  have assembled := assemble_layouts (by simp) noLevel level (fun _ => rfl) distinct
  simp only [Toml.read?, String.toList_ofList, unmarked, reads.whole, Option.bind_some]
  simpa [pairLines] using assembled

theorem showsDocument_documentItems
    (shows : List.Forall₂ (fun table layout => table.Shows layout.entries) tables layouts) :
    ShowsDocument level tables (documentItems (levelItems level) (layouts.map Layout.entries)) := by
  have showsLevel : ShowsLevel level (levelItems level) := by
    cases level with
    | none => exact .leftOut
    | some level => exact .given level .header
  cases shows with
  | nil => exact ⟨_, [], [], by simp [documentItems], showsLevel, .leftOut, by simp⟩
  | cons first rest =>
      refine ⟨_, _, [], by simp [documentItems]; rfl, showsLevel, .tables ?_, by simp⟩
      exact .cons first (List.forall₂_map_right_iff.2 rest)

/-- A text that gives tables on lines, in any order of the keys, is read as the settings it gives, and as the
default ones where it gives none. -/
theorem parse_written (laidOut : List.Forall₂ ServerTable.LaidOut tables layouts)
    (fits : ∀ table ∈ tables, ∀ setting ∈ table.given, setting.Fits) :
    parse (String.ofList (writtenText level layouts)) = .ok (givenSettings level tables) := by
  have legible : ∀ layout ∈ layouts, layout.Legible ∧ layout.Distinct := by
    induction laidOut with
    | nil => simp
    | cons first _ inductionHypothesis =>
        rw [List.forall_mem_cons] at fits ⊢
        exact ⟨⟨first.legible fits.1, first.distinct⟩, inductionHypothesis fits.2⟩
  have isRead : Toml.read? (String.ofList (writtenText level layouts)) = _ :=
    read?_writtenText (fun layout isLayout => (legible layout isLayout).1)
      fun layout isLayout => (legible layout isLayout).2
  have shows : ShowsDocument level tables _ :=
    showsDocument_documentItems (laidOut.imp fun _ _ laidOut => laidOut.shows)
  simp only [parse, isRead, ofEntries_shown shows, Except.mapError]

end

end Settings

/-! ## Leaving settings out -/

namespace Setting

/-- The value is the one that a new entry has. -/
def IsDefaultValue : Setting → Prop
  | minWorkers value => value = 0
  | maxWorkers value => value = 10
  | idleMilliseconds value => value = 15000
  | maxPending value => value = 0
  | isDefault value => value = false
  | shutdownMode mode => mode = .waitClients
  | _ => False

/-- The second setting is the first one, or the TLS files without a bound that is the default one. -/
inductive Shortens : Setting → Setting → Prop
  | same (setting : Setting) : Shortens setting setting
  | withoutBound (certPath keyPath : String) :
      Shortens (tls certPath keyPath (some (UInt64.ofNat defaultHandshakeMilliseconds))) (tls certPath keyPath none)

/-- From all settings some with default values were left out, also the default bound of the handshakes. -/
def LeavesOut (all kept : List Setting) : Prop :=
  ∃ left rest, all.Perm (left ++ rest) ∧ (∀ setting ∈ left, setting.IsDefaultValue) ∧
    List.Forall₂ Shortens rest kept

variable {all kept left rest : List Setting} {setting short : Setting}

theorem Shortens.replace_eq (shortens : Shortens setting short) : short.replace = setting.replace := by
  cases shortens <;> rfl

theorem Shortens.fits (shortens : Shortens setting short) (fits : setting.Fits) : short.Fits := by
  cases shortens with
  | same => exact fits
  | withoutBound => trivial

theorem replaceAll_of_shortens (shortens : List.Forall₂ Shortens rest kept) (entry : ServerEntry) :
    replaceAll kept entry = replaceAll rest entry := by
  induction shortens generalizing entry with
  | nil => rfl
  | cons first _ inductionHypothesis =>
      simp only [replaceAll, List.foldl_cons, first.replace_eq] at inductionHypothesis ⊢
      exact inductionHypothesis _

theorem replace_of_isDefaultValue (default : setting.IsDefaultValue) (name address : String) :
    setting.replace { name, address } = { name, address } := by
  cases setting <;> first | exact default.elim | (cases default; rfl)

theorem replaceAll_of_isDefaultValue (default : ∀ setting ∈ left, setting.IsDefaultValue)
    (name address : String) : replaceAll left { name, address } = { name, address } := by
  induction left with
  | nil => rfl
  | cons setting left inductionHypothesis =>
      have unchanged := replace_of_isDefaultValue (default setting List.mem_cons_self) name address
      simp only [replaceAll, List.foldl_cons, unchanged] at inductionHypothesis ⊢
      exact inductionHypothesis fun other isOther => default other (List.mem_cons_of_mem _ isOther)

/-- What is left out makes no difference for a new entry. -/
theorem LeavesOut.replaceAll_eq (leavesOut : LeavesOut all kept) (distinct : (all.map key).Nodup)
    (name address : String) : replaceAll kept { name, address } = replaceAll all { name, address } := by
  obtain ⟨left, rest, order, default, shortens⟩ := leavesOut
  rw [replaceAll_of_shortens shortens, replaceAll_perm distinct order]
  simp only [replaceAll, List.foldl_append]
  have unchanged := replaceAll_of_isDefaultValue default name address
  rw [replaceAll] at unchanged
  rw [unchanged]

theorem LeavesOut.fits (leavesOut : LeavesOut all kept) (fits : ∀ setting ∈ all, setting.Fits) :
    ∀ setting ∈ kept, setting.Fits := by
  obtain ⟨left, rest, order, -, shortens⟩ := leavesOut
  have restFits : ∀ setting ∈ rest, setting.Fits := fun setting isSetting =>
    fits setting (order.mem_iff.2 (List.mem_append_right _ isSetting))
  clear order fits
  induction shortens with
  | nil => simp
  | cons first _ inductionHypothesis =>
      rw [List.forall_mem_cons] at restFits ⊢
      exact ⟨first.fits restFits.1, inductionHypothesis restFits.2⟩

end Setting

namespace Settings

theorem entry_of_leavesOut {entry : ServerEntry} {table : ServerTable}
    (leavesOut : Setting.LeavesOut (settingsOf entry) table.given) : table.entry = entry := by
  rw [← table.replaceAll_given entry.name entry.address,
    leavesOut.replaceAll_eq (wholeTable entry).distinct]
  exact entry_wholeTable entry

theorem settingsOf_fit {entry : ServerEntry} (small : ∀ number ∈ largeNumbers entry, number.toNat ≤ integerLimit) :
    ∀ setting ∈ settingsOf entry, setting.Fits := by
  have idle : entry.idleMilliseconds.toNat ≤ integerLimit := small _ (by simp [largeNumbers])
  have pending : entry.maxPending.toNat ≤ integerLimit := small _ (by simp [largeNumbers])
  have handshake : ∀ files, entry.tls = some files → files.handshakeMilliseconds.toNat ≤ integerLimit :=
    fun files isTls => small _ (by simp [largeNumbers, isTls])
  intro setting isSetting
  cases setting with
  | idleMilliseconds value =>
      obtain rfl : value = entry.idleMilliseconds := by simpa [settingsOf] using isSetting
      exact idle
  | maxPending value =>
      obtain rfl : value = entry.maxPending := by simpa [settingsOf] using isSetting
      exact pending
  | tls certPath keyPath bound =>
      obtain ⟨files, isTls, rfl, rfl, rfl⟩ : ∃ files, entry.tls = some files ∧ files.certPath = certPath ∧
          files.keyPath = keyPath ∧ some files.handshakeMilliseconds = bound := by
        simpa [settingsOf] using isSetting
      exact handshake files isTls
  | _ => trivial

/-- A document that was saved is read the same when settings with default values are left out of its tables,
and when its log level is left out if it is the default one. -/
theorem parse_abridged {settings : Settings} (fits : settings.fits = true) {level : Option String}
    (isLevel : level.getD ({} : Settings).logLevel = settings.logLevel) {tables : List ServerTable}
    {layouts : List Layout}
    (leavesOut : List.Forall₂ (fun entry table => Setting.LeavesOut (settingsOf entry) table.given)
      settings.servers tables)
    (laidOut : List.Forall₂ ServerTable.LaidOut tables layouts) :
    parse (String.ofList (writtenText level layouts)) = parse (String.ofList settings.document) := by
  have small : ∀ entry ∈ settings.servers, ∀ number ∈ largeNumbers entry, number.toNat ≤ integerLimit := by
    simpa [Settings.fits] using fits
  obtain ⟨tablesFit, sameEntries⟩ : (∀ table ∈ tables, ∀ setting ∈ table.given, setting.Fits) ∧
      tables.map ServerTable.entry = settings.servers := by
    generalize settings.servers = servers at small leavesOut ⊢
    clear laidOut
    induction leavesOut with
    | nil => simp
    | cons first _ inductionHypothesis =>
        rw [List.forall_mem_cons] at small ⊢
        obtain ⟨restFits, restSame⟩ := inductionHypothesis small.2
        refine ⟨⟨first.fits (settingsOf_fit small.1), restFits⟩, ?_⟩
        rw [List.map_cons, restSame, entry_of_leavesOut first]
  have given : givenSettings level tables = settings := by
    rw [givenSettings, sameEntries, isLevel]
  rw [parse_written laidOut tablesFit, given, parse_document fits]

end Settings

end ConnectionPool
