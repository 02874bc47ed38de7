import ConnectionPool.Proofs.Bytes
import ConnectionPool.Proofs.Files.Tree
import ConnectionPool.Proofs.Settings.Document
import ConnectionPool.Settings.File

/-!
Contract: settings in a file are saved whole or not at all.

Owns:
- `Settings.Oversized`, the settings that the format cannot hold, and `Settings.Writable`, the paths at which
  a file can be written;
- `readText_of_saveIn`, what a file holds that settings were saved in;
- `keepsFiles_of_saveIn`, the files after settings could not be saved;
- `Settings.SavedWhole` and `savedWhole`, the law of saving and loading.

Does not own: the settings that a service accepts.
-/

namespace ConnectionPool.Settings

/-! ## Numbers -/

/-- The whole numbers of an entry. -/
def wholeNumbers (entry : ServerEntry) : List Nat :=
  [entry.minWorkers.toNat, entry.maxWorkers.toNat, entry.idleMilliseconds.toNat, entry.maxPending.toNat] ++
    entry.tls.toList.map fun files => files.handshakeMilliseconds.toNat

/-- Some number is larger than any that a document can hold. -/
def Oversized (settings : Settings) : Prop :=
  ∃ entry ∈ settings.servers, ∃ number ∈ wholeNumbers entry, integerLimit < number

/-- The numbers of 32 bits are never too large. -/
theorem largeNumbers_le_iff (entry : ServerEntry) :
    (∀ number ∈ largeNumbers entry, number.toNat ≤ integerLimit) ↔
      ∀ number ∈ wholeNumbers entry, number ≤ integerLimit := by
  have minFits : entry.minWorkers.toNat ≤ integerLimit := by
    have := entry.minWorkers.toNat_lt
    simp only [integerLimit]
    omega
  have maxFits : entry.maxWorkers.toNat ≤ integerLimit := by
    have := entry.maxWorkers.toNat_lt
    simp only [integerLimit]
    omega
  cases hasTls : entry.tls <;> simp [largeNumbers, wholeNumbers, hasTls, minFits, maxFits]

theorem fits_iff_not_oversized (settings : Settings) : settings.fits = true ↔ ¬ Oversized settings := by
  simp only [fits, List.all_eq_true, decide_eq_true_eq, largeNumbers_le_iff, Oversized, not_exists,
    not_and, Nat.not_lt]

theorem render_of_not_oversized {settings : Settings} (fitting : ¬ Oversized settings) :
    settings.render = some (String.ofList settings.document) := by
  rw [render, if_pos ((fits_iff_not_oversized settings).mpr fitting)]

theorem render_of_oversized {settings : Settings} (oversized : Oversized settings) :
    settings.render = none := by
  rw [render, if_neg fun fitting => (fits_iff_not_oversized settings).mp fitting oversized]

/-! ## Saving -/

/-- The directory of a path is there or can be made, and then a file can be written at the path. -/
def Writable (tree : FileTree) (path : String) : Prop :=
  ∃ prepared, prepare tree path = (.ok (), prepared) ∧
    ∃ content written, prepared.write path content = .ok written

section

variable {tree after : FileTree} {path : String} {settings : Settings}

/-- Settings that were saved fit the format, and the file holds their text. -/
theorem readText_of_saveIn (saved : saveIn tree path settings = (.ok (), after)) :
    ¬ Oversized settings ∧ after.readText path = .ok (String.ofList settings.document) := by
  unfold saveIn at saved
  split at saved
  · cases saved
  · split at saved
    · cases saved
    · next text isText =>
        split at saved
        · cases saved
        · next written =>
            cases saved
            have fitting : ¬ Oversized settings := by
              intro oversized
              rw [render_of_oversized oversized] at isText
              cases isText
            rw [render_of_not_oversized fitting] at isText
            cases isText
            refine ⟨fitting, ?_⟩
            simp only [FileTree.readText, FileTree.read_of_write written, Except.bind,
              Bytes.text?_ofText]

theorem keepsFiles_prepare (tree : FileTree) (path : String) :
    FileTree.KeepsFiles tree (prepare tree path).2 := by
  unfold prepare
  split
  · exact .refl tree
  · exact FileTree.keepsFiles_makeDirectories tree _

/-- Where settings cannot be saved, directories may have been made, but the files are as they were. -/
theorem keepsFiles_of_saveIn {cause : SettingsError}
    (failed : saveIn tree path settings = (.error cause, after)) : FileTree.KeepsFiles tree after := by
  have prepareKept := keepsFiles_prepare tree path
  unfold saveIn at failed
  split at failed
  · next prepared =>
      rw [prepared] at prepareKept
      cases failed
      exact prepareKept
  · next prepared =>
      rw [prepared] at prepareKept
      split at failed
      · cases failed
        exact prepareKept
      · split at failed
        · cases failed
          exact prepareKept
        · cases failed

theorem saveIn_of_oversized {prepared : FileTree} (isPrepared : prepare tree path = (.ok (), prepared))
    (oversized : Oversized settings) : saveIn tree path settings = (.error .tooLarge, prepared) := by
  simp only [saveIn, isPrepared, render_of_oversized oversized]

theorem saveIn_of_not_oversized (writable : Writable tree path) (fitting : ¬ Oversized settings) :
    ∃ after, saveIn tree path settings = (.ok (), after) := by
  obtain ⟨prepared, isPrepared, content, written, isWritten⟩ := writable
  obtain ⟨after, isAfter⟩ :=
    FileTree.write_ok_of_write_ok isWritten (Bytes.ofText (String.ofList settings.document))
  refine ⟨after, ?_⟩
  simp only [saveIn, isPrepared, render_of_not_oversized fitting, isAfter]

theorem save_eq_ok_iff : save tree path settings = .ok after ↔ saveIn tree path settings = (.ok (), after) := by
  unfold save
  split
  · next failed => simp [failed]
  · next saved => simp [saved]

theorem save_eq_error_iff {cause : SettingsError} :
    save tree path settings = .error cause ↔ ∃ after, saveIn tree path settings = (.error cause, after) := by
  unfold save
  split
  · next failed => simp [failed]
  · next saved => simp [saved]

end

/-! ## The law of saving and loading -/

/-- Settings that are saved in a file are loaded from it as they were; settings that are not saved leave the
files alone. -/
structure SavedWhole (tree : FileTree) (path : String) (settings : Settings) : Prop where
  loads : ∀ after, save tree path settings = .ok after → load after path = .ok settings
  /-- Where a file can be written, settings are saved unless a number is too large for the format. -/
  saves : Writable tree path → ((∃ after, save tree path settings = .ok after) ↔ ¬ Oversized settings)
  tooLarge : Writable tree path → (save tree path settings = .error .tooLarge ↔ Oversized settings)
  /-- A failure of any cause leaves behind a tree with the files of before. -/
  filesKept : ∀ cause, save tree path settings = .error cause →
    ∃ after, saveIn tree path settings = (.error cause, after) ∧ FileTree.KeepsFiles tree after

theorem load_of_save {tree after : FileTree} {path : String} {settings : Settings}
    (saved : save tree path settings = .ok after) : load after path = .ok settings := by
  obtain ⟨fitting, holdsText⟩ := readText_of_saveIn (save_eq_ok_iff.mp saved)
  have isParsed := parse_document ((fits_iff_not_oversized settings).mpr fitting)
  simp only [load, holdsText, isParsed, Except.mapError]

theorem savedWhole (tree : FileTree) (path : String) (settings : Settings) :
    SavedWhole tree path settings where
  loads _ saved := load_of_save saved
  saves writable := by
    constructor
    · rintro ⟨after, saved⟩
      exact (readText_of_saveIn (save_eq_ok_iff.mp saved)).1
    · intro fitting
      obtain ⟨after, saved⟩ := saveIn_of_not_oversized writable fitting
      exact ⟨after, save_eq_ok_iff.mpr saved⟩
  tooLarge writable := by
    constructor
    · intro failed
      by_contra fitting
      obtain ⟨after, saved⟩ := saveIn_of_not_oversized writable fitting
      rw [save_eq_ok_iff.mpr saved] at failed
      cases failed
    · intro oversized
      obtain ⟨prepared, isPrepared, -⟩ := writable
      exact save_eq_error_iff.mpr ⟨prepared, saveIn_of_oversized isPrepared oversized⟩
  filesKept cause failed := by
    obtain ⟨after, isAfter⟩ := save_eq_error_iff.mp failed
    exact ⟨after, isAfter, keepsFiles_of_saveIn isAfter⟩

/-- In a directory that is missing, texts with quotes and control characters are saved and loaded, and a
number that is too large by one is not saved. -/
theorem savedWhole_in_missing_directory :
    Writable {} "etc/app.toml" ∧
      (∃ after, save {} "etc/app.toml" { logLevel := "'''\"\"\"\n\r\t\\" } = .ok after ∧
        load after "etc/app.toml" = .ok { logLevel := "'''\"\"\"\n\r\t\\" }) ∧
      save {} "etc/app.toml"
          { servers := [{ name := "echo", address := "tcp://[::1]:7", maxPending := 9223372036854775808 }] } =
        .error .tooLarge := by
  have writable : Writable {} "etc/app.toml" := ⟨_, rfl, [], _, rfl⟩
  refine ⟨writable, ?_, ?_⟩
  · have fitting : ¬ Oversized { logLevel := "'''\"\"\"\n\r\t\\" } := by simp [Oversized]
    obtain ⟨after, saved⟩ := ((savedWhole _ _ _).saves writable).mpr fitting
    exact ⟨after, saved, (savedWhole _ _ _).loads after saved⟩
  · apply ((savedWhole _ _ _).tooLarge writable).mpr
    simp [Oversized, wholeNumbers, integerLimit]

end ConnectionPool.Settings
