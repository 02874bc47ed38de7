import Mathlib.Data.List.Nodup
import ConnectionPool.Settings.Entry

/-!
Contract: the checks of settings accept exactly the settings that are valid.

Owns:
- `ServerEntry.check_eq_ok_iff`, for one entry;
- `Settings.ValidBehind` and `Settings.validateFrom_eq_ok_iff`, for entries behind others, and
  `Settings.validate_eq_ok_iff`.

Does not own: which entry is blamed and for what.
-/

namespace ConnectionPool

namespace ServerEntry

variable {entry : ServerEntry}

theorem serverAddress_eq_ok_iff {address : ServerAddress} :
    entry.serverAddress = .ok address ↔ ServerAddress.parse entry.address = .ok address := by
  unfold serverAddress
  cases ServerAddress.parse entry.address <;> simp [Except.mapError]

theorem options_eq_ok_iff {options : Options} :
    entry.options = .ok options ↔ entry.limits.Valid ∧ options = entry.limits := by
  have accepted := Options.validate_eq_ok_iff entry.limits
  unfold ServerEntry.options
  split
  · next isOk =>
      simp [accepted.1 isOk, eq_comm]
  · next cause isError =>
      have rejected : ¬ entry.limits.Valid := fun valid => by simp [accepted.2 valid] at isError
      simp [rejected]

theorem check_eq_ok_iff :
    entry.check = .ok () ↔ (∃ address, ServerAddress.parse entry.address = .ok address ∧
      (address.isEncrypted = true → entry.tls ≠ none)) ∧ entry.limits.Valid := by
  unfold check
  split
  · next cause isError =>
      have unparsed (address : ServerAddress) : ServerAddress.parse entry.address ≠ .ok address :=
        fun parsed => by simp [serverAddress_eq_ok_iff.2 parsed] at isError
      simp [unparsed]
  · next address isOk =>
      have parsed := serverAddress_eq_ok_iff.1 isOk
      split
      · next cause isError =>
          have rejected : ¬ entry.limits.Valid :=
            fun valid => by simp [options_eq_ok_iff.2 ⟨valid, rfl⟩] at isError
          simp [rejected]
      · next options isOk =>
          have valid := (options_eq_ok_iff.1 isOk).1
          simp [parsed, valid]

end ServerEntry

namespace Settings

/-- The entries can be used behind others that have the given names and of which one may be the default. -/
structure ValidBehind (names : List String) (hasDefault : Bool) (entries : List ServerEntry) : Prop where
  usable : ∀ entry ∈ entries, entry.Usable
  names_distinct : (entries.map ServerEntry.name).Nodup
  names_fresh : ∀ entry ∈ entries, entry.name ∉ names
  one_default : entries.Pairwise fun entry later => ¬ (entry.isDefault = true ∧ later.isDefault = true)
  no_second : hasDefault = true → ∀ entry ∈ entries, entry.isDefault = false

/-- An entry can be used in front of others when it can be used by itself, its name is new, and it is no
second default. -/
theorem validBehind_cons_iff {names : List String} {hasDefault : Bool} {entry : ServerEntry}
    {entries : List ServerEntry} :
    ValidBehind names hasDefault (entry :: entries) ↔
      (entry.Usable ∧ entry.name ∉ names ∧ ¬ (entry.isDefault = true ∧ hasDefault = true)) ∧
        ValidBehind (entry.name :: names) (hasDefault || entry.isDefault) entries := by
  constructor
  · rintro ⟨usable, distinct, fresh, oneDefault, noSecond⟩
    have distinctNames := List.nodup_cons.1 distinct
    have oneDefaultPairs := List.pairwise_cons.1 oneDefault
    refine ⟨⟨usable entry (by simp), fresh entry (by simp), ?_⟩,
      (List.forall_mem_cons.1 usable).2, distinctNames.2, ?_, oneDefaultPairs.2, ?_⟩
    · rintro ⟨isDefault, before⟩
      exact Bool.false_ne_true ((noSecond before entry (by simp)).symm.trans isDefault)
    · intro other isOther taken
      obtain sameName | inNames := List.mem_cons.1 taken
      · exact distinctNames.1 (List.mem_map.2 ⟨other, isOther, sameName⟩)
      · exact fresh other (List.mem_cons_of_mem _ isOther) inNames
    · intro anyDefault other isOther
      obtain before | here := (Bool.or_eq_true _ _).mp anyDefault
      · exact noSecond before other (List.mem_cons_of_mem _ isOther)
      · exact Bool.eq_false_iff.2 fun later => oneDefaultPairs.1 other isOther ⟨here, later⟩
  · rintro ⟨⟨usable, newName, notSecond⟩, restUsable, distinct, fresh, oneDefault, noSecond⟩
    have nameFresh : entry.name ∉ entries.map ServerEntry.name := by
      intro repeated
      obtain ⟨other, isOther, sameName⟩ := List.mem_map.1 repeated
      exact fresh other isOther (by simp [sameName])
    refine ⟨List.forall_mem_cons.2 ⟨usable, restUsable⟩, List.nodup_cons.2 ⟨nameFresh, distinct⟩,
      List.forall_mem_cons.2 ⟨newName, ?_⟩, List.pairwise_cons.2 ⟨?_, oneDefault⟩, ?_⟩
    · intro other isOther inNames
      exact fresh other isOther (List.mem_cons_of_mem _ inNames)
    · intro other isOther both
      have notDefault := noSecond (by simp [both.1]) other isOther
      exact Bool.false_ne_true (notDefault.symm.trans both.2)
    · intro before
      have notDefault : entry.isDefault = false := Bool.eq_false_iff.2 fun here => notSecond ⟨here, before⟩
      exact List.forall_mem_cons.2 ⟨notDefault, noSecond (by simp [before])⟩

theorem validateFrom_eq_ok_iff {names : List String} {hasDefault : Bool} {entries : List ServerEntry} :
    validateFrom names hasDefault entries = .ok () ↔ ValidBehind names hasDefault entries := by
  induction entries generalizing names hasDefault with
  | nil => exact ⟨fun _ => ⟨by simp, by simp, by simp, by simp, by simp⟩, fun _ => rfl⟩
  | cons entry entries inductionHypothesis =>
      have usable : entry.Usable ↔ Text.isBlankText entry.name = false ∧ entry.check = .ok () := by
        rw [ServerEntry.check_eq_ok_iff]
        exact ⟨fun ⟨notBlank, parses, valid⟩ => ⟨notBlank, parses, valid⟩,
          fun ⟨notBlank, parses, valid⟩ => ⟨notBlank, parses, valid⟩⟩
      rw [validBehind_cons_iff, usable]
      unfold validateFrom
      split_ifs with isBlank isTaken isSecond
      · simp [isBlank]
      · simp [isTaken]
      · simp [isSecond.1, isSecond.2]
      · have notBlank : Text.isBlankText entry.name = false := by simpa using isBlank
        split
        · next cause isError => simp [isError]
        · next isOk =>
            rw [inductionHypothesis]
            exact ⟨fun valid => ⟨⟨⟨notBlank, isOk⟩, isTaken, isSecond⟩, valid⟩, fun valid => valid.2⟩

theorem validate_eq_ok_iff {settings : Settings} : settings.validate = .ok () ↔ settings.Valid := by
  unfold validate
  rw [validateFrom_eq_ok_iff]
  constructor
  · rintro ⟨usable, distinct, -, oneDefault, -⟩
    exact ⟨usable, distinct, oneDefault⟩
  · rintro ⟨usable, distinct, oneDefault⟩
    exact ⟨usable, distinct, by simp, oneDefault, by simp⟩

end Settings

end ConnectionPool
