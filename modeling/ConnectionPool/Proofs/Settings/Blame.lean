import ConnectionPool.Proofs.Settings.Validation

/-!
Contract: the checks of settings blame the first entry that cannot be used behind those in front of it, for
the first of the checks that it fails.

Whether settings can be used does not depend on the order of their entries. Which entry is blamed does: it is
the one at which the entries read so far cease to be usable.

Owns:
- `EntryCheck`, the checks of one entry behind others in their order, with what they ask and report;
- `Settings.Blames`, the error that settings deserve, and `Settings.judged`, that they get it.

Does not own: what makes an address or limits valid.
-/

namespace ConnectionPool

open Text

/-- The checks of an entry behind others, in their order. -/
inductive EntryCheck where
  | nameShown
  | nameNew
  | oneDefault
  | address
  | limits
  | certificates
deriving DecidableEq, Repr

namespace EntryCheck

/-- Where a check stands in the order. -/
def rank : EntryCheck → Nat
  | .nameShown => 0
  | .nameNew => 1
  | .oneDefault => 2
  | .address => 3
  | .limits => 4
  | .certificates => 5

/-- What a check asks of an entry behind others. Without white space around it a name is not empty exactly
where some character of it is no white space. -/
def Passes (earlier : List ServerEntry) (entry : ServerEntry) : EntryCheck → Prop
  | .nameShown => ∃ char ∈ entry.name.toList, isSpace char = false
  | .nameNew => ∀ other ∈ earlier, other.name ≠ entry.name
  | .oneDefault => entry.isDefault = true → ∀ other ∈ earlier, other.isDefault = false
  | .address => ∃ address, ServerAddress.parse entry.address = .ok address
  | .limits => entry.limits.Valid
  | .certificates => ∀ address, ServerAddress.parse entry.address = .ok address →
      address.isEncrypted = true → entry.tls ≠ none

/-- What a check reports on an entry that fails it. -/
inductive Reports (entry : ServerEntry) : EntryCheck → String → Prop where
  | nameShown : Reports entry .nameShown "name must not be empty"
  | nameNew : Reports entry .nameNew "duplicate server name"
  | oneDefault : Reports entry .oneDefault "more than one server is marked default"
  | address {cause : AddressError} (refused : ServerAddress.parse entry.address = .error cause) :
      Reports entry .address cause.message
  | limits {cause : OptionsError} (refused : entry.limits.validate = .error cause) :
      Reports entry .limits cause.message
  | certificates : Reports entry .certificates "ssl:// address requires a [servers.tls] table"

/-- An entry behind others fails a check and passes all checks in front of it. -/
structure IsFirstFailed (earlier : List ServerEntry) (entry : ServerEntry) (check : EntryCheck) : Prop where
  fails : ¬ check.Passes earlier entry
  passed : ∀ other : EntryCheck, other.rank < check.rank → other.Passes earlier entry

variable {earlier : List ServerEntry} {entry : ServerEntry} {check other : EntryCheck}
  {reason otherReason : String}

theorem rank_injective (same : check.rank = other.rank) : check = other := by
  cases check <;> cases other <;> first | rfl | cases same

theorem IsFirstFailed.unique (first : IsFirstFailed earlier entry check)
    (second : IsFirstFailed earlier entry other) : check = other := by
  refine rank_injective (Nat.le_antisymm (Nat.le_of_not_lt fun before => ?_)
    (Nat.le_of_not_lt fun before => ?_))
  · exact second.fails (first.passed other before)
  · exact first.fails (second.passed check before)

theorem Reports.unique (first : Reports entry check reason) (second : Reports entry check otherReason) :
    reason = otherReason := by
  cases first with
  | address refused =>
      cases second with
      | address refusedToo => rw [Except.error.inj (refused.symm.trans refusedToo)]
  | limits refused =>
      cases second with
      | limits refusedToo => rw [Except.error.inj (refused.symm.trans refusedToo)]
  | nameShown | nameNew | oneDefault | certificates =>
      cases second
      rfl

theorem passes_nameShown_iff :
    EntryCheck.nameShown.Passes earlier entry ↔ isBlankText entry.name = false := by
  simp [Passes, isBlankText]

theorem passes_nameNew_iff : EntryCheck.nameNew.Passes earlier entry ↔
    entry.name ∉ (earlier.map ServerEntry.name).reverse := by
  simp [Passes]

theorem passes_oneDefault_iff : EntryCheck.oneDefault.Passes earlier entry ↔
    ¬ (entry.isDefault = true ∧ earlier.any ServerEntry.isDefault = true) := by
  simp [Passes]

/-- An entry passes the checks that do not look at other entries exactly where it can be used by itself. -/
theorem usable_iff_passes (earlier : List ServerEntry) (entry : ServerEntry) : entry.Usable ↔
    EntryCheck.nameShown.Passes earlier entry ∧ EntryCheck.address.Passes earlier entry ∧
      EntryCheck.limits.Passes earlier entry ∧ EntryCheck.certificates.Passes earlier entry := by
  rw [passes_nameShown_iff]
  constructor
  · rintro ⟨shown, ⟨address, parses, covered⟩, valid⟩
    refine ⟨shown, ⟨address, parses⟩, valid, fun other parsesToo => ?_⟩
    obtain rfl := Except.ok.inj (parses.symm.trans parsesToo)
    exact covered
  · rintro ⟨shown, ⟨address, parses⟩, valid, covered⟩
    exact ⟨shown, ⟨address, parses, covered address parses⟩, valid⟩

end EntryCheck

namespace Settings

open EntryCheck (IsFirstFailed Reports)

variable {settings other : Settings} {earlier later : List ServerEntry} {entry : ServerEntry}
  {error : EntryError} {logLevel : String}

/-! ## Settings that can be used -/

/-- The settings with their first entries only. -/
def front (count : Nat) (settings : Settings) : Settings :=
  { settings with servers := settings.servers.take count }

/-- One more entry can be used where it passes every check behind the others. -/
theorem valid_snoc_iff : (Settings.mk logLevel (earlier ++ [entry])).Valid ↔
    (Settings.mk logLevel earlier).Valid ∧ ∀ check : EntryCheck, check.Passes earlier entry := by
  have usable := EntryCheck.usable_iff_passes earlier entry
  constructor
  · rintro ⟨allUsable, distinct, oneDefault⟩
    rw [List.map_append, List.nodup_append] at distinct
    rw [List.pairwise_append] at oneDefault
    obtain ⟨shown, parses, valid, covered⟩ := usable.1 (allUsable entry (by simp))
    refine ⟨⟨fun other isOther => allUsable other (List.mem_append_left _ isOther), distinct.1,
      oneDefault.1⟩, fun check => ?_⟩
    cases check with
    | nameShown => exact shown
    | nameNew =>
        exact fun other isOther => distinct.2.2 _ (List.mem_map_of_mem isOther) _ (by simp)
    | oneDefault =>
        intro isDefault other isOther
        exact Bool.eq_false_iff.2 fun both => oneDefault.2.2 other isOther entry (by simp) ⟨both, isDefault⟩
    | address => exact parses
    | limits => exact valid
    | certificates => exact covered
  · rintro ⟨⟨allUsable, distinct, oneDefault⟩, passes⟩
    have isUsable : entry.Usable :=
      usable.2 ⟨passes .nameShown, passes .address, passes .limits, passes .certificates⟩
    refine ⟨?_, ?_, ?_⟩
    · exact List.forall_mem_append.2 ⟨allUsable, List.forall_mem_singleton.2 isUsable⟩
    · rw [List.map_append, List.nodup_append]
      refine ⟨distinct, List.nodup_singleton _, ?_⟩
      intro name isName last isLast
      obtain ⟨other, isOther, rfl⟩ := List.mem_map.1 isName
      rw [List.mem_singleton.1 isLast]
      exact passes .nameNew other isOther
    · refine List.pairwise_append.2 ⟨oneDefault, List.pairwise_singleton _ _, ?_⟩
      intro other isOther last isLast both
      obtain rfl := List.mem_singleton.1 isLast
      exact Bool.false_ne_true ((passes .oneDefault both.2 other isOther).symm.trans both.1)

theorem Valid.front (valid : settings.Valid) (count : Nat) : (settings.front count).Valid where
  usable := fun entry isEntry => valid.usable entry (List.mem_of_mem_take isEntry)
  names_distinct := valid.names_distinct.sublist ((List.take_sublist ..).map ServerEntry.name)
  one_default := valid.one_default.sublist (List.take_sublist ..)

theorem Valid.of_perm (valid : settings.Valid) (same : settings.servers.Perm other.servers) : other.Valid where
  usable := fun entry isEntry => valid.usable entry (same.mem_iff.2 isEntry)
  names_distinct := (same.map ServerEntry.name).nodup_iff.1 valid.names_distinct
  one_default := (same.pairwise_iff fun apart both => apart both.symm).1 valid.one_default

/-! ## The entry that is blamed -/

/-- What is said of one entry behind others with these names, one of which may be the default. -/
def judge (names : List String) (hasDefault : Bool) (entry : ServerEntry) : Except EntryError Unit :=
  if isBlankText entry.name then
    .error (entry.invalid "name must not be empty")
  else if entry.name ∈ names then
    .error (entry.invalid "duplicate server name")
  else if entry.isDefault ∧ hasDefault then
    .error (entry.invalid "more than one server is marked default")
  else
    entry.check

/-- Checks entries behind others. -/
def validateBehind (earlier later : List ServerEntry) : Except EntryError Unit :=
  validateFrom (earlier.map ServerEntry.name).reverse (earlier.any ServerEntry.isDefault) later

def judgeBehind (earlier : List ServerEntry) (entry : ServerEntry) : Except EntryError Unit :=
  judge (earlier.map ServerEntry.name).reverse (earlier.any ServerEntry.isDefault) entry

/-- Entries are judged one after the other, up to the first that is blamed. -/
theorem validateBehind_cons : validateBehind earlier (entry :: later) =
    match judgeBehind earlier entry with
    | .error cause => .error cause
    | .ok () => validateBehind (earlier ++ [entry]) later := by
  have names : ((earlier ++ [entry]).map ServerEntry.name).reverse =
      entry.name :: (earlier.map ServerEntry.name).reverse := by simp
  have default : (earlier ++ [entry]).any ServerEntry.isDefault =
      (earlier.any ServerEntry.isDefault || entry.isDefault) := by simp
  unfold validateBehind judgeBehind judge
  rw [names, default, validateFrom]
  split_ifs <;> rfl

/-- What may be said of one entry behind others. -/
inductive Verdict (earlier : List ServerEntry) (entry : ServerEntry) : Except EntryError Unit → Prop where
  | accepted (passes : ∀ check : EntryCheck, check.Passes earlier entry) : Verdict earlier entry (.ok ())
  | blamed {check : EntryCheck} {reason : String} (first : IsFirstFailed earlier entry check)
      (reports : Reports entry check reason) : Verdict earlier entry (.error (entry.invalid reason))

/-- Behind the checks that look at other entries come the checks of the entry alone. -/
theorem verdict_check (shown : EntryCheck.nameShown.Passes earlier entry)
    (isNew : EntryCheck.nameNew.Passes earlier entry)
    (alone : EntryCheck.oneDefault.Passes earlier entry) : Verdict earlier entry entry.check := by
  unfold ServerEntry.check ServerEntry.serverAddress
  cases parsed : ServerAddress.parse entry.address with
  | error cause =>
      have first : IsFirstFailed earlier entry .address := by
        refine ⟨?_, fun check before => ?_⟩
        · rintro ⟨address, parses⟩
          exact absurd (parsed.symm.trans parses) (by simp)
        · cases check <;> first | assumption | exact absurd before (by decide)
      exact .blamed first (.address parsed)
  | ok address =>
      have parses : EntryCheck.address.Passes earlier entry := ⟨address, parsed⟩
      dsimp only [ServerEntry.options]
      cases checked : entry.limits.validate with
      | error cause =>
          have first : IsFirstFailed earlier entry .limits := by
            refine ⟨?_, fun check before => ?_⟩
            · intro valid
              exact absurd (checked.symm.trans ((Options.validate_eq_ok_iff _).2 valid)) (by simp)
            · cases check <;> first | assumption | exact absurd before (by decide)
          exact .blamed first (.limits checked)
      | ok _ =>
          have valid : EntryCheck.limits.Passes earlier entry := (Options.validate_eq_ok_iff _).1 checked
          show Verdict earlier entry (if address.isEncrypted ∧ entry.tls = none then _ else _)
          split_ifs with isBare
          · have first : IsFirstFailed earlier entry .certificates := by
              refine ⟨?_, fun check before => ?_⟩
              · intro covered
                exact covered address parsed isBare.1 isBare.2
              · cases check <;> first | assumption | exact absurd before (by decide)
            exact .blamed first .certificates
          · have covered : EntryCheck.certificates.Passes earlier entry := by
              intro other parsesToo isEncrypted isNone
              obtain rfl := Except.ok.inj (parsed.symm.trans parsesToo)
              exact isBare ⟨isEncrypted, isNone⟩
            refine .accepted fun check => ?_
            cases check <;> assumption

theorem verdict_judgeBehind : Verdict earlier entry (judgeBehind earlier entry) := by
  unfold judgeBehind judge
  split_ifs with isBlank isTaken isSecond
  · refine .blamed ⟨fun shown => ?_, fun other before => absurd before (Nat.not_lt_zero _)⟩ .nameShown
    exact Bool.false_ne_true ((EntryCheck.passes_nameShown_iff.1 shown).symm.trans isBlank)
  all_goals
    have shown : EntryCheck.nameShown.Passes earlier entry :=
      EntryCheck.passes_nameShown_iff.2 (Bool.eq_false_iff.2 isBlank)
  · refine .blamed ⟨fun isNew => EntryCheck.passes_nameNew_iff.1 isNew isTaken, fun check before => ?_⟩
      .nameNew
    cases check <;> first | assumption | exact absurd before (by decide)
  all_goals
    have isNew : EntryCheck.nameNew.Passes earlier entry := EntryCheck.passes_nameNew_iff.2 isTaken
  · refine .blamed ⟨fun alone => EntryCheck.passes_oneDefault_iff.1 alone isSecond, fun check before => ?_⟩
      .oneDefault
    cases check <;> first | assumption | exact absurd before (by decide)
  · exact verdict_check shown isNew (EntryCheck.passes_oneDefault_iff.2 isSecond)

/-- The entry is judged as its verdict says, since an entry has only one first failed check and only one
reason is reported for it. -/
theorem judgeBehind_eq_error_iff : judgeBehind earlier entry = .error error ↔
    ∃ check reason, IsFirstFailed earlier entry check ∧ Reports entry check reason ∧
      error = entry.invalid reason := by
  have verdict : Verdict earlier entry (judgeBehind earlier entry) := verdict_judgeBehind
  constructor
  · intro blamed
    rw [blamed] at verdict
    cases verdict with
    | blamed first reports => exact ⟨_, _, first, reports, rfl⟩
  · rintro ⟨check, reason, first, reports, rfl⟩
    generalize judgeBehind earlier entry = judged at verdict
    cases verdict with
    | accepted passes => exact absurd (passes check) first.fails
    | blamed actual actualReports =>
        obtain rfl := first.unique actual
        rw [reports.unique actualReports]

/-- Entries are blamed where one of them is, behind entries none of which is. -/
theorem validateBehind_eq_error_iff : validateBehind earlier later = .error error ↔
    ∃ passed entry rest, later = passed ++ entry :: rest ∧ validateBehind earlier passed = .ok () ∧
      judgeBehind (earlier ++ passed) entry = .error error := by
  induction later generalizing earlier with
  | nil => simp [validateBehind, validateFrom]
  | cons first later inductionHypothesis =>
      rw [validateBehind_cons]
      constructor
      · intro blamed
        cases judged : judgeBehind earlier first with
        | error cause =>
            rw [judged] at blamed
            exact ⟨[], first, later, rfl, rfl, by simpa [judged] using blamed⟩
        | ok _ =>
            rw [judged] at blamed
            obtain ⟨passed, entry, rest, rfl, accepted, judgedNext⟩ := inductionHypothesis.1 blamed
            refine ⟨first :: passed, entry, rest, rfl, ?_, by simpa using judgedNext⟩
            rw [validateBehind_cons, judged]
            exact accepted
      · rintro ⟨passed, entry, rest, isSplit, accepted, judgedNext⟩
        cases passed with
        | nil =>
            obtain ⟨rfl, rfl⟩ := List.cons.inj isSplit
            rw [List.append_nil] at judgedNext
            rw [judgedNext]
        | cons _ passed =>
            obtain ⟨rfl, rfl⟩ := List.cons.inj isSplit
            rw [validateBehind_cons] at accepted
            cases judged : judgeBehind earlier first with
            | error cause =>
                rw [judged] at accepted
                cases accepted
            | ok _ =>
                rw [judged] at accepted
                exact inductionHypothesis.2 ⟨passed, entry, rest, rfl, accepted, by simpa using judgedNext⟩

/-- The error that settings deserve: it names the entry at the least position at which the entries so far
cease to be usable, for the first check that this entry fails behind the others. -/
structure Blames (settings : Settings) (error : EntryError) (position : Nat) (check : EntryCheck) : Prop where
  valid : (settings.front position).Valid
  ceases : ¬ (settings.front (position + 1)).Valid
  least : ∀ other < position, (settings.front other).Valid → (settings.front (other + 1)).Valid
  blamed : ∃ entry reason, settings.servers[position]? = some entry ∧
    IsFirstFailed (settings.servers.take position) entry check ∧ Reports entry check reason ∧
      error = entry.invalid reason

/-- What is asked of the checks of settings. -/
structure Judged (settings : Settings) : Prop where
  accepted_iff : settings.validate = .ok () ↔ settings.Valid
  rejected_iff : ∀ error, settings.validate = .error error ↔
    ∃ position check, settings.Blames error position check
  hereditary : settings.validate = .ok () → ∀ count, (settings.front count).validate = .ok ()
  unordered : ∀ other : Settings, settings.servers.Perm other.servers →
    (settings.validate = .ok () ↔ other.validate = .ok ())

/-- Settings cut behind a front part consist of the entries of that part. -/
theorem valid_front_iff {count : Nat} : (settings.front count).Valid ↔
    validateBehind [] (settings.servers.take count) = .ok () :=
  validate_eq_ok_iff.symm

theorem validate_eq_error_iff : settings.validate = .error error ↔
    ∃ position check, settings.Blames error position check := by
  show validateBehind [] settings.servers = .error error ↔ _
  rw [validateBehind_eq_error_iff]
  constructor
  · rintro ⟨passed, entry, rest, isSplit, accepted, judged⟩
    have upTo : settings.servers.take passed.length = passed := by simp [isSplit]
    have upToNext : settings.servers.take (passed.length + 1) = passed ++ [entry] := by
      rw [isSplit, List.take_length_add_append]
      rfl
    have valid : (settings.front passed.length).Valid := valid_front_iff.2 (upTo.symm ▸ accepted)
    obtain ⟨check, reason, isFirst, reports, isError⟩ := judgeBehind_eq_error_iff.1 judged
    refine ⟨passed.length, check, valid, fun stillValid => ?_, fun other before _ => ?_, entry, reason,
      by simp [isSplit], upTo.symm ▸ isFirst, reports, isError⟩
    · rw [front, upToNext] at stillValid
      exact isFirst.fails ((valid_snoc_iff.1 stillValid).2 check)
    · have shorter := valid.front (other + 1)
      rwa [front, front, List.take_take, Nat.min_eq_left before] at shorter
  · rintro ⟨position, check, valid, -, -, entry, reason, isEntry, isFirst, reports, isError⟩
    obtain ⟨within, isEntry⟩ := List.getElem?_eq_some_iff.1 isEntry
    refine ⟨settings.servers.take position, entry, settings.servers.drop (position + 1), ?_,
      valid_front_iff.1 valid, judgeBehind_eq_error_iff.2 ⟨check, reason, isFirst, reports, isError⟩⟩
    rw [← isEntry, List.getElem_cons_drop, List.take_append_drop]

/-- The checks of settings accept exactly the settings that can be used, whatever the order of their entries
and with every front part of them, and blame the first entry that cannot be used otherwise. -/
theorem judged (settings : Settings) : settings.Judged where
  accepted_iff := validate_eq_ok_iff
  rejected_iff := fun _ => validate_eq_error_iff
  hereditary := fun accepted count =>
    validate_eq_ok_iff.2 ((validate_eq_ok_iff.1 accepted).front count)
  unordered := fun _ same => by
    rw [validate_eq_ok_iff, validate_eq_ok_iff]
    exact ⟨fun valid => valid.of_perm same, fun valid => valid.of_perm same.symm⟩

end Settings

end ConnectionPool
