import ConnectionPool.Proofs.CommandLine.Typed
import ConnectionPool.Proofs.Lookup
import ConnectionPool.Proofs.Settings.Given

/-!
Contract: the entry of a command line has the settings that flags give, and the default ones for all other flags.

Owns:
- `FlagValue`, the value of a flag with what it stores, in any order, and `Means`, the texts that are read as it;
- `GivenBy`, the flags that give a setting of a server, and `Gives`, the settings that a command line and the
  environment give together;
- `serverEntry_of_gives`: the command line is read, and its entry has those settings.

Does not own: the ways to write flags as arguments.
-/

namespace ConnectionPool.CommandLine

/-! ## Values of flags -/

/-- The value of a flag. -/
inductive FlagValue where
  | config (path : String)
  | address (text : String)
  | name (text : String)
  | minWorkers (value : UInt32)
  | maxWorkers (value : UInt32)
  | idleTimeout (value : UInt64)
  | maxPending (value : UInt64)
  | busyMessage (text : String)
  | tlsCert (path : String)
  | tlsKey (path : String)
  | interruptClients (value : Bool)

namespace FlagValue

def flag : FlagValue → Flag
  | config _ => .config
  | address _ => .address
  | name _ => .name
  | minWorkers _ => .minWorkers
  | maxWorkers _ => .maxWorkers
  | idleTimeout _ => .idleTimeout
  | maxPending _ => .maxPending
  | busyMessage _ => .busyMessage
  | tlsCert _ => .tlsCert
  | tlsKey _ => .tlsKey
  | interruptClients _ => .interruptClients

def store : FlagValue → Arguments → Arguments
  | config path, arguments => { arguments with config := some path }
  | address text, arguments => { arguments with address := text }
  | name text, arguments => { arguments with name := text }
  | minWorkers value, arguments => { arguments with minWorkers := value }
  | maxWorkers value, arguments => { arguments with maxWorkers := value }
  | idleTimeout value, arguments => { arguments with idleMilliseconds := value }
  | maxPending value, arguments => { arguments with maxPending := value }
  | busyMessage text, arguments => { arguments with busyMessage := some text }
  | tlsCert path, arguments => { arguments with tlsCert := some path }
  | tlsKey path, arguments => { arguments with tlsKey := some path }
  | interruptClients value, arguments => { arguments with interruptClients := value }

def storeAll (values : List FlagValue) (arguments : Arguments) : Arguments :=
  values.foldl (fun arguments value => value.store arguments) arguments

/-- The values of different flags do not get into each other's way. -/
theorem store_comm {value other : FlagValue} (differs : value.flag ≠ other.flag) (arguments : Arguments) :
    other.store (value.store arguments) = value.store (other.store arguments) := by
  cases value <;> cases other <;> first | rfl | exact absurd rfl differs

theorem storeAll_perm {values others : List FlagValue} (distinct : (values.map flag).Nodup)
    (same : values.Perm others) (arguments : Arguments) : storeAll values arguments = storeAll others arguments := by
  refine same.foldl_eq' (fun value isValue other isOther arguments => ?_) arguments
  by_cases sameFlag : value.flag = other.flag
  · rw [List.inj_on_of_nodup_map distinct isValue isOther sameFlag]
  · exact store_comm sameFlag arguments

end FlagValue

/-- The text given for the flag is read as the value. -/
def Means (given : Flag × String) (value : FlagValue) : Prop :=
  given.1 = value.flag ∧ ∀ arguments : Arguments, arguments.set given.1 given.2 = .ok (value.store arguments)

theorem flags_of_means {given : List (Flag × String)} {values : List FlagValue}
    (means : List.Forall₂ Means given values) : values.map FlagValue.flag = given.map Prod.fst := by
  induction means with
  | nil => rfl
  | cons first _ inductionHypothesis => rw [List.map_cons, List.map_cons, inductionHypothesis, first.1]

/-- Flags that are given once each, with texts that are read as values, are accepted. -/
theorem acceptAll_of_means {given : List (Flag × String)} {values : List FlagValue}
    (means : List.Forall₂ Means given values) {reading : Reading}
    (distinct : ((given.map Prod.fst).reverse ++ reading.given).Nodup) :
    reading.acceptAll given = .ok { reading with
      arguments := FlagValue.storeAll values reading.arguments
      given := (given.map Prod.fst).reverse ++ reading.given } := by
  induction means generalizing reading with
  | nil => rfl
  | @cons first value more values isFirst _ inductionHypothesis =>
      rw [List.map_cons, List.reverse_cons, List.append_assoc, List.singleton_append] at distinct ⊢
      have isNew : first.1 ∉ reading.given :=
        (List.nodup_cons.1 (List.nodup_append.1 distinct).2.1).1
      have accepted : reading.accept first.1 first.2 = .ok { reading with
          arguments := value.store reading.arguments, given := first.1 :: reading.given } :=
        Reading.accept_eq_ok_iff.2 ⟨isNew, _, isFirst.2 reading.arguments, rfl⟩
      rw [Reading.acceptAll, accepted]
      exact inductionHypothesis distinct

/-! ## Settings given by flags -/

/-- The flags that give a setting of a server, with texts that are read as its value. There is none that makes a
server the default and none for the bound of the handshakes. -/
inductive GivenBy : Setting → List (Flag × String) → Prop
  | name (text : String) : GivenBy (.name text) [(.name, text)]
  | address (text : String) : GivenBy (.address text) [(.address, text)]
  | minWorkers {text : String} {value : UInt32} (isRead : readWord32 .minWorkers text = .ok value) :
      GivenBy (.minWorkers value) [(.minWorkers, text)]
  | maxWorkers {text : String} {value : UInt32} (isRead : readWord32 .maxWorkers text = .ok value) :
      GivenBy (.maxWorkers value) [(.maxWorkers, text)]
  | idleMilliseconds {text : String} {value : UInt64} (isRead : readWord64 .idleTimeout text = .ok value) :
      GivenBy (.idleMilliseconds value) [(.idleTimeout, text)]
  | maxPending {text : String} {value : UInt64} (isRead : readWord64 .maxPending text = .ok value) :
      GivenBy (.maxPending value) [(.maxPending, text)]
  | busyMessage (text : String) : GivenBy (.busyMessage text) [(.busyMessage, text)]
  | shutdownMode {text : String} {mode : StopMode}
      (isRead : readChoice .interruptClients text = .ok (decide (mode = .interruptClients))) :
      GivenBy (.shutdownMode mode) [(.interruptClients, text)]
  | tls {certPath keyPath : String} (certShown : certPath ≠ "") (keyShown : keyPath ≠ "") :
      GivenBy (.tls certPath keyPath none) [(.tlsCert, certPath), (.tlsKey, keyPath)]

theorem GivenBy.exists_values {setting : Setting} {flags : List (Flag × String)} (givenBy : GivenBy setting flags) :
    ∃ values, List.Forall₂ Means flags values ∧ ∀ arguments,
      (FlagValue.storeAll values arguments).serverEntry = setting.replace arguments.serverEntry := by
  cases givenBy with
  | name text => exact ⟨[.name text], .cons ⟨rfl, fun _ => rfl⟩ .nil, fun _ => rfl⟩
  | address text => exact ⟨[.address text], .cons ⟨rfl, fun _ => rfl⟩ .nil, fun _ => rfl⟩
  | @minWorkers text value isRead =>
      refine ⟨[.minWorkers value], .cons ⟨rfl, fun _ => ?_⟩ .nil, fun _ => rfl⟩
      simp [Arguments.set, isRead, Except.map, FlagValue.store]
  | @maxWorkers text value isRead =>
      refine ⟨[.maxWorkers value], .cons ⟨rfl, fun _ => ?_⟩ .nil, fun _ => rfl⟩
      simp [Arguments.set, isRead, Except.map, FlagValue.store]
  | @idleMilliseconds text value isRead =>
      refine ⟨[.idleTimeout value], .cons ⟨rfl, fun _ => ?_⟩ .nil, fun _ => rfl⟩
      simp [Arguments.set, isRead, Except.map, FlagValue.store]
  | @maxPending text value isRead =>
      refine ⟨[.maxPending value], .cons ⟨rfl, fun _ => ?_⟩ .nil, fun _ => rfl⟩
      simp [Arguments.set, isRead, Except.map, FlagValue.store]
  | busyMessage text => exact ⟨[.busyMessage text], .cons ⟨rfl, fun _ => rfl⟩ .nil, fun _ => rfl⟩
  | @shutdownMode text mode isRead =>
      refine ⟨[.interruptClients (decide (mode = .interruptClients))], .cons ⟨rfl, fun _ => ?_⟩ .nil, fun _ => ?_⟩
      · simp [Arguments.set, isRead, Except.map, FlagValue.store]
      · cases mode <;> rfl
  | @tls certPath keyPath certShown keyShown =>
      refine ⟨[.tlsCert certPath, .tlsKey keyPath], .cons ⟨rfl, fun _ => ?_⟩ (.cons ⟨rfl, fun _ => ?_⟩ .nil),
        fun _ => rfl⟩
      · simp [Arguments.set, readPath, certShown, Except.map, FlagValue.store]
      · simp [Arguments.set, readPath, keyShown, Except.map, FlagValue.store]

theorem exists_values_of_givenBy {settings : List Setting} {flags : List (List (Flag × String))}
    (givenBy : List.Forall₂ GivenBy settings flags) :
    ∃ values, List.Forall₂ Means flags.flatten values ∧ ∀ arguments,
      (FlagValue.storeAll values arguments).serverEntry = Setting.replaceAll settings arguments.serverEntry := by
  induction givenBy with
  | nil => exact ⟨[], .nil, fun _ => rfl⟩
  | cons first _ inductionHypothesis =>
      obtain ⟨values, means, stored⟩ := first.exists_values
      obtain ⟨moreValues, moreMeans, moreStored⟩ := inductionHypothesis
      refine ⟨values ++ moreValues, List.rel_append means moreMeans, fun arguments => ?_⟩
      rw [FlagValue.storeAll, List.foldl_append]
      exact (moreStored _).trans (congrArg _ (stored arguments))

/-- The certificate is given exactly where the key is. -/
theorem tlsCert_iff_tlsKey {settings : List Setting} {flags : List (List (Flag × String))}
    (givenBy : List.Forall₂ GivenBy settings flags) :
    .tlsCert ∈ flags.flatten.map Prod.fst ↔ .tlsKey ∈ flags.flatten.map Prod.fst := by
  induction givenBy with
  | nil => simp
  | @cons setting given settings flags first _ inductionHypothesis =>
      have both : .tlsCert ∈ given.map Prod.fst ↔ .tlsKey ∈ given.map Prod.fst := by
        cases first <;> simp
      rw [List.flatten_cons, List.map_append, List.mem_append, List.mem_append, both, inductionHypothesis]

/-! ## Command lines -/

/-- The text given for a flag: on the command line, or else in the environment. -/
def given? (typed : List (Flag × String)) (environment : List (String × String)) (flag : Flag) : Option String :=
  (typed.lookup flag).or (environment.lookup flag.environmentName)

/-- The command line and the environment give exactly these settings: each flag of theirs once, in any order,
and no other flag. -/
def Gives (texts : List String) (environment : List (String × String)) (settings : List Setting) : Prop :=
  ∃ typed flags, TypedAll typed texts ∧ (typed.map Prod.fst).Nodup ∧
    List.Forall₂ GivenBy settings flags ∧ (flags.flatten.map Prod.fst).Nodup ∧
    ∀ flag text, given? typed environment flag = some text ↔ (flag, text) ∈ flags.flatten

theorem Flag.all_nodup : Flag.all.Nodup := by
  decide

theorem Flag.mem_all (flag : Flag) : flag ∈ Flag.all := by
  cases flag <;> decide

section

variable {typed flags : List (Flag × String)} {environment : List (String × String)}

theorem distinct_inherited (typedDistinct : (typed.map Prod.fst).Nodup) :
    ((typed ++ Reading.inherited environment (typed.map Prod.fst).reverse Flag.all).map Prod.fst).Nodup := by
  rw [List.map_append]
  refine List.nodup_append.2
    ⟨typedDistinct, Flag.all_nodup.sublist (Reading.inherited_sublist environment _ _), ?_⟩
  rintro flag isTyped _ isInherited rfl
  obtain ⟨⟨flag, text⟩, isGiven, rfl⟩ := List.mem_map.1 isInherited
  obtain ⟨-, notTyped, -⟩ := Reading.mem_inherited.1 isGiven
  exact notTyped (List.mem_reverse.2 isTyped)

/-- The flags that are read are those that are given. -/
theorem perm_of_given (typedDistinct : (typed.map Prod.fst).Nodup) (flagsDistinct : (flags.map Prod.fst).Nodup)
    (given : ∀ flag text, given? typed environment flag = some text ↔ (flag, text) ∈ flags) :
    (typed ++ Reading.inherited environment (typed.map Prod.fst).reverse Flag.all).Perm flags := by
  refine (List.perm_ext_iff_of_nodup (.of_map Prod.fst (distinct_inherited typedDistinct))
    (.of_map Prod.fst flagsDistinct)).2 fun ⟨flag, text⟩ => ?_
  rw [← given, List.mem_append, Reading.mem_inherited, given?]
  have notTyped : flag ∉ (typed.map Prod.fst).reverse ↔ typed.lookup flag = none := by
    simp only [List.mem_reverse, List.mem_map, List.lookup_eq_none_iff, Prod.exists, exists_and_right,
      exists_eq_right, not_exists, Prod.forall, bne_iff_ne]
    exact ⟨fun absent other text isTyped same => absent text (same ▸ isTyped),
      fun absent text isTyped => absent flag text isTyped rfl⟩
  rw [notTyped, ← lookup_eq_some_iff_mem typedDistinct]
  cases typed.lookup flag <;> simp [Flag.mem_all]

end

/-- The command line and the environment are read, and the entry has the settings that they give. Everything else
is as in a new entry, except that the server is the default one. -/
theorem serverEntry_of_gives {texts : List String} {environment : List (String × String)}
    {settings : List Setting} (gives : Gives texts environment settings) :
    ∃ arguments, CommandLine.read texts environment = .ok arguments ∧ arguments.serverEntry =
      Setting.replaceAll settings { name := "echo", address := "tcp://127.0.0.1:7878", isDefault := true } := by
  obtain ⟨typed, flags, isTyped, typedDistinct, givenBy, flagsDistinct, given⟩ := gives
  obtain ⟨values, means, stored⟩ := exists_values_of_givenBy givenBy
  have order := perm_of_given typedDistinct flagsDistinct given
  generalize isAll : typed ++ Reading.inherited environment (typed.map Prod.fst).reverse Flag.all = all at order
  obtain ⟨ordered, orderedMeans, same⟩ := List.perm_comp_forall₂ order means
  have sameFlags : (all.map Prod.fst).Perm (flags.flatten.map Prod.fst) := order.map Prod.fst
  have distinct : (all.map Prod.fst).Nodup := sameFlags.nodup_iff.2 flagsDistinct
  have accepted : ({} : Reading).acceptAll all = .ok _ :=
    acceptAll_of_means orderedMeans (by rwa [List.append_nil, List.nodup_reverse])
  refine ⟨FlagValue.storeAll ordered {}, ?_, ?_⟩
  · rw [← isAll] at accepted
    have bothOrNone := tlsCert_iff_tlsKey givenBy
    rw [Reading.read_of_acceptAll isTyped accepted]
    simp only [Reading.checkCompanions, isAll, List.append_nil, List.mem_reverse, sameFlags.mem_iff, bothOrNone,
      and_not_self, if_false]
    rfl
  · have valuesDistinct : (ordered.map FlagValue.flag).Nodup := by
      rw [flags_of_means orderedMeans]
      exact distinct
    rw [FlagValue.storeAll_perm valuesDistinct same, stored]
    rfl

end ConnectionPool.CommandLine
