import ConnectionPool.Proofs.Directory
import ConnectionPool.Proofs.Lookup
import Mathlib.Data.List.Induction
import Mathlib.Data.String.Basic

/-!
Contract: a directory after any sequence of calls.

Whoever has written down what was called and what was answered knows the directory. A name leads to the
entry that was added under it last, unless it was removed or everything was cleared since, and the
default is one of the names.

Owns:
- `Directory.Call` and `Directory.perform`, the calls that can change a directory, with their answers;
- `Directory.run`, one call after another, and `Directory.Kept`, what holds after any of them.

Does not own: what the entries stand for. One entry may be added under several names.
-/

namespace ConnectionPool.Directory

variable {Entry : Type} {directory : Directory Entry} {name other : String} {entry : Entry}

/-! ## Calls and answers -/

/-- What a caller can ask of a directory to change it. -/
inductive Call (Entry : Type) where
  | add (name : String) (entry : Entry)
  | remove (name : String)
  | setDefault (name : String)
  | clear
deriving DecidableEq, Repr

/-- Its name stands in the way of a call: it is taken, or it is not known. -/
def Call.Unfit (directory : Directory Entry) : Call Entry → Prop
  | .add name _ => name ∈ directory.names
  | .remove name => name ∉ directory.names
  | .setDefault name => name ∉ directory.names
  | .clear => False

/-- What a caller is answered. -/
inductive Answer (Entry : Type) where
  | done
  | refused (cause : DirectoryError)
  | removed (entry : Entry)
  /-- There is no entry of that name to remove. -/
  | absent
  | cleared (entries : List Entry)
deriving DecidableEq, Repr

/-- A call that was made, with its answer. -/
structure Exchange (Entry : Type) where
  call : Call Entry
  answer : Answer Entry
deriving DecidableEq, Repr

/-- The call was not carried out. -/
def Answer.isRefusal : Answer Entry → Bool
  | .refused _ => true
  | .absent => true
  | _ => false

namespace Exchange

/-- The exchange decides what the name leads to from now on. -/
def Concerns (name : String) : Exchange Entry → Prop
  | ⟨.add added _, .done⟩ => added = name
  | ⟨.remove removed, _⟩ => removed = name
  | ⟨.clear, _⟩ => True
  | _ => False

/-- A name was added or chosen as the default. -/
def SetsDefault : Exchange Entry → Prop
  | ⟨.add _ _, .done⟩ => True
  | ⟨.setDefault _, .done⟩ => True
  | _ => False

end Exchange

/-- Carries out a call. -/
def perform (directory : Directory Entry) : Call Entry → Answer Entry × Directory Entry
  | .add name entry =>
      match directory.add name entry with
      | .ok changed => (.done, changed)
      | .error cause => (.refused cause, directory)
  | .remove name =>
      match directory.remove name with
      | some (entry, rest) => (.removed entry, rest)
      | none => (.absent, directory)
  | .setDefault name =>
      match directory.setDefault name with
      | .ok changed => (.done, changed)
      | .error cause => (.refused cause, directory)
  | .clear => (.cleared directory.clear.1, directory.clear.2)

/-- Carries out calls one after another and writes down what was answered. -/
def run (directory : Directory Entry) :
    List (Call Entry) → List (Exchange Entry) × Directory Entry
  | [] => ([], directory)
  | call :: calls =>
      let answered := directory.perform call
      let later := run answered.2 calls
      (⟨call, answered.1⟩ :: later.1, later.2)

theorem run_append (directory : Directory Entry) (front back : List (Call Entry)) :
    directory.run (front ++ back) =
      ((directory.run front).1 ++ ((directory.run front).2.run back).1,
        ((directory.run front).2.run back).2) := by
  induction front generalizing directory with
  | nil => rfl
  | cons call front inductionHypothesis => simp only [List.cons_append, run, inductionHypothesis]

/-! ## One call -/

/-- What each call does, and when it is refused. -/
inductive Performed (directory : Directory Entry) :
    Call Entry → Answer Entry → Directory Entry → Prop where
  | added {name : String} {entry : Entry} (new : name ∉ directory.names) :
      Performed directory (.add name entry) .done {
        entries := place name entry directory.entries
        default := directory.default.or (some name) }
  | taken {name : String} {entry : Entry} (listed : name ∈ directory.names) :
      Performed directory (.add name entry) (.refused (.duplicateName name)) directory
  | removed {name : String} {entry : Entry} (found : directory.find? name = some entry) :
      Performed directory (.remove name) (.removed entry) {
        entries := directory.entries.filter fun item => item.1 ≠ name
        default := if directory.default = some name then none else directory.default }
  | absent {name : String} (unlisted : name ∉ directory.names) :
      Performed directory (.remove name) .absent directory
  | chosen {name : String} (listed : name ∈ directory.names) :
      Performed directory (.setDefault name) .done { directory with default := some name }
  | unknown {name : String} (unlisted : name ∉ directory.names) :
      Performed directory (.setDefault name) (.refused (.unknownName name)) directory
  | cleared : Performed directory .clear (.cleared directory.values) {}

theorem mem_names_iff : name ∈ directory.names ↔ ∃ entry, directory.find? name = some entry := by
  rw [← Option.isSome_iff_exists, Option.isSome_iff_ne_none, ne_eq, find?_eq_none_iff, not_not]

theorem performed (directory : Directory Entry) (call : Call Entry) :
    Performed directory call (directory.perform call).1 (directory.perform call).2 := by
  cases call with
  | add name entry =>
      cases found : directory.find? name with
      | none =>
          simp only [perform, add, found]
          exact .added (find?_eq_none_iff.1 found)
      | some held =>
          simp only [perform, add, found]
          exact .taken (mem_names_iff.2 ⟨held, found⟩)
  | remove name =>
      cases found : directory.find? name with
      | none =>
          simp only [perform, remove, found, Option.map_none]
          exact .absent (find?_eq_none_iff.1 found)
      | some held =>
          simp only [perform, remove, found, Option.map_some]
          exact .removed found
  | setDefault name =>
      cases found : directory.find? name with
      | none =>
          simp only [perform, setDefault, found]
          exact .unknown (find?_eq_none_iff.1 found)
      | some held =>
          simp only [perform, setDefault, found]
          exact .chosen (mem_names_iff.2 ⟨held, found⟩)
  | clear => exact .cleared

section
variable {call : Call Entry} {answer : Answer Entry} {next : Directory Entry}

/-- A call is refused for its name alone. -/
theorem Performed.isRefusal_iff (performed : Performed directory call answer next) :
    answer.isRefusal = true ↔ call.Unfit directory := by
  cases performed with
  | added new => simpa [Answer.isRefusal, Call.Unfit] using new
  | taken listed => simpa [Answer.isRefusal, Call.Unfit] using listed
  | removed found => simpa [Answer.isRefusal, Call.Unfit] using mem_names_iff.2 ⟨_, found⟩
  | absent unlisted => simpa [Answer.isRefusal, Call.Unfit] using unlisted
  | chosen listed => simpa [Answer.isRefusal, Call.Unfit] using listed
  | unknown unlisted => simpa [Answer.isRefusal, Call.Unfit] using unlisted
  | cleared => simp [Answer.isRefusal, Call.Unfit]

theorem Performed.eq_of_isRefusal (performed : Performed directory call answer next)
    (refused : answer.isRefusal = true) : next = directory := by
  cases performed <;> first | rfl | cases refused

end

/-! ## Names in order -/

theorem place_increasing {entries : List (String × Entry)}
    (increasing : (entries.map Prod.fst).Pairwise (· < ·)) (new : name ∉ entries.map Prod.fst) :
    ((place name entry entries).map Prod.fst).Pairwise (· < ·) := by
  induction entries with
  | nil => exact List.pairwise_singleton ..
  | cons head tail inductionHypothesis =>
      obtain ⟨headFirst, tailIncreasing⟩ := List.pairwise_cons.1 increasing
      have differs : name ≠ head.1 := fun same => new (same ▸ List.mem_cons_self)
      unfold place
      split
      · next smaller =>
          refine List.pairwise_cons.2 ⟨fun later listed => ?_, increasing⟩
          rcases List.mem_cons.1 listed with rfl | behind
          · exact smaller
          · exact smaller.trans (headFirst later behind)
      · next notSmaller =>
          have larger : head.1 < name := lt_of_le_of_ne (not_lt.1 notSmaller) differs.symm
          have newBehind : name ∉ tail.map Prod.fst := fun listed =>
            new (List.mem_cons_of_mem _ listed)
          refine List.pairwise_cons.2
            ⟨fun later listed => ?_, inductionHypothesis tailIncreasing newBehind⟩
          rcases List.mem_cons.1 (((place_perm name entry tail).map Prod.fst).mem_iff.1 listed) with
            rfl | behind
          · exact larger
          · exact headFirst later behind

/-- The names are in order, without repetitions, and the default is one of them. -/
structure InOrder (directory : Directory Entry) : Prop where
  increasing : directory.names.Pairwise (· < ·)
  default_listed : ∀ name, directory.default = some name → name ∈ directory.names

theorem inOrder_new : InOrder ({} : Directory Entry) :=
  ⟨.nil, nofun⟩

theorem Performed.inOrder {call : Call Entry} {answer : Answer Entry} {next : Directory Entry}
    (performed : Performed directory call answer next) (inOrder : directory.InOrder) :
    next.InOrder := by
  cases performed with
  | @added name entry new =>
      have names := names_perm_of_place directory name entry (directory.default.or (some name))
      refine ⟨place_increasing inOrder.increasing new, fun chosen isDefault => names.mem_iff.2 ?_⟩
      cases held : directory.default with
      | none =>
          rw [held] at isDefault
          cases isDefault
          exact List.mem_cons_self
      | some former =>
          rw [held] at isDefault
          cases isDefault
          exact List.mem_cons_of_mem _ (inOrder.default_listed chosen held)
  | @removed name entry found =>
      refine ⟨inOrder.increasing.sublist (List.filter_sublist.map Prod.fst), ?_⟩
      intro chosen isDefault
      dsimp only at isDefault
      split at isDefault
      · cases isDefault
      · next notRemoved =>
          have differs : chosen ≠ name := fun same => notRemoved (same ▸ isDefault)
          obtain ⟨item, listed, rfl⟩ := List.mem_map.1 (inOrder.default_listed chosen isDefault)
          exact List.mem_map.2 ⟨item, List.mem_filter.2 ⟨listed, by simpa using differs⟩, rfl⟩
  | chosen listed =>
      refine ⟨inOrder.increasing, fun chosen isDefault => ?_⟩
      cases isDefault
      exact listed
  | cleared => exact inOrder_new
  | _ => exact inOrder

theorem run_inOrder (inOrder : directory.InOrder) (calls : List (Call Entry)) :
    (directory.run calls).2.InOrder := by
  induction calls generalizing directory with
  | nil => exact inOrder
  | cons call calls inductionHypothesis =>
      exact inductionHypothesis ((directory.performed call).inOrder inOrder)

/-! ## What a name leads to -/

theorem lookup_place {entries : List (String × Entry)} (new : entries.lookup name = none)
    (other : String) : (place name entry entries).lookup other =
      if other = name then some entry else entries.lookup other := by
  have lookup_front (behind : List (String × Entry)) : ((name, entry) :: behind).lookup other =
      if other = name then some entry else behind.lookup other := by
    rw [List.lookup_cons]
    by_cases same : other = name
    · simp [same]
    · simp [same, beq_false_of_ne same]
  induction entries with
  | nil => exact lookup_front []
  | cons head tail inductionHypothesis =>
      unfold place
      split
      · exact lookup_front _
      · rw [List.lookup_cons] at new
        split at new
        · cases new
        · next differs =>
            rw [List.lookup_cons, List.lookup_cons, inductionHypothesis new]
            by_cases same : other = name
            · simp [same, differs]
            · simp [same]

section
variable {call : Call Entry} {answer : Answer Entry} {next : Directory Entry}

/-- Behind an exchange that concerns a name, the name leads to the entry that was just added under it, if
one was. -/
theorem Performed.find?_of_concerns (performed : Performed directory call answer next)
    (concerns : Exchange.Concerns name ⟨call, answer⟩) :
    next.find? name = some entry ↔ (⟨call, answer⟩ : Exchange Entry) = ⟨.add name entry, .done⟩ := by
  cases performed with
  | added new =>
      cases concerns
      unfold find?
      rw [lookup_place (find?_eq_none_iff.2 new), if_pos rfl]
      simp
  | removed found =>
      cases concerns
      unfold find?
      rw [lookup_filter_ne, if_pos rfl]
      simp
  | absent unlisted =>
      cases concerns
      rw [find?_eq_none_iff.2 unlisted]
      simp
  | cleared => simp [find?]
  | taken => cases concerns
  | chosen => cases concerns
  | unknown => cases concerns

theorem Performed.find?_of_not_concerns (performed : Performed directory call answer next)
    (apart : ¬ Exchange.Concerns name ⟨call, answer⟩) : next.find? name = directory.find? name := by
  cases performed with
  | added new =>
      unfold find?
      rw [lookup_place (find?_eq_none_iff.2 new), if_neg fun same => apart same.symm]
  | removed =>
      unfold find?
      rw [lookup_filter_ne, if_neg fun same => apart same.symm]
  | cleared => exact absurd trivial apart
  | _ => rfl

end

/-- An entry was added under the name, and nothing has concerned the name since. -/
def LastAdded (past : List (Exchange Entry)) (name : String) (entry : Entry) : Prop :=
  ∃ front back, past = front ++ ⟨.add name entry, .done⟩ :: back ∧
    ∀ later ∈ back, ¬ later.Concerns name

theorem lastAdded_snoc {past : List (Exchange Entry)} {exchange : Exchange Entry} :
    LastAdded (past ++ [exchange]) name entry ↔
      exchange = ⟨.add name entry, .done⟩ ∨
        ¬ exchange.Concerns name ∧ LastAdded past name entry := by
  constructor
  · rintro ⟨front, back, whole, apart⟩
    rcases List.eq_nil_or_concat back with rfl | ⟨most, last, rfl⟩
    · obtain ⟨-, same⟩ := List.append_inj' whole rfl
      exact .inl (List.singleton_inj.1 same)
    · rw [List.concat_eq_append, ← List.cons_append, ← List.append_assoc] at whole
      obtain ⟨rfl, same⟩ := List.append_inj' whole rfl
      cases same
      rw [List.concat_eq_append, List.forall_mem_append, List.forall_mem_singleton] at apart
      exact .inr ⟨apart.2, front, most, rfl, apart.1⟩
  · rintro (rfl | ⟨apart, front, back, rfl, before⟩)
    · exact ⟨past, [], rfl, nofun⟩
    · refine ⟨front, back ++ [exchange], by simp, ?_⟩
      exact List.forall_mem_append.2 ⟨before, List.forall_mem_singleton.2 apart⟩

/-- After some calls on a new directory, a name leads to what was added under it last. -/
theorem find?_run_iff (calls : List (Call Entry)) :
    (run {} calls).2.find? name = some entry ↔ LastAdded (run {} calls).1 name entry := by
  induction calls using List.reverseRecOn with
  | nil => simp [run, find?, LastAdded]
  | append_singleton calls call inductionHypothesis =>
      have step := (run {} calls).2.performed call
      rw [run_append]
      simp only [run]
      rw [lastAdded_snoc]
      by_cases concerns : Exchange.Concerns name ⟨call, ((run {} calls).2.perform call).1⟩
      · rw [step.find?_of_concerns concerns]
        simp [concerns]
      · rw [step.find?_of_not_concerns concerns, inductionHypothesis]
        have notAdded : (⟨call, ((run {} calls).2.perform call).1⟩ : Exchange Entry) ≠
            ⟨.add name entry, .done⟩ := by
          intro added
          rw [added] at concerns
          exact concerns rfl
        simp [concerns, notAdded]

/-! ## The default -/

section
variable {call : Call Entry} {answer : Answer Entry} {next : Directory Entry}

theorem Performed.default_eq_none (performed : Performed directory call answer next)
    (unset : directory.default = none) (apart : ¬ Exchange.SetsDefault ⟨call, answer⟩) :
    next.default = none := by
  cases performed with
  | added => exact absurd trivial apart
  | chosen => exact absurd trivial apart
  | removed => simp [unset]
  | cleared => rfl
  | _ => exact unset

theorem Performed.default_of_add (performed : Performed directory (.add name entry) .done next) :
    next.default = directory.default.or (some name) := by
  cases performed
  rfl

theorem Performed.eq_of_setDefault (performed : Performed directory (.setDefault name) .done next) :
    next = { directory with default := some name } := by
  cases performed
  rfl

/-- A name that is removed is the default no longer, and no other default is touched. -/
theorem Performed.default_of_remove (performed : Performed directory (.remove name) answer next)
    (inOrder : directory.InOrder) :
    next.default = if directory.default = some name then none else directory.default := by
  cases performed with
  | removed => rfl
  | absent unlisted =>
      rw [if_neg]
      exact fun isDefault => unlisted (inOrder.default_listed name isDefault)

end

/-- Without a default there is none until a name is added or chosen. -/
theorem default_run_eq_none (unset : directory.default = none) {calls : List (Call Entry)}
    (apart : ∀ exchange ∈ (directory.run calls).1, ¬ exchange.SetsDefault) :
    (directory.run calls).2.default = none := by
  induction calls generalizing directory with
  | nil => exact unset
  | cons call calls inductionHypothesis =>
      obtain ⟨first, others⟩ := List.forall_mem_cons.1 apart
      exact inductionHypothesis ((directory.performed call).default_eq_none unset first) others

/-! ## All together -/

/-- What is known of a directory from the calls that were made on it. -/
structure Kept (past : List (Exchange Entry)) (directory : Directory Entry) : Prop where
  default_listed : ∀ name, directory.default = some name → name ∈ directory.names
  /-- There is a default entry exactly where there is a default name, and it is the entry of that name. -/
  defaultEntry_isSome : directory.defaultEntry?.isSome = directory.default.isSome
  defaultEntry_eq : ∀ name, directory.default = some name →
    directory.defaultEntry? = directory.find? name
  increasing : directory.names.Pairwise (· < ·)
  size_eq : directory.names.length = directory.size
  listed_iff : ∀ name, name ∈ directory.names ↔ ∃ entry, directory.find? name = some entry
  found_iff : ∀ name entry, directory.find? name = some entry ↔ LastAdded past name entry
  /-- Adding sets the default only where there was none. -/
  add_default : ∀ name entry, (directory.perform (.add name entry)).1 = .done →
    (directory.perform (.add name entry)).2.default = directory.default.or (some name)
  remove_other : ∀ name, directory.default ≠ some name →
    (directory.perform (.remove name)).2.default = directory.default
  /-- Behind the removal of the default there is none until a name is added or chosen. -/
  remove_default : ∀ name, directory.default = some name →
    ∀ calls, (∀ exchange ∈ ((directory.perform (.remove name)).2.run calls).1,
        ¬ exchange.SetsDefault) →
      ((directory.perform (.remove name)).2.run calls).2.default = none
  setDefault_default : ∀ name, (directory.perform (.setDefault name)).1 = .done →
    (directory.perform (.setDefault name)).2 = { directory with default := some name }
  refused_iff : ∀ call, (directory.perform call).1.isRefusal = true ↔ call.Unfit directory
  refused : ∀ call, (directory.perform call).1.isRefusal = true →
    (directory.perform call).2 = directory

/-- Whatever calls were made on a new directory, it keeps to them. -/
theorem kept_of_calls (calls : List (Call Entry)) : Kept (run {} calls).1 (run {} calls).2 := by
  have inOrder := run_inOrder inOrder_new calls
  generalize directoryEq : (run {} calls).2 = directory at inOrder
  constructor
  case default_listed => exact inOrder.default_listed
  case defaultEntry_isSome =>
    cases isDefault : directory.default with
    | none => simp [isDefault, defaultEntry?]
    | some name =>
        obtain ⟨entry, found⟩ := mem_names_iff.1 (inOrder.default_listed name isDefault)
        simp [isDefault, defaultEntry?, found]
  case defaultEntry_eq =>
    intro name isDefault
    simp [isDefault, defaultEntry?]
  case increasing => exact inOrder.increasing
  case size_eq => exact List.length_map _
  case listed_iff => exact fun name => mem_names_iff
  case found_iff => exact fun name entry => directoryEq ▸ find?_run_iff calls
  case add_default =>
    intro name entry isDone
    have step := directory.performed (.add name entry)
    rw [isDone] at step
    exact step.default_of_add
  case remove_other =>
    intro name differs
    rw [(directory.performed (.remove name)).default_of_remove inOrder, if_neg differs]
  case remove_default =>
    intro name isDefault calls apart
    refine default_run_eq_none ?_ apart
    rw [(directory.performed (.remove name)).default_of_remove inOrder, if_pos isDefault]
  case setDefault_default =>
    intro name isDone
    have step := directory.performed (.setDefault name)
    rw [isDone] at step
    exact step.eq_of_setDefault
  case refused_iff => exact fun call => (directory.performed call).isRefusal_iff
  case refused => exact fun call refused => (directory.performed call).eq_of_isRefusal refused

/-- The default was removed, so its name becomes the default again where it is added again. -/
example : (run {} [.add "a" 1, .add "b" 2, .remove "a", .add "a" 3]).2 =
    ({ entries := [("a", 3), ("b", 2)], default := some "a" } : Directory Nat) := rfl

end ConnectionPool.Directory
