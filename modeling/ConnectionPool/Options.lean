import ConnectionPool.Bytes
import ConnectionPool.Text.Numeral

/-!
Contract: the limits under which a server runs.

Owns:
- the type `Options` with its default values, and `StopMode`;
- `Options.validate`, which reports the first limit that is out of range.

Does not own: how the limits are enforced, which is the pool's work.
-/

namespace ConnectionPool

open Text

/-- How a stop treats the sessions that are still running. -/
inductive StopMode where
  /-- Every running session may end on its own. -/
  | waitClients
  /-- Running sessions are told through their token to end early. -/
  | interruptClients
deriving DecidableEq, Repr, Inhabited

/-- No number of workers may be larger. -/
def workerLimit : Nat := 999

/-- Limits and waiting room of one server. -/
structure Options where
  /-- Workers made at the start, which never retire. -/
  minWorkers : Nat := 0
  /-- The most workers at one time. -/
  maxWorkers : Nat := 10
  /-- How long a surplus worker waits for work before it retires, in nanoseconds. -/
  idleNanoseconds : Nat := 15000000000
  /-- Connections that may wait while all workers are busy. -/
  maxPending : Nat := 0
  /-- What a refused connection is told; without it the protocol decides. -/
  busyMessage : Option Bytes := none
deriving DecidableEq, Repr, Inhabited

/-- Why options cannot be used. -/
inductive OptionsError where
  | minWorkersOutOfRange (minWorkers : Nat)
  | maxWorkersOutOfRange (maxWorkers : Nat)
  | minExceedsMax (minWorkers maxWorkers : Nat)
  | zeroIdleTimeout
deriving DecidableEq, Repr

def OptionsError.message : OptionsError → String
  | .minWorkersOutOfRange minWorkers =>
      "min_workers must be between 0 and 999, got " ++ Numeral.decimal minWorkers
  | .maxWorkersOutOfRange maxWorkers =>
      "max_workers must be between 1 and 999, got " ++ Numeral.decimal maxWorkers
  | .minExceedsMax minWorkers maxWorkers =>
      "min_workers (" ++ Numeral.decimal minWorkers ++ ") must not exceed max_workers (" ++
        Numeral.decimal maxWorkers ++ ")"
  | .zeroIdleTimeout => "worker_idle_timeout must be greater than zero"

namespace Options

/-- Nanoseconds in a millisecond. -/
def nanosecondsPerMillisecond : Nat := 1000000

/-- Checks the limits in a fixed order and reports the first that fails. -/
def validate (options : Options) : Except OptionsError Unit :=
  if workerLimit < options.minWorkers then
    .error (.minWorkersOutOfRange options.minWorkers)
  else if options.maxWorkers = 0 ∨ workerLimit < options.maxWorkers then
    .error (.maxWorkersOutOfRange options.maxWorkers)
  else if options.maxWorkers < options.minWorkers then
    .error (.minExceedsMax options.minWorkers options.maxWorkers)
  else if options.idleNanoseconds = 0 then
    .error .zeroIdleTimeout
  else
    .ok ()

/-- The limits are in range and agree with each other. -/
structure Valid (options : Options) : Prop where
  minWorkers_le_max : options.minWorkers ≤ options.maxWorkers
  maxWorkers_pos : 0 < options.maxWorkers
  maxWorkers_le_limit : options.maxWorkers ≤ workerLimit
  idle_pos : 0 < options.idleNanoseconds

theorem validate_eq_ok_iff (options : Options) :
    options.validate = .ok () ↔ options.Valid := by
  unfold validate
  constructor
  · intro accepted
    split at accepted <;> try contradiction
    split at accepted <;> try contradiction
    split at accepted <;> try contradiction
    split at accepted <;> try contradiction
    constructor <;> omega
  · rintro ⟨minLeMax, maxPositive, maxLeLimit, idlePositive⟩
    rw [if_neg (by omega), if_neg (by omega), if_neg (by omega), if_neg (by omega)]

end Options

end ConnectionPool
