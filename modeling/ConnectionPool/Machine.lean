import ConnectionPool.Address.Endpoint
import ConnectionPool.Files.Tree

/-!
Contract: the machine that servers run on.

Owns:
- the type `Machine`: its files, and the endpoints that are listened on;
- `Machine.bound`, what a request to listen on an endpoint gives;
- opening and closing listeners, which are numbered in the order of opening.

Does not own: who listens.
-/

namespace ConnectionPool

namespace Endpoint

/-- The address stands for every address of its family. -/
def isWildcard : Endpoint → Bool
  | .v4 address _ => address == ⟨0, 0, 0, 0⟩
  | .v6 address _ _ => address.groups == List.replicate 8 0

/-- A connection could be meant for either of two endpoints. The IPv6 wildcard takes IPv4 connections too. -/
def overlaps (endpoint other : Endpoint) : Bool :=
  endpoint.service == other.service &&
    match endpoint, other with
    | .v4 address _, .v4 other' _ =>
        address == other' || endpoint.isWildcard || other.isWildcard
    | .v6 address _ _, .v6 other' _ _ =>
        address == other' || endpoint.isWildcard || other.isWildcard
    | .v4 _ _, .v6 _ _ _ => other.isWildcard
    | .v6 _ _ _, .v4 _ _ => endpoint.isWildcard

end Endpoint

/-- A machine. -/
structure Machine where
  files : FileTree := {}
  /-- The endpoints that are listened on, with the numbers of their listeners. -/
  endpoints : List (Nat × Endpoint) := []
  /-- How many listeners were opened. -/
  opened : Nat := 0
  /-- The lowest service number that the machine has not chosen yet. -/
  nextService : Nat := 61000
deriving Repr

namespace Machine

/-- The lowest service number that the machine chooses itself. -/
def firstService : Nat := ({} : Machine).nextService

/-- No listener is on an endpoint that overlaps this one. -/
def isFree (machine : Machine) (endpoint : Endpoint) : Bool :=
  machine.endpoints.all fun entry => !entry.2.overlaps endpoint

/-- A service number that is free on the address of an endpoint. -/
def freeService? (machine : Machine) (endpoint : Endpoint) : Option UInt16 :=
  ((List.range' machine.nextService (65536 - machine.nextService)).map UInt16.ofNat).find?
    fun service => machine.isFree (endpoint.withService service)

/-- The endpoint that a request to listen on an endpoint gives, or why it gives none. For service number
zero the machine chooses one. -/
def bound (machine : Machine) (endpoint : Endpoint) : Except FileError Endpoint :=
  if endpoint.service = 0 then
    match machine.freeService? endpoint with
    | some service => .ok (endpoint.withService service)
    | none => .error .addressInUse
  else if machine.isFree endpoint then
    .ok endpoint
  else
    .error .addressInUse

/-- The next listener is opened on an endpoint that was requested. -/
def openOn (requested endpoint : Endpoint) (machine : Machine) : Machine :=
  { machine with
    endpoints := (machine.opened, endpoint) :: machine.endpoints
    opened := machine.opened + 1
    nextService :=
      if requested.service = 0 then endpoint.service.toNat + 1 else machine.nextService }

/-- The next listener is opened on a socket that is among the files already. -/
def openAmong (files : FileTree) (machine : Machine) : Machine :=
  { machine with files, opened := machine.opened + 1 }

/-- A listener is closed. Its endpoint is free again, its sockets stay behind. -/
def close (listener : Nat) (machine : Machine) : Machine :=
  { machine with
    files := machine.files.orphan listener
    endpoints := machine.endpoints.filter fun entry => entry.1 ≠ listener }

def chosenServices (machine : Machine) : List Nat :=
  List.range' firstService (machine.nextService - firstService)

end Machine

end ConnectionPool
