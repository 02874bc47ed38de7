import ConnectionPool.Text.Numeral

/-!
Contract: names of accepted connections.

Owns: the type `Descriptor` and its text.

Does not own: the connection that a descriptor names; whoever parked the connection closes it.
-/

namespace ConnectionPool

open Text

/-- Where a connection came from. -/
inductive DescriptorKind where
  | network
  | localSocket
  | custom
deriving DecidableEq, Repr

def DescriptorKind.label : DescriptorKind → String
  | .network => "network"
  | .localSocket => "local"
  | .custom => "custom"

def DescriptorKind.ofLabel? (label : String) : Option DescriptorKind :=
  [.network, .localSocket, .custom].find? fun kind => kind.label == label

/-- Names one accepted connection. Two names are equal when kind and handle are. -/
structure Descriptor where
  kind : DescriptorKind
  handle : Nat
deriving DecidableEq, Repr

def Descriptor.text (descriptor : Descriptor) : String :=
  descriptor.kind.label ++ "#" ++ Numeral.decimal descriptor.handle

/-- The position of the first element equal to each element of a list. -/
def firstPositions {α : Type} [DecidableEq α] (items : List α) : List Nat :=
  items.map fun item => items.idxOf item

/-- Whether each element is the first of its value. -/
def freshness {α : Type} [DecidableEq α] (items : List α) : List Bool :=
  (items.zipIdx).map fun entry => items.idxOf entry.1 = entry.2

def distinctCount {α : Type} [DecidableEq α] (items : List α) : Nat :=
  items.eraseDups.length

end ConnectionPool
