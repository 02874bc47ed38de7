import ConnectionPool.Text.Fields
import ConnectionPool.Text.Numeral

/-!
Contract: internet addresses and their written form.

Owns:
- the types `Ipv4` and `Ipv6`;
- `Ipv4.read?` and `Ipv6.read?`, which accept a whole text or nothing;
- `Ipv4.render` and `Ipv6.render`, the one form in which an address is shown: the first longest run of
  at least two zero groups is compressed, and an address that embeds an IPv4 address is shown dotted.

Does not own: scopes, service numbers and brackets, which belong to `Endpoint`.
-/

namespace ConnectionPool

open Text

/-- An IPv4 address as its four octets. -/
structure Ipv4 where
  first : UInt8
  second : UInt8
  third : UInt8
  fourth : UInt8
deriving DecidableEq, Repr, Hashable

/-- An IPv6 address as its eight groups. -/
structure Ipv6 where
  groups : List UInt16
  eight_groups : groups.length = 8
deriving DecidableEq, Repr

namespace Ipv4

/-- An octet is written with one to three decimal digits, has no leading zero and is at most 255. -/
def octet? (text : List Char) : Option UInt8 :=
  if text.length ≤ 3 ∧ (text.length = 1 ∨ text.head? ≠ some '0') then
    match Numeral.value? 10 text with
    | some value => if value < 256 then some (UInt8.ofNat value) else none
    | none => none
  else
    none

/-- Four octets between dots. -/
def read? (text : List Char) : Option Ipv4 :=
  match fields '.' text with
  | [first, second, third, fourth] => do
      let first ← octet? first
      let second ← octet? second
      let third ← octet? third
      let fourth ← octet? fourth
      pure { first, second, third, fourth }
  | _ => none

def render (address : Ipv4) : List Char :=
  joined '.' ([address.first, address.second, address.third, address.fourth].map
    fun octet => Numeral.render 10 octet.toNat)

/-- The two groups that stand for an IPv4 address inside an IPv6 address. -/
def groups (address : Ipv4) : List UInt16 :=
  [UInt16.ofNat (address.first.toNat * 256 + address.second.toNat),
    UInt16.ofNat (address.third.toNat * 256 + address.fourth.toNat)]

/-- The IPv4 address that two groups stand for. -/
def ofGroups (high low : UInt16) : Ipv4 where
  first := UInt8.ofNat (high.toNat / 256)
  second := UInt8.ofNat (high.toNat % 256)
  third := UInt8.ofNat (low.toNat / 256)
  fourth := UInt8.ofNat (low.toNat % 256)

end Ipv4

namespace Ipv6

/-- Exactly eight groups make an address. -/
def ofGroups? (groups : List UInt16) : Option Ipv6 :=
  if eightGroups : groups.length = 8 then some ⟨groups, eightGroups⟩ else none

/-- A group is written with one to four hexadecimal digits. -/
def group? (text : List Char) : Option UInt16 :=
  if text.length ≤ 4 then
    (Numeral.value? 16 text).map UInt16.ofNat
  else
    none

/-- The groups that a list of colon-free parts stands for. Where `dottedTail` is set, the last part may
be an IPv4 address, which stands for two groups. -/
def partGroups? (dottedTail : Bool) : List (List Char) → Option (List UInt16)
  | [] => some []
  | [part] =>
      match group? part with
      | some group => some [group]
      | none => if dottedTail then (Ipv4.read? part).map Ipv4.groups else none
  | part :: next :: parts => do
      let group ← group? part
      let groups ← partGroups? dottedTail (next :: parts)
      pure (group :: groups)

/-- The groups written on one side of a double colon; that side may be empty. -/
def sideGroups? (dottedTail : Bool) (text : List Char) : Option (List UInt16) :=
  if text.isEmpty then some [] else partGroups? dottedTail (fields ':' text)

/-- Eight groups between colons, the last two possibly as an IPv4 address, or fewer groups and one
double colon that stands for all the missing ones, at least one. -/
def read? (text : List Char) : Option Ipv6 :=
  match cut? [':', ':'] text with
  | none => (sideGroups? true text).bind ofGroups?
  | some (front, back) => do
      let before ← sideGroups? false front
      let after ← sideGroups? true back
      let written := before.length + after.length
      if written < 8 then
        ofGroups? (before ++ List.replicate (8 - written) 0 ++ after)
      else
        none

def leadingZeros : List UInt16 → Nat
  | [] => 0
  | group :: groups => if group = 0 then leadingZeros groups + 1 else 0

/-- Where the first longest run of zero groups starts, and its length. -/
def longestZeros : List UInt16 → Nat × Nat
  | [] => (0, 0)
  | group :: groups =>
      let here := leadingZeros (group :: groups)
      let later := longestZeros groups
      if here < later.2 then (later.1 + 1, later.2) else (0, here)

/-- Groups in small hexadecimal digits between colons. -/
def renderGroups (groups : List UInt16) : List Char :=
  joined ':' (groups.map fun group => Numeral.render 16 group.toNat)

/-- The IPv4 address that an address of the form `::ffff:a.b.c.d` embeds. -/
def embedded? (address : Ipv6) : Option Ipv4 :=
  match address.groups with
  | [0, 0, 0, 0, 0, 0xffff, high, low] => some (Ipv4.ofGroups high low)
  | _ => none

def render (address : Ipv6) : List Char :=
  match address.embedded? with
  | some inner => "::ffff:".toList ++ inner.render
  | none =>
      let run := longestZeros address.groups
      if 1 < run.2 then
        renderGroups (address.groups.take run.1) ++ ':' :: ':' ::
          renderGroups (address.groups.drop (run.1 + run.2))
      else
        renderGroups address.groups

end Ipv6

end ConnectionPool
