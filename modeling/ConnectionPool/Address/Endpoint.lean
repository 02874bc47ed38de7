import ConnectionPool.Address.Ip

/-!
Contract: network endpoints and their written form.

Owns:
- the type `Endpoint`, an internet address with a service number and, for IPv6, a scope;
- `Endpoint.read?`, which accepts `a.b.c.d:n`, `[groups]:n` and `[groups%scope]:n`;
- `Endpoint.render`, which writes a scope only when it is not zero.

Does not own: the transport that listens on an endpoint.
-/

namespace ConnectionPool

open Text

/-- An internet address together with a service number. -/
inductive Endpoint where
  | v4 (address : Ipv4) (service : UInt16)
  | v6 (address : Ipv6) (scope : UInt32) (service : UInt16)
deriving DecidableEq, Repr

namespace Endpoint

/-- A service number is written with any number of decimal digits and is at most 65535. -/
def service? (text : List Char) : Option UInt16 :=
  match Numeral.value? 10 text with
  | some value => if value < 65536 then some (UInt16.ofNat value) else none
  | none => none

/-- A scope is written with any number of decimal digits and is below 2 to the power of 32. -/
def scope? (text : List Char) : Option UInt32 :=
  match Numeral.value? 10 text with
  | some value => if value < 4294967296 then some (UInt32.ofNat value) else none
  | none => none

/-- The inside of the brackets: an IPv6 address and possibly a scope behind a percent sign. -/
def scoped? (text : List Char) : Option (Ipv6 × UInt32) :=
  match cut? ['%'] text with
  | none => (Ipv6.read? text).map fun address => (address, 0)
  | some (address, scope) => do
      let address ← Ipv6.read? address
      let scope ← scope? scope
      pure (address, scope)

def read? (text : List Char) : Option Endpoint :=
  match text with
  | '[' :: bracketed =>
      match cut? [']'] bracketed with
      | some (inside, ':' :: service) => do
          let address ← scoped? inside
          let service ← service? service
          pure (.v6 address.1 address.2 service)
      | _ => none
  | _ =>
      match cut? [':'] text with
      | some (address, service) => do
          let address ← Ipv4.read? address
          let service ← service? service
          pure (.v4 address service)
      | none => none

def service : Endpoint → UInt16
  | .v4 _ service => service
  | .v6 _ _ service => service

def withService (endpoint : Endpoint) (service : UInt16) : Endpoint :=
  match endpoint with
  | .v4 address _ => .v4 address service
  | .v6 address scope _ => .v6 address scope service

/-- The address alone, without scope and service number. -/
def renderAddress : Endpoint → List Char
  | .v4 address _ => address.render
  | .v6 address _ _ => address.render

def render : Endpoint → List Char
  | .v4 address service =>
      address.render ++ ':' :: Numeral.render 10 service.toNat
  | .v6 address scope service =>
      let shownScope := if scope = 0 then [] else '%' :: Numeral.render 10 scope.toNat
      '[' :: address.render ++ shownScope ++ ']' :: ':' :: Numeral.render 10 service.toNat

def text (endpoint : Endpoint) : String :=
  String.ofList endpoint.render

end Endpoint

end ConnectionPool
