import ConnectionPool.Bytes
import ConnectionPool.Text.Numeral

/-!
Contract: bytes written as hexadecimal digits, two for each byte.

Owns: `Hexadecimal.render` and `Hexadecimal.read?`.

Does not own: where bytes are written that way.
-/

namespace ConnectionPool.Text.Hexadecimal

def digits (byte : UInt8) : List Char :=
  [Nat.digitChar (byte.toNat / 16), Nat.digitChar (byte.toNat % 16)]

def render (bytes : Bytes) : String :=
  String.ofList (bytes.flatMap digits)

def pairs? : List Char → Option Bytes
  | [] => some []
  | [_] => none
  | high :: low :: rest => do
      let high ← Numeral.digitValue? 16 high
      let low ← Numeral.digitValue? 16 low
      let bytes ← pairs? rest
      pure (UInt8.ofNat (high * 16 + low) :: bytes)

/-- The bytes of a text that consists of pairs of digits. -/
def read? (text : String) : Option Bytes :=
  pairs? text.toList

end ConnectionPool.Text.Hexadecimal
