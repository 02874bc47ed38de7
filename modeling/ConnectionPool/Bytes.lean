/-!
Contract: byte sequences and their text.

Owns: the type `Bytes`, the bytes of a text and the text of well-formed bytes.

Does not own: how bytes are shown to a user.
-/

namespace ConnectionPool

abbrev Bytes := List UInt8

namespace Bytes

/-- The UTF-8 bytes of a text. -/
def ofText (text : String) : Bytes :=
  text.toUTF8.toList

/-- The text that the bytes encode, when they are well-formed UTF-8. -/
def text? (bytes : Bytes) : Option String :=
  String.fromUTF8? ⟨bytes.toArray⟩

/-- Replaces the small letters a to z by capitals and leaves every other byte alone. -/
def capitalised (bytes : Bytes) : Bytes :=
  bytes.map fun byte => if 97 ≤ byte ∧ byte ≤ 122 then byte - 32 else byte

end Bytes

end ConnectionPool
