import ConnectionPool.Bytes

/-!
Contract: the outline of certificates and keys, which are written as nested parts.

A part has a tag, the length of its content and the content. The content of a sequence is again a row of
parts.

Owns:
- `parts?`, the row of parts that some bytes are;
- `isCertificate` and the three forms of keys, told apart by the parts they have.

Does not own: what the parts say, and whether a key belongs to a certificate.
-/

namespace ConnectionPool

namespace Der

/-- A tag and the content under it. -/
structure Part where
  tag : UInt8
  content : Bytes
deriving DecidableEq, Repr

def integerTag : UInt8 := 2

def bitsTag : UInt8 := 3

def octetsTag : UInt8 := 4

def sequenceTag : UInt8 := 48

def number (digits : Bytes) : Nat :=
  digits.foldl (fun value digit => value * 256 + digit.toNat) 0

/-- A length, and what follows it. A length below 128 is one byte; a greater one follows a byte that counts
its digits, of which there are at most four and no more than it needs. -/
def length? : Bytes → Option (Nat × Bytes)
  | [] => none
  | first :: rest =>
      if first < 128 then
        some (first.toNat, rest)
      else
        let size := first.toNat - 128
        let digits := rest.take size
        if 1 ≤ size ∧ size ≤ 4 ∧ digits.length = size ∧ 128 ≤ number digits ∧ digits.head? ≠ some 0 then
          some (number digits, rest.drop size)
        else
          none

def part? : Bytes → Option (Part × Bytes)
  | [] => none
  | tag :: rest =>
      match length? rest with
      | none => none
      | some (length, body) =>
          if length ≤ body.length then some (⟨tag, body.take length⟩, body.drop length) else none

theorem length_lt_of_length? {bytes body : Bytes} {length : Nat}
    (read : length? bytes = some (length, body)) : body.length < bytes.length := by
  cases bytes with
  | nil => cases read
  | cons first rest =>
      simp only [length?] at read
      split at read
      · obtain ⟨_, rfl⟩ := Prod.mk.inj (Option.some.inj read)
        simp
      · split at read
        · obtain ⟨_, rfl⟩ := Prod.mk.inj (Option.some.inj read)
          simp only [List.length_drop, List.length_cons]
          omega
        · cases read

/-- A part takes at least one byte. -/
theorem length_lt_of_part? {bytes rest : Bytes} {part : Part}
    (read : part? bytes = some (part, rest)) : rest.length < bytes.length := by
  cases bytes with
  | nil => cases read
  | cons tag more =>
      simp only [part?] at read
      split at read
      · cases read
      · next length body measured =>
          have shorter := length_lt_of_length? measured
          split at read
          · obtain ⟨_, rfl⟩ := Prod.mk.inj (Option.some.inj read)
            simp only [List.length_drop, List.length_cons]
            omega
          · cases read

/-- The row of parts that the bytes are, down to the last byte. -/
def parts? (bytes : Bytes) : Option (List Part) :=
  if bytes.isEmpty then
    some []
  else
    match read : part? bytes with
    | none => none
    | some (part, rest) =>
        have : rest.length < bytes.length := length_lt_of_part? read
        (parts? rest).map (part :: ·)
termination_by bytes.length

/-- The parts of the one sequence that the bytes are. -/
def sequence? (bytes : Bytes) : Option (List Part) :=
  match parts? bytes with
  | some [part] => if part.tag = sequenceTag then parts? part.content else none
  | _ => none

/-- A certificate is a sequence of what is certified, the manner of signing and the signature. -/
def isCertificate (bytes : Bytes) : Bool :=
  match sequence? bytes with
  | some row => row.map Part.tag == [sequenceTag, sequenceTag, bitsTag]
  | none => false

/-- A key with its kind: version zero, the kind, and the key proper, behind which attributes may follow. -/
def isGeneralKey (bytes : Bytes) : Bool :=
  match sequence? bytes with
  | some (version :: kind :: key :: _) =>
      version == ⟨integerTag, [0]⟩ && kind.tag == sequenceTag && key.tag == octetsTag
  | _ => false

/-- An RSA key: version zero and eight numbers. -/
def isRsaKey (bytes : Bytes) : Bool :=
  match sequence? bytes with
  | some (version :: numbers) =>
      version == ⟨integerTag, [0]⟩ && numbers.map Part.tag == List.replicate 8 integerTag
  | _ => false

/-- A key on an elliptic curve: version one and the key proper, behind which the curve may follow. -/
def isCurveKey (bytes : Bytes) : Bool :=
  match sequence? bytes with
  | some (version :: key :: _) => version == ⟨integerTag, [1]⟩ && key.tag == octetsTag
  | _ => false

end Der

end ConnectionPool
