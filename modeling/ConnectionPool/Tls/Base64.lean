import ConnectionPool.Bytes

/-!
Contract: bytes written in the sixty-four letters of base 64.

Owns: `Base64.decode` and the causes for which a text cannot be decoded.

Does not own: the lines around such a text; see `Tls.Pem`.
-/

namespace ConnectionPool

/-- Why a text cannot be decoded. -/
inductive Base64Error where
  /-- A character is no letter of the alphabet. -/
  | invalidCharacter (byte : UInt8)
  /-- There is padding in front of the last group. -/
  | prematurePadding
  /-- The last group and its padding do not make up whole bytes. -/
  | invalidTrailingPadding
deriving DecidableEq, Repr

def Base64Error.text : Base64Error → String
  | .invalidCharacter byte => "InvalidCharacter(" ++ toString byte.toNat ++ ")"
  | .prematurePadding => "PrematurePadding"
  | .invalidTrailingPadding => "InvalidTrailingPadding"

namespace Base64

/-- A character of an encoded text. -/
inductive Symbol where
  | letter (value : Nat)
  | padding
  | space
  | unknown
deriving DecidableEq, Repr

/-- Capitals come first, then small letters, digits, plus and slash. -/
def symbol (byte : UInt8) : Symbol :=
  let code := byte.toNat
  if 65 ≤ code ∧ code ≤ 90 then .letter (code - 65)
  else if 97 ≤ code ∧ code ≤ 122 then .letter (code - 71)
  else if 48 ≤ code ∧ code ≤ 57 then .letter (code + 4)
  else if code = 43 then .letter 62
  else if code = 47 then .letter 63
  else if code = 61 then .padding
  else if code = 32 ∨ (9 ≤ code ∧ code ≤ 13) then .space
  else .unknown

def wholeGroup? : List Symbol → Option Bytes
  | [.letter a, .letter b, .letter c, .letter d] =>
      let value := ((a * 64 + b) * 64 + c) * 64 + d
      some [UInt8.ofNat (value / 65536), UInt8.ofNat (value / 256), UInt8.ofNat value]
  | _ => none

/-- The bytes of the last group. It may be shorter than four; padding may fill it up and may be left out. -/
def lastGroup? : List Symbol → Option Bytes
  | [] => some []
  | [.letter a, .letter b] => some [UInt8.ofNat ((a * 64 + b) / 16)]
  | [.letter a, .letter b, .padding, .padding] => some [UInt8.ofNat ((a * 64 + b) / 16)]
  | [.letter a, .letter b, .letter c] =>
      let value := (a * 64 + b) * 64 + c
      some [UInt8.ofNat (value / 1024), UInt8.ofNat (value / 4)]
  | [.letter a, .letter b, .letter c, .padding] =>
      let value := (a * 64 + b) * 64 + c
      some [UInt8.ofNat (value / 1024), UInt8.ofNat (value / 4)]
  | symbols => wholeGroup? symbols

/-- The bytes of two groups behind which the text goes on. -/
def innerBytes (held : List Symbol) : Except Base64Error Bytes :=
  match wholeGroup? (held.take 4), wholeGroup? (held.drop 4) with
  | some front, some back => .ok (front ++ back)
  | _, _ => .error .prematurePadding

def finalBytes (held : List Symbol) : Except Base64Error Bytes :=
  if held.length ≤ 4 then
    match lastGroup? held with
    | some bytes => .ok bytes
    | none => .error .invalidTrailingPadding
  else
    match wholeGroup? (held.take 4), lastGroup? (held.drop 4) with
    | some front, some back => .ok (front ++ back)
    | none, _ => .error .prematurePadding
    | some _, none => .error .invalidTrailingPadding

/-- Reads two groups at a time, `held` of which was read already. Whether they hold padding is looked at when
the text goes on behind them, so an unknown character among them is the first thing that is noticed. -/
def decodeFrom (held : List Symbol) : Bytes → Except Base64Error Bytes
  | [] => finalBytes held
  | byte :: bytes =>
      match symbol byte with
      | .space => decodeFrom held bytes
      | .unknown => .error (.invalidCharacter byte)
      | next =>
          if held.length < 8 then
            decodeFrom (held ++ [next]) bytes
          else
            match innerBytes held with
            | .error cause => .error cause
            | .ok front => (decodeFrom [next] bytes).map (front ++ ·)

/-- The bytes that a text stands for. White space between the symbols does not count. -/
def decode (text : Bytes) : Except Base64Error Bytes :=
  decodeFrom [] text

end Base64

end ConnectionPool
