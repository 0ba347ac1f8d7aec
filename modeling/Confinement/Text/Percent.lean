import Confinement.Text.Utf8

/-!
# Percent encoding

A byte is encoded as a percent sign and two hexadecimal digits.  `decode` undoes it and leaves
percent signs without two digits as they are; `encode` writes the bytes of a chosen class so.
-/

namespace Confinement.Percent

/-- The value of a hexadecimal digit. -/
def hexValue? (byte : UInt8) : Option UInt8 :=
  if 0x30 ≤ byte ∧ byte ≤ 0x39 then some (byte - 0x30)
  else if 0x41 ≤ byte ∧ byte ≤ 0x46 then some (byte - 0x37)
  else if 0x61 ≤ byte ∧ byte ≤ 0x66 then some (byte - 0x57)
  else none

/-- The upper-case hexadecimal digit of a value below sixteen. -/
def hexDigit (value : UInt8) : UInt8 := if value < 10 then value + 0x30 else value + 0x37

/-- Replaces each percent sign with two digits by the byte that they spell. -/
def decode : Bytes → Bytes
  | [] => []
  | [byte] => [byte]
  | [first, second] => [first, second]
  | first :: second :: third :: rest =>
    match if first = 0x25 then hexValue? second else none, hexValue? third with
    | some high, some low => (high * 16 + low) :: decode rest
    | _, _ => first :: decode (second :: third :: rest)

def encode (mustEncode : UInt8 → Bool) (data : Bytes) : Bytes :=
  data.flatMap fun byte =>
    if mustEncode byte then [0x25, hexDigit (byte / 16), hexDigit (byte % 16)] else [byte]

/-- The bytes of control characters and of characters beyond ASCII. -/
def isControlByte (byte : UInt8) : Bool := byte < 0x20 || byte ≥ 0x7F

/-- A text with its control characters and all characters beyond ASCII encoded. -/
def encodeControls (text : String) : String :=
  (Text.ofBytes? (encode isControlByte (Text.bytes text))).getD ""

end Confinement.Percent
