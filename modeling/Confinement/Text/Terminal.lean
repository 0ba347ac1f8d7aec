import Confinement.Text.Utf8

/-!
# Control sequences

What is left of a text when the sequences with which a terminal is controlled are taken out of it,
and control characters other than white space.  A sequence begins with an escape character; what
follows that one says how far the sequence goes.  An escape character within a sequence begins
another one, and a sequence without an end swallows the rest.
-/

namespace Confinement.Terminal

/-- What the bytes of a text belong to. -/
inductive Place where
  | text
  /-- To a sequence, right after its escape character. -/
  | escape
  /-- To a sequence of a few signs, which ends with a letter or digit. -/
  | signs
  /-- To a sequence of numbers and signs, which ends with a letter. -/
  | numbers
  /-- To a string, which another sequence ends and, for some strings, a bell. -/
  | string (endsAtBell : Bool)
  deriving DecidableEq, Repr

/-- Whether a byte is a control character that counts as white space. -/
def isSpacing (byte : UInt8) : Bool :=
  byte == 0x09 || byte == 0x0A || byte == 0x0C || byte == 0x0D

/-- Whether a byte is within a character beyond ASCII. -/
def isContinuation (byte : UInt8) : Bool := 0x80 ≤ byte && byte ≤ 0xBF

/-- Whether a byte is shown where it belongs to the text. -/
def isShown (byte : UInt8) : Bool :=
  (0x20 ≤ byte && byte ≤ 0x7E) || isSpacing byte || 0xC0 ≤ byte

/-- Where the bytes after a printable ASCII character belong that is part of a sequence. -/
def follow (byte : UInt8) : Place → Place
  | .escape =>
    if byte ≤ 0x2F then .signs
    else if byte = 0x5B then .numbers
    else if byte = 0x5D then .string true
    else if byte = 0x50 ∨ byte = 0x58 ∨ byte = 0x5E ∨ byte = 0x5F then .string false
    else .text
  | .signs => if byte ≤ 0x2F then .signs else .text
  | .numbers => if byte ≤ 0x3F then .numbers else .text
  | .text => .text
  | .string endsAtBell => .string endsAtBell

/-- Whether a byte is shown, and where the bytes after it belong. -/
def step (place : Place) (byte : UInt8) : Bool × Place :=
  if isContinuation byte then (true, .text)
  else if byte = 0x1B then (false, .escape)
  else if byte = 0x18 ∨ byte = 0x1A then (false, .text)
  else
    match place with
    | .text => (isShown byte, .text)
    | .string endsAtBell => (false, if endsAtBell ∧ byte = 0x07 then .text else place)
    | .escape | .signs | .numbers =>
      if isSpacing byte then (true, .text)
      else if 0x20 ≤ byte ∧ byte ≤ 0x7E then (false, follow byte place)
      else (false, place)

/-- The bytes that are shown of those that follow. -/
def shownFrom (place : Place) : Bytes → Bytes
  | [] => []
  | byte :: rest =>
    let (kept, next) := step place byte
    if kept then byte :: shownFrom next rest else shownFrom next rest

/-- A text without control sequences. -/
def plain (text : String) : String := Utf8.lossy (shownFrom .text (Text.bytes text))

/-- A text between sequences that set it apart. -/
def marked (text : String) : String := "\x1b[1m" ++ text ++ "\x1b[0m"

end Confinement.Terminal
