/-!
# Text and its bytes

Fields travel as bytes and are used as text.  `bytes` and `ofBytes?` pass between the two: a text
has exactly one byte form, and a byte list is that of at most one text (`ofBytes?_eq_some_iff`).

For byte lists that are no text, `Utf8.pieces` cuts them into characters and maximal ill-formed
parts.  The first ill-formed part is what a reader complains about (`Utf8.fault?`), and a lenient
reader shows each of them as one replacement character (`Utf8.lossy`).
-/

namespace Confinement

/-- A finite run of bytes. -/
abbrev Bytes := List UInt8

namespace Text

def bytes (text : String) : Bytes := text.toUTF8.data.toList

/-- The text with the given UTF-8 bytes, when they are well formed. -/
def ofBytes? (data : Bytes) : Option String := String.fromUTF8? ⟨data.toArray⟩

theorem ofBytes?_eq_some_iff {data : Bytes} {text : String} :
    ofBytes? data = some text ↔ bytes text = data := by
  constructor
  · intro found
    unfold ofBytes? String.fromUTF8? at found
    split at found
    · cases found
      simp [bytes, String.fromUTF8]
    · simp at found
  · rintro rfl
    have valid := text.isValidUTF8
    simp [ofBytes?, String.fromUTF8?, bytes, String.fromUTF8, String.toUTF8, valid]

@[simp]
theorem ofBytes?_bytes (text : String) : ofBytes? (bytes text) = some text :=
  ofBytes?_eq_some_iff.2 rfl

theorem bytes_injective {left right : String}
    (same : bytes left = bytes right) : left = right := by
  have found := ofBytes?_bytes left
  rw [same, ofBytes?_bytes] at found
  exact (Option.some.inj found).symm

theorem bytes_append (left right : String) : bytes (left ++ right) = bytes left ++ bytes right := by
  rw [bytes, String.toUTF8, String.toByteArray_append, ByteArray.toList_data_append]
  rfl

theorem bytes_join (texts : List String) : bytes (String.join texts) = texts.flatMap bytes := by
  induction texts with
  | nil => rfl
  | cons text rest hypothesis =>
    rw [String.join_cons, bytes_append, hypothesis, List.flatMap_cons]

/-- Texts by their UTF-8 bytes, which is also the order of their characters. -/
def ascending (texts : List String) : List String :=
  texts.mergeSort (fun left right => decide (left ≤ right))

end Text

namespace Utf8

/-- One stretch of a byte list: a character, or a part that belongs to none. -/
inductive Piece where
  /-- A well-formed character of `length` bytes. -/
  | scalar (value : Char) (length : Nat)
  /-- Bytes that no continuation turns into a character. -/
  | malformed (length : Nat)
  /-- A character cut off by the end of the bytes. -/
  | truncated (length : Nat)
  deriving DecidableEq, Repr

/-- The number of bytes in a piece. -/
def Piece.length : Piece → Nat
  | .scalar _ length | .malformed length | .truncated length => length

/--
A character that has begun: how many bytes it still needs, the least and greatest byte that may
come next, and the bits and number of bytes read so far.
-/
structure Begun where
  /-- Bytes still missing. -/
  owed : Nat
  low : UInt8
  high : UInt8
  /-- Bits of the character read so far. -/
  value : Nat
  /-- Bytes read so far. -/
  taken : Nat

/-- The state after the first byte of a character of two to four bytes. -/
def Begun.ofLead? (lead : UInt8) : Option Begun :=
  if 0xC2 ≤ lead ∧ lead ≤ 0xDF then
    some ⟨1, 0x80, 0xBF, lead.toNat % 0x20, 1⟩
  else if 0xE0 ≤ lead ∧ lead ≤ 0xEF then
    some ⟨2, if lead = 0xE0 then 0xA0 else 0x80, if lead = 0xED then 0x9F else 0xBF,
      lead.toNat % 0x10, 1⟩
  else if 0xF0 ≤ lead ∧ lead ≤ 0xF4 then
    some ⟨3, if lead = 0xF0 then 0x90 else 0x80, if lead = 0xF4 then 0x8F else 0xBF,
      lead.toNat % 0x08, 1⟩
  else
    none

/-- The pieces finished by a byte between characters, and the character it begins. -/
def start (byte : UInt8) : List Piece × Option Begun :=
  if byte < 0x80 then
    ([.scalar (Char.ofNat byte.toNat) 1], none)
  else
    match Begun.ofLead? byte with
    | some begun => ([], some begun)
    | none => ([.malformed 1], none)

/-- The pieces finished by a byte, and the character under way after it. -/
def step : Option Begun → UInt8 → List Piece × Option Begun
  | none, byte => start byte
  | some begun, byte =>
    if begun.low ≤ byte ∧ byte ≤ begun.high then
      let value := begun.value * 0x40 + byte.toNat % 0x40
      if begun.owed ≤ 1 then
        ([.scalar (Char.ofNat value) (begun.taken + 1)], none)
      else
        ([], some ⟨begun.owed - 1, 0x80, 0xBF, value, begun.taken + 1⟩)
    else
      let (done, next) := start byte
      (.malformed begun.taken :: done, next)

/-- The pieces of the remaining bytes, given the character under way. -/
def piecesFrom : Option Begun → Bytes → List Piece
  | none, [] => []
  | some begun, [] => [.truncated begun.taken]
  | state, byte :: rest =>
    let (done, next) := step state byte
    done ++ piecesFrom next rest

/-- A byte list cut into characters and maximal ill-formed parts. -/
def pieces (data : Bytes) : List Piece := piecesFrom none data

/-- The first place where a byte list stops being text. -/
structure Fault where
  /-- The number of well-formed bytes before the fault. -/
  index : Nat
  /-- The length of the ill-formed part, or `none` when the bytes end inside a character. -/
  length : Option Nat
  deriving DecidableEq, Repr

/-- The words in which a fault is told. -/
def Fault.message : Fault → String
  | ⟨index, some length⟩ =>
    "invalid utf-8 sequence of " ++ toString length ++ " bytes from index " ++ toString index
  | ⟨index, none⟩ => "incomplete utf-8 byte sequence from index " ++ toString index

/-- The first ill-formed part among pieces that start at `index`. -/
def faultFrom (index : Nat) : List Piece → Option Fault
  | [] => none
  | .scalar _ length :: rest => faultFrom (index + length) rest
  | .malformed length :: _ => some ⟨index, some length⟩
  | .truncated _ :: _ => some ⟨index, none⟩

/-- The first ill-formed part of a byte list. -/
def fault? (data : Bytes) : Option Fault := faultFrom 0 (pieces data)

/-- The character shown for a piece by a lenient reader. -/
def Piece.shown : Piece → Char
  | .scalar value _ => value
  | .malformed _ | .truncated _ => '\uFFFD'

/-- The text of a byte list, each maximal ill-formed part replaced by one U+FFFD. -/
def lossy (data : Bytes) : String := String.ofList ((pieces data).map Piece.shown)

end Utf8

end Confinement
