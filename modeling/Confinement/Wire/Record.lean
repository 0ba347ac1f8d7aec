import Confinement.Text.Utf8

/-!
# Records and their wire form

A record is a list of fields, and a field is any byte list.  On the wire a blank separates two
fields and a line feed ends the record; a backslash makes the special byte after it part of the
field.  A backslash stands for itself before an ordinary byte, so it is escaped only where it would
otherwise be read as an escape: before a special byte and at the end of its field.

`Record.wire` is the wire form of a record, written without any buffer.
-/

namespace Confinement.Wire

/-- The byte between two fields. -/
def separator : UInt8 := 0x20

/-- The byte that ends a record. -/
def terminator : UInt8 := 0x0A

/-- The byte that makes a special byte ordinary. -/
def escapeByte : UInt8 := 0x5C

/-- The bytes with a meaning on the wire. -/
def isSpecial (byte : UInt8) : Bool :=
  byte == separator || byte == terminator || byte == escapeByte

/-- The greatest number of fields in a record. -/
def fieldLimit : Nat := 20

/-- The number of bytes that each direction buffers. -/
def bufferLimit : Nat := 2000

/-- Whether a byte is escaped, given the byte that follows it in its field. -/
def needsEscape (byte : UInt8) (next : Option UInt8) : Bool :=
  if byte = escapeByte then
    match next with
    | none => true
    | some other => isSpecial other
  else
    isSpecial byte

/-- The wire form of a field. -/
def escape : Bytes → Bytes
  | [] => []
  | byte :: rest =>
    if needsEscape byte rest.head? then escapeByte :: byte :: escape rest
    else byte :: escape rest

theorem escape_cons (byte : UInt8) (rest : Bytes) :
    escape (byte :: rest) =
      (if needsEscape byte rest.head? then [escapeByte] else []) ++ [byte] ++ escape rest := by
  rw [escape]
  split <;> rfl

abbrev Record := List Bytes

namespace Record

/-- The fields as texts; bytes that are no text are shown as replacement characters. -/
def lossyTexts (record : Record) : List String := record.map Utf8.lossy

/-- The wire form of fields with separators between them. -/
def body : Record → Bytes
  | [] => []
  | [field] => escape field
  | field :: rest => escape field ++ separator :: body rest

def wire (record : Record) : Bytes := body record ++ [terminator]

def ofTexts (texts : List String) : Record := texts.map Text.bytes

/-- The fields as texts, or the fault of the first one that is no text. -/
def texts? : Record → Except Utf8.Fault (List String)
  | [] => .ok []
  | field :: rest =>
    match Text.ofBytes? field with
    | some text => (texts? rest).map (text :: ·)
    | none => .error ((Utf8.fault? field).getD ⟨0, none⟩)

@[simp]
theorem texts?_ofTexts (texts : List String) : texts? (ofTexts texts) = .ok texts := by
  induction texts with
  | nil => rfl
  | cons text rest hypothesis =>
    simp only [ofTexts, List.map_cons, texts?, Text.ofBytes?_bytes]
    change Except.map _ (texts? (ofTexts rest)) = _
    rw [hypothesis]
    rfl

end Record

end Confinement.Wire
