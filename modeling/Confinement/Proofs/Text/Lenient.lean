import Mathlib.Tactic.IntervalCases
import Confinement.Wire.Record

/-!
# The lenient reader on well-formed text

The lenient reader replaces only what is no text.  The bytes of a character are cut into one piece
that is this character, whatever follows, so the bytes of a text are read back as that text
(`lossy_bytes`).
-/

namespace Confinement.Utf8

/-! ## First bytes -/

theorem ofLead?_two
    {bits : Nat}
    (least : 2 ≤ bits) (most : bits ≤ 31) :
    Begun.ofLead? (UInt8.ofNat (bits + 192)) = some ⟨1, 0x80, 0xBF, bits, 1⟩ := by
  interval_cases bits <;> rfl

theorem ofLead?_three
    {bits : Nat}
    (most : bits ≤ 15) :
    Begun.ofLead? (UInt8.ofNat (bits + 224)) =
      some ⟨2, if bits = 0 then 0xA0 else 0x80, if bits = 13 then 0x9F else 0xBF, bits, 1⟩ := by
  interval_cases bits <;> rfl

theorem ofLead?_four
    {bits : Nat}
    (most : bits ≤ 4) :
    Begun.ofLead? (UInt8.ofNat (bits + 240)) =
      some ⟨3, if bits = 0 then 0x90 else 0x80, if bits = 4 then 0x8F else 0xBF, bits, 1⟩ := by
  interval_cases bits <;> rfl

theorem start_of_ascii
    {value : Nat}
    (ascii : value ≤ 127) :
    start (UInt8.ofNat value) = ([.scalar (Char.ofNat value) 1], none) := by
  have small : value < 256 := by omega
  have below : UInt8.ofNat value < 0x80 := by
    rw [UInt8.lt_iff_toNat_lt, UInt8.toNat_ofNat_of_lt' small]
    exact Nat.lt_succ_of_le ascii
  rw [start, if_pos below, UInt8.toNat_ofNat_of_lt' small]

theorem start_of_lead
    {value : Nat} {begun : Begun}
    (high : 128 ≤ value) (small : value < 256)
    (lead : Begun.ofLead? (UInt8.ofNat value) = some begun) :
    start (UInt8.ofNat value) = ([], some begun) := by
  have above : ¬UInt8.ofNat value < 0x80 := by
    rw [UInt8.lt_iff_toNat_lt, UInt8.toNat_ofNat_of_lt' small]
    exact Nat.not_lt.2 high
  rw [start, if_neg above, lead]

/-! ## Further bytes -/

theorem toNat_further (value : Nat) :
    (UInt8.ofNat (value % 64 + 128)).toNat = value % 64 + 128 := by
  have small : value % 64 + 128 < 256 := by omega
  exact UInt8.toNat_ofNat_of_lt' small

theorem step_further
    {begun : Begun} {value : Nat}
    (low : begun.low.toNat ≤ value % 64 + 128)
    (high : value % 64 + 128 ≤ begun.high.toNat) :
    step (some begun) (UInt8.ofNat (value % 64 + 128)) =
      if begun.owed ≤ 1 then
        ([.scalar (Char.ofNat (begun.value * 64 + value % 64)) (begun.taken + 1)], none)
      else
        ([], some ⟨begun.owed - 1, 0x80, 0xBF, begun.value * 64 + value % 64,
          begun.taken + 1⟩) := by
  have within : begun.low ≤ UInt8.ofNat (value % 64 + 128) ∧
      UInt8.ofNat (value % 64 + 128) ≤ begun.high := by
    rw [UInt8.le_iff_toNat_le, UInt8.le_iff_toNat_le, toNat_further]
    exact ⟨low, high⟩
  have bits : (value % 64 + 128) % 64 = value % 64 := by omega
  rw [step, if_pos within, toNat_further, bits]

theorem piecesFrom_last
    {low high : UInt8} {bits taken value : Nat}
    (least : low.toNat ≤ value % 64 + 128)
    (most : value % 64 + 128 ≤ high.toNat)
    (rest : Bytes) :
    piecesFrom (some ⟨1, low, high, bits, taken⟩) (UInt8.ofNat (value % 64 + 128) :: rest) =
      .scalar (Char.ofNat (bits * 64 + value % 64)) (taken + 1) :: pieces rest := by
  rw [piecesFrom, step_further least most]
  rfl

theorem piecesFrom_inner
    {owed : Nat} {low high : UInt8} {bits taken value : Nat}
    (least : low.toNat ≤ value % 64 + 128)
    (most : value % 64 + 128 ≤ high.toNat)
    (rest : Bytes) :
    piecesFrom (some ⟨owed + 2, low, high, bits, taken⟩)
        (UInt8.ofNat (value % 64 + 128) :: rest) =
      piecesFrom (some ⟨owed + 1, 0x80, 0xBF, bits * 64 + value % 64, taken + 1⟩) rest := by
  rw [piecesFrom, step_further least most]
  rfl

theorem further_free (value : Nat) :
    (0x80 : UInt8).toNat ≤ value % 64 + 128 ∧ value % 64 + 128 ≤ (0xBF : UInt8).toNat := by
  have least : (0x80 : UInt8).toNat = 128 := rfl
  have most : (0xBF : UInt8).toNat = 191 := rfl
  omega

/-! ## Characters -/

theorem pieces_of_lead
    {value : Nat} {begun : Begun}
    (high : 128 ≤ value) (small : value < 256)
    (lead : Begun.ofLead? (UInt8.ofNat value) = some begun)
    (rest : Bytes) :
    pieces (UInt8.ofNat value :: rest) = piecesFrom (some begun) rest := by
  rw [pieces, piecesFrom, step, start_of_lead high small lead]
  rfl

theorem pieces_two
    {value : Nat}
    (least : 128 ≤ value) (most : value ≤ 2047)
    (rest : Bytes) :
    pieces (UInt8.ofNat (value / 64 % 32 + 192) :: UInt8.ofNat (value % 64 + 128) :: rest) =
      .scalar (Char.ofNat value) 2 :: pieces rest := by
  obtain ⟨low, high⟩ := further_free value
  have whole : value / 64 % 32 * 64 + value % 64 = value := by omega
  rw [pieces_of_lead (by omega) (by omega) (ofLead?_two (by omega) (by omega)),
    piecesFrom_last low high, whole]

/-- The second byte keeps away from characters that fit into two bytes and from surrogates. -/
theorem pieces_three
    {value : Nat}
    (least : 2048 ≤ value) (most : value ≤ 65535)
    (valid : value.isValidChar)
    (rest : Bytes) :
    pieces (UInt8.ofNat (value / 4096 % 16 + 224) :: UInt8.ofNat (value / 64 % 64 + 128) ::
        UInt8.ofNat (value % 64 + 128) :: rest) =
      .scalar (Char.ofNat value) 3 :: pieces rest := by
  obtain ⟨low, high⟩ := further_free value
  have whole : (value / 4096 % 16 * 64 + value / 64 % 64) * 64 + value % 64 = value := by omega
  have second :
      (if value / 4096 % 16 = 0 then 0xA0 else 0x80 : UInt8).toNat ≤ value / 64 % 64 + 128 ∧
        value / 64 % 64 + 128 ≤
          (if value / 4096 % 16 = 13 then 0x9F else 0xBF : UInt8).toNat := by
    rw [Nat.isValidChar] at valid
    constructor
    · split
      · show 160 ≤ _
        omega
      · exact (further_free _).1
    · split
      · show _ ≤ 159
        omega
      · exact (further_free _).2
  rw [pieces_of_lead (by omega) (by omega) (ofLead?_three (by omega)),
    piecesFrom_inner second.1 second.2, piecesFrom_last low high, whole]

/-- The second byte keeps away from characters that fit into three bytes and from what is none. -/
theorem pieces_four
    {value : Nat}
    (least : 65536 ≤ value)
    (valid : value.isValidChar)
    (rest : Bytes) :
    pieces (UInt8.ofNat (value / 262144 % 8 + 240) :: UInt8.ofNat (value / 4096 % 64 + 128) ::
        UInt8.ofNat (value / 64 % 64 + 128) :: UInt8.ofNat (value % 64 + 128) :: rest) =
      .scalar (Char.ofNat value) 4 :: pieces rest := by
  rw [Nat.isValidChar] at valid
  obtain ⟨low, high⟩ := further_free value
  obtain ⟨lower, higher⟩ := further_free (value / 64)
  have whole : ((value / 262144 % 8 * 64 + value / 4096 % 64) * 64 + value / 64 % 64) * 64 +
      value % 64 = value := by omega
  have second :
      (if value / 262144 % 8 = 0 then 0x90 else 0x80 : UInt8).toNat ≤ value / 4096 % 64 + 128 ∧
        value / 4096 % 64 + 128 ≤
          (if value / 262144 % 8 = 4 then 0x8F else 0xBF : UInt8).toNat := by
    constructor
    · split
      · show 144 ≤ _
        omega
      · exact (further_free _).1
    · split
      · show _ ≤ 143
        omega
      · exact (further_free _).2
  rw [pieces_of_lead (by omega) (by omega) (ofLead?_four (by omega)),
    piecesFrom_inner second.1 second.2, piecesFrom_inner lower higher, piecesFrom_last low high,
    whole]

/-- The bytes of a character are one piece, whatever follows. -/
theorem pieces_utf8EncodeChar_append (character : Char) (rest : Bytes) :
    pieces (String.utf8EncodeChar character ++ rest) =
      .scalar character (String.utf8EncodeChar character).length :: pieces rest := by
  have valid : character.val.toNat.isValidChar := character.valid
  have same : Char.ofNat character.val.toNat = character := Char.ofNat_toNat character
  rw [String.utf8EncodeChar]
  generalize character.val.toNat = value at valid same
  rw [← same]
  split
  · rename_i ascii
    rw [List.cons_append, pieces, piecesFrom, step, start_of_ascii ascii]
    rfl
  · split
    · exact pieces_two (by omega) (by omega) rest
    · split
      · exact pieces_three (by omega) (by omega) valid rest
      · exact pieces_four (by omega) valid rest

theorem map_shown_pieces_flatMap (characters : List Char) :
    (pieces (characters.flatMap String.utf8EncodeChar)).map Piece.shown = characters := by
  induction characters with
  | nil => rfl
  | cons character rest hypothesis =>
      rw [List.flatMap_cons, pieces_utf8EncodeChar_append, List.map_cons, hypothesis]
      rfl

theorem bytes_eq_flatMap (text : String) :
    Text.bytes text = text.toList.flatMap String.utf8EncodeChar := by
  rw [Text.bytes, String.toUTF8_eq_toByteArray, ← String.utf8Encode_toList, List.utf8Encode,
    List.data_toByteArray]

/-- The lenient reader reads a text as it is. -/
@[simp]
theorem lossy_bytes (text : String) : lossy (Text.bytes text) = text := by
  rw [lossy, bytes_eq_flatMap, map_shown_pieces_flatMap, String.ofList_toList]

end Confinement.Utf8

namespace Confinement.Wire.Record

@[simp]
theorem lossyTexts_ofTexts (texts : List String) : (ofTexts texts).lossyTexts = texts := by
  rw [lossyTexts, ofTexts, List.map_map]
  refine (List.map_congr_left fun text _ => ?_).trans (List.map_id texts)
  exact Utf8.lossy_bytes text

end Confinement.Wire.Record
