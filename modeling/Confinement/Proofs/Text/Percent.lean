import Confinement.Proofs.Text.Lenient
import Confinement.Text.Percent
import Mathlib.Data.List.Basic

/-!
# Percent signs

Undoing a percent encoding never makes data longer, and it leaves exactly the data alone that have
no percent sign with two digits after it (`decode_eq_self_iff`).  Encoding works on one character
after another: printable ones are written as they are, and all others byte by byte
(`toList_encodeControls`), so encoding an encoded text changes nothing.
-/

namespace Confinement.Percent

/-! ## Decoding -/

/-- Whether no percent sign has two hexadecimal digits after it. -/
def Literal (data : Bytes) : Prop :=
  ∀ before high low after, data = before ++ 0x25 :: high :: low :: after →
    hexValue? high = none ∨ hexValue? low = none

theorem Literal.tail
    {byte : UInt8} {rest : Bytes}
    (literal : Literal (byte :: rest)) :
    Literal rest := by
  intro before high low after split
  exact literal (byte :: before) high low after (by rw [split, List.cons_append])

theorem length_decode_le (data : Bytes) : (decode data).length ≤ data.length := by
  fun_induction decode data with
  | case1 => exact Nat.le_refl _
  | case2 => exact Nat.le_refl _
  | case3 => exact Nat.le_refl _
  | case4 =>
      simp only [List.length_cons]
      omega
  | case5 =>
      simp only [List.length_cons] at *
      omega

/-- Literal data are left alone. -/
theorem Literal.decode_eq
    {data : Bytes}
    (literal : Literal data) :
    decode data = data := by
  fun_induction decode data with
  | case1 => rfl
  | case2 => rfl
  | case3 => rfl
  | case4 first second third rest high low lower upper hypothesis =>
      split at upper
      · rename_i mark
        rcases literal [] second third rest (by rw [mark, List.nil_append]) with none | none
        · rw [none] at upper
          cases upper
        · rw [none] at lower
          cases lower
      · cases upper
  | case5 first second third rest plain hypothesis => rw [hypothesis literal.tail]

/-- Data that are left alone are literal: a code would have become shorter. -/
theorem literal_of_decode_eq
    {data : Bytes}
    (same : decode data = data) :
    Literal data := by
  have short {data : Bytes} (bound : data.length < 3) : Literal data := by
    intro before high low after split
    rw [split, List.length_append] at bound
    simp only [List.length_cons] at bound
    omega
  fun_induction decode data with
  | case1 => exact short (by decide)
  | case2 => exact short (Nat.lt_of_sub_eq_succ rfl)
  | case3 => exact short (Nat.lt_of_sub_eq_succ rfl)
  | case4 first second third rest high low lower upper hypothesis =>
      have longer := congrArg List.length same
      have bound := length_decode_le rest
      simp only [List.length_cons] at longer
      omega
  | case5 first second third rest plain hypothesis =>
      have literal := hypothesis (List.cons.inj same).2
      intro before high low after split
      cases before with
      | cons byte others => exact literal others high low after (List.cons.inj split).2
      | nil =>
          rw [List.nil_append] at split
          cases split
          cases upper : hexValue? second with
          | none => exact .inl rfl
          | some value =>
              cases lower : hexValue? third with
              | none => exact .inr rfl
              | some digit => exact absurd lower (plain value digit (by rw [if_pos rfl, upper]))

/-- Decoding leaves exactly the data alone that are literal. -/
theorem decode_eq_self_iff {data : Bytes} : decode data = data ↔ Literal data :=
  ⟨literal_of_decode_eq, Literal.decode_eq⟩

instance (data : Bytes) : Decidable (Literal data) := decidable_of_iff _ decode_eq_self_iff

/-! ## Encoding -/

/-- Whether a character is written as it is. -/
def IsPrintable (c : Char) : Prop := 0x20 ≤ c.toNat ∧ c.toNat < 0x7F

instance (c : Char) : Decidable (IsPrintable c) := inferInstanceAs (Decidable (_ ∧ _))

/-- The hexadecimal digit of a value below sixteen. -/
def digit (value : UInt8) : Char := Char.ofNat (hexDigit value).toNat

/-- What is written for a character. -/
def written (c : Char) : List Char :=
  if IsPrintable c then [c]
  else (String.utf8EncodeChar c).flatMap fun byte => ['%', digit (byte / 16), digit (byte % 16)]

theorem digit_spec
    {value : UInt8}
    (small : value.toNat < 16) :
    IsPrintable (digit value) ∧ String.utf8EncodeChar (digit value) = [hexDigit value] := by
  have all : ∀ n < 16, IsPrintable (digit (UInt8.ofNat n)) ∧
      String.utf8EncodeChar (digit (UInt8.ofNat n)) = [hexDigit (UInt8.ofNat n)] := by decide
  have found := all value.toNat small
  rwa [UInt8.ofNat_toNat] at found

theorem isControlByte_ofNat
    {value : Nat}
    (small : value < 256) :
    isControlByte (UInt8.ofNat value) = (decide (value < 0x20) || decide (0x7F ≤ value)) := by
  have same : (UInt8.ofNat value).toNat = value := UInt8.toNat_ofNat_of_lt' small
  rw [isControlByte]
  congr 1
  · rw [decide_eq_decide, UInt8.lt_iff_toNat_lt, same]
    rfl
  · rw [decide_eq_decide, ge_iff_le, UInt8.le_iff_toNat_le, same]
    rfl

/-- The two halves of a byte are digits. -/
theorem halves (byte : UInt8) : (byte / 16).toNat < 16 ∧ (byte % 16).toNat < 16 := by
  rw [UInt8.toNat_div, UInt8.toNat_mod]
  exact ⟨Nat.div_lt_of_lt_mul byte.toNat_lt, Nat.mod_lt _ (by decide)⟩

/-- A printable character is one byte, which is not encoded. -/
theorem encode_of_printable
    {c : Char}
    (printable : IsPrintable c) :
    encode isControlByte (String.utf8EncodeChar c) = String.utf8EncodeChar c := by
  obtain ⟨low, high⟩ := printable
  have bound : c.val.toNat ≤ 127 := Nat.le_of_lt high
  have plain : isControlByte (UInt8.ofNat c.val.toNat) = false := by
    rw [isControlByte_ofNat (by omega), Bool.or_eq_false_iff, decide_eq_false_iff_not,
      decide_eq_false_iff_not]
    exact ⟨Nat.not_lt.2 low, Nat.not_le.2 high⟩
  rw [String.utf8EncodeChar, if_pos bound, encode, List.flatMap_singleton, plain]
  rfl

/-- All bytes of a character that is not printable are encoded. -/
theorem isControlByte_of_not_printable
    {c : Char} {byte : UInt8}
    (control : ¬IsPrintable c)
    (member : byte ∈ String.utf8EncodeChar c) :
    isControlByte byte = true := by
  have outside : c.val.toNat < 0x20 ∨ 0x7F ≤ c.val.toNat := by
    have none : ¬(0x20 ≤ c.val.toNat ∧ c.val.toNat < 0x7F) := control
    omega
  rw [String.utf8EncodeChar] at member
  generalize c.val.toNat = value at outside member
  have large {part : Nat} (least : 0x7F ≤ part) (small : part < 256) :
      isControlByte (UInt8.ofNat part) = true := by
    rw [isControlByte_ofNat small, decide_eq_true least, Bool.or_true]
  split at member
  · rw [List.mem_singleton.1 member, isControlByte_ofNat (by omega), Bool.or_eq_true,
      decide_eq_true_iff, decide_eq_true_iff]
    exact outside
  · split at member
    · simp only [List.mem_cons, List.not_mem_nil, or_false] at member
      rcases member with rfl | rfl <;> exact large (by omega) (by omega)
    · split at member
      · simp only [List.mem_cons, List.not_mem_nil, or_false] at member
        rcases member with rfl | rfl | rfl <;> exact large (by omega) (by omega)
      · simp only [List.mem_cons, List.not_mem_nil, or_false] at member
        rcases member with rfl | rfl | rfl | rfl <;> exact large (by omega) (by omega)

/-- The bytes of what is written for a character are the encoded bytes of the character. -/
theorem encode_utf8EncodeChar (c : Char) :
    encode isControlByte (String.utf8EncodeChar c) = (written c).flatMap String.utf8EncodeChar := by
  by_cases printable : IsPrintable c
  · rw [encode_of_printable printable, written, if_pos printable, List.flatMap_singleton]
  · rw [written, if_neg printable, encode, List.flatMap_assoc]
    apply List.flatMap_congr
    intro byte member
    rw [if_pos (isControlByte_of_not_printable printable member)]
    simp only [List.flatMap_cons, List.flatMap_nil, List.append_nil, (digit_spec (halves byte).1).2,
      (digit_spec (halves byte).2).2]
    rfl

/-- Encoding works character by character. -/
theorem toList_encodeControls (text : String) :
    (encodeControls text).toList = text.toList.flatMap written := by
  have bytes : encode isControlByte (Text.bytes text) =
      Text.bytes (String.ofList (text.toList.flatMap written)) := by
    rw [Utf8.bytes_eq_flatMap, Utf8.bytes_eq_flatMap, String.toList_ofList, encode,
      List.flatMap_assoc, List.flatMap_assoc]
    exact List.flatMap_congr fun c _ => encode_utf8EncodeChar c
  rw [encodeControls, bytes, Text.ofBytes?_bytes, Option.getD_some, String.toList_ofList]

/-- What is written for a character is the character or part of a code. -/
theorem mem_written
    {c other : Char}
    (member : other ∈ written c) :
    (IsPrintable c ∧ other = c) ∨ other = '%' ∨
      ∃ value : UInt8, value.toNat < 16 ∧ other = digit value := by
  rw [written] at member
  split at member
  · rename_i printable
    exact .inl ⟨printable, List.mem_singleton.1 member⟩
  · obtain ⟨byte, _, among⟩ := List.mem_flatMap.1 member
    simp only [List.mem_cons, List.not_mem_nil, or_false] at among
    rcases among with rfl | rfl | rfl
    · exact .inr (.inl rfl)
    · exact .inr (.inr ⟨_, (halves byte).1, rfl⟩)
    · exact .inr (.inr ⟨_, (halves byte).2, rfl⟩)

/-- A character is written as it is or begins with a percent sign. -/
theorem head?_written (c : Char) : (written c).head? = some c ∨ (written c).head? = some '%' := by
  rw [written]
  split
  · exact .inl rfl
  · right
    cases bytes : String.utf8EncodeChar c with
    | nil =>
        have length := String.length_utf8EncodeChar c
        rw [bytes] at length
        exact absurd length.symm (Nat.ne_of_gt c.utf8Size_pos)
    | cons byte rest => rfl

theorem isPrintable_of_mem_encodeControls
    {text : String} {c : Char}
    (member : c ∈ (encodeControls text).toList) :
    IsPrintable c := by
  rw [toList_encodeControls] at member
  obtain ⟨_, _, among⟩ := List.mem_flatMap.1 member
  rcases mem_written among with ⟨printable, rfl⟩ | rfl | ⟨value, small, rfl⟩
  · exact printable
  · decide
  · exact (digit_spec small).1

/-- Printable texts are left alone. -/
theorem encodeControls_eq_self
    {text : String}
    (printable : ∀ c ∈ text.toList, IsPrintable c) :
    encodeControls text = text := by
  apply String.toList_injective
  rw [toList_encodeControls]
  calc
    text.toList.flatMap written = text.toList.flatMap fun c => [c] :=
      List.flatMap_congr fun c member => if_pos (printable c member)
    _ = text.toList := List.flatMap_singleton' text.toList

end Confinement.Percent
