import Confinement.Proofs.Text.Lenient

/-!
# The order of texts

Texts are ordered by their characters.  The bytes of a greater character are greater from the first
byte on in which they differ, whatever follows, so this is also the order of the bytes
(`bytes_lt_bytes`).
-/

namespace Confinement

namespace Utf8

theorem cons_lt_cons
    {low high : Nat} {left right : Bytes}
    (small : high < 256)
    (less : low < high ∨ low = high ∧ left < right) :
    UInt8.ofNat low :: left < UInt8.ofNat high :: right := by
  rw [List.cons_lt_cons_iff]
  rcases less with first | ⟨same, later⟩
  · left
    rw [UInt8.lt_iff_toNat_lt, UInt8.toNat_ofNat_of_lt' (Nat.lt_trans first small),
      UInt8.toNat_ofNat_of_lt' small]
    exact first
  · exact .inr ⟨congrArg UInt8.ofNat same, later⟩

/-- The bytes of a greater character are greater, whatever follows. -/
theorem utf8EncodeChar_append_lt
    {low high : Char}
    (less : low < high)
    (left right : Bytes) :
    String.utf8EncodeChar low ++ left < String.utf8EncodeChar high ++ right := by
  have less : low.val.toNat < high.val.toNat := less
  have bound : high.val.toNat < 1114112 := by
    have valid : high.val.toNat.isValidChar := high.valid
    rw [Nat.isValidChar] at valid
    omega
  rw [String.utf8EncodeChar, String.utf8EncodeChar]
  generalize low.val.toNat = low at less
  generalize high.val.toNat = high at less bound
  -- The greater character has at least as many bytes; with more of them its first byte is greater.
  split
  · split
    · exact cons_lt_cons (by omega) (.inl less)
    · split
      · exact cons_lt_cons (by omega) (.inl (by omega))
      · split <;> exact cons_lt_cons (by omega) (.inl (by omega))
  · split
    · rw [if_neg (by omega)]
      split
      · apply cons_lt_cons (by omega)
        rcases Nat.lt_or_ge (low / 64) (high / 64) with first | same
        · exact .inl (by omega)
        · exact .inr ⟨by omega, cons_lt_cons (by omega) (.inl (by omega))⟩
      · split <;> exact cons_lt_cons (by omega) (.inl (by omega))
    · split
      · rw [if_neg (by omega), if_neg (by omega)]
        split
        · apply cons_lt_cons (by omega)
          rcases Nat.lt_or_ge (low / 4096) (high / 4096) with first | same
          · exact .inl (by omega)
          · refine .inr ⟨by omega, cons_lt_cons (by omega) ?_⟩
            rcases Nat.lt_or_ge (low / 64) (high / 64) with second | same
            · exact .inl (by omega)
            · exact .inr ⟨by omega, cons_lt_cons (by omega) (.inl (by omega))⟩
        · exact cons_lt_cons (by omega) (.inl (by omega))
      · rw [if_neg (by omega), if_neg (by omega), if_neg (by omega)]
        apply cons_lt_cons (by omega)
        rcases Nat.lt_or_ge (low / 262144) (high / 262144) with first | same
        · exact .inl (by omega)
        · refine .inr ⟨by omega, cons_lt_cons (by omega) ?_⟩
          rcases Nat.lt_or_ge (low / 4096) (high / 4096) with second | same
          · exact .inl (by omega)
          · refine .inr ⟨by omega, cons_lt_cons (by omega) ?_⟩
            rcases Nat.lt_or_ge (low / 64) (high / 64) with third | same
            · exact .inl (by omega)
            · exact .inr ⟨by omega, cons_lt_cons (by omega) (.inl (by omega))⟩

end Utf8

namespace Text

theorem utf8_lt_utf8
    {left right : List Char}
    (less : left < right) :
    left.flatMap String.utf8EncodeChar < right.flatMap String.utf8EncodeChar := by
  induction left generalizing right with
  | nil =>
      cases right with
      | nil => exact absurd less (List.not_lt_nil _)
      | cons first rest =>
          have some : String.utf8EncodeChar first ≠ [] := by
            intro nothing
            have length := String.length_utf8EncodeChar first
            rw [nothing] at length
            exact absurd length.symm (Nat.ne_of_gt first.utf8Size_pos)
          cases bytes : (first :: rest).flatMap String.utf8EncodeChar with
          | nil =>
              rw [List.flatMap_cons] at bytes
              exact absurd (List.append_eq_nil_iff.1 bytes).1 some
          | cons byte others => exact List.nil_lt_cons byte others
  | cons c others hypothesis =>
      cases right with
      | nil => exact absurd less (List.not_lt_nil _)
      | cons first rest =>
          rw [List.flatMap_cons, List.flatMap_cons]
          rcases List.cons_lt_cons_iff.1 less with before | ⟨rfl, later⟩
          · exact Utf8.utf8EncodeChar_append_lt before _ _
          · exact List.append_left_lt (hypothesis later)

/-- Texts in order are in the order of their bytes. -/
theorem bytes_lt_bytes
    {left right : String}
    (less : left < right) :
    bytes left < bytes right := by
  rw [Utf8.bytes_eq_flatMap, Utf8.bytes_eq_flatMap]
  exact utf8_lt_utf8 less

end Text

end Confinement
