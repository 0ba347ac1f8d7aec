import Confinement.Text.Utf8
import Mathlib.Data.List.Flatten

/-!
# Cutting at a character

A list of characters that is cut wherever a separator stands has parts without the separator
(`not_mem_of_mem_splitOn`), and such parts are what comes back when they are put together again,
with a separator before each of them (`splitOn_joined`) or after each of them (`splitOn_lines`).
-/

namespace Confinement.Text

variable {separator : Char} {parts : List (List Char)}

/-- No part holds what was cut at. -/
theorem not_mem_of_mem_splitOn
    {chars part : List Char}
    (member : part ∈ chars.splitOn separator) :
    separator ∉ part := by
  induction chars generalizing part with
  | nil =>
      rw [List.splitOn_nil, List.mem_singleton] at member
      rw [member]
      exact List.not_mem_nil
  | cons c rest hypothesis =>
      rw [List.splitOn_cons_eq_if_modifyHead] at member
      split at member
      · rcases List.mem_cons.1 member with rfl | later
        · exact List.not_mem_nil
        · exact hypothesis later
      · rename_i other
        obtain ⟨first, others, parts⟩ :=
          List.exists_cons_of_ne_nil (List.splitOn_ne_nil separator rest)
        rw [parts, List.modifyHead_cons] at member
        rw [parts] at hypothesis
        rcases List.mem_cons.1 member with rfl | later
        · intro inside
          rcases List.mem_cons.1 inside with same | among
          · exact other (beq_iff_eq.2 same.symm)
          · exact hypothesis List.mem_cons_self among
        · exact hypothesis (List.mem_cons_of_mem _ later)

/-- What stands before the last separator and what stands behind it are determined. -/
theorem eq_of_append_separator
    {front other tail rest : List Char}
    (inner : separator ∉ tail)
    (innerRest : separator ∉ rest)
    (same : front ++ separator :: tail = other ++ separator :: rest) :
    front = other ∧ tail = rest := by
  -- If one front were longer, it would have the other's separator, and the tail its own.
  rcases List.append_eq_append_iff.1 same with ⟨more, rfl, split⟩ | ⟨more, rfl, split⟩
  · cases more with
    | nil => exact ⟨(List.append_nil _).symm, (List.cons.inj split).2⟩
    | cons c others =>
        have longer := (List.cons.inj split).2
        exact absurd (longer ▸ List.mem_append_right _ List.mem_cons_self) inner
  · cases more with
    | nil => exact ⟨List.append_nil _, (List.cons.inj split).2.symm⟩
    | cons c others =>
        have longer := (List.cons.inj split).2
        exact absurd (longer ▸ List.mem_append_right _ List.mem_cons_self) innerRest

/-- Parts with a separator after each of them. -/
theorem splitOn_lines
    (inner : ∀ part ∈ parts, separator ∉ part) :
    (parts.flatMap fun part => part ++ [separator]).splitOn separator = parts ++ [[]] := by
  induction parts with
  | nil => rfl
  | cons part rest hypothesis =>
      rw [List.flatMap_cons, List.append_assoc, List.cons_append, List.nil_append,
        List.splitOn_append_cons_self_of_not_mem (inner part List.mem_cons_self),
        hypothesis fun other member => inner other (List.mem_cons_of_mem _ member)]
      rfl

/-- The parts, with a separator before each of them. -/
def joined (separator : Char) (parts : List (List Char)) : List Char :=
  parts.flatMap (separator :: ·)

theorem joined_eq_cons
    (some : parts ≠ []) :
    joined separator parts = separator :: [separator].intercalate parts := by
  induction parts with
  | nil => exact absurd rfl some
  | cons part rest hypothesis =>
      cases rest with
      | nil => simp [joined, List.intercalate]
      | cons next others =>
          have later := hypothesis (List.cons_ne_nil _ _)
          rw [joined, List.flatMap_cons]
          show separator :: part ++ joined separator (next :: others) = _
          rw [later]
          simp [List.intercalate]

/-- Cutting undoes the joining. -/
theorem splitOn_joined
    (some : parts ≠ [])
    (inner : ∀ part ∈ parts, separator ∉ part) :
    (joined separator parts).splitOn separator = [] :: parts := by
  rw [joined_eq_cons some, List.splitOn_cons_eq_if_modifyHead, if_pos (beq_self_eq_true separator),
    List.splitOn_intercalate separator inner some]

/-- Joining undoes the cutting. -/
theorem joined_splitOn (separator : Char) (chars : List Char) :
    joined separator (chars.splitOn separator) = separator :: chars := by
  rw [joined_eq_cons (List.splitOn_ne_nil separator chars), List.intercalate_splitOn]

theorem joined_sublist
    {others : List (List Char)}
    (part : parts.Sublist others) :
    (joined separator parts).Sublist (joined separator others) :=
  part.flatMap _

end Confinement.Text
