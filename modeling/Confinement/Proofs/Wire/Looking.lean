import Confinement.Proofs.Loops
import Confinement.Proofs.Wire.Returning

/-!
# Looking for a record

A decoder looks for a record by scanning its buffer from the head.  When it finds a bare terminator
and empty records do not count, it drops the terminator and scans again.  `Decoder.look` is one pass
of this, `Decoder.tryRecord` the whole (`tryRecord_eq_look`), and each pass but the last makes the
buffer shorter (`shrinks_look`).
-/

namespace Confinement.Wire

namespace Decoder

/-- One pass of looking for a record: a scan of the buffer, and what is to be done about it. -/
def look (decoder : Decoder) : Pass Decoder (Except FramingError (Option Record) × Decoder) :=
  match scan decoder.buffer.toList with
  | .overfull => .ended (.error .messageTooBig, decoder)
  | .incomplete =>
    if decoder.buffer.isFull then .ended (.error .messageTooBig, decoder)
    else .ended (.ok none, { decoder with returned := none })
  | .complete record consumed =>
    if record.isEmpty && !decoder.allowEmpty then
      .again { decoder with buffer := decoder.buffer.discard consumed }
    else
      .ended (.ok (some record), { decoder with returned := some consumed })

/-- Where nothing is passed over, looking is reading the head. -/
theorem tryRecord_of_counts
    {decoder : Decoder}
    (counts : decoder.allowEmpty = true ∨ decoder.buffer.toList.head? ≠ some terminator) :
    decoder.tryRecord = decoder.readHead := by
  rw [tryRecord, skipEmpty, if_pos counts]

/-- Bare terminators are passed over one by one. -/
theorem skipEmpty_discard
    {decoder : Decoder} {rest : Bytes}
    (ignored : decoder.allowEmpty = false)
    (bare : decoder.buffer.toList = terminator :: rest) :
    decoder.skipEmpty = skipEmpty { decoder with buffer := decoder.buffer.discard 1 } := by
  have contents : (decoder.buffer.discard 1).toList = rest := by
    rw [Ring.toList_discard, bare, List.drop_one, List.tail_cons]
  rw [skipEmpty, if_neg (by simp [ignored, bare]), bare, List.takeWhile_cons,
    if_pos (beq_self_eq_true _)]
  dsimp only
  rw [List.length_cons, Nat.add_comm, skipEmpty]
  dsimp only
  rw [contents]
  split
  · rename_i counts
    have other := counts.resolve_left (by rw [ignored]; exact Bool.false_ne_true)
    have none : rest.takeWhile (· == terminator) = [] := by
      cases rest with
      | nil => rfl
      | cons byte more =>
          rw [List.takeWhile_cons, if_neg]
          intro same
          exact other (congrArg some (beq_iff_eq.1 same))
    rw [none]
    rfl
  · rw [Ring.discard_discard]

/-- To look for a record is to go on with passes until one of them is the last. -/
theorem tryRecord_eq_look (decoder : Decoder) :
    decoder.tryRecord = decoder.look.followedBy tryRecord := by
  by_cases counts : decoder.allowEmpty = true ∨ decoder.buffer.toList.head? ≠ some terminator
  · rw [tryRecord_of_counts counts, readHead, look]
    cases scanned : scan decoder.buffer.toList with
    | overfull => rfl
    | incomplete =>
        dsimp only
        split
        · rfl
        · rfl
    | complete record consumed =>
        have kept : ¬(record.isEmpty && !decoder.allowEmpty) = true := by
          intro dropped
          obtain ⟨empty, ignored⟩ := Bool.and_eq_true_iff.1 dropped
          rw [List.isEmpty_iff.1 empty] at scanned
          rcases counts with every | other
          · rw [every] at ignored
            cases ignored
          · exact other (head?_of_scan_empty scanned)
        dsimp only
        rw [if_neg kept]
        rfl
  · obtain ⟨ignored, first⟩ := not_or.1 counts
    obtain ⟨rest, bare⟩ := List.head?_eq_some_iff.1 (Classical.not_not.1 first)
    rw [Bool.not_eq_true] at ignored
    rw [tryRecord, skipEmpty_discard ignored bare, look, bare, scan_terminator]
    dsimp only
    rw [ignored]
    rfl

/-- A pass that is not the last one makes the buffer shorter. -/
theorem shrinks_look : Pass.Shrinks look buffered := by
  intro decoder next again
  unfold look at again
  split at again
  · cases again
  · split at again
    · cases again
    · cases again
  · rename_i record consumed scanned
    split at again
    · have bounds := consumed_of_scan scanned
      rw [Ring.length_toList] at bounds
      cases again
      show (decoder.buffer.discard consumed).size < decoder.buffer.size
      rw [Ring.size_discard]
      omega
    · cases again

/-- Looking comes to an end, after at most one pass for each byte and one more. -/
theorem ends_tryRecord (decoder : Decoder) :
    ∃ passes, passes ≤ decoder.buffered + 1 ∧
      Pass.Ends look passes decoder decoder.tryRecord :=
  Pass.ends_of_shrinks tryRecord shrinks_look tryRecord_eq_look decoder

end Decoder

end Confinement.Wire
