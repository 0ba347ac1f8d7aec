import Confinement.Proofs.Loops
import Confinement.Proofs.Wire.Handover

/-!
# Flushes to any writer

A `Writer` tells what comes of the writes that are made, one after another and without end.  What a
client does may depend on what it is offered: on any run it does some such sequence of things, and
what is said here is said of all of them.

A flush goes on after a write that has taken bytes and after one that was interrupted
(`Encoder.write`), so it comes to its end if only finitely many writes are interrupted
(`flushFrom_settles`).  It has then made some number of writes, and what the writer would do with
further ones makes no difference.
-/

namespace Confinement.Host

/-- The outcomes of writes, in the order in which they are made. -/
abbrev Writer := Nat → WriteOutcome

namespace Writer

/-- What comes of the first writes. -/
def first (writer : Writer) (count : Nat) : List WriteOutcome := (List.range count).map writer

/-- The writer as it is after the first writes. -/
def after (writer : Writer) (count : Nat) : Writer := fun index => writer (count + index)

/-- Whether none of the writes after the first ones is interrupted. -/
def CalmAfter (writer : Writer) (count : Nat) : Prop :=
  ∀ index, count ≤ index → writer index ≠ .failure .interrupted

/-- Whether only finitely many writes are interrupted. -/
def Relents (writer : Writer) : Prop := ∃ count, writer.CalmAfter count

variable {writer : Writer}

theorem first_add (writer : Writer) (count more : Nat) :
    writer.first (count + more) = writer.first count ++ (writer.after count).first more := by
  rw [first, List.range_add, List.map_append, List.map_map]
  rfl

theorem first_succ (writer : Writer) (count : Nat) :
    writer.first (count + 1) = writer 0 :: (writer.after 1).first count := by
  rw [Nat.add_comm, first_add]
  rfl

theorem CalmAfter.after
    {bound : Nat}
    (calm : writer.CalmAfter bound)
    (count : Nat) :
    (writer.after count).CalmAfter (bound - count) := by
  intro index later
  exact calm (count + index) (by omega)

theorem Relents.after
    (relents : writer.Relents)
    (count : Nat) :
    (writer.after count).Relents := by
  obtain ⟨bound, calm⟩ := relents
  exact ⟨bound - count, calm.after count⟩

end Writer

end Confinement.Host

namespace Confinement.Wire.Encoder

open Host

/-- What one write of a flush comes to, `written` being written already. -/
def write (encoder : Encoder) (written : Bytes) :
    WriteOutcome → Pass (Encoder × Bytes) (Except FramingError Nat)
  | .accept count =>
    let taken := encoder.offered.take count
    if taken.isEmpty then .ended (.error (.stream .writeZero))
    else .again (encoder.consume taken.length, written ++ taken)
  | .failure .interrupted => .again (encoder, written)
  | .failure .wouldBlock => .ended (.error .wouldBlock)
  | .failure cause => .ended (.error (.stream cause))

variable {encoder : Encoder}

/-- What is flushed already is not written. -/
theorem flushFrom_of_isFlushed
    (flushed : encoder.isFlushed = true)
    (written : Bytes) (script : List WriteOutcome) :
    encoder.flushFrom written script = ⟨.ok written.length, encoder, script, written⟩ := by
  cases script with
  | nil => rw [flushFrom, if_pos flushed]
  | cons outcome rest =>
      rw [flushFrom.eq_def]
      exact if_pos flushed

/-- As long as something is sealed, a flush goes on write by write. -/
theorem flushFrom_of_busy
    (busy : ¬encoder.isFlushed = true)
    (written : Bytes) (outcome : WriteOutcome) (rest : List WriteOutcome) :
    encoder.flushFrom written (outcome :: rest) =
      match encoder.write written outcome with
      | .again (next, more) => next.flushFrom more rest
      | .ended result => ⟨result, encoder, rest, written⟩ := by
  rw [flushFrom.eq_def]
  dsimp only
  rw [if_neg busy]
  cases outcome with
  | accept count =>
      dsimp only [write]
      split
      · rfl
      · rfl
  | failure cause => cases cause <;> rfl

/-- A flush goes on when a write has taken sealed bytes, or was interrupted and took none. -/
theorem pending_of_write
    {written more : Bytes} {outcome : WriteOutcome} {next : Encoder}
    (again : encoder.write written outcome = .again (next, more)) :
    next.pending < encoder.pending ∨
      (outcome = .failure .interrupted ∧ next.pending = encoder.pending) := by
  cases outcome with
  | accept count =>
      have inside := length_take_offered_le encoder count
      have length := congrArg List.length (sealedBytes_consume encoder inside)
      rw [List.length_drop, length_sealedBytes, length_sealedBytes] at length
      rw [write] at again
      split at again
      · cases again
      · rename_i some
        have positive := List.length_pos_iff.2 (mt List.isEmpty_iff.2 some)
        cases again
        omega
  | failure cause =>
      cases cause <;> cases again
      exact .inr ⟨rfl, rfl⟩

/-- A flush to a writer that relents comes to its end, and no further write is made. -/
theorem flushFrom_settles
    {writer : Writer} {bound : Nat}
    (calm : writer.CalmAfter bound)
    (encoder : Encoder) (written : Bytes) :
    ∃ writes result last taken, ∀ more,
      encoder.flushFrom written (writer.first writes ++ more) = ⟨result, last, more, taken⟩ := by
  by_cases flushed : encoder.isFlushed = true
  · exact ⟨0, _, _, _, flushFrom_of_isFlushed flushed written⟩
  · have step (writes : Nat) (more : List WriteOutcome) :=
      flushFrom_of_busy flushed written (writer 0) ((writer.after 1).first writes ++ more)
    cases wrote : encoder.write written (writer 0) with
    | ended result =>
        rw [wrote] at step
        exact ⟨1, result, encoder, written, step 0⟩
    | again onward =>
        obtain ⟨next, gone⟩ := onward
        have less : bound - 1 + next.pending < bound + encoder.pending := by
          rcases pending_of_write wrote with fewer | ⟨interrupted, same⟩
          · omega
          · have early : bound ≠ 0 := by
              rintro rfl
              exact calm 0 (Nat.le_refl 0) interrupted
            omega
        obtain ⟨writes, result, last, taken, settled⟩ :=
          flushFrom_settles (calm.after 1) next gone
        refine ⟨writes + 1, result, last, taken, fun more => ?_⟩
        rw [Writer.first_succ, List.cons_append, step, wrote]
        exact settled more
termination_by bound + encoder.pending

/-- A flush to a writer that relents makes some number of writes, whatever would come of others. -/
theorem flush_settles
    {writer : Writer}
    (relents : writer.Relents)
    (encoder : Encoder) (accepted : Bytes) :
    ∃ writes result last taken, ∀ more,
      encoder.flush ⟨writer.first writes ++ more, accepted⟩ = (result, last, ⟨more, taken⟩) := by
  obtain ⟨bound, calm⟩ := relents
  obtain ⟨writes, result, last, taken, settled⟩ := flushFrom_settles calm encoder []
  refine ⟨writes, result, last, accepted ++ taken, fun more => ?_⟩
  rw [flush, settled more]

end Confinement.Wire.Encoder
