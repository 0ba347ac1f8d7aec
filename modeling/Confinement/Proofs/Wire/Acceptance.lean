import Confinement.Proofs.Wire.Ledger

/-!
# Which records an encoder accepts

Whether a record is written depends on the number of sealed bytes alone, and not on the record that
may be open: it may have as many fields as the limit and take as many bytes as are free
(`verdict`).  The verdict says what the encoder then holds.

An attempt that fails leaves no trace.  Two encoders are `Alike` when they hold the same bytes in
the same place and have come equally far in a record; from there on no call tells them apart, and
neither does a sink.  An encoder that has refused a record is brought alike to one that has never
seen it by the next record that is written to both.
-/

namespace Confinement.Wire

open Host

namespace Encoder

/-! ## The verdict on a record -/

/-- What becomes of a record that is written behind `used` sealed bytes. -/
def verdict (used : Nat) (record : Record) : Except FramingError Unit :=
  if record.length ≤ fieldLimit then
    if used + record.wire.length ≤ bufferLimit then .ok () else .error .bufferFull
  else if used + (Record.body (record.take fieldLimit)).length ≤ bufferLimit then
    .error .tooManyFields
  else
    .error .bufferFull

/-- What a record adds to the sealed bytes. -/
def addition (used : Nat) (record : Record) : Bytes :=
  match verdict used record with
  | .ok () => record.wire
  | .error _ => []

/-- Writing a record comes to its verdict, and to an encoder between two records. -/
theorem writeRecord_settles (encoder : Encoder) (record : Record) :
    (encoder.writeRecord record).1 = verdict encoder.pending record ∧
      (encoder.writeRecord record).2.phase = .idle ∧
      encoder.Settled (addition encoder.pending record) (encoder.writeRecord record).2 := by
  rw [addition, verdict, ← length_sealedBytes]
  rcases writeRecord_outcome encoder record with
    ⟨allowed, room, next, result, idle, settled⟩ | ⟨tooMany, room, next, result, idle, settled⟩ |
      ⟨reason, next, result, idle, settled⟩
  · rw [result, if_pos allowed, if_pos room]
    exact ⟨rfl, idle, settled⟩
  · rw [result, if_neg (Nat.not_le_of_lt tooMany), if_pos room]
    exact ⟨rfl, idle, settled⟩
  · rw [result]
    rcases reason with ⟨allowed, tooLong⟩ | ⟨tooMany, tooLong⟩
    · rw [if_pos allowed, if_neg (Nat.not_le_of_lt tooLong)]
      exact ⟨rfl, idle, settled⟩
    · rw [if_neg (Nat.not_le_of_lt tooMany), if_neg (Nat.not_le_of_lt tooLong)]
      exact ⟨rfl, idle, settled⟩

/-- Twenty empty fields are nineteen separators, and the next field is refused only behind them. -/
example :
    verdict 1981 (List.replicate 21 []) = .error .tooManyFields ∧
      verdict 1982 (List.replicate 21 []) = .error .bufferFull := ⟨rfl, rfl⟩

theorem verdict_eq_ok_iff (used : Nat) (record : Record) :
    verdict used record = .ok () ↔
      record.length ≤ fieldLimit ∧ used + record.wire.length ≤ bufferLimit := by
  unfold verdict
  split
  · split <;> simp_all
  · split <;> simp <;> omega

theorem verdict_eq_tooManyFields_iff (used : Nat) (record : Record) :
    verdict used record = .error .tooManyFields ↔
      fieldLimit < record.length ∧
        used + (Record.body (record.take fieldLimit)).length ≤ bufferLimit := by
  unfold verdict
  split
  · split <;> simp <;> omega
  · split <;> simp_all

theorem verdict_eq_bufferFull_iff (used : Nat) (record : Record) :
    verdict used record = .error .bufferFull ↔
      verdict used record ≠ .ok () ∧ verdict used record ≠ .error .tooManyFields := by
  unfold verdict
  split
  · split <;> simp
  · split <;> simp

/-! ## Encoders that no call tells apart -/

/-- Encoders that hold the same bytes in the same place and have come equally far in a record. -/
structure Alike (left right : Encoder) : Prop where
  phase : left.phase = right.phase
  head : left.buffer.head = right.buffer.head
  toList : left.buffer.toList = right.buffer.toList

/-- Alike encoders come from settled ones that have the same to send and add the same. -/
theorem Settled.alike
    {left right nextLeft nextRight : Encoder} {data : Bytes}
    (settledLeft : left.Settled data nextLeft)
    (settledRight : right.Settled data nextRight)
    (head : left.buffer.head = right.buffer.head)
    (bytes : left.sealedBytes = right.sealedBytes)
    (phase : nextLeft.phase = nextRight.phase) :
    Alike nextLeft nextRight where
  phase := phase
  head := by rw [settledLeft.head, settledRight.head, head]
  toList := by rw [settledLeft.toList, settledRight.toList, bytes]

/-- Writing a record makes encoders alike that have the same to send from the same place. -/
theorem alike_writeRecord
    {left right : Encoder}
    (head : left.buffer.head = right.buffer.head)
    (bytes : left.sealedBytes = right.sealedBytes)
    (record : Record) :
    (left.writeRecord record).1 = (right.writeRecord record).1 ∧
      Alike (left.writeRecord record).2 (right.writeRecord record).2 := by
  have used : left.pending = right.pending := by
    rw [← length_sealedBytes, ← length_sealedBytes, bytes]
  obtain ⟨resultLeft, idleLeft, settledLeft⟩ := writeRecord_settles left record
  obtain ⟨resultRight, idleRight, settledRight⟩ := writeRecord_settles right record
  rw [used] at resultLeft settledLeft
  exact ⟨resultLeft.trans resultRight.symm,
    settledLeft.alike settledRight head bytes (idleLeft.trans idleRight.symm)⟩

theorem putField_of_cancelled
    {encoder : Encoder}
    (cancelled : encoder.phase = .cancelled)
    (field : Bytes) :
    encoder.putField field = (.error .bufferFull, encoder) := by
  rcases encoder with ⟨buffer, phase, fits⟩
  cases cancelled
  rfl

theorem finish_of_cancelled
    {encoder : Encoder}
    (cancelled : encoder.phase = .cancelled) :
    encoder.finish = (.error .bufferFull, encoder.abandon) := by
  rcases encoder with ⟨buffer, phase, fits⟩
  cases cancelled
  rfl

namespace Alike

variable {left right : Encoder}

theorem size (alike : Alike left right) : left.buffer.size = right.buffer.size := by
  rw [← Ring.length_toList, ← Ring.length_toList, alike.toList]

theorem pending (alike : Alike left right) : left.pending = right.pending := by
  rw [Encoder.pending, Encoder.pending, alike.phase, alike.size]

theorem sealedBytes (alike : Alike left right) : left.sealedBytes = right.sealedBytes := by
  rw [Encoder.sealedBytes, Encoder.sealedBytes, alike.toList, alike.pending]

theorem start (alike : Alike left right) : Alike left.start right.start := by
  have settledLeft := settled_start left
  have settledRight := settled_start right
  refine settledLeft.alike settledRight alike.head alike.sealedBytes ?_
  show Phase.opened left.start.buffer.size 0 = Phase.opened right.start.buffer.size 0
  rw [← Ring.length_toList, ← Ring.length_toList, settledLeft.toList, settledRight.toList,
    alike.sealedBytes]

theorem cancel (alike : Alike left right) : Alike left.cancel right.cancel :=
  (settled_cancel left).alike (settled_cancel right) alike.head alike.sealedBytes rfl

theorem abandon (alike : Alike left right) : Alike left.abandon right.abandon :=
  (settled_abandon left).alike (settled_abandon right) alike.head alike.sealedBytes rfl

theorem underWay (alike : Alike left right) : Alike left.underWay right.underWay := by
  rw [Encoder.underWay, Encoder.underWay, alike.phase]
  split
  · exact alike.start
  · exact alike
  · exact alike

theorem putField (alike : Alike left right) (field : Bytes) :
    (left.putField field).1 = (right.putField field).1 ∧
      Alike (left.putField field).2 (right.putField field).2 := by
  rcases underWay_cases left with cancelled | ⟨mark, opened, _⟩
  · have both : right.phase = .cancelled := alike.phase.symm.trans cancelled
    rw [putField_of_cancelled cancelled, putField_of_cancelled both]
    exact ⟨rfl, alike⟩
  · have alike := alike.underWay
    have openedRight := alike.phase.symm.trans opened
    have size := alike.size
    rw [← putField_underWay left, ← putField_underWay right]
    -- Both are in the same case, because their sizes and the numbers of their fields are equal.
    rcases putField_cases opened field with
      ⟨_, _, nextLeft, putLeft, phaseLeft, grownLeft⟩ | ⟨_, putLeft⟩ |
        ⟨_, _, nextLeft, putLeft, phaseLeft, settledLeft⟩
    · rcases putField_cases openedRight field with
        ⟨_, _, nextRight, putRight, phaseRight, grownRight⟩ | _ | _
      · rw [putLeft, putRight]
        refine ⟨rfl, phaseLeft.trans phaseRight.symm, ?_, ?_⟩
        · rw [grownLeft.head, grownRight.head, alike.head]
        · rw [grownLeft.toList, grownRight.toList, alike.toList]
      · omega
      · omega
    · rcases putField_cases openedRight field with _ | ⟨_, putRight⟩ | _
      · omega
      · rw [putLeft, putRight]
        exact ⟨rfl, alike.cancel⟩
      · omega
    · rcases putField_cases openedRight field with
        _ | _ | ⟨_, _, nextRight, putRight, phaseRight, settledRight⟩
      · omega
      · omega
      · rw [putLeft, putRight]
        exact ⟨rfl, settledLeft.alike settledRight alike.head alike.sealedBytes
          (phaseLeft.trans phaseRight.symm)⟩

theorem finish (alike : Alike left right) :
    left.finish.1 = right.finish.1 ∧ Alike left.finish.2 right.finish.2 := by
  rcases underWay_cases left with cancelled | ⟨mark, opened, _⟩
  · have both : right.phase = .cancelled := alike.phase.symm.trans cancelled
    rw [finish_of_cancelled cancelled, finish_of_cancelled both]
    exact ⟨rfl, alike.abandon⟩
  · have alike := alike.underWay
    have openedRight := alike.phase.symm.trans opened
    have size := alike.size
    rw [← finish_underWay left, ← finish_underWay right]
    rcases finish_cases opened with
      ⟨_, nextLeft, sealedLeft, idleLeft, grownLeft⟩ | ⟨_, sealedLeft⟩
    · rcases finish_cases openedRight with
        ⟨_, nextRight, sealedRight, idleRight, grownRight⟩ | _
      · rw [sealedLeft, sealedRight]
        refine ⟨rfl, idleLeft.trans idleRight.symm, ?_, ?_⟩
        · rw [grownLeft.head, grownRight.head, alike.head]
        · rw [grownLeft.toList, grownRight.toList, alike.toList]
      · omega
    · rcases finish_cases openedRight with _ | ⟨_, sealedRight⟩
      · omega
      · rw [sealedLeft, sealedRight]
        exact ⟨rfl, alike.abandon⟩

theorem consume (alike : Alike left right) (count : Nat) :
    Alike (left.consume count) (right.consume count) where
  phase := by
    rcases left with ⟨leftBuffer, phase, leftFits⟩
    rcases right with ⟨rightBuffer, same, rightFits⟩
    cases (alike.phase : phase = same)
    rfl
  head := Ring.head_discard_congr alike.head alike.size count
  toList := by
    show (left.buffer.discard count).toList = (right.buffer.discard count).toList
    rw [Ring.toList_discard, Ring.toList_discard, alike.toList]

theorem offered (alike : Alike left right) : left.offered = right.offered := by
  rw [offered_eq_take, offered_eq_take, alike.sealedBytes, alike.head]

theorem isFlushed (alike : Alike left right) : left.isFlushed = right.isFlushed := by
  rw [Encoder.isFlushed, Encoder.isFlushed, alike.pending]

/-- Flushes of alike encoders meet the same outcomes in the same way. -/
theorem flushFrom (alike : Alike left right) (written : Bytes) (script : List WriteOutcome) :
    (left.flushFrom written script).result = (right.flushFrom written script).result ∧
      (left.flushFrom written script).written = (right.flushFrom written script).written ∧
      Alike (left.flushFrom written script).encoder (right.flushFrom written script).encoder := by
  induction script generalizing left right written with
  | nil =>
      simp only [Encoder.flushFrom, alike.isFlushed, alike.pending, alike.sealedBytes]
      split
      · exact ⟨rfl, rfl, alike⟩
      · exact ⟨rfl, rfl, alike.consume _⟩
  | cons outcome rest hypothesis =>
      simp only [Encoder.flushFrom, alike.isFlushed]
      split
      · exact ⟨rfl, rfl, alike⟩
      · cases outcome with
        | accept count =>
            dsimp only
            rw [alike.offered]
            split
            · exact ⟨rfl, rfl, alike⟩
            · exact hypothesis (alike.consume _) _
        | failure cause =>
            cases cause with
            | interrupted => exact hypothesis alike written
            | _ => exact ⟨rfl, rfl, alike⟩

end Alike

/-- What a call shows: how it ends, the bytes that a sink takes and those that then are sealed. -/
structure View where
  result : Except FramingError Unit
  written : Bytes
  waiting : Bytes

/-- What a call shows that ends with `result`, and the encoder that it leaves. -/
def shows (result : Except FramingError Unit) (written : Bytes) (next : Encoder) :
    View × Encoder :=
  (⟨result, written, next.sealedBytes⟩, next)

/-- What a call shows, and the encoder after it. -/
def view (encoder : Encoder) : Call → View × Encoder
  | .start => shows (.ok ()) [] encoder.start
  | .putField field => shows (encoder.putField field).1 [] (encoder.putField field).2
  | .finish => shows encoder.finish.1 [] encoder.finish.2
  | .cancel => shows (.ok ()) [] encoder.cancel
  | .writeRecord record => shows (encoder.writeRecord record).1 [] (encoder.writeRecord record).2
  | .flush script =>
    let flushed := encoder.flushFrom [] script
    shows (flushed.result.map fun _ => ()) flushed.written flushed.encoder

/-- What calls show, one after another. -/
def views : Encoder → List Call → List View
  | _, [] => []
  | encoder, call :: rest => (encoder.view call).1 :: views (encoder.view call).2 rest

variable {left right : Encoder}

theorem Alike.shows
    (alike : Alike left right) (result : Except FramingError Unit) (written : Bytes) :
    (Encoder.shows result written left).1 = (Encoder.shows result written right).1 ∧
      Alike (Encoder.shows result written left).2 (Encoder.shows result written right).2 :=
  ⟨congrArg (View.mk result written) alike.sealedBytes, alike⟩

/-- A call shows the same of alike encoders and leaves them alike. -/
theorem Alike.view (alike : Alike left right) (call : Call) :
    (left.view call).1 = (right.view call).1 ∧
      Alike (left.view call).2 (right.view call).2 := by
  cases call with
  | start => exact alike.start.shows _ _
  | cancel => exact alike.cancel.shows _ _
  | putField field =>
      obtain ⟨result, next⟩ := alike.putField field
      rw [Encoder.view, Encoder.view, result]
      exact next.shows _ _
  | finish =>
      obtain ⟨result, next⟩ := alike.finish
      rw [Encoder.view, Encoder.view, result]
      exact next.shows _ _
  | writeRecord record =>
      obtain ⟨result, next⟩ := alike_writeRecord alike.head alike.sealedBytes record
      rw [Encoder.view, Encoder.view, result]
      exact next.shows _ _
  | flush script =>
      obtain ⟨result, written, next⟩ := alike.flushFrom [] script
      simp only [Encoder.view, result, written]
      exact next.shows _ _

/-- No calls tell alike encoders apart. -/
theorem Alike.views (alike : Alike left right) (calls : List Call) :
    left.views calls = right.views calls := by
  induction calls generalizing left right with
  | nil => rfl
  | cons call rest hypothesis =>
      obtain ⟨same, next⟩ := alike.view call
      rw [Encoder.views, Encoder.views, same, hypothesis next]

/-- From the next record on, no calls tell apart encoders with the same to send. -/
theorem views_of_settled
    {next : Encoder}
    (settled : left.Settled [] next)
    (record : Record) (calls : List Call) :
    next.views (.writeRecord record :: calls) = left.views (.writeRecord record :: calls) := by
  obtain ⟨result, alike⟩ := alike_writeRecord settled.head settled.sealedBytes_eq record
  rw [views, views, view, view, result, (alike.shows _ _).1]
  exact congrArg _ (alike.views calls)

/-! ## Exact acceptance -/

/--
A record is written exactly when it has no more fields than the limit and its wire form fits into
the free bytes, and then the wire form follows the sealed bytes.  It is refused for its number of
fields exactly when there are too many and those within the limit fit, and for want of room in every
other case.  After a refusal the sealed bytes are what they were, and nothing that is called from
the next record on shows that there has been one.
-/
theorem writeRecord_accepts_exactly (encoder : Encoder) (record : Record) :
    let result := (encoder.writeRecord record).1
    let next := (encoder.writeRecord record).2
    (result = .ok () ↔
      record.length ≤ fieldLimit ∧ encoder.pending + record.wire.length ≤ bufferLimit) ∧
    (result = .error .tooManyFields ↔
      fieldLimit < record.length ∧
        encoder.pending + (Record.body (record.take fieldLimit)).length ≤ bufferLimit) ∧
    (result = .error .bufferFull ↔ result ≠ .ok () ∧ result ≠ .error .tooManyFields) ∧
    (result = .ok () → next.sealedBytes = encoder.sealedBytes ++ record.wire) ∧
    (result ≠ .ok () →
      next.sealedBytes = encoder.sealedBytes ∧
      ∀ (other : Record) (later : List Call),
        next.views (.writeRecord other :: later) =
          encoder.views (.writeRecord other :: later)) := by
  intro result next
  obtain ⟨told, _, settled⟩ := writeRecord_settles encoder record
  have told : result = verdict encoder.pending record := told
  refine ⟨?_, ?_, ?_, ?_, ?_⟩
  · rw [told, verdict_eq_ok_iff]
  · rw [told, verdict_eq_tooManyFields_iff]
  · rw [told, verdict_eq_bufferFull_iff]
  · intro accepted
    rw [addition, ← told, accepted] at settled
    exact settled.sealedBytes
  · intro refused
    have nothing : addition encoder.pending record = [] := by
      rw [addition, ← told]
      cases ended : result with
      | error error => rfl
      | ok done => exact absurd ended refused
    rw [nothing] at settled
    exact ⟨settled.sealedBytes_eq, views_of_settled settled⟩

end Encoder

end Confinement.Wire
