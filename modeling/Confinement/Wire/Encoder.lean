import Confinement.Host.Stream
import Confinement.Wire.Record
import Confinement.Wire.Refusal
import Confinement.Wire.Ring

/-!
# Encoders

An `Encoder` builds records in a bounded buffer and hands sealed ones to a sink.  A record is
opened, filled field by field and sealed; one that overflows is taken back whole, so the sealed
bytes are always the wire forms of whole records.  Bytes of an unsealed record never reach the sink.

The number of sealed bytes never exceeds what the buffer holds: that is part of the type.
-/

namespace Confinement.Wire

open Host

/-- How far the record under way has come. -/
inductive Phase where
  | idle
  /-- A record is open after `mark` sealed bytes and holds `fields` fields. -/
  | opened (mark fields : Nat)
  /-- The record was taken back; its remaining calls fail. -/
  | cancelled
  deriving DecidableEq, Repr

/-- Whether a phase fits a buffer that holds `size` bytes. -/
def Phase.Fits (size : Nat) : Phase → Prop
  | .opened mark fields => mark ≤ size ∧ fields ≤ fieldLimit
  | .idle | .cancelled => True

/-- Records on their way out. -/
structure Encoder where
  /-- Sealed bytes, and after them those of the open record. -/
  buffer : Ring bufferLimit
  phase : Phase
  phase_fits : phase.Fits buffer.size

namespace Encoder

/-- The encoder that has nothing to send. -/
def empty : Encoder := ⟨Ring.empty, .idle, trivial⟩

/-- The number of sealed bytes waiting. -/
def pending (encoder : Encoder) : Nat :=
  match encoder.phase with
  | .opened mark _ => mark
  | .idle | .cancelled => encoder.buffer.size

/-- Whether no sealed byte waits. -/
def isFlushed (encoder : Encoder) : Bool := encoder.pending == 0

/-- The sealed bytes, in order. -/
def sealedBytes (encoder : Encoder) : Bytes := encoder.buffer.toList.take encoder.pending

theorem pending_le (encoder : Encoder) : encoder.pending ≤ encoder.buffer.size := by
  unfold pending
  split
  · rename_i mark fields phase
    have fits := encoder.phase_fits
    rw [phase] at fits
    exact fits.1
  · exact Nat.le_refl _
  · exact Nat.le_refl _

/-- The buffer without the bytes of the open record. -/
def sealedBuffer (encoder : Encoder) : Ring bufferLimit :=
  match encoder.phase with
  | .opened mark _ => encoder.buffer.truncate mark
  | .idle | .cancelled => encoder.buffer

/-- Opens a record; one left unsealed is dropped. -/
def start (encoder : Encoder) : Encoder :=
  ⟨encoder.sealedBuffer, .opened encoder.sealedBuffer.size 0, Nat.le_refl _, Nat.zero_le _⟩

/-- Drops the open record and refuses further fields until the next one is opened. -/
def cancel (encoder : Encoder) : Encoder := ⟨encoder.sealedBuffer, .cancelled, trivial⟩

/-- Drops the open record and waits for the next one. -/
def abandon (encoder : Encoder) : Encoder := ⟨encoder.sealedBuffer, .idle, trivial⟩

/-- The encoder with a record under way: the one that is open, or a new one. -/
def underWay (encoder : Encoder) : Encoder :=
  match encoder.phase with
  | .idle => encoder.start
  | .opened _ _ | .cancelled => encoder

/-- The wire form of a field that follows `fields` others. -/
def fieldBytes (fields : Nat) (field : Bytes) : Bytes :=
  if fields = 0 then escape field else separator :: escape field

/--
Pushes the wire form of a field byte by byte, up to the first byte that does not fit.  Answers
whether there was none, and what the buffer holds then.
-/
def pushEscaped (buffer : Ring bufferLimit) : Bytes → Bool × Ring bufferLimit
  | [] => (true, buffer)
  | byte :: rest =>
    match buffer.pushIf? (needsEscape byte rest.head?) escapeByte with
    | none => (false, buffer)
    | some escaped =>
      match escaped.push? [byte] with
      | none => (false, escaped)
      | some next => pushEscaped next rest

/-- Pushing never takes bytes away. -/
theorem size_le_pushEscaped (buffer : Ring bufferLimit) (field : Bytes) :
    buffer.size ≤ (pushEscaped buffer field).2.size := by
  fun_induction pushEscaped buffer field with
  | case1 => exact Nat.le_refl _
  | case2 => exact Nat.le_refl _
  | case3 buffer byte rest escaped separate full => exact Ring.size_le_of_pushIf? separate
  | case4 buffer byte rest escaped separate next pushed hypothesis =>
      have kept := Ring.size_le_of_pushIf? separate
      have grown := Ring.size_push? pushed
      omega

/--
Appends a field to the record under way.  A field too many, or one that does not fit, cancels the
record, whatever has been pushed of it.
-/
def putField (encoder : Encoder) (field : Bytes) : Except FramingError Unit × Encoder :=
  let current := encoder.underWay
  match phase : current.phase with
  | .opened mark fields =>
    if more : fields < fieldLimit then
      have marked : mark ≤ current.buffer.size := by
        have fits := current.phase_fits
        rw [phase] at fits
        exact fits.1
      match separate : current.buffer.pushIf? (fields != 0) separator with
      | none => (.error .bufferFull, current.cancel)
      | some separated =>
        have kept : mark ≤ (pushEscaped separated field).2.size := by
          have grown := Ring.size_le_of_pushIf? separate
          have further := size_le_pushEscaped separated field
          omega
        if (pushEscaped separated field).1 then
          (.ok (), ⟨(pushEscaped separated field).2, .opened mark (fields + 1), kept, more⟩)
        else
          (.error .bufferFull, cancel
            ⟨(pushEscaped separated field).2, .opened mark fields, kept, Nat.le_of_lt more⟩)
    else
      (.error .tooManyFields, current.cancel)
  | .idle | .cancelled => (.error .bufferFull, current)

/-- Seals the record under way; when its terminator does not fit, the record is dropped. -/
def finish (encoder : Encoder) : Except FramingError Unit × Encoder :=
  let current := encoder.underWay
  match current.phase with
  | .opened _ _ =>
    match current.buffer.push? [terminator] with
    | some buffer => (.ok (), ⟨buffer, .idle, trivial⟩)
    | none => (.error .bufferFull, current.abandon)
  | .idle | .cancelled => (.error .bufferFull, current.abandon)

/-- Appends fields to the record under way, up to the first that fails. -/
def putFields : Encoder → Record → Except FramingError Unit × Encoder
  | encoder, [] => (.ok (), encoder)
  | encoder, field :: rest =>
    match encoder.putField field with
    | (.ok (), next) => putFields next rest
    | (.error error, next) => (.error error, next)

/-- Encodes a whole record, or leaves the sealed bytes as they were. -/
def writeRecord (encoder : Encoder) (record : Record) : Except FramingError Unit × Encoder :=
  match encoder.start.putFields record with
  | (.ok (), next) => next.finish
  | (.error error, next) => (.error error, next.abandon)

/-- Takes note that the first `count` sealed bytes have left. -/
def consume (encoder : Encoder) (count : Nat) : Encoder where
  buffer := encoder.buffer.discard count
  phase :=
    match encoder.phase with
    | .opened mark fields => .opened (mark - count) fields
    | .idle => .idle
    | .cancelled => .cancelled
  phase_fits := by
    have fits := encoder.phase_fits
    cases phase : encoder.phase with
    | idle => exact trivial
    | cancelled => exact trivial
    | opened mark fields =>
      rw [phase] at fits
      refine ⟨?_, fits.2⟩
      rw [Ring.size_discard]
      have := fits.1
      omega

/-- The sealed bytes that one write offers: those before the end of the buffer's row. -/
def offered (encoder : Encoder) : Bytes := encoder.buffer.readable.take encoder.pending

/-- The outcome of a flush: how it ended, the encoder, the outcomes left and the bytes written. -/
structure Flushed where
  result : Except FramingError Nat
  /-- What is still to be sent. -/
  encoder : Encoder
  script : List WriteOutcome
  written : Bytes

/--
Writes sealed bytes until none is left, `written` being written already.  Interrupted writes are
repeated; any other failure stops the flush, and what was written stays written.
-/
def flushFrom (encoder : Encoder) (written : Bytes) : List WriteOutcome → Flushed
  | [] =>
    if encoder.isFlushed then
      ⟨.ok written.length, encoder, [], written⟩
    else
      ⟨.ok (written.length + encoder.pending), encoder.consume encoder.pending, [],
        written ++ encoder.sealedBytes⟩
  | outcome :: rest =>
    if encoder.isFlushed then
      ⟨.ok written.length, encoder, outcome :: rest, written⟩
    else
      match outcome with
      | .accept count =>
        let taken := encoder.offered.take count
        if taken.isEmpty then
          ⟨.error (.stream .writeZero), encoder, rest, written⟩
        else
          flushFrom (encoder.consume taken.length) (written ++ taken) rest
      | .failure .interrupted => flushFrom encoder written rest
      | .failure .wouldBlock => ⟨.error .wouldBlock, encoder, rest, written⟩
      | .failure cause => ⟨.error (.stream cause), encoder, rest, written⟩

/-- Writes sealed bytes to a sink until none is left. -/
def flush (encoder : Encoder) (sink : Sink) : Except FramingError Nat × Encoder × Sink :=
  let flushed := encoder.flushFrom [] sink.script
  (flushed.result, flushed.encoder, ⟨flushed.script, sink.accepted ++ flushed.written⟩)

end Encoder

end Confinement.Wire
