import Confinement.Host.Stream
import Confinement.Wire.Record
import Confinement.Wire.Refusal
import Confinement.Wire.Ring

/-!
# Decoders

A `Decoder` collects received bytes in a bounded buffer and reads records from its head.
`tryRecord` returns the record at the head without removing it, and `advance` removes what was
last returned.  Unless empty records are wanted, bare terminators are dropped.

`scan` is the reading itself, a function of the buffered bytes alone.
-/

namespace Confinement.Wire

open Host

/-- What stands at the head of a byte list. -/
inductive Scan where
  /-- The record has not ended yet. -/
  | incomplete
  | overfull
  /-- A record of `consumed` bytes. -/
  | complete (record : Record) (consumed : Nat)
  deriving DecidableEq, Repr

/-- The record that ends after the given fields, the last being `field`. -/
def closeRecord (fields : List Bytes) (field : Bytes) : Record :=
  if fields.isEmpty && field.isEmpty then [] else (field.reverse :: fields).reverse

/--
Scans on, after `consumed` bytes, with the finished fields and the bytes of the current one, both
in reverse.
-/
def scanFrom (fields : List Bytes) (field : Bytes) (consumed : Nat) : Bytes → Scan
  | [] => .incomplete
  | byte :: rest =>
    if byte = escapeByte then
      match rest with
      | [] => .incomplete
      | next :: tail =>
        if isSpecial next then scanFrom fields (next :: field) (consumed + 2) tail
        else scanFrom fields (escapeByte :: field) (consumed + 1) (next :: tail)
    else if byte = separator then
      if fields.length + 1 ≥ fieldLimit then .overfull
      else scanFrom (field.reverse :: fields) [] (consumed + 1) rest
    else if byte = terminator then
      .complete (closeRecord fields field) (consumed + 1)
    else
      scanFrom fields (byte :: field) (consumed + 1) rest

/-- Scans a byte list for the record at its head. -/
def scan (data : Bytes) : Scan := scanFrom [] [] 0 data

theorem lt_consumed_of_scanFrom
    {fields : List Bytes} {field : Bytes} {before consumed : Nat} {data : Bytes} {record : Record}
    (found : scanFrom fields field before data = .complete record consumed) :
    before < consumed ∧ consumed ≤ before + data.length := by
  fun_induction scanFrom fields field before data <;> simp_all <;> omega

/-- A record found by a scan takes at least one byte, and only bytes that are there. -/
theorem consumed_of_scan {data : Bytes} {record : Record} {consumed : Nat}
    (found : scan data = .complete record consumed) :
    0 < consumed ∧ consumed ≤ data.length := by
  have bounds := lt_consumed_of_scanFrom found
  omega

/-- Records on their way in. -/
structure Decoder where
  /-- The bytes received and not yet removed. -/
  buffer : Ring bufferLimit
  /-- Whether bare terminators count as records. -/
  allowEmpty : Bool
  /-- The length of the record last returned and not yet removed. -/
  returned : Option Nat

namespace Decoder

/-- The decoder that has received nothing. -/
def empty (allowEmpty : Bool) : Decoder := ⟨Ring.empty, allowEmpty, none⟩

/-- Makes bare terminators count as records, or no longer. -/
def setAllowEmpty (decoder : Decoder) (allowEmpty : Bool) : Decoder := { decoder with allowEmpty }

def buffered (decoder : Decoder) : Nat := decoder.buffer.size

/-- Appends received bytes; none of them when they do not all fit. -/
def feed (decoder : Decoder) (data : Bytes) : Except FramingError Unit × Decoder :=
  match decoder.buffer.push? data with
  | some buffer => (.ok (), { decoder with buffer })
  | none => (.error .messageTooBig, decoder)

/--
One read into the free cells after the buffered bytes: the number of bytes read, zero at the end of
the stream.  Interrupted reads are repeated.
-/
def fillFrom (decoder : Decoder) (source : Source) :
    Except FramingError Nat × Decoder × Source :=
  if decoder.buffer.writable = 0 then
    (.error .messageTooBig, decoder, source)
  else
    match source.readPatiently decoder.buffer.writable with
    | (.ok data, rest) =>
      (.ok data.length, { decoder with buffer := decoder.buffer.fill data }, rest)
    | (.error .wouldBlock, rest) => (.error .wouldBlock, decoder, rest)
    | (.error cause, rest) => (.error (.stream cause), decoder, rest)

/-- Drops the bare terminators at the head, if there are any and they do not count as records. -/
def skipEmpty (decoder : Decoder) : Decoder :=
  if decoder.allowEmpty ∨ decoder.buffer.toList.head? ≠ some terminator then decoder
  else
    let bare := decoder.buffer.toList.takeWhile (· == terminator)
    { decoder with buffer := decoder.buffer.discard bare.length }

/--
The record at the head, if it has arrived completely.  A buffer that is full without one can never
hold it, which is an error.
-/
def readHead (decoder : Decoder) : Except FramingError (Option Record) × Decoder :=
  match scan decoder.buffer.toList with
  | .overfull => (.error .messageTooBig, decoder)
  | .incomplete =>
    if decoder.buffer.isFull then (.error .messageTooBig, decoder)
    else (.ok none, { decoder with returned := none })
  | .complete record consumed => (.ok (some record), { decoder with returned := some consumed })

/-- The first record that counts, if it has arrived completely; it stays at the head. -/
def tryRecord (decoder : Decoder) : Except FramingError (Option Record) × Decoder :=
  decoder.skipEmpty.readHead

/-- Removes the record last returned. -/
def advance (decoder : Decoder) : Decoder :=
  match decoder.returned with
  | some consumed => { decoder with buffer := decoder.buffer.discard consumed, returned := none }
  | none => decoder

theorem buffered_skipEmpty_le (decoder : Decoder) :
    decoder.skipEmpty.buffered ≤ decoder.buffered := by
  unfold skipEmpty buffered
  split
  · exact Nat.le_refl _
  · simp

theorem buffered_readHead {decoder next : Decoder} {result : Except FramingError (Option Record)}
    (found : decoder.readHead = (result, next)) : next.buffered = decoder.buffered := by
  unfold readHead at found
  repeat' split at found
  all_goals
    simp only [Prod.mk.injEq] at found
    obtain ⟨_, rfl⟩ := found
    rfl

theorem buffered_advance_readHead_lt {decoder next : Decoder} {record : Record}
    (found : decoder.readHead = (.ok (some record), next)) :
    next.advance.buffered < decoder.buffered := by
  unfold readHead at found
  split at found
  · simp at found
  · split at found <;> simp at found
  · rename_i result consumed scanned
    have bounds := consumed_of_scan scanned
    simp only [Prod.mk.injEq] at found
    obtain ⟨_, rfl⟩ := found
    simp only [buffered, Ring.length_toList, advance, Ring.size_discard] at bounds ⊢
    omega

/-- Removing a record that was returned makes the buffer shorter. -/
theorem buffered_advance_lt {decoder next : Decoder} {record : Record}
    (found : decoder.tryRecord = (.ok (some record), next)) :
    next.advance.buffered < decoder.buffered :=
  Nat.lt_of_lt_of_le (buffered_advance_readHead_lt found) decoder.buffered_skipEmpty_le

/-- Looking for a record never makes the buffer longer. -/
theorem buffered_tryRecord_le {decoder next : Decoder}
    {result : Except FramingError (Option Record)}
    (found : decoder.tryRecord = (result, next)) : next.buffered ≤ decoder.buffered :=
  Nat.le_trans (Nat.le_of_eq (buffered_readHead found)) decoder.buffered_skipEmpty_le

/-- What a fill adds to the buffer is no longer left in the source. -/
theorem left_fillFrom {decoder next : Decoder} {source rest : Source} {count : Nat}
    (result : decoder.fillFrom source = (.ok count, next, rest)) :
    source.left = count + rest.left ∧ next.buffered ≤ decoder.buffered + count := by
  unfold fillFrom at result
  split at result
  · simp at result
  · split at result
    · rename_i data tail readResult
      simp only [Prod.mk.injEq, Except.ok.injEq] at result
      obtain ⟨rfl, rfl, rfl⟩ := result
      exact ⟨Source.left_readPatiently readResult, Ring.size_fill_le _ _⟩
    · simp at result
    · simp at result

/-- Removes everything. -/
def reset (decoder : Decoder) : Decoder :=
  { decoder with buffer := decoder.buffer.clear, returned := none }

/-- Reads and removes records until none is complete; `fuel` bounds their number. -/
def drainFrom : Nat → Decoder → List Record × Option FramingError × Decoder
  | 0, decoder => ([], none, decoder)
  | fuel + 1, decoder =>
    match decoder.tryRecord with
    | (.ok (some record), next) =>
      let (records, error, last) := drainFrom fuel next.advance
      (record :: records, error, last)
    | (.ok none, next) => ([], none, next)
    | (.error error, next) => ([], some error, next)

/--
Reads and removes every complete record, up to the first error.  A record takes at least one byte,
so there are no more of them than bytes.
-/
def drain (decoder : Decoder) : List Record × Option FramingError × Decoder :=
  drainFrom (decoder.buffered + 1) decoder

end Decoder

end Confinement.Wire
