import Confinement.Wire.Relay
import Confinement.Proofs.Wire.Reception
import Confinement.Proofs.Wire.Sealing

/-!
# The framing round trip

Records within the limits come back as they were sent, in their order, however the bytes are
delivered: the limits of encoder and decoder coincide, so the decoder never runs full before a
record has ended.  A record of one empty field comes back without fields, and records without
fields count only where empty records do.
-/

namespace Confinement.Wire

open Host

/-- The records as they arrive at a decoder. -/
def arriving (allowEmpty : Bool) (records : List Record) : List Record :=
  (records.map Record.asReceived).filter fun record => allowEmpty || !record.isEmpty

/-! ## Sending -/

/-- Records within the limits are sent as their wire forms, one after another. -/
theorem send_eq_wires
    (encoder : Encoder) {records : List Record}
    (flushed : encoder.sealedBytes = [])
    (allowed : ∀ record ∈ records, record.length ≤ fieldLimit)
    (fits : ∀ record ∈ records, record.wire.length ≤ bufferLimit) :
    send encoder records = .ok (records.flatMap Record.wire) := by
  induction records generalizing encoder with
  | nil => rfl
  | cons record rest hypothesis =>
      have room : encoder.sealedBytes.length + record.wire.length ≤ bufferLimit := by
        rw [flushed, List.length_nil, Nat.zero_add]
        exact fits record List.mem_cons_self
      obtain ⟨next, written, bytes⟩ :=
        Encoder.writeRecord_of_fits (allowed record List.mem_cons_self) room
      obtain ⟨last, handed, nothing⟩ :=
        next.flush_of_open (rfl : ({} : Host.Sink).script = [])
      have later := hypothesis last nothing
        (fun other member => allowed other (List.mem_cons_of_mem _ member))
        (fun other member => fits other (List.mem_cons_of_mem _ member))
      rw [send, written]
      dsimp only
      rw [handed]
      dsimp only
      rw [later, bytes, flushed]
      rfl

/-! ## The stream of wire forms -/

/-- A wire form that starts with a terminator is nothing else. -/
theorem wire_of_asReceived_nil
    {record : Record}
    (empty : record.asReceived = []) :
    record.wire = [terminator] := by
  rcases record with _ | ⟨field, rest⟩
  · rfl
  · by_cases bare : field :: rest = [[]]
    · rw [bare]
      rfl
    · rw [Record.asReceived_eq_self bare] at empty
      cases empty

/-- The wire form of a record that counts is not passed over. -/
theorem fromFirst_wire_append
    {allowEmpty : Bool} {record : Record}
    (allowed : record.length ≤ fieldLimit)
    (counts : (allowEmpty || !record.asReceived.isEmpty) = true)
    (rest : Bytes) :
    fromFirst allowEmpty (record.wire ++ rest) = record.wire ++ rest := by
  cases allowEmpty with
  | true => rfl
  | false =>
      have found := scan_wire allowed rest
      rw [fromFirst, if_neg Bool.false_ne_true]
      cases bytes : record.wire ++ rest with
      | nil => rfl
      | cons byte others =>
          rw [List.dropWhile_cons, if_neg]
          intro bare
          rw [beq_iff_eq] at bare
          rw [bytes, bare, scan, scanFrom_terminator, Scan.complete.injEq] at found
          rw [← found.1] at counts
          cases counts

/-- Wire forms within the limits are read back, and nothing is left. -/
theorem readStream_wires
    (allowEmpty : Bool) {records : List Record}
    (allowed : ∀ record ∈ records, record.length ≤ fieldLimit)
    (fits : ∀ record ∈ records, record.wire.length ≤ bufferLimit) :
    readStream allowEmpty (records.flatMap Record.wire) =
      ⟨arriving allowEmpty records, some []⟩ := by
  induction records with
  | nil => exact readStream_nil allowEmpty
  | cons record rest hypothesis =>
      have later := hypothesis
        (fun other member => allowed other (List.mem_cons_of_mem _ member))
        (fun other member => fits other (List.mem_cons_of_mem _ member))
      have within := allowed record List.mem_cons_self
      rw [List.flatMap_cons, arriving, List.map_cons, List.filter_cons]
      cases counts : allowEmpty || !record.asReceived.isEmpty with
      | true =>
          have whole := fromFirst_wire_append within counts (rest.flatMap Record.wire)
          have found :
              scan ((fromFirst allowEmpty (record.wire ++ rest.flatMap Record.wire)).take
                bufferLimit) = .complete record.asReceived record.wire.length := by
            rw [whole, List.take_append, List.take_of_length_le (fits record List.mem_cons_self)]
            exact scan_wire within _
          rw [readStream_of_complete found, whole, List.drop_left, later]
          rfl
      | false =>
          -- Only a bare terminator does not count, and it is passed over.
          rw [Bool.or_eq_false_iff, Bool.not_eq_false', List.isEmpty_iff] at counts
          have passed : fromFirst allowEmpty (record.wire ++ rest.flatMap Record.wire) =
              fromFirst allowEmpty (rest.flatMap Record.wire) := by
            rw [wire_of_asReceived_nil counts.2, counts.1]
            rfl
          rw [readStream_congr passed, later]
          rfl

/-! ## The round trip -/

/-- A reception that follows a stream without rest takes all of it in. -/
theorem Reception.Follows.done
    {records : List Record} {reception : Reception}
    (follows : Follows ⟨records, some []⟩ reception) :
    ∃ last, reception = .done records last ∧ last.buffered = 0 := by
  rcases follows with ⟨left, last, waiting, result, contents⟩ | ⟨refused, _⟩
  · cases waiting
    refine ⟨last, result, ?_⟩
    rw [Decoder.buffered, ← Ring.length_toList, contents]
    rfl
  · cases refused

/--
Records within the limits are sent as one stream.  Whichever way it is delivered to a decoder that
is drained after every delivery, all of the records arrive, in order, and nothing stays behind.
-/
theorem arriving_under_any_delivery
    (records : List Record)
    (allowed : ∀ record ∈ records, record.length ≤ fieldLimit)
    (fits : ∀ record ∈ records, record.wire.length ≤ bufferLimit)
    (allowEmpty : Bool) :
    ∃ wire, send Encoder.empty records = .ok wire ∧
      wire = records.flatMap Record.wire ∧
      (∀ source : Source, source.Unbroken → source.contents = wire →
        ∃ last, readAll (Decoder.empty allowEmpty) source =
            .done (arriving allowEmpty records) last ∧
          last.buffered = 0) ∧
      (∀ pieces : List Bytes, pieces.flatten = wire →
        feedAll (Decoder.empty allowEmpty) pieces ≠ .refused →
        ∃ last, feedAll (Decoder.empty allowEmpty) pieces =
            .done (arriving allowEmpty records) last ∧
          last.buffered = 0) := by
  have read := readStream_wires allowEmpty allowed fits
  have drained := Decoder.drained_empty allowEmpty
  refine ⟨_, send_eq_wires Encoder.empty Encoder.sealedBytes_empty allowed fits, rfl, ?_, ?_⟩
  · intro source unbroken whole
    have follows := readAll_follows drained unbroken
    rw [whole] at follows
    apply Reception.Follows.done
    rw [← read]
    exact follows
  · intro pieces whole accepted
    have follows := feedAll_follows drained accepted
    rw [whole] at follows
    apply Reception.Follows.done
    rw [← read]
    exact follows

/-- A cut between an escape and its target, an interruption and a read without data. -/
theorem arriving_across_an_escape :
    (∃ last, readAll (Decoder.empty false)
        [.bytes [0x61, 0x5C], .failure .interrupted, .bytes [0x20, 0x20, 0x5C],
          .failure .wouldBlock, .bytes [0x5C, 0x0A, 0x0A]] =
        .done [[[0x61, 0x20], [0x5C]]] last ∧ last.buffered = 0) ∧
    ∃ last, feedAll (Decoder.empty false) [[0x61, 0x5C], [0x20, 0x20, 0x5C], [0x5C, 0x0A, 0x0A]] =
        .done [[[0x61, 0x20], [0x5C]]] last ∧ last.buffered = 0 := by
  obtain ⟨wire, _, rfl, reads, feeds⟩ :=
    arriving_under_any_delivery [[[0x61, 0x20], [0x5C]], [[]]] (by decide) (by decide) false
  constructor
  · exact reads _ (by decide) rfl
  · exact feeds _ rfl (feedAll_ne_refused (by decide))

end Confinement.Wire
