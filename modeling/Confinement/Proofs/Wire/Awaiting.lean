import Confinement.Wire.Connection
import Confinement.Proofs.Wire.Reception
import Confinement.Proofs.Wire.RoundTrip

/-!
# Awaiting a record

When the bytes that a decoder holds and those still to come begin with the wire form of a record,
the decoder finds that record as soon as the wire form is there, and none before.  Exactly the wire
form is taken, so nothing of what follows is lost (`tryRecord_of_ahead`).  A connection whose reads
are at most interrupted waits for it and takes nothing else (`await_eq_of_ahead`), passes over the
notices before it (`await_of_notices`), or waits until the stream ends (`await_of_ended`).
-/

namespace Confinement.Host.Source

/-- Whether every read of a stream gives something, if not at once. -/
def Steady (source : Source) : Prop :=
  ∀ cause, Delivery.failure cause ∈ source → cause = .interrupted

variable {source : Source}

theorem Steady.unbroken
    (steady : source.Steady) :
    source.Unbroken := by
  intro cause member
  exact .inl (steady cause member)

theorem Steady.append
    {more : Source}
    (steady : source.Steady) (others : more.Steady) :
    Steady (source ++ more) := by
  intro cause member
  rcases List.mem_append.1 member with first | later
  · exact steady cause first
  · exact others cause later

theorem Steady.tail
    {delivery : Delivery}
    (steady : Steady (delivery :: source)) :
    source.Steady := by
  intro cause member
  exact steady cause (List.mem_cons_of_mem _ member)

theorem contents_append (source more : Source) :
    contents (source ++ more) = source.contents ++ more.contents := by
  induction source with
  | nil => rfl
  | cons delivery rest hypothesis =>
      cases delivery with
      | bytes data =>
          rw [List.cons_append, contents, contents, hypothesis, List.append_assoc]
      | failure cause => exact hypothesis

theorem readPatiently_of_steady
    (steady : source.Steady)
    (limit : Nat) :
    ∃ data rest, source.readPatiently limit = (.ok data, rest) ∧ rest.Steady := by
  induction source with
  | nil => exact ⟨[], [], rfl, steady⟩
  | cons delivery rest hypothesis =>
      cases delivery with
      | failure cause =>
          obtain rfl := steady cause List.mem_cons_self
          exact hypothesis steady.tail
      | bytes data =>
          cases data with
          | nil => exact hypothesis steady.tail
          | cons byte run =>
              rw [readPatiently, read]
              · refine ⟨_, _, rfl, ?_⟩
                split
                · exact steady.tail
                · intro cause member
                  rcases List.mem_cons.1 member with equal | later
                  · cases equal
                  · exact steady.tail cause later
              all_goals simp

end Confinement.Host.Source

namespace Confinement.Wire

open Host

/-- Whether a record arrives, as it was sent, whoever receives it. -/
structure Record.Sendable (record : Record) : Prop where
  allowed : record.length ≤ fieldLimit
  fits : record.wire.length ≤ bufferLimit
  marked : record.wire ≠ [terminator]

instance (record : Record) : Decidable record.Sendable :=
  decidable_of_iff
    (record.length ≤ fieldLimit ∧ record.wire.length ≤ bufferLimit ∧ record.wire ≠ [terminator])
    ⟨fun ⟨allowed, fits, marked⟩ => ⟨allowed, fits, marked⟩,
      fun ⟨allowed, fits, marked⟩ => ⟨allowed, fits, marked⟩⟩

namespace Record.Sendable

variable {record : Record}

theorem asReceived_eq
    (sendable : record.Sendable) :
    record.asReceived = record := by
  apply asReceived_eq_self
  rintro rfl
  exact sendable.marked rfl

theorem asReceived_ne_nil
    (sendable : record.Sendable) :
    record.asReceived ≠ [] := by
  intro empty
  exact sendable.marked (wire_of_asReceived_nil empty)

theorem fromFirst_wire_append
    (sendable : record.Sendable)
    (allowEmpty : Bool) (rest : Bytes) :
    fromFirst allowEmpty (record.wire ++ rest) = record.wire ++ rest := by
  apply Wire.fromFirst_wire_append sendable.allowed
  rw [List.isEmpty_eq_false_iff.2 sendable.asReceived_ne_nil]
  exact Bool.or_true _

theorem scan_wire_append
    (sendable : record.Sendable)
    (rest : Bytes) :
    scan (record.wire ++ rest) = .complete record record.wire.length := by
  rw [scan_wire sendable.allowed, sendable.asReceived_eq]

/-- A record that arrives is read from the head of a stream. -/
theorem readStream_wire_append
    (sendable : record.Sendable)
    (allowEmpty : Bool) (rest : Bytes) :
    readStream allowEmpty (record.wire ++ rest) =
      Reading.cons record (readStream allowEmpty rest) := by
  have whole := sendable.fromFirst_wire_append allowEmpty rest
  have found : scan ((fromFirst allowEmpty (record.wire ++ rest)).take bufferLimit) =
      .complete record record.wire.length := by
    rw [whole, List.take_append, List.take_of_length_le sendable.fits]
    exact sendable.scan_wire_append _
  rw [readStream_of_complete found, whole, List.drop_left]

end Record.Sendable

/-- Bytes of which nothing is passed over have no part at their head of which something is. -/
theorem fromFirst_of_append
    {allowEmpty : Bool} {data more : Bytes}
    (kept : fromFirst allowEmpty (data ++ more) = data ++ more) :
    fromFirst allowEmpty data = data := by
  by_cases nothing : fromFirst allowEmpty data = []
  · have passed := fromFirst_fromFirst_append allowEmpty data more
    rw [nothing, List.nil_append, kept] at passed
    have shorter := length_fromFirst_le allowEmpty more
    rw [passed, List.length_append] at shorter
    have empty : data = [] := List.length_eq_zero_iff.1 (by omega)
    rw [nothing, empty]
  · rw [fromFirst_append_of_ne_nil nothing] at kept
    exact List.append_cancel_right kept

namespace Decoder

variable {decoder : Decoder} {record : Record} {ahead rest : Bytes}

/-- A decoder finds the record that lies ahead, or the rest of its wire form is still to come. -/
theorem tryRecord_of_ahead
    (sendable : record.Sendable)
    (whole : decoder.buffer.toList ++ ahead = record.wire ++ rest) :
    (∃ next, decoder.tryRecord = (.ok (some record), next) ∧
      next.advance.buffer.toList ++ ahead = rest) ∨
    (∃ next, decoder.tryRecord = (.ok none, next) ∧
      next.buffer.toList = decoder.buffer.toList ∧
      next.buffered < bufferLimit ∧ decoder.buffer.toList.length < record.wire.length) := by
  have kept : decoder.skipEmpty.buffer.toList = decoder.buffer.toList := by
    have all := sendable.fromFirst_wire_append decoder.allowEmpty rest
    rw [← whole] at all
    rw [toList_skipEmpty]
    exact fromFirst_of_append all
  have final := sendable.scan_wire_append rest
  rw [← whole] at final
  rw [tryRecord, readHead, kept]
  cases scanned : scan decoder.buffer.toList with
  | overfull =>
      rw [scan_append scanned Scan.noConfusion] at final
      cases final
  | complete found consumed =>
      have bound := (consumed_of_scan scanned).2
      rw [scan_append scanned Scan.noConfusion, Scan.complete.injEq] at final
      obtain ⟨rfl, rfl⟩ := final
      refine .inl ⟨_, rfl, ?_⟩
      show (decoder.skipEmpty.buffer.discard found.wire.length).toList ++ ahead = rest
      rw [Ring.toList_discard, kept, ← List.drop_append_of_le_length bound, whole, List.drop_left]
  | incomplete =>
      have short : decoder.buffer.toList.length < record.wire.length := by
        apply Nat.lt_of_not_le
        intro long
        have start : record.wire <+: decoder.buffer.toList :=
          List.prefix_of_prefix_length_le (List.prefix_append _ rest)
            (whole ▸ List.prefix_append _ ahead) long
        obtain ⟨behind, split⟩ := start
        rw [← split, sendable.scan_wire_append] at scanned
        cases scanned
      have room : decoder.skipEmpty.buffer.size < bufferLimit := by
        rw [← Ring.length_toList, kept]
        exact Nat.lt_of_lt_of_le short sendable.fits
      have notFull : decoder.skipEmpty.buffer.isFull = false :=
        beq_eq_false_iff_ne.2 (Nat.ne_of_lt room)
      rw [notFull, if_neg Bool.false_ne_true]
      exact .inr ⟨_, rfl, kept, room, short⟩

section

variable {next : Decoder}

theorem tryRecord_ne_error_of_ahead
    {error : FramingError}
    (sendable : record.Sendable)
    (whole : decoder.buffer.toList ++ ahead = record.wire ++ rest) :
    decoder.tryRecord ≠ (.error error, next) := by
  intro search
  rcases tryRecord_of_ahead sendable whole with ⟨_, found, _⟩ | ⟨_, found, _⟩
  · rw [search] at found
    cases found
  · rw [search] at found
    cases found

/-- The record that is found is the one that lies ahead. -/
theorem found_of_ahead
    {found : Record}
    (sendable : record.Sendable)
    (whole : decoder.buffer.toList ++ ahead = record.wire ++ rest)
    (search : decoder.tryRecord = (.ok (some found), next)) :
    found = record ∧ next.advance.buffer.toList ++ ahead = rest := by
  rcases tryRecord_of_ahead sendable whole with ⟨_, other, left⟩ | ⟨_, other, _⟩
  · rw [search] at other
    cases other
    exact ⟨rfl, left⟩
  · rw [search] at other
    cases other

/-- Where no record is found, the rest of the wire form is still to come, and has room. -/
theorem waiting_of_ahead
    (sendable : record.Sendable)
    (whole : decoder.buffer.toList ++ ahead = record.wire ++ rest)
    (search : decoder.tryRecord = (.ok none, next)) :
    next.buffer.toList = decoder.buffer.toList ∧ next.buffered < bufferLimit ∧
      decoder.buffer.toList.length < record.wire.length := by
  rcases tryRecord_of_ahead sendable whole with ⟨_, other, _⟩ | ⟨_, other, waiting⟩
  · rw [search] at other
    cases other
  · rw [search] at other
    cases other
    exact waiting

end

theorem tryRecord_of_nil
    (nothing : decoder.buffer.toList = []) :
    ∃ next, decoder.tryRecord = (.ok none, next) ∧ next.buffer.toList = [] ∧
      next.buffered < bufferLimit := by
  have none : decoder.reading = ⟨[], some []⟩ := by rw [reading, nothing, readStream_nil]
  rcases decoder.tryRecord_cases with
    ⟨record, next, _, _, reading⟩ | ⟨next, found, _, reading⟩ | ⟨next, _, reading⟩
  · rw [none] at reading
    cases reading
  · rw [none, Reading.mk.injEq, Option.some.injEq] at reading
    refine ⟨next, found, reading.2.symm, ?_⟩
    rw [buffered, ← Ring.length_toList, ← reading.2]
    exact Nat.zero_lt_succ _
  · rw [none] at reading
    cases reading

/-- A read from a steady stream gives something until the stream ends. -/
theorem fillFrom_of_steady
    {source : Source}
    (room : decoder.buffered < bufferLimit)
    (steady : source.Steady) :
    (∃ count next rest, decoder.fillFrom source = (.ok (count + 1), next, rest) ∧ rest.Steady ∧
      next.buffer.toList ++ rest.contents = decoder.buffer.toList ++ source.contents) ∨
    (∃ next, decoder.fillFrom source = (.ok 0, next, []) ∧ source.contents = [] ∧
      next.buffer.toList = decoder.buffer.toList) := by
  obtain ⟨read, left, result, onward⟩ :=
    Source.readPatiently_of_steady steady decoder.buffer.writable
  have writable : decoder.buffer.writable ≠ 0 := by
    intro full
    exact absurd ((Ring.writable_eq_zero_iff _).1 full) (Nat.ne_of_lt room)
  have filled : decoder.fillFrom source =
      (.ok read.length, { decoder with buffer := decoder.buffer.fill read }, left) := by
    rw [fillFrom, if_neg writable, result]
  rcases fillFrom_cases room steady.unbroken with
    ⟨data, next, rest, found, some, grown, _, split, _⟩ | ⟨next, found, same, ended⟩ |
    ⟨rest, found, _⟩
  · obtain rfl : left = rest := by
      rw [filled] at found
      exact (Prod.ext_iff.1 (Prod.ext_iff.1 found).2).2
    obtain ⟨byte, run, rfl⟩ := List.exists_cons_of_ne_nil some
    refine .inl ⟨run.length, next, left, found, onward, ?_⟩
    rw [grown, split, List.append_assoc]
  · exact .inr ⟨next, found, ended, same⟩
  · rw [filled] at found
    cases (Prod.ext_iff.1 found).1

end Decoder

namespace Connection

variable {connection : Connection}

/-- The bytes that a connection has not read yet, and those it has read and kept. -/
def ahead (connection : Connection) : Bytes :=
  connection.decoder.buffer.toList ++ connection.source.contents

/-- Whether reading has left these bytes ahead, and everything else as it was. -/
structure ReadsUpTo (connection : Connection) (rest : Bytes) (next : Connection) : Prop where
  steady : next.source.Steady
  ahead : next.ahead = rest
  encoder : next.encoder = connection.encoder
  sink : next.sink = connection.sink

theorem ReadsUpTo.trans
    {next last : Connection} {middle rest : Bytes}
    (first : connection.ReadsUpTo middle next)
    (second : next.ReadsUpTo rest last) :
    connection.ReadsUpTo rest last :=
  ⟨second.steady, second.ahead, second.encoder.trans first.encoder, second.sink.trans first.sink⟩

variable {isNotice : Record → Bool} {record : Record} {rest : Bytes}

/--
A connection waits for the record that lies ahead and takes nothing else; if that is a notice, it
waits on.
-/
theorem await_eq_of_ahead
    (sendable : record.Sendable)
    (steady : connection.source.Steady)
    (whole : connection.ahead = record.wire ++ rest)
    (isNotice : Record → Bool) :
    ∃ next, connection.ReadsUpTo rest next ∧
      connection.await isNotice =
        if isNotice record then next.await isNotice else (.ok record, next) := by
  fun_induction await isNotice connection with
  | case1 connection error decoder search =>
      exact absurd search (Decoder.tryRecord_ne_error_of_ahead sendable whole)
  | case2 connection found decoder search notice =>
      obtain ⟨rfl, left⟩ := Decoder.found_of_ahead sendable whole search
      exact ⟨{ connection with decoder := decoder.advance }, ⟨steady, left, rfl, rfl⟩,
        (if_pos notice).symm⟩
  | case3 connection found decoder search reply =>
      obtain ⟨rfl, left⟩ := Decoder.found_of_ahead sendable whole search
      exact ⟨{ connection with decoder := decoder.advance }, ⟨steady, left, rfl, rfl⟩,
        (if_neg reply).symm⟩
  | case4 connection decoder search error next source filled =>
      obtain ⟨_, room, _⟩ := Decoder.waiting_of_ahead sendable whole search
      rcases Decoder.fillFrom_of_steady room steady with ⟨_, _, _, found, _⟩ | ⟨_, found, _⟩ <;>
        rw [filled] at found <;> cases found
  | case5 connection decoder search next source filled =>
      obtain ⟨_, room, short⟩ := Decoder.waiting_of_ahead sendable whole search
      rcases Decoder.fillFrom_of_steady room steady with ⟨_, _, _, found, _⟩ | ⟨_, found, ended, _⟩
      · rw [filled] at found
        cases found
      · -- The stream has ended, so the wire form would have to be there already.
        rw [ahead, ended, List.append_nil] at whole
        rw [whole, List.length_append] at short
        omega
  | case6 connection decoder search count next source filled hypothesis =>
      obtain ⟨same, room, _⟩ := Decoder.waiting_of_ahead sendable whole search
      rcases Decoder.fillFrom_of_steady room steady with
        ⟨_, _, _, found, onward, moved⟩ | ⟨_, found, _⟩
      · rw [filled] at found
        cases found
        have still : ahead { connection with decoder := next, source } = record.wire ++ rest := by
          rw [← whole, ahead, ahead, ← same]
          exact moved
        obtain ⟨last, reads, awaited⟩ := hypothesis onward still
        exact ⟨last, ⟨reads.steady, reads.ahead, reads.encoder, reads.sink⟩, awaited⟩
      · rw [filled] at found
        cases found

/-- A connection that is sent no notices waits for the record that lies ahead. -/
theorem await_of_ahead
    (sendable : record.Sendable)
    (steady : connection.source.Steady)
    (whole : connection.ahead = record.wire ++ rest) :
    ∃ next, connection.await (fun _ => false) = (.ok record, next) ∧
      connection.ReadsUpTo rest next := by
  obtain ⟨next, reads, awaited⟩ := await_eq_of_ahead sendable steady whole fun _ => false
  exact ⟨next, awaited, reads⟩

/-- A connection passes over the notices before the record that it waits for. -/
theorem await_of_notices
    {notices : List Record}
    (passed : ∀ notice ∈ notices, notice.Sendable ∧ isNotice notice = true)
    (sendable : record.Sendable)
    (reply : isNotice record = false)
    (steady : connection.source.Steady)
    (whole : connection.ahead = notices.flatMap Record.wire ++ (record.wire ++ rest)) :
    ∃ next, connection.await isNotice = (.ok record, next) ∧ connection.ReadsUpTo rest next := by
  induction notices generalizing connection with
  | nil =>
      obtain ⟨next, reads, awaited⟩ := await_eq_of_ahead sendable steady whole isNotice
      rw [reply, if_neg Bool.false_ne_true] at awaited
      exact ⟨next, awaited, reads⟩
  | cons notice others hypothesis =>
      obtain ⟨arrives, notable⟩ := passed notice List.mem_cons_self
      rw [List.flatMap_cons, List.append_assoc] at whole
      obtain ⟨next, reads, awaited⟩ := await_eq_of_ahead arrives steady whole isNotice
      rw [notable, if_pos rfl] at awaited
      obtain ⟨last, found, more⟩ := hypothesis
        (fun other member => passed other (List.mem_cons_of_mem notice member))
        reads.steady reads.ahead
      exact ⟨last, awaited.trans found, reads.trans more⟩

/-- Waiting sends nothing. -/
theorem sink_await (isNotice : Record → Bool) (connection : Connection) :
    (connection.await isNotice).2.sink = connection.sink := by
  fun_induction await isNotice connection with
  | case1 => rfl
  | case2 connection found decoder search notice hypothesis => exact hypothesis
  | case3 => rfl
  | case4 => rfl
  | case5 => rfl
  | case6 connection decoder search count next source filled hypothesis => exact hypothesis

/-- Where nothing lies ahead, a connection waits until the stream ends. -/
theorem await_of_ended
    (steady : connection.source.Steady)
    (nothing : connection.ahead = []) :
    ∃ next, connection.await (fun _ => false) = (.error .closed, next) ∧
      connection.ReadsUpTo [] next := by
  obtain ⟨empty, ended⟩ := List.append_eq_nil_iff.1 nothing
  obtain ⟨decoder, search, still, room⟩ := Decoder.tryRecord_of_nil empty
  rcases Decoder.fillFrom_of_steady room steady with
    ⟨count, _, rest, filled, _, moved⟩ | ⟨next, filled, _, same⟩
  · have read := (Decoder.left_fillFrom filled).1
    rw [← Source.length_contents, ended, List.length_nil] at read
    omega
  · refine ⟨{ connection with decoder := next, source := [] }, ?_, ⟨?_, ?_, rfl, rfl⟩⟩
    · rw [await]
      split
      · simp_all
      · simp_all
      · rename_i found
        rw [search] at found
        cases found
        split <;> simp_all
    · intro cause member
      cases member
    · rw [ahead, same, still]
      rfl

end Connection

end Confinement.Wire
