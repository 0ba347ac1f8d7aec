import Confinement.Wire.Encoder
import Confinement.Proofs.Wire.RingContents

/-!
# What is sealed and what is sent

The sealed bytes of an encoder grow by the wire form of each record that is written whole, and by
nothing else; they shrink only at the front, by what a sink has taken.  So what a sink has taken
and what is still sealed make up one stream, which a flush never changes.

A record is written exactly when it has no more fields than allowed and its wire form fits behind
the sealed bytes.
-/

namespace Confinement.Wire.Encoder

open Host

/-! ## Sealed bytes by phase -/

theorem toList_sealedBuffer (encoder : Encoder) :
    encoder.sealedBuffer.toList = encoder.sealedBytes := by
  rcases encoder with ⟨buffer, phase, fits⟩
  cases phase with
  | opened mark fields => exact Ring.toList_truncate buffer mark
  | idle =>
      show buffer.toList = buffer.toList.take buffer.size
      rw [List.take_of_length_le (by simp)]
  | cancelled =>
      show buffer.toList = buffer.toList.take buffer.size
      rw [List.take_of_length_le (by simp)]

theorem length_sealedBytes (encoder : Encoder) : encoder.sealedBytes.length = encoder.pending := by
  have bound := encoder.pending_le
  simp only [sealedBytes, List.length_take, Ring.length_toList]
  omega

/-- An encoder is flushed when nothing is sealed. -/
theorem isFlushed_iff (encoder : Encoder) :
    encoder.isFlushed = true ↔ encoder.sealedBytes = [] := by
  rw [isFlushed, beq_iff_eq, ← length_sealedBytes, List.length_eq_zero_iff]

@[simp]
theorem sealedBytes_empty : empty.sealedBytes = [] := rfl

/-! ## Between two records -/

/--
An encoder that holds the sealed bytes of another and further data, in the same place of the row,
and nothing behind them.
-/
structure Settled (encoder : Encoder) (data : Bytes) (next : Encoder) : Prop where
  head : next.buffer.head = encoder.buffer.head
  toList : next.buffer.toList = encoder.sealedBytes ++ data
  notOpen : next.pending = next.buffer.size

theorem Settled.sealedBytes
    {encoder next : Encoder} {data : Bytes}
    (settled : encoder.Settled data next) :
    next.sealedBytes = encoder.sealedBytes ++ data := by
  rw [Encoder.sealedBytes, settled.notOpen, List.take_of_length_le (by simp), settled.toList]

theorem Settled.sealedBytes_eq
    {encoder next : Encoder}
    (settled : encoder.Settled [] next) :
    next.sealedBytes = encoder.sealedBytes := by
  rw [settled.sealedBytes, List.append_nil]

/-- What follows on the way from one encoder to another adds up. -/
theorem Settled.trans
    {encoder middle next : Encoder} {first second : Bytes}
    (earlier : encoder.Settled first middle)
    (later : middle.Settled second next) :
    encoder.Settled (first ++ second) next where
  head := later.head.trans earlier.head
  toList := by rw [later.toList, earlier.sealedBytes, List.append_assoc]
  notOpen := later.notOpen

theorem settled_of_sealedBuffer
    {encoder next : Encoder}
    (same : next.buffer = encoder.sealedBuffer)
    (notOpen : next.pending = next.buffer.size) :
    encoder.Settled [] next := by
  refine ⟨?_, ?_, notOpen⟩
  · rw [same, sealedBuffer]
    split <;> rfl
  · rw [same, List.append_nil]
    exact toList_sealedBuffer encoder

theorem settled_start (encoder : Encoder) : encoder.Settled [] encoder.start :=
  settled_of_sealedBuffer rfl rfl

theorem settled_cancel (encoder : Encoder) : encoder.Settled [] encoder.cancel :=
  settled_of_sealedBuffer rfl rfl

theorem settled_abandon (encoder : Encoder) : encoder.Settled [] encoder.abandon :=
  settled_of_sealedBuffer rfl rfl

@[simp]
theorem sealedBytes_start (encoder : Encoder) :
    encoder.start.sealedBytes = encoder.sealedBytes :=
  (settled_start encoder).sealedBytes_eq

@[simp]
theorem sealedBytes_cancel (encoder : Encoder) :
    encoder.cancel.sealedBytes = encoder.sealedBytes :=
  (settled_cancel encoder).sealedBytes_eq

@[simp]
theorem sealedBytes_abandon (encoder : Encoder) :
    encoder.abandon.sealedBytes = encoder.sealedBytes :=
  (settled_abandon encoder).sealedBytes_eq

/-! ## Writing fields -/

/-- The wire form of fields that follow `count` others in their record. -/
def bytesAfter : Nat → Record → Bytes
  | _, [] => []
  | count, field :: rest => fieldBytes count field ++ bytesAfter (count + 1) rest

theorem bytesAfter_succ (count : Nat) (field : Bytes) (rest : Record) :
    bytesAfter (count + 1) (field :: rest) = separator :: Record.body (field :: rest) := by
  induction rest generalizing count field with
  | nil => simp [bytesAfter, fieldBytes, Record.body]
  | cons next others hypothesis =>
      rw [bytesAfter, hypothesis]
      rfl

/-- The fields of a whole record are written as its body. -/
theorem bytesAfter_zero (record : Record) : bytesAfter 0 record = record.body := by
  cases record with
  | nil => rfl
  | cons field rest =>
      cases rest with
      | nil => simp [bytesAfter, fieldBytes, Record.body]
      | cons next others =>
          rw [bytesAfter, bytesAfter_succ]
          rfl

/-- The wire form of a field in its place: the separator where one is wanted, then the field. -/
theorem fieldBytes_eq (fields : Nat) (field : Bytes) :
    fieldBytes fields field = (if fields != 0 then [separator] else []) ++ escape field := by
  cases fields <;> rfl

/--
Pushing a field byte by byte comes to its end exactly when its wire form fits.  Otherwise some
first part of it stays behind the bytes that were there.
-/
theorem pushEscaped_cases (buffer : Ring bufferLimit) (field : Bytes) :
    (buffer.size + (escape field).length ≤ bufferLimit ∧
      ∃ next, pushEscaped buffer field = (true, next) ∧ buffer.Grown (escape field) next) ∨
    (bufferLimit < buffer.size + (escape field).length ∧
      ∃ next part, pushEscaped buffer field = (false, next) ∧ buffer.Grown part next) := by
  induction field generalizing buffer with
  | nil => exact Or.inl ⟨buffer.size_le, buffer, rfl, Ring.Grown.refl buffer⟩
  | cons byte rest hypothesis =>
      rw [pushEscaped, escape_cons]
      simp only [List.length_append, List.length_singleton]
      rcases buffer.pushIf?_cases (needsEscape byte rest.head?) escapeByte with
        ⟨escaped, first, grown⟩ | ⟨wanted, full, failed⟩
      · rw [first]
        dsimp only
        have size := grown.size
        rcases escaped.push?_cases [byte] with ⟨_, next, second, further⟩ | ⟨full, failed⟩
        · rw [second]
          dsimp only
          have grown := grown.trans further
          have sizeNext := further.size
          rw [List.length_singleton] at sizeNext
          rcases hypothesis next with
            ⟨room, last, result, ending⟩ | ⟨full, last, part, result, ending⟩
          · exact Or.inl ⟨by omega, last, result, grown.trans ending⟩
          · exact Or.inr ⟨by omega, last, _, result, grown.trans ending⟩
        · rw [failed]
          rw [List.length_singleton] at full
          exact Or.inr ⟨by omega, escaped, _, rfl, grown⟩
      · rw [failed, wanted]
        exact Or.inr ⟨by simp; omega, buffer, [], rfl, Ring.Grown.refl buffer⟩

/-- More bytes behind the sealed ones leave these as they are. -/
theorem sealedBytes_of_grown
    {encoder next : Encoder} {mark fields count : Nat} {data : Bytes}
    (opened : encoder.phase = .opened mark fields)
    (stillOpened : next.phase = .opened mark count)
    (grown : encoder.buffer.Grown data next.buffer) :
    next.sealedBytes = encoder.sealedBytes := by
  have bound : mark ≤ encoder.buffer.toList.length := by
    have fits := encoder.phase_fits
    rw [opened] at fits
    rw [Ring.length_toList]
    exact fits.1
  simp only [sealedBytes, pending, opened, stillOpened, grown.toList]
  exact List.take_append_of_le_length bound

/-- Wherever in its record an encoder has come to, taking the record back gives what was there. -/
theorem settled_of_grown
    {encoder filled next : Encoder} {mark fields count : Nat} {data : Bytes}
    (opened : encoder.phase = .opened mark fields)
    (stillOpened : filled.phase = .opened mark count)
    (grown : encoder.buffer.Grown data filled.buffer)
    (settled : filled.Settled [] next) :
    encoder.Settled [] next where
  head := settled.head.trans grown.head
  toList := by rw [settled.toList, sealedBytes_of_grown opened stillOpened grown]
  notOpen := settled.notOpen

/-- What putting a field into an open record can do. -/
theorem putField_cases
    {encoder : Encoder} {mark fields : Nat}
    (opened : encoder.phase = .opened mark fields)
    (field : Bytes) :
    (fields < fieldLimit ∧
      encoder.buffer.size + (fieldBytes fields field).length ≤ bufferLimit ∧
      ∃ next, encoder.putField field = (.ok (), next) ∧
        next.phase = .opened mark (fields + 1) ∧
        encoder.buffer.Grown (fieldBytes fields field) next.buffer) ∨
    (fieldLimit ≤ fields ∧
      encoder.putField field = (.error .tooManyFields, encoder.cancel)) ∨
    (fields < fieldLimit ∧
      bufferLimit < encoder.buffer.size + (fieldBytes fields field).length ∧
      ∃ next, encoder.putField field = (.error .bufferFull, next) ∧
        next.phase = .cancelled ∧ encoder.Settled [] next) := by
  generalize put : encoder.putField field = outcome
  rcases encoder with ⟨buffer, phase, fits⟩
  cases opened
  rw [putField] at put
  dsimp only [underWay] at put
  rw [fieldBytes_eq, List.length_append]
  split at put
  · rename_i more
    split at put
    · rename_i full
      rcases buffer.pushIf?_cases (fields != 0) separator with
        ⟨next, pushed, _⟩ | ⟨wanted, tooLong, _⟩
      · rw [pushed] at full
        cases full
      · refine Or.inr (Or.inr ⟨more, ?_, _, put.symm, rfl, settled_cancel _⟩)
        rw [wanted]
        show bufferLimit < buffer.size + (1 + (escape field).length)
        omega
    · rename_i separated separate
      rcases buffer.pushIf?_cases (fields != 0) separator with
        ⟨next, pushed, grown⟩ | ⟨_, _, failed⟩
      · obtain rfl : next = separated := Option.some.inj (pushed.symm.trans separate)
        have size := grown.size
        rcases pushEscaped_cases next field with
          ⟨room, last, result, ending⟩ | ⟨full, last, part, result, ending⟩
        · have whole : (pushEscaped next field).1 = true := by rw [result]
          rw [if_pos whole] at put
          refine Or.inl ⟨more, ?_, _, put.symm, rfl, ?_⟩
          · show buffer.size + _ ≤ bufferLimit
            omega
          · show buffer.Grown _ (pushEscaped next field).2
            rw [result]
            exact grown.trans ending
        · have short : ¬ (pushEscaped next field).1 = true := by rw [result]; nofun
          have taken := grown.trans ending
          have filled : (pushEscaped next field).2 = last := by rw [result]
          rw [if_neg short] at put
          rw [← filled] at taken
          refine Or.inr (Or.inr ⟨more, ?_, _, put.symm, rfl,
            settled_of_grown rfl rfl taken (settled_cancel _)⟩)
          show bufferLimit < buffer.size + _
          omega
      · rw [failed] at separate
        cases separate
  · rename_i full
    exact Or.inr (Or.inl ⟨Nat.le_of_not_lt full, put.symm⟩)

/-- What putting fields into an open record can do. -/
theorem putFields_cases
    {encoder : Encoder} {mark fields : Nat}
    (opened : encoder.phase = .opened mark fields)
    (record : Record) :
    (fields + record.length ≤ fieldLimit ∧
      encoder.buffer.size + (bytesAfter fields record).length ≤ bufferLimit ∧
      ∃ next, encoder.putFields record = (.ok (), next) ∧
        next.phase = .opened mark (fields + record.length) ∧
        encoder.buffer.Grown (bytesAfter fields record) next.buffer) ∨
    (fieldLimit < fields + record.length ∧
      encoder.buffer.size + (bytesAfter fields (record.take (fieldLimit - fields))).length ≤
        bufferLimit ∧
      ∃ next, encoder.putFields record = (.error .tooManyFields, next) ∧
        encoder.Settled [] next) ∨
    (bufferLimit <
        encoder.buffer.size + (bytesAfter fields (record.take (fieldLimit - fields))).length ∧
      ∃ next, encoder.putFields record = (.error .bufferFull, next) ∧
        encoder.Settled [] next) := by
  induction record generalizing encoder fields with
  | nil =>
      have allowed := encoder.phase_fits
      rw [opened] at allowed
      exact Or.inl ⟨allowed.2, encoder.buffer.size_le, encoder, rfl, opened, Ring.Grown.refl _⟩
  | cons field rest hypothesis =>
      simp only [putFields, List.length_cons]
      -- One field less of the record, and one place less for those that follow.
      have within (more : fields < fieldLimit) :
          (field :: rest).take (fieldLimit - fields) =
            field :: rest.take (fieldLimit - (fields + 1)) := by
        rw [Nat.sub_add_eq, ← List.take_succ_cons, Nat.sub_add_cancel (by omega)]
      rcases putField_cases opened field with
        ⟨more, room, next, first, phase, grown⟩ | ⟨full, first⟩ |
          ⟨more, tooLong, next, first, _, settled⟩
      · have size := grown.size
        rw [first, within more]
        simp only [bytesAfter, List.length_append]
        rcases hypothesis phase with
          ⟨allowed, room, last, result, ending, further⟩ |
            ⟨tooMany, room, last, result, settled⟩ | ⟨tooLong, last, result, settled⟩
        · refine Or.inl ⟨by omega, by omega, last, result, ?_, grown.trans further⟩
          rw [ending, Nat.add_right_comm, Nat.add_assoc]
        · exact Or.inr (Or.inl ⟨by omega, by omega, last, result,
            settled_of_grown opened phase grown settled⟩)
        · exact Or.inr (Or.inr ⟨by omega, last, result,
            settled_of_grown opened phase grown settled⟩)
      · have none : fieldLimit - fields = 0 := Nat.sub_eq_zero_of_le full
        rw [first, none]
        exact Or.inr (Or.inl ⟨by omega, encoder.buffer.size_le, _, rfl, settled_cancel encoder⟩)
      · rw [first, within more]
        simp only [bytesAfter, List.length_append]
        exact Or.inr (Or.inr ⟨by omega, next, rfl, settled⟩)

/-- Sealing an open record appends its terminator, or drops the record when that does not fit. -/
theorem finish_cases
    {encoder : Encoder} {mark fields : Nat}
    (opened : encoder.phase = .opened mark fields) :
    (encoder.buffer.size < bufferLimit ∧
      ∃ next, encoder.finish = (.ok (), next) ∧
        next.phase = .idle ∧ encoder.buffer.Grown [terminator] next.buffer) ∨
    (bufferLimit ≤ encoder.buffer.size ∧
      encoder.finish = (.error .bufferFull, encoder.abandon)) := by
  generalize finished : encoder.finish = outcome
  rcases encoder with ⟨buffer, phase, fits⟩
  cases opened
  rw [finish] at finished
  dsimp only [underWay] at finished
  rcases buffer.push?_cases [terminator] with ⟨room, next, pushed, grown⟩ | ⟨full, failed⟩
  · rw [pushed] at finished
    exact Or.inl ⟨room, _, finished.symm, rfl, grown⟩
  · rw [failed] at finished
    exact Or.inr ⟨Nat.le_of_lt_succ full, finished.symm⟩

/--
What writing a record can do, by the room that the sealed bytes leave.  A record that is allowed
and fits is sealed.  One with too many fields is refused as such when the fields before the excess
fit, and every other for want of room.  Either way the call ends between records.
-/
theorem writeRecord_outcome (encoder : Encoder) (record : Record) :
    (record.length ≤ fieldLimit ∧
      encoder.sealedBytes.length + record.wire.length ≤ bufferLimit ∧
      ∃ next, encoder.writeRecord record = (.ok (), next) ∧
        next.phase = .idle ∧ encoder.Settled record.wire next) ∨
    (fieldLimit < record.length ∧
      encoder.sealedBytes.length + (Record.body (record.take fieldLimit)).length ≤ bufferLimit ∧
      ∃ next, encoder.writeRecord record = (.error .tooManyFields, next) ∧
        next.phase = .idle ∧ encoder.Settled [] next) ∨
    ((record.length ≤ fieldLimit ∧
        bufferLimit < encoder.sealedBytes.length + record.wire.length ∨
      fieldLimit < record.length ∧
        bufferLimit <
          encoder.sealedBytes.length + (Record.body (record.take fieldLimit)).length) ∧
      ∃ next, encoder.writeRecord record = (.error .bufferFull, next) ∧
        next.phase = .idle ∧ encoder.Settled [] next) := by
  have started := settled_start encoder
  have opened : encoder.start.phase = .opened encoder.sealedBuffer.size 0 := rfl
  have size : encoder.start.buffer.size = encoder.sealedBytes.length := by
    rw [← Ring.length_toList, started.toList, List.append_nil]
  have length : record.wire.length = record.body.length + 1 := by simp [Record.wire]
  rw [writeRecord]
  rcases putFields_cases opened record with
    ⟨allowed, room, next, result, phase, grown⟩ | ⟨tooMany, room, next, result, settled⟩ |
      ⟨tooLong, next, result, settled⟩
  · rw [bytesAfter_zero] at grown room
    rw [result]
    have filled := grown.size
    rcases finish_cases phase with ⟨fits, last, ending, idle, sealing⟩ | ⟨full, ending⟩
    · have whole := grown.trans sealing
      refine Or.inl ⟨by omega, by omega, last, ending, idle, ?_, ?_, ?_⟩
      · exact whole.head.trans started.head
      · rw [whole.toList, started.toList, List.append_nil, Record.wire]
      · rw [pending, idle]
    · have dropped := settled_of_grown opened phase grown (settled_abandon next)
      exact Or.inr (Or.inr ⟨Or.inl ⟨by omega, by omega⟩, _, ending, rfl, started.trans dropped⟩)
  · rw [bytesAfter_zero, Nat.sub_zero] at room
    rw [result]
    have dropped := settled.trans (settled_abandon next)
    exact Or.inr (Or.inl ⟨by omega, by omega, _, rfl, rfl, started.trans dropped⟩)
  · rw [bytesAfter_zero, Nat.sub_zero] at tooLong
    rw [result]
    have dropped := settled.trans (settled_abandon next)
    refine Or.inr (Or.inr ⟨?_, _, rfl, rfl, started.trans dropped⟩)
    rcases Nat.lt_or_ge fieldLimit record.length with tooMany | allowed
    · exact Or.inr ⟨tooMany, by omega⟩
    · rw [List.take_of_length_le allowed] at tooLong
      exact Or.inl ⟨allowed, by omega⟩

/--
Writing a record seals its wire form, if it is allowed and fits, or leaves the sealed bytes as they
are.
-/
theorem writeRecord_cases (encoder : Encoder) (record : Record) :
    (record.length ≤ fieldLimit ∧
      encoder.sealedBytes.length + record.wire.length ≤ bufferLimit ∧
      ∃ next, encoder.writeRecord record = (.ok (), next) ∧
        next.sealedBytes = encoder.sealedBytes ++ record.wire) ∨
    ((fieldLimit < record.length ∨
      bufferLimit < encoder.sealedBytes.length + record.wire.length) ∧
      ∃ error next, encoder.writeRecord record = (.error error, next) ∧
        next.sealedBytes = encoder.sealedBytes) := by
  rcases writeRecord_outcome encoder record with
    ⟨allowed, room, next, result, _, settled⟩ | ⟨tooMany, _, next, result, _, settled⟩ |
      ⟨reason, next, result, _, settled⟩
  · exact Or.inl ⟨allowed, room, next, result, settled.sealedBytes⟩
  · exact Or.inr ⟨Or.inl tooMany, _, next, result, settled.sealedBytes_eq⟩
  · refine Or.inr ⟨?_, _, next, result, settled.sealedBytes_eq⟩
    rcases reason with ⟨_, tooLong⟩ | ⟨tooMany, _⟩
    · exact Or.inr tooLong
    · exact Or.inl tooMany

/-- A record that is allowed and fits behind the sealed bytes is written. -/
theorem writeRecord_of_fits
    {encoder : Encoder} {record : Record}
    (allowed : record.length ≤ fieldLimit)
    (room : encoder.sealedBytes.length + record.wire.length ≤ bufferLimit) :
    ∃ next, encoder.writeRecord record = (.ok (), next) ∧
      next.sealedBytes = encoder.sealedBytes ++ record.wire := by
  rcases writeRecord_cases encoder record with
    ⟨_, _, next, result, bytes⟩ | ⟨reason, _⟩
  · exact ⟨next, result, bytes⟩
  · omega

/-! ## Flushing -/

/-- Bytes that have left are gone from the front of the sealed ones. -/
theorem sealedBytes_consume
    (encoder : Encoder) {count : Nat} (bound : count ≤ encoder.pending) :
    (encoder.consume count).sealedBytes = encoder.sealedBytes.drop count := by
  rcases encoder with ⟨buffer, phase, fits⟩
  cases phase with
  | opened mark fields =>
      show (buffer.discard count).toList.take (mark - count) = (buffer.toList.take mark).drop count
      rw [Ring.toList_discard, List.drop_take]
  | idle =>
      show (buffer.discard count).toList.take (buffer.discard count).size =
        (buffer.toList.take buffer.size).drop count
      rw [List.take_of_length_le (by simp), List.take_of_length_le (by simp), Ring.toList_discard]
  | cancelled =>
      show (buffer.discard count).toList.take (buffer.discard count).size =
        (buffer.toList.take buffer.size).drop count
      rw [List.take_of_length_le (by simp), List.take_of_length_le (by simp), Ring.toList_discard]

/-- A write is offered a first part of the sealed bytes. -/
theorem offered_eq_take (encoder : Encoder) :
    encoder.offered = encoder.sealedBytes.take (bufferLimit - encoder.buffer.head) := by
  rw [offered, Ring.readable_eq_take, sealedBytes, List.take_take, List.take_take, Nat.min_comm]

/-- What a write takes of the offer is a first part of the sealed bytes. -/
theorem take_offered (encoder : Encoder) (count : Nat) :
    encoder.offered.take count =
      encoder.sealedBytes.take (encoder.offered.take count).length := by
  rw [offered_eq_take, List.take_take]
  simp

theorem length_take_offered_le (encoder : Encoder) (count : Nat) :
    (encoder.offered.take count).length ≤ encoder.pending := by
  rw [take_offered, ← length_sealedBytes, List.length_take]
  exact Nat.min_le_right _ _

/-- What a write takes and what is then still sealed are the sealed bytes. -/
theorem take_offered_append_consume (encoder : Encoder) (count : Nat) :
    encoder.offered.take count ++
        (encoder.consume (encoder.offered.take count).length).sealedBytes =
      encoder.sealedBytes := by
  rw [sealedBytes_consume _ (length_take_offered_le encoder count)]
  conv => lhs; lhs; rw [take_offered]
  exact List.take_append_drop _ _

@[simp]
theorem sealedBytes_consume_pending (encoder : Encoder) :
    (encoder.consume encoder.pending).sealedBytes = [] := by
  rw [sealedBytes_consume _ (Nat.le_refl _), ← length_sealedBytes, List.drop_length]

/-- A flush moves bytes from the sealed ones to those written and changes nothing else. -/
theorem written_flushFrom (encoder : Encoder) (written : Bytes) (script : List WriteOutcome) :
    (encoder.flushFrom written script).written ++
        (encoder.flushFrom written script).encoder.sealedBytes =
      written ++ encoder.sealedBytes := by
  fun_induction flushFrom encoder written script with
  | case1 => rfl
  | case2 encoder written busy => simp
  | case3 => rfl
  | case4 => rfl
  | case5 encoder written rest busy count taken some hypothesis =>
      rw [hypothesis, List.append_assoc]
      congr 1
      exact take_offered_append_consume encoder count
  | case6 encoder written rest busy hypothesis => exact hypothesis
  | case7 => rfl
  | case8 => rfl

/-- What a sink has taken and what is still sealed make up one stream, which no flush changes. -/
theorem accepted_flush
    {encoder next : Encoder} {sink after : Sink} {result : Except FramingError Nat}
    (flushed : encoder.flush sink = (result, next, after)) :
    after.accepted ++ next.sealedBytes = sink.accepted ++ encoder.sealedBytes := by
  cases flushed
  rw [List.append_assoc, written_flushFrom, List.nil_append]

/-- A sink without a script takes everything. -/
theorem flush_of_open
    (encoder : Encoder) {sink : Sink}
    (willing : sink.script = []) :
    ∃ next, encoder.flush sink =
        (.ok encoder.pending, next, ⟨[], sink.accepted ++ encoder.sealedBytes⟩) ∧
      next.sealedBytes = [] := by
  rw [flush, willing, flushFrom]
  split
  · rename_i flushed
    have nothing := (isFlushed_iff encoder).1 flushed
    refine ⟨encoder, ?_, nothing⟩
    rw [nothing, ← length_sealedBytes, nothing]
  · refine ⟨encoder.consume encoder.pending, ?_, sealedBytes_consume_pending encoder⟩
    rw [List.length_nil, Nat.zero_add, List.nil_append]

end Confinement.Wire.Encoder
