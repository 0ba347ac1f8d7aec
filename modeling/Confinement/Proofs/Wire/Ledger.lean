import Confinement.Proofs.Wire.Sealing

/-!
# The calls of an encoder

A `Ledger` is an encoder together with what its calls have come to: the bytes that sinks took, the
records that were sealed, and the fields of the record under way.  The last two are read off the
calls and their results alone.

Whatever the calls are, the bytes taken and the sealed bytes make up the wire forms of the sealed
records, in order, and behind the sealed bytes stand those of the open record and no others
(`Balanced`).  A flush moves sealed bytes only, however the sink behaves.
-/

namespace Confinement.Wire

open Host

namespace Encoder

/-! ## The open record -/

/-- The bytes behind the sealed ones. -/
def openBytes (encoder : Encoder) : Bytes := encoder.buffer.toList.drop encoder.pending

/-- The number of fields in the open record, if one is open. -/
def openFields? (encoder : Encoder) : Option Nat :=
  match encoder.phase with
  | .opened _ fields => some fields
  | .idle | .cancelled => none

theorem sealedBytes_append_openBytes (encoder : Encoder) :
    encoder.sealedBytes ++ encoder.openBytes = encoder.buffer.toList :=
  List.take_append_drop _ _

theorem openBytes_of_not_open
    {encoder : Encoder}
    (notOpen : encoder.openFields? = none) :
    encoder.openBytes = [] := by
  rcases encoder with ⟨buffer, phase, fits⟩
  cases phase with
  | opened mark fields => cases notOpen
  | idle => exact List.drop_eq_nil_of_le (by simp [pending])
  | cancelled => exact List.drop_eq_nil_of_le (by simp [pending])

@[simp]
theorem openBytes_start (encoder : Encoder) : encoder.start.openBytes = [] :=
  List.drop_eq_nil_of_le (by simp [start, pending])

@[simp]
theorem openFields?_start (encoder : Encoder) : encoder.start.openFields? = some 0 := rfl

@[simp]
theorem openFields?_cancel (encoder : Encoder) : encoder.cancel.openFields? = none := rfl

@[simp]
theorem openFields?_abandon (encoder : Encoder) : encoder.abandon.openFields? = none := rfl

/-- Bytes that leave are sealed ones. -/
theorem openBytes_consume
    (encoder : Encoder) {count : Nat}
    (bound : count ≤ encoder.pending) :
    (encoder.consume count).openBytes = encoder.openBytes := by
  have contents : (encoder.consume count).buffer.toList = encoder.buffer.toList.drop count :=
    Ring.toList_discard _ _
  have fewer : (encoder.consume count).pending = encoder.pending - count := by
    rw [← length_sealedBytes, sealedBytes_consume encoder bound, List.length_drop,
      length_sealedBytes]
  rw [openBytes, openBytes, contents, fewer, List.drop_drop, Nat.add_sub_cancel' bound]

@[simp]
theorem openFields?_consume (encoder : Encoder) (count : Nat) :
    (encoder.consume count).openFields? = encoder.openFields? := by
  rcases encoder with ⟨buffer, phase, fits⟩
  cases phase <;> rfl

/-! ## Calls and the open record -/

/--
A record is under way after this, unless it was cancelled; what is sealed and what is open stay as
they are.
-/
theorem underWay_cases (encoder : Encoder) :
    encoder.phase = .cancelled ∨
    ∃ mark, encoder.underWay.phase = .opened mark (encoder.openFields?.getD 0) ∧
      encoder.underWay.sealedBytes = encoder.sealedBytes ∧
      encoder.underWay.openBytes = encoder.openBytes := by
  rw [underWay, openFields?]
  cases phase : encoder.phase with
  | cancelled => exact Or.inl rfl
  | opened mark fields => exact Or.inr ⟨mark, phase, rfl, rfl⟩
  | idle =>
      have notOpen : encoder.openFields? = none := by rw [openFields?, phase]
      refine Or.inr ⟨encoder.sealedBuffer.size, rfl, sealedBytes_start encoder, ?_⟩
      rw [openBytes_of_not_open notOpen]
      exact openBytes_start encoder

theorem putField_underWay (encoder : Encoder) (field : Bytes) :
    encoder.underWay.putField field = encoder.putField field := by
  rcases encoder with ⟨buffer, phase, fits⟩
  cases phase <;> rfl

theorem finish_underWay (encoder : Encoder) : encoder.underWay.finish = encoder.finish := by
  rcases encoder with ⟨buffer, phase, fits⟩
  cases phase <;> rfl

/-- A field that is put stands behind those of the open record. -/
theorem putField_ok
    {encoder next : Encoder} {field : Bytes}
    (put : encoder.putField field = (.ok (), next)) :
    next.sealedBytes = encoder.sealedBytes ∧
      next.openBytes = encoder.openBytes ++ fieldBytes (encoder.openFields?.getD 0) field ∧
      next.openFields? = some (encoder.openFields?.getD 0 + 1) := by
  rcases underWay_cases encoder with cancelled | ⟨mark, opened, sealedSame, openSame⟩
  · rcases encoder with ⟨buffer, phase, fits⟩
    cases cancelled
    cases put
  · rw [← putField_underWay] at put
    rcases putField_cases opened field with
      ⟨_, _, last, result, phase, grown⟩ | ⟨_, result⟩ | ⟨_, _, last, result, _⟩
    · rw [result] at put
      cases put
      -- The bytes grew by the field at their end, and the sealed ones at their start are the same.
      have same := sealedBytes_of_grown opened phase grown
      have whole := sealedBytes_append_openBytes next
      rw [same, grown.toList, ← sealedBytes_append_openBytes encoder.underWay,
        List.append_assoc] at whole
      refine ⟨same.trans sealedSame, ?_, by rw [openFields?, phase]⟩
      rw [← openSame]
      exact List.append_cancel_left whole
    · rw [result] at put
      cases put
    · rw [result] at put
      cases put

/-- A field that is refused takes its record with it. -/
theorem putField_error
    {encoder next : Encoder} {field : Bytes} {error : FramingError}
    (put : encoder.putField field = (.error error, next)) :
    next.sealedBytes = encoder.sealedBytes ∧ next.openFields? = none := by
  rcases underWay_cases encoder with cancelled | ⟨mark, opened, sealedSame, _⟩
  · rcases encoder with ⟨buffer, phase, fits⟩
    cases cancelled
    cases put
    exact ⟨rfl, rfl⟩
  · rw [← putField_underWay] at put
    rcases putField_cases opened field with
      ⟨_, _, last, result, _⟩ | ⟨_, result⟩ | ⟨_, _, last, result, phase, settled⟩
    · rw [result] at put
      cases put
    · rw [result] at put
      cases put
      exact ⟨(sealedBytes_cancel _).trans sealedSame, rfl⟩
    · rw [result] at put
      cases put
      exact ⟨settled.sealedBytes_eq.trans sealedSame, by rw [openFields?, phase]⟩

theorem openFields?_finish (encoder : Encoder) : encoder.finish.2.openFields? = none := by
  simp only [finish]
  split
  · split <;> rfl
  · rfl
  · rfl

/-- A record that is sealed joins the sealed bytes with its terminator. -/
theorem finish_ok
    {encoder next : Encoder}
    (sealing : encoder.finish = (.ok (), next)) :
    next.sealedBytes = encoder.sealedBytes ++ (encoder.openBytes ++ [terminator]) := by
  rcases underWay_cases encoder with cancelled | ⟨mark, opened, sealedSame, openSame⟩
  · rcases encoder with ⟨buffer, phase, fits⟩
    cases cancelled
    cases sealing
  · rw [← finish_underWay] at sealing
    rcases finish_cases opened with ⟨_, last, result, idle, grown⟩ | ⟨_, result⟩
    · rw [result] at sealing
      cases sealing
      have whole : next.sealedBytes = next.buffer.toList :=
        List.take_of_length_le (by simp [pending, idle])
      rw [whole, grown.toList, ← sealedBytes_append_openBytes encoder.underWay, sealedSame,
        openSame, List.append_assoc]
    · rw [result] at sealing
      cases sealing

theorem finish_error
    {encoder next : Encoder} {error : FramingError}
    (sealing : encoder.finish = (.error error, next)) :
    next.sealedBytes = encoder.sealedBytes := by
  rcases underWay_cases encoder with cancelled | ⟨mark, opened, sealedSame, _⟩
  · rcases encoder with ⟨buffer, phase, fits⟩
    cases cancelled
    cases sealing
    exact sealedBytes_abandon _
  · rw [← finish_underWay] at sealing
    rcases finish_cases opened with ⟨_, last, result, _⟩ | ⟨_, result⟩
    · rw [result] at sealing
      cases sealing
    · rw [result] at sealing
      cases sealing
      exact (sealedBytes_abandon _).trans sealedSame

theorem openFields?_writeRecord (encoder : Encoder) (record : Record) :
    (encoder.writeRecord record).2.openFields? = none := by
  rw [writeRecord]
  split
  · exact openFields?_finish _
  · rfl

theorem open_flushFrom (encoder : Encoder) (written : Bytes) (script : List WriteOutcome) :
    (encoder.flushFrom written script).encoder.openBytes = encoder.openBytes ∧
      (encoder.flushFrom written script).encoder.openFields? = encoder.openFields? := by
  fun_induction flushFrom encoder written script with
  | case2 encoder written busy =>
      exact ⟨openBytes_consume encoder (Nat.le_refl _), openFields?_consume encoder _⟩
  | case5 encoder written rest busy count taken some hypothesis =>
      have bound : taken.length ≤ encoder.pending := length_take_offered_le encoder count
      rw [openBytes_consume encoder bound, openFields?_consume] at hypothesis
      exact hypothesis
  | case6 encoder written rest busy hypothesis => exact hypothesis
  | _ => exact ⟨rfl, rfl⟩

/-! ## Ledgers -/

/-- A call of an encoder, and for a flush what becomes of its writes. -/
inductive Call where
  | start
  | putField (field : Bytes)
  | finish
  | cancel
  | writeRecord (record : Record)
  | flush (script : List WriteOutcome)

end Encoder

/-- An encoder and what its calls have come to. -/
structure Ledger where
  encoder : Encoder
  /-- The bytes that sinks took. -/
  taken : Bytes
  /-- The records that were sealed, in order. -/
  records : List Record
  /-- The fields of the open record, if one is open. -/
  draft : Option Record

namespace Ledger

def empty : Ledger := ⟨Encoder.empty, [], [], none⟩

/-- A ledger after one more call. -/
def after (ledger : Ledger) : Encoder.Call → Ledger
  | .start => { ledger with encoder := ledger.encoder.start, draft := some [] }
  | .putField field =>
    match ledger.encoder.putField field with
    | (.ok (), encoder) => { ledger with encoder, draft := some (ledger.draft.getD [] ++ [field]) }
    | (.error _, encoder) => { ledger with encoder, draft := none }
  | .finish =>
    match ledger.encoder.finish with
    | (.ok (), encoder) =>
      { ledger with encoder, records := ledger.records ++ [ledger.draft.getD []], draft := none }
    | (.error _, encoder) => { ledger with encoder, draft := none }
  | .cancel => { ledger with encoder := ledger.encoder.cancel, draft := none }
  | .writeRecord record =>
    match ledger.encoder.writeRecord record with
    | (.ok (), encoder) =>
      { ledger with encoder, records := ledger.records ++ [record], draft := none }
    | (.error _, encoder) => { ledger with encoder, draft := none }
  | .flush script =>
    let (_, encoder, sink) := ledger.encoder.flush ⟨script, ledger.taken⟩
    { ledger with encoder, taken := sink.accepted }

/-- Whether the bytes of a ledger are those of its records. -/
structure Balanced (ledger : Ledger) : Prop where
  closed : ledger.taken ++ ledger.encoder.sealedBytes = ledger.records.flatMap Record.wire
  underWay : ledger.encoder.openBytes = (ledger.draft.getD []).body
  fields : ledger.encoder.openFields? = ledger.draft.map List.length

variable {ledger : Ledger}

/-- Without an open record, nothing stands behind the sealed bytes. -/
theorem Balanced.of_not_open
    {encoder : Encoder} {taken : Bytes} {records : List Record}
    (closed : taken ++ encoder.sealedBytes = records.flatMap Record.wire)
    (notOpen : encoder.openFields? = none) :
    Balanced ⟨encoder, taken, records, none⟩ :=
  ⟨closed, Encoder.openBytes_of_not_open notOpen, notOpen⟩

theorem balanced_empty : empty.Balanced := Balanced.of_not_open rfl rfl

theorem body_append_singleton (record : Record) (field : Bytes) :
    Record.body (record ++ [field]) = record.body ++ Encoder.fieldBytes record.length field := by
  have appended (count : Nat) : Encoder.bytesAfter count (record ++ [field]) =
      Encoder.bytesAfter count record ++ Encoder.fieldBytes (count + record.length) field := by
    induction record generalizing count with
    | nil => simp [Encoder.bytesAfter]
    | cons first rest hypothesis =>
        rw [List.cons_append, Encoder.bytesAfter, Encoder.bytesAfter, hypothesis,
          List.append_assoc, List.length_cons, Nat.add_right_comm, Nat.add_assoc]
  rw [← Encoder.bytesAfter_zero, ← Encoder.bytesAfter_zero, appended, Nat.zero_add]

/-- Every call keeps a ledger balanced. -/
theorem Balanced.after (balanced : ledger.Balanced) (call : Encoder.Call) :
    (ledger.after call).Balanced := by
  obtain ⟨closed, underWay, fields⟩ := balanced
  have count : ledger.encoder.openFields?.getD 0 = (ledger.draft.getD []).length := by
    rw [fields]
    cases ledger.draft <;> rfl
  cases call with
  | start =>
      constructor
      · rw [Ledger.after, Encoder.sealedBytes_start]
        exact closed
      · exact Encoder.openBytes_start _
      · rfl
  | putField field =>
      generalize put : ledger.encoder.putField field = outcome
      obtain ⟨error | done, next⟩ := outcome
      · obtain ⟨same, notOpen⟩ := Encoder.putField_error put
        rw [Ledger.after, put]
        apply Balanced.of_not_open _ notOpen
        rw [same]
        exact closed
      · obtain ⟨same, grown, more⟩ := Encoder.putField_ok put
        rw [Ledger.after, put]
        constructor
        · rw [same]
          exact closed
        · show next.openBytes = Record.body (ledger.draft.getD [] ++ [field])
          rw [grown, underWay, count, body_append_singleton]
        · show next.openFields? = some (ledger.draft.getD [] ++ [field]).length
          rw [more, count, List.length_append, List.length_singleton]
  | finish =>
      have notOpen := Encoder.openFields?_finish ledger.encoder
      generalize sealing : ledger.encoder.finish = outcome at notOpen
      obtain ⟨error | done, next⟩ := outcome
      · rw [Ledger.after, sealing]
        apply Balanced.of_not_open _ notOpen
        rw [Encoder.finish_error sealing]
        exact closed
      · rw [Ledger.after, sealing]
        apply Balanced.of_not_open _ notOpen
        rw [Encoder.finish_ok sealing, ← List.append_assoc, closed, underWay, List.flatMap_append,
          List.flatMap_singleton]
        rfl
  | cancel =>
      apply Balanced.of_not_open _ rfl
      rw [Encoder.sealedBytes_cancel]
      exact closed
  | writeRecord record =>
      have notOpen := Encoder.openFields?_writeRecord ledger.encoder record
      rcases Encoder.writeRecord_cases ledger.encoder record with
        ⟨_, _, next, written, bytes⟩ | ⟨_, error, next, refused, bytes⟩
      · rw [written] at notOpen
        rw [Ledger.after, written]
        apply Balanced.of_not_open _ notOpen
        rw [bytes, ← List.append_assoc, closed, List.flatMap_append, List.flatMap_singleton]
      · rw [refused] at notOpen
        rw [Ledger.after, refused]
        apply Balanced.of_not_open _ notOpen
        rw [bytes]
        exact closed
  | flush script =>
      obtain ⟨sameBytes, sameFields⟩ := Encoder.open_flushFrom ledger.encoder [] script
      have moved : (ledger.after (.flush script)).taken ++
          (ledger.after (.flush script)).encoder.sealedBytes =
            ledger.taken ++ ledger.encoder.sealedBytes :=
        Encoder.accepted_flush rfl
      constructor
      · exact moved.trans closed
      · exact sameBytes.trans underWay
      · exact sameFields.trans fields

/-- Every sequence of calls leads to a balanced ledger. -/
theorem Balanced.afterAll (balanced : ledger.Balanced) (calls : List Encoder.Call) :
    (calls.foldl Ledger.after ledger).Balanced := by
  induction calls generalizing ledger with
  | nil => exact balanced
  | cons call rest hypothesis => exact hypothesis (balanced.after call)

/-- A flush moves sealed bytes to the sink and nothing else. -/
theorem after_flush (ledger : Ledger) (script : List WriteOutcome) :
    ∃ sent, (ledger.after (.flush script)).taken = ledger.taken ++ sent ∧
      ledger.encoder.sealedBytes =
        sent ++ (ledger.after (.flush script)).encoder.sealedBytes ∧
      (ledger.after (.flush script)).encoder.openBytes = ledger.encoder.openBytes := by
  refine ⟨(ledger.encoder.flushFrom [] script).written, rfl, ?_, ?_⟩
  · exact (Encoder.written_flushFrom ledger.encoder [] script).symm
  · exact (Encoder.open_flushFrom ledger.encoder [] script).1

/-- A call without an effect on the stream that leaves no record open leaves the sealed bytes. -/
theorem Balanced.left_sealed
    {next : Ledger}
    (balanced : ledger.Balanced)
    (after : next.Balanced)
    (taken : next.taken = ledger.taken)
    (records : next.records = ledger.records)
    (notOpen : next.draft = none) :
    next.encoder.buffer.toList = ledger.encoder.sealedBytes := by
  have sealedSame : next.encoder.sealedBytes = ledger.encoder.sealedBytes := by
    have stream : ledger.taken ++ next.encoder.sealedBytes =
        ledger.taken ++ ledger.encoder.sealedBytes := by
      rw [balanced.closed, ← taken, after.closed, records]
    exact List.append_cancel_left stream
  have nothing : next.encoder.openBytes = [] := by
    rw [after.underWay, notOpen]
    rfl
  rw [← Encoder.sealedBytes_append_openBytes, nothing, List.append_nil, sealedSame]

/--
After any calls, with any sinks, what sinks took and what is sealed are the wire forms of the sealed
records, in order, and what stands behind is the open record.  A flush takes sealed bytes only.  A
call that seals and flushes nothing and leaves no record open, such as a cancel or one that fails,
leaves what was sealed before and no byte more.
-/
theorem stream_of_sealed_records (calls : List Encoder.Call) :
    let ledger := calls.foldl after empty
    ledger.taken ++ ledger.encoder.sealedBytes = ledger.records.flatMap Record.wire ∧
    ledger.encoder.buffer.toList =
      ledger.encoder.sealedBytes ++ (ledger.draft.getD []).body ∧
    (∀ script, ∃ sent, (ledger.after (.flush script)).taken = ledger.taken ++ sent ∧
      ledger.encoder.sealedBytes =
        sent ++ (ledger.after (.flush script)).encoder.sealedBytes ∧
      (ledger.after (.flush script)).encoder.openBytes = ledger.encoder.openBytes) ∧
    ∀ call, (ledger.after call).taken = ledger.taken →
      (ledger.after call).records = ledger.records → (ledger.after call).draft = none →
        (ledger.after call).encoder.buffer.toList = ledger.encoder.sealedBytes := by
  intro ledger
  have balanced : ledger.Balanced := balanced_empty.afterAll calls
  refine ⟨balanced.closed, ?_, after_flush ledger, ?_⟩
  · rw [← balanced.underWay]
    exact (Encoder.sealedBytes_append_openBytes _).symm
  · intro call taken records notOpen
    exact balanced.left_sealed (balanced.after call) taken records notOpen

/-- One record is sealed, the next one is open, and the sink takes one byte. -/
def partlySent : Ledger :=
  [.writeRecord [[0x61]], .start, .putField [0x62, 0x20],
    .flush [.failure .interrupted, .accept 1, .failure .wouldBlock]].foldl after empty

/-- A cancel takes back the open record and leaves the rest of the one that is partly sent. -/
theorem stream_of_sealed_records_partly_sent :
    partlySent.taken = [0x61] ∧ partlySent.encoder.openBytes = [0x62, 0x5C, 0x20] ∧
      (partlySent.after .cancel).encoder.buffer.toList = [terminator] := by
  have cancelled (ledger : Ledger) : (ledger.after .cancel).taken = ledger.taken ∧
      (ledger.after .cancel).records = ledger.records ∧ (ledger.after .cancel).draft = none :=
    ⟨rfl, rfl, rfl⟩
  obtain ⟨taken, records, notOpen⟩ := cancelled partlySent
  obtain ⟨_, _, _, undone⟩ := stream_of_sealed_records
    [.writeRecord [[0x61]], .start, .putField [0x62, 0x20],
      .flush [.failure .interrupted, .accept 1, .failure .wouldBlock]]
  have waiting : partlySent.encoder.sealedBytes = [terminator] := by decide +kernel
  refine ⟨by decide +kernel, by decide +kernel, ?_⟩
  rw [← waiting]
  exact undone .cancel taken records notOpen

end Ledger

end Confinement.Wire
