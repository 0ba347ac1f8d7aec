import Confinement.Proofs.Wire.Awaiting
import Confinement.Proofs.Wire.Handover

/-!
# What sending and waiting can come to

Nothing is assumed here of the other end of a connection: its reads and writes may fail in any way
and at any time.  To post a record is to put its wire form behind all that was to be sent before, or
it does not fit (`post_outcomes`).  To wait for a record is to take the next of those that are still
to come, to find that no other one is coming, or to meet a failure of the stream, which takes none
(`await_outcomes`).
-/

namespace Confinement.Host.Source

/-- What a read with room can do, whatever the stream is like. -/
theorem readPatiently_outcomes
    {limit : Nat}
    (room : 0 < limit)
    (source : Source) :
    (∃ data rest, source.readPatiently limit = (.ok data, rest) ∧ data ≠ [] ∧
      data.length ≤ limit ∧ source.contents = data ++ rest.contents ∧
      ∀ cause, Delivery.failure cause ∈ rest → Delivery.failure cause ∈ source) ∨
    (source.readPatiently limit = (.ok [], []) ∧ source.contents = []) ∨
    (∃ cause rest, source.readPatiently limit = (.error cause, rest) ∧
      cause ≠ .interrupted ∧ Delivery.failure cause ∈ source ∧
      source.contents = rest.contents ∧
      ∀ cause, Delivery.failure cause ∈ rest → Delivery.failure cause ∈ source) := by
  induction source with
  | nil => exact .inr (.inl ⟨rfl, rfl⟩)
  | cons delivery tail hypothesis =>
      have later {rest : Source}
          (kept : ∀ cause, Delivery.failure cause ∈ rest → Delivery.failure cause ∈ tail)
          (cause : Failure)
          (member : Delivery.failure cause ∈ rest) :
          Delivery.failure cause ∈ delivery :: tail :=
        List.mem_cons_of_mem _ (kept cause member)
      by_cases passed : readPatiently limit (delivery :: tail) = readPatiently limit tail ∧
          contents (delivery :: tail) = contents tail
      · rw [passed.1, passed.2]
        rcases hypothesis with
          ⟨data, rest, result, some, bound, split, kept⟩ | ended |
          ⟨cause, rest, result, final, member, split, kept⟩
        · exact .inl ⟨data, rest, result, some, bound, split, later kept⟩
        · exact .inr (.inl ended)
        · exact .inr (.inr ⟨cause, rest, result, final, List.mem_cons_of_mem _ member, split,
            later kept⟩)
      · match delivery, passed with
        | .failure cause, passed =>
            have final : cause ≠ .interrupted := by
              rintro rfl
              exact passed ⟨rfl, rfl⟩
            refine .inr (.inr ⟨cause, tail, ?_, final, List.mem_cons_self, rfl,
              later fun _ member => member⟩)
            rw [readPatiently, read]
            · rintro ⟨⟩
              exact final rfl
            · rintro ⟨⟩
        | .bytes [], passed => exact absurd ⟨rfl, rfl⟩ passed
        | .bytes (byte :: run), _ =>
            have handed : readPatiently limit (.bytes (byte :: run) :: tail) =
                read limit (.bytes (byte :: run) :: tail) := by
              rw [readPatiently]
              · rintro ⟨⟩
              · rintro ⟨⟩
            have some : (byte :: run).take limit ≠ [] := by
              intro nothing
              rcases List.take_eq_nil_iff.1 nothing with zero | empty
              · omega
              · cases empty
            refine .inl ⟨_, _, handed, some, List.length_take_le limit _,
              @contents_read limit _ _ _ rfl, ?_⟩
            intro cause member
            split at member
            · exact List.mem_cons_of_mem _ member
            · rcases List.mem_cons.1 member with equal | member
              · cases equal
              · exact List.mem_cons_of_mem _ member

end Confinement.Host.Source

namespace Confinement.Wire

open Host

/-! ## Errors of the two buffers -/

/-- A record that is not written does not fit, or has too many fields. -/
theorem Encoder.error_writeRecord
    {encoder next : Encoder} {record : Record} {error : FramingError}
    (refused : encoder.writeRecord record = (.error error, next)) :
    error = .bufferFull ∨ error = .tooManyFields := by
  rcases writeRecord_outcome encoder record with
    ⟨_, _, last, result, _⟩ | ⟨_, _, last, result, _⟩ | ⟨_, last, result, _⟩
  · rw [result] at refused
    cases refused
  · rw [result] at refused
    cases refused
    exact .inr rfl
  · rw [result] at refused
    cases refused
    exact .inl rfl

/-- Whether an error is a failure of the stream itself, and not of the records on it. -/
def FramingError.IsBreakdown (error : FramingError) : Prop :=
  error = .wouldBlock ∨ ∃ cause, error = .stream cause

/-- A flush that does not come to its end has met a failure of the stream. -/
theorem Encoder.isBreakdown_of_flush
    {encoder next : Encoder} {sink after : Sink} {error : FramingError}
    (flushed : encoder.flush sink = (.error error, next, after)) :
    error.IsBreakdown := by
  obtain ⟨result, _, _, _, found, _, _, _, outcome⟩ := encoder.flush_outcomes sink
  obtain rfl : result = .error error := congrArg Prod.fst (found.symm.trans flushed)
  rcases outcome with ⟨⟨_, done⟩, _⟩ | ⟨blocked, _⟩ | ⟨⟨cause, failed⟩, _⟩
  · cases done
  · cases blocked
    exact .inl rfl
  · cases failed
    exact .inr ⟨cause, rfl⟩

/-- What a fill of a decoder with room can do, whatever the stream is like. -/
theorem Decoder.fillFrom_outcomes
    {decoder : Decoder}
    (room : decoder.buffered < bufferLimit)
    (source : Source) :
    (∃ count next rest, decoder.fillFrom source = (.ok (count + 1), next, rest) ∧
      next.allowEmpty = decoder.allowEmpty ∧
      next.buffer.toList ++ rest.contents = decoder.buffer.toList ++ source.contents ∧
      ∀ cause, Delivery.failure cause ∈ rest → Delivery.failure cause ∈ source) ∨
    (∃ next, decoder.fillFrom source = (.ok 0, next, []) ∧
      next.allowEmpty = decoder.allowEmpty ∧
      next.buffer.toList = decoder.buffer.toList ∧ source.contents = []) ∨
    (∃ cause error rest, decoder.fillFrom source = (.error error, decoder, rest) ∧
      error.IsBreakdown ∧ cause ≠ .interrupted ∧ Delivery.failure cause ∈ source ∧
      source.contents = rest.contents ∧
      ∀ cause, Delivery.failure cause ∈ rest → Delivery.failure cause ∈ source) := by
  have writable : decoder.buffer.writable ≠ 0 := by
    intro full
    exact absurd ((Ring.writable_eq_zero_iff _).1 full) (Nat.ne_of_lt room)
  rw [fillFrom, if_neg writable]
  rcases Source.readPatiently_outcomes (Nat.pos_of_ne_zero writable) source with
    ⟨data, rest, result, some, bound, split, kept⟩ | ⟨result, ended⟩ |
    ⟨cause, rest, result, final, member, split, kept⟩
  · obtain ⟨byte, run, rfl⟩ := List.exists_cons_of_ne_nil some
    rw [result]
    refine .inl ⟨run.length, _, rest, rfl, rfl, ?_, kept⟩
    rw [Ring.toList_fill, List.take_of_length_le bound, split, List.append_assoc]
  · rw [result]
    refine .inr (.inl ⟨_, rfl, rfl, ?_, ended⟩)
    rw [Ring.toList_fill, List.take_nil, List.append_nil]
  · rw [result]
    split
    · rename_i impossible
      cases impossible
    · rename_i same
      cases same
      exact .inr (.inr ⟨_, _, rest, rfl, .inl rfl, final, member, split, kept⟩)
    · rename_i same
      cases same
      exact .inr (.inr ⟨_, _, rest, rfl, .inr ⟨_, rfl⟩, final, member, split, kept⟩)

/-! ## Waiting -/

/-- What a decoder and the bytes behind it hold, told by what the decoder holds. -/
theorem Decoder.readStream_buffer_append (decoder : Decoder) (more : Bytes) :
    readStream decoder.allowEmpty (decoder.buffer.toList ++ more) =
      decoder.reading.andThen fun left => readStream decoder.allowEmpty (left ++ more) :=
  readStream_append _ _ _

/-- A decoder that fails holds no record, and never will. -/
theorem Decoder.tryRecord_error
    {decoder next : Decoder} {error : FramingError}
    (search : decoder.tryRecord = (.error error, next)) :
    error = .messageTooBig ∧ decoder.reading = ⟨[], none⟩ ∧ next.reading = ⟨[], none⟩ := by
  rcases decoder.tryRecord_cases with
    ⟨_, _, found, _⟩ | ⟨_, found, _⟩ | ⟨_, found, hopeless⟩
  · rw [search] at found
    cases found
  · rw [search] at found
    cases found
  · rw [search] at found
    cases found
    refine ⟨rfl, hopeless, ?_⟩
    have stays : next = decoder.skipEmpty := by
      rw [tryRecord, readHead] at search
      split at search
      · exact (Prod.ext_iff.1 search).2.symm
      · split at search
        · exact (Prod.ext_iff.1 search).2.symm
        · cases search
      · cases search
    rw [stays, reading, allowEmpty_skipEmpty, toList_skipEmpty, ← hopeless]
    apply readStream_congr
    have passed := fromFirst_fromFirst_append decoder.allowEmpty decoder.buffer.toList []
    rwa [List.append_nil, List.append_nil] at passed

/-- A decoder that finds nothing has room for more, and only passes over what holds no record. -/
theorem Decoder.tryRecord_none
    {decoder next : Decoder}
    (search : decoder.tryRecord = (.ok none, next)) :
    next.allowEmpty = decoder.allowEmpty ∧ next.Drained ∧
      ∀ more, readStream decoder.allowEmpty (decoder.buffer.toList ++ more) =
        readStream next.allowEmpty (next.buffer.toList ++ more) := by
  rcases decoder.tryRecord_cases with
    ⟨_, _, found, _⟩ | ⟨_, found, mode, waiting⟩ | ⟨_, found, _⟩
  · rw [search] at found
    cases found
  · rw [search] at found
    cases found
    refine ⟨mode, drained_of_left (by rw [waiting]) mode, fun more => ?_⟩
    rw [readStream_buffer_append, waiting, mode]
    rfl
  · rw [search] at found
    cases found

namespace Connection

variable {connection next last : Connection} {isNotice : Record → Bool}

/-- The records that are still to come to a connection, without the notices among them. -/
def coming (isNotice : Record → Bool) (connection : Connection) : List Record :=
  (readStream connection.decoder.allowEmpty connection.ahead).records.filter fun record =>
    !isNotice record

/-- Whether a connection was only read from, so that no other failure can be met than before. -/
structure ReadsOn (connection next : Connection) : Prop where
  encoder : next.encoder = connection.encoder
  sink : next.sink = connection.sink
  failures : ∀ cause, Delivery.failure cause ∈ next.source →
    Delivery.failure cause ∈ connection.source

theorem ReadsOn.trans
    (first : ReadsOn connection next)
    (second : ReadsOn next last) :
    ReadsOn connection last :=
  ⟨second.encoder.trans first.encoder, second.sink.trans first.sink,
    fun cause member => first.failures cause (second.failures cause member)⟩

/-- What waiting for a record can come to. -/
inductive Awaited (isNotice : Record → Bool) (connection : Connection) :
    Except AwaitError Record → Connection → Prop
  /-- It takes the next record that is coming. -/
  | arrived (record : Record) (next : Connection)
      (onward : ReadsOn connection next)
      (first : connection.coming isNotice = record :: next.coming isNotice) :
      Awaited isNotice connection (.ok record) next
  /-- No record is coming any more. -/
  | exhausted (error : AwaitError) (next : Connection)
      (onward : ReadsOn connection next)
      (kind : error = .closed ∨ error = .framing .messageTooBig)
      (nothing : connection.coming isNotice = [])
      (still : next.coming isNotice = []) :
      Awaited isNotice connection (.error error) next
  /-- The stream fails, and the records that are coming are still to come. -/
  | brokenDown (cause : Failure) (error : FramingError) (next : Connection)
      (onward : ReadsOn connection next)
      (kind : error.IsBreakdown)
      (final : cause ≠ .interrupted)
      (member : Delivery.failure cause ∈ connection.source)
      (same : next.coming isNotice = connection.coming isNotice) :
      Awaited isNotice connection (.error (.framing error)) next

/-- What is awaited once only notices have been passed over and bytes been taken in. -/
theorem Awaited.before
    {result : Except AwaitError Record}
    (awaited : Awaited isNotice next result last)
    (onward : ReadsOn connection next)
    (same : connection.coming isNotice = next.coming isNotice) :
    Awaited isNotice connection result last := by
  cases awaited with
  | arrived record _ later first => exact .arrived record _ (onward.trans later) (same.trans first)
  | exhausted error _ later kind nothing still =>
      exact .exhausted error _ (onward.trans later) kind (same.trans nothing) still
  | brokenDown cause error _ later kind final member kept =>
      exact .brokenDown cause error _ (onward.trans later) kind final
        (onward.failures cause member) (kept.trans same.symm)

theorem coming_of_found
    {decoder : Decoder} {record : Record}
    (search : connection.decoder.tryRecord = (.ok (some record), decoder)) :
    (readStream connection.decoder.allowEmpty connection.ahead) =
      Reading.cons record
        (readStream decoder.advance.allowEmpty
          (ahead { connection with decoder := decoder.advance })) := by
  rcases connection.decoder.tryRecord_cases with
    ⟨_, _, found, mode, reading⟩ | ⟨_, found, _⟩ | ⟨_, found, _⟩
  · rw [search] at found
    cases found
    rw [ahead, Decoder.readStream_buffer_append, reading, Reading.cons_andThen, ← mode]
    rw [← Decoder.readStream_buffer_append]
    rfl
  · rw [search] at found
    cases found
  · rw [search] at found
    cases found

theorem await_outcomes (isNotice : Record → Bool) (connection : Connection) :
    Awaited isNotice connection (connection.await isNotice).1 (connection.await isNotice).2 := by
  fun_induction await isNotice connection with
  | case1 connection error decoder search =>
      obtain ⟨rfl, before, after⟩ := Decoder.tryRecord_error search
      refine .exhausted _ _ ⟨rfl, rfl, fun _ member => member⟩ (.inr rfl) ?_ ?_
      · rw [coming, ahead, Decoder.readStream_buffer_append, before]
        rfl
      · rw [coming, ahead, Decoder.readStream_buffer_append, after]
        rfl
  | case2 connection record decoder search notice hypothesis =>
      refine hypothesis.before ⟨rfl, rfl, fun _ member => member⟩ ?_
      rw [coming, coming_of_found search, Reading.cons, List.filter_cons, notice]
      rfl
  | case3 connection record decoder search reply =>
      refine .arrived record _ ⟨rfl, rfl, fun _ member => member⟩ ?_
      rw [coming, coming_of_found search, Reading.cons, List.filter_cons,
        Bool.eq_false_iff.2 reply]
      rfl
  | case4 connection decoder search error next source filled =>
      obtain ⟨mode, drained, passed⟩ := Decoder.tryRecord_none search
      rcases Decoder.fillFrom_outcomes drained.not_full connection.source with
        ⟨_, _, _, found, _⟩ | ⟨_, found, _⟩ |
        ⟨cause, _, _, found, kind, final, member, split, kept⟩
      · rw [filled] at found
        cases found
      · rw [filled] at found
        cases found
      · rw [filled] at found
        cases found
        refine .brokenDown cause _ _ ⟨rfl, rfl, kept⟩ kind final member ?_
        rw [coming, coming, ahead, ahead, passed, split]
  | case5 connection decoder search next source filled =>
      obtain ⟨mode, drained, passed⟩ := Decoder.tryRecord_none search
      rcases Decoder.fillFrom_outcomes drained.not_full connection.source with
        ⟨_, _, _, found, _⟩ | ⟨_, found, same, contents, ended⟩ | ⟨_, _, _, found, _⟩
      · rw [filled] at found
        cases found
      · rw [filled] at found
        cases found
        have nothing : readStream decoder.allowEmpty decoder.buffer.toList =
            ⟨[], some decoder.buffer.toList⟩ := drained
        refine .exhausted _ _ ⟨rfl, rfl, fun _ member => absurd member List.not_mem_nil⟩
          (.inl rfl) ?_ ?_
        · rw [coming, ahead, passed, ended, List.append_nil, nothing]
          rfl
        · rw [coming, ahead, same, contents, Source.contents, List.append_nil, nothing]
          rfl
      · rw [filled] at found
        cases found
  | case6 connection decoder search count next source filled hypothesis =>
      obtain ⟨mode, drained, passed⟩ := Decoder.tryRecord_none search
      rcases Decoder.fillFrom_outcomes drained.not_full connection.source with
        ⟨_, _, _, found, same, moved, kept⟩ | ⟨_, found, _⟩ | ⟨_, _, _, found, _⟩
      · rw [filled] at found
        cases found
        refine hypothesis.before ⟨rfl, rfl, kept⟩ ?_
        rw [coming, coming, ahead, ahead, passed, moved, same]
      · rw [filled] at found
        cases found
      · rw [filled] at found
        cases found

/-- Waiting changes nothing but what is still to be read. -/
theorem Awaited.readsOn
    {result : Except AwaitError Record}
    (awaited : Awaited isNotice connection result next) :
    connection.ReadsOn next := by
  cases awaited with
  | arrived _ _ onward => exact onward
  | exhausted _ _ onward => exact onward
  | brokenDown _ _ _ onward => exact onward

/-- A record that arrives is the next of those that are coming. -/
theorem coming_of_await
    {record : Record}
    (awaited : connection.await isNotice = (.ok record, next)) :
    connection.coming isNotice = record :: next.coming isNotice := by
  have outcome := await_outcomes isNotice connection
  rw [awaited] at outcome
  cases outcome with
  | arrived _ _ _ first => exact first

theorem readsOn_of_await
    {result : Except AwaitError Record}
    (awaited : connection.await isNotice = (result, next)) :
    connection.ReadsOn next := by
  have outcome := await_outcomes isNotice connection
  rw [awaited] at outcome
  exact outcome.readsOn

/-! ## Sending -/

/-- All that was ever to be sent on a connection, what still waits to be included. -/
def dispatched (connection : Connection) : Bytes :=
  connection.sink.accepted ++ connection.encoder.sealedBytes

/-- What posting a record can come to. -/
inductive Posted (record : Record) (connection : Connection) :
    Except FramingError Unit → Connection → Prop
  /-- The record does not fit, and nothing is to be sent but what was before. -/
  | unfit (error : FramingError) (encoder : Encoder)
      (kind : error = .bufferFull ∨ error = .tooManyFields)
      (same : encoder.sealedBytes = connection.encoder.sealedBytes) :
      Posted record connection (.error error) { connection with encoder }
  /-- The record is to be sent, but the stream fails. -/
  | stuck (error : FramingError) (encoder : Encoder) (sink : Sink)
      (kind : error.IsBreakdown)
      (moved : sink.accepted ++ encoder.sealedBytes = connection.dispatched ++ record.wire) :
      Posted record connection (.error error) { connection with encoder, sink }
  | sent (encoder : Encoder) (sink : Sink)
      (moved : sink.accepted ++ encoder.sealedBytes = connection.dispatched ++ record.wire) :
      Posted record connection (.ok ()) { connection with encoder, sink }

theorem post_outcomes (record : Record) (connection : Connection) :
    Posted record connection (connection.post record).1 (connection.post record).2 := by
  rw [post]
  rcases connection.encoder.writeRecord_cases record with
    ⟨_, _, encoder, written, bytes⟩ | ⟨_, error, encoder, refused, same⟩
  · rw [written]
    dsimp only
    have moved (next : Encoder) (after : Sink) (result : Except FramingError Nat)
        (flushed : encoder.flush connection.sink = (result, next, after)) :
        after.accepted ++ next.sealedBytes = connection.dispatched ++ record.wire := by
      rw [Encoder.accepted_flush flushed, bytes, dispatched, List.append_assoc]
    cases flushed : encoder.flush connection.sink with
    | mk result rest =>
        obtain ⟨next, after⟩ := rest
        cases result with
        | error error =>
            exact .stuck error next after (Encoder.isBreakdown_of_flush flushed)
              (moved _ _ _ flushed)
        | ok count => exact .sent next after (moved _ _ _ flushed)
  · rw [refused]
    exact .unfit error encoder (Encoder.error_writeRecord refused) same

end Connection

end Confinement.Wire
