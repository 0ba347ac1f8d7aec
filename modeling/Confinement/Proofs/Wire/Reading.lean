import Confinement.Wire.Decoder
import Confinement.Proofs.Wire.RingContents
import Confinement.Proofs.Wire.Scanning

/-!
# Reading a stream

`readStream` says which records a byte list holds, without any buffer: the records that are
complete, and what is left behind them.  Bytes that can never become a record, because a buffer of
the limit would be full of them or because they have too many fields, end the reading for good.

Reading is indifferent to cuts: to read a stream is to read a first part of it and then what was
left together with the rest (`readStream_append`).  A decoder reads what stands in its buffer
(`tryRecord_cases`, `drainFrom_cases`), so everything that is true of `readStream` is true of
decoders, however the bytes have come.
-/

namespace Confinement.Wire

/-! ## The first record that counts -/

/-- A byte list from its first record that counts on. -/
def fromFirst (allowEmpty : Bool) (data : Bytes) : Bytes :=
  if allowEmpty then data else data.dropWhile (· == terminator)

theorem length_fromFirst_le (allowEmpty : Bool) (data : Bytes) :
    (fromFirst allowEmpty data).length ≤ data.length := by
  unfold fromFirst
  split
  · exact Nat.le_refl _
  · exact (List.dropWhile_suffix _).length_le

/-- Nothing is passed over where empty records count, or where no terminator is at the head. -/
theorem fromFirst_eq_self
    {allowEmpty : Bool} {data : Bytes}
    (counts : allowEmpty = true ∨ data.head? ≠ some terminator) :
    fromFirst allowEmpty data = data := by
  cases allowEmpty with
  | true => rfl
  | false =>
      have head := counts.resolve_left Bool.false_ne_true
      rw [fromFirst, if_neg Bool.false_ne_true]
      cases data with
      | nil => rfl
      | cons byte rest =>
          rw [List.dropWhile_cons, if_neg]
          intro bare
          exact head (congrArg some (beq_iff_eq.1 bare))

theorem fromFirst_append_of_ne_nil
    {allowEmpty : Bool} {data : Bytes}
    (counts : fromFirst allowEmpty data ≠ [])
    (more : Bytes) :
    fromFirst allowEmpty (data ++ more) = fromFirst allowEmpty data ++ more := by
  cases allowEmpty with
  | true => rfl
  | false =>
      simp only [fromFirst, Bool.false_eq_true, ↓reduceIte] at counts ⊢
      rw [List.dropWhile_append]
      simp [counts]

/-- Bare terminators that were passed over make no difference to what follows. -/
theorem fromFirst_fromFirst_append (allowEmpty : Bool) (data more : Bytes) :
    fromFirst allowEmpty (fromFirst allowEmpty data ++ more) =
      fromFirst allowEmpty (data ++ more) := by
  cases allowEmpty with
  | true => rfl
  | false =>
      simp only [fromFirst, Bool.false_eq_true, ↓reduceIte]
      induction data with
      | nil => rfl
      | cons byte rest hypothesis =>
          rw [List.dropWhile_cons]
          split
          · rename_i bare
            rw [hypothesis, List.cons_append, List.dropWhile_cons, if_pos bare]
          · rfl

/-! ## Reading -/

/-- What a byte list holds. -/
structure Reading where
  /-- The complete records, in order. -/
  records : List Record
  /-- The bytes that wait for more, unless those at the head can never become a record. -/
  left : Option Bytes
  deriving DecidableEq, Repr

namespace Reading

/-- A reading with one more record in front. -/
def cons (record : Record) (reading : Reading) : Reading :=
  ⟨record :: reading.records, reading.left⟩

/-- A reading that goes on with what is left, unless it has ended for good. -/
def andThen (reading : Reading) (next : Bytes → Reading) : Reading :=
  match reading.left with
  | none => reading
  | some left => ⟨reading.records ++ (next left).records, (next left).left⟩

@[simp]
theorem cons_andThen (record : Record) (reading : Reading) (next : Bytes → Reading) :
    (cons record reading).andThen next = cons record (reading.andThen next) := by
  rcases reading with ⟨records, left⟩
  cases left <;> rfl

end Reading

set_option linter.unusedVariables false in
/--
The records that a byte list holds, read one after another from its first byte on, and what is left.
It ends where the bytes at the head can never become a record: at more fields than a record may
have, or at more bytes than the buffer takes.
-/
def readStream (allowEmpty : Bool) (data : Bytes) : Reading :=
  match found : scan ((fromFirst allowEmpty data).take bufferLimit) with
  | .overfull => ⟨[], none⟩
  | .incomplete =>
    if bufferLimit ≤ (fromFirst allowEmpty data).length then ⟨[], none⟩
    else ⟨[], some (fromFirst allowEmpty data)⟩
  | .complete record consumed =>
    Reading.cons record (readStream allowEmpty ((fromFirst allowEmpty data).drop consumed))
termination_by data.length
decreasing_by
  have bounds := consumed_of_scan found
  have shorter := length_fromFirst_le allowEmpty data
  simp only [List.length_take, List.length_drop] at bounds ⊢
  omega

theorem readStream_of_overfull
    {allowEmpty : Bool} {data : Bytes}
    (found : scan ((fromFirst allowEmpty data).take bufferLimit) = .overfull) :
    readStream allowEmpty data = ⟨[], none⟩ := by
  rw [readStream]
  split <;> simp_all

theorem readStream_of_incomplete
    {allowEmpty : Bool} {data : Bytes}
    (found : scan ((fromFirst allowEmpty data).take bufferLimit) = .incomplete) :
    readStream allowEmpty data =
      if bufferLimit ≤ (fromFirst allowEmpty data).length then ⟨[], none⟩
      else ⟨[], some (fromFirst allowEmpty data)⟩ := by
  rw [readStream]
  split <;> simp_all

theorem readStream_of_complete
    {allowEmpty : Bool} {data : Bytes} {record : Record} {consumed : Nat}
    (found : scan ((fromFirst allowEmpty data).take bufferLimit) = .complete record consumed) :
    readStream allowEmpty data =
      Reading.cons record (readStream allowEmpty ((fromFirst allowEmpty data).drop consumed)) := by
  rw [readStream]
  split <;> simp_all

/-- Only the bytes from the first record that counts on matter to a reading. -/
theorem readStream_congr
    {allowEmpty : Bool} {left right : Bytes}
    (same : fromFirst allowEmpty left = fromFirst allowEmpty right) :
    readStream allowEmpty left = readStream allowEmpty right := by
  rw [readStream, readStream, same]

/-- Bytes that wait for more fit a buffer, and reading them again finds nothing new. -/
theorem readStream_of_left
    {allowEmpty : Bool} {data left : Bytes}
    (waiting : (readStream allowEmpty data).left = some left) :
    left.length < bufferLimit ∧ readStream allowEmpty left = ⟨[], some left⟩ := by
  fun_induction readStream allowEmpty data with
  | case1 => cases waiting
  | case2 => cases waiting
  | case3 data found short =>
      cases waiting
      have again :
          fromFirst allowEmpty (fromFirst allowEmpty data) = fromFirst allowEmpty data := by
        simpa using fromFirst_fromFirst_append allowEmpty data []
      refine ⟨by omega, ?_⟩
      rw [readStream_of_incomplete (by rw [again]; exact found), again, if_neg short]
  | case4 data record consumed found hypothesis => exact hypothesis waiting

theorem length_left_le
    {allowEmpty : Bool} {data left : Bytes}
    (waiting : (readStream allowEmpty data).left = some left) :
    left.length ≤ data.length := by
  fun_induction readStream allowEmpty data with
  | case1 => cases waiting
  | case2 => cases waiting
  | case3 data found short =>
      cases waiting
      exact length_fromFirst_le allowEmpty data
  | case4 data record consumed found hypothesis =>
      have shorter := length_fromFirst_le allowEmpty data
      have rest := hypothesis waiting
      rw [List.length_drop] at rest
      omega

/-- What a scan of a buffer's worth of bytes has decided stays decided. -/
theorem scan_fromFirst_append
    {allowEmpty : Bool} {data : Bytes} {answer : Scan}
    (decided : scan ((fromFirst allowEmpty data).take bufferLimit) = answer)
    (known : answer ≠ .incomplete)
    (more : Bytes) :
    fromFirst allowEmpty (data ++ more) = fromFirst allowEmpty data ++ more ∧
      scan ((fromFirst allowEmpty (data ++ more)).take bufferLimit) = answer := by
  have counts : fromFirst allowEmpty data ≠ [] := by
    intro nothing
    rw [nothing, List.take_nil] at decided
    exact known decided.symm
  have joined := fromFirst_append_of_ne_nil counts more
  refine ⟨joined, ?_⟩
  rw [joined, List.take_append]
  exact scan_append decided known _

/-- To read a stream is to read a first part of it and then what was left with the rest. -/
theorem readStream_append (allowEmpty : Bool) (data more : Bytes) :
    readStream allowEmpty (data ++ more) =
      (readStream allowEmpty data).andThen fun left => readStream allowEmpty (left ++ more) := by
  fun_induction readStream allowEmpty data with
  | case1 data found =>
      have later := scan_fromFirst_append found (by simp) more
      exact readStream_of_overfull later.2
  | case2 data found full =>
      have counts : fromFirst allowEmpty data ≠ [] := by
        intro nothing
        rw [nothing] at full
        exact absurd full (by decide)
      have joined := fromFirst_append_of_ne_nil counts more
      have same : scan ((fromFirst allowEmpty (data ++ more)).take bufferLimit) = .incomplete := by
        rw [joined, List.take_append_of_le_length full]
        exact found
      have long : bufferLimit ≤ (fromFirst allowEmpty (data ++ more)).length := by
        rw [joined, List.length_append]
        omega
      rw [readStream_of_incomplete same, if_pos long]
      rfl
  | case3 data found short =>
      have passed := fromFirst_fromFirst_append allowEmpty data more
      simp [Reading.andThen, readStream_congr passed]
  | case4 data record consumed found hypothesis =>
      obtain ⟨joined, later⟩ := scan_fromFirst_append found (by simp) more
      have bounds := consumed_of_scan found
      have inside : consumed ≤ (fromFirst allowEmpty data).length := by
        have shorter := List.length_take_le bufferLimit (fromFirst allowEmpty data)
        have less := (List.take_prefix bufferLimit (fromFirst allowEmpty data)).length_le
        omega
      rw [readStream_of_complete later, joined, List.drop_append_of_le_length inside, hypothesis,
        Reading.cons_andThen]

@[simp]
theorem readStream_nil (allowEmpty : Bool) : readStream allowEmpty [] = ⟨[], some []⟩ := by
  have nothing : fromFirst allowEmpty [] = [] := by cases allowEmpty <;> rfl
  rw [readStream_of_incomplete (by rw [nothing]; rfl), nothing]
  rfl

/-! ## Decoders -/

namespace Decoder

/-- What the buffer of a decoder holds. -/
def reading (decoder : Decoder) : Reading := readStream decoder.allowEmpty decoder.buffer.toList

@[simp]
theorem allowEmpty_skipEmpty (decoder : Decoder) :
    decoder.skipEmpty.allowEmpty = decoder.allowEmpty := by
  rw [skipEmpty]
  split <;> rfl

@[simp]
theorem allowEmpty_advance (decoder : Decoder) :
    decoder.advance.allowEmpty = decoder.allowEmpty := by
  rw [advance]
  split <;> rfl

/-- Passing over bare terminators leaves the bytes from the first record that counts on. -/
theorem toList_skipEmpty (decoder : Decoder) :
    decoder.skipEmpty.buffer.toList = fromFirst decoder.allowEmpty decoder.buffer.toList := by
  rw [skipEmpty]
  split
  · rename_i counts
    exact (fromFirst_eq_self counts).symm
  · rename_i bare
    rw [Ring.toList_discard, fromFirst, if_neg fun every => bare (.inl every)]
    generalize decoder.buffer.toList = data
    calc
      data.drop (data.takeWhile (· == terminator)).length =
          (data.takeWhile (· == terminator) ++ data.dropWhile (· == terminator)).drop
            (data.takeWhile (· == terminator)).length := by
        rw [List.takeWhile_append_dropWhile]
      _ = data.dropWhile (· == terminator) := List.drop_left

/-- A buffer holds no more than its limit, so a scan of it sees all of it. -/
theorem take_toList (buffer : Ring bufferLimit) :
    buffer.toList.take bufferLimit = buffer.toList := by
  apply List.take_of_length_le
  rw [Ring.length_toList]
  exact buffer.size_le

/--
What looking for a record can do: it finds the first one that the buffer holds, or none so far, or
that there will never be one.
-/
theorem tryRecord_cases (decoder : Decoder) :
    (∃ record next, decoder.tryRecord = (.ok (some record), next) ∧
      next.advance.allowEmpty = decoder.allowEmpty ∧
      decoder.reading = next.advance.reading.cons record) ∨
    (∃ next, decoder.tryRecord = (.ok none, next) ∧
      next.allowEmpty = decoder.allowEmpty ∧
      decoder.reading = ⟨[], some next.buffer.toList⟩) ∨
    (∃ next, decoder.tryRecord = (.error .messageTooBig, next) ∧
      decoder.reading = ⟨[], none⟩) := by
  have contents := decoder.toList_skipEmpty
  have whole : (fromFirst decoder.allowEmpty decoder.buffer.toList).take bufferLimit =
      decoder.skipEmpty.buffer.toList := by
    rw [← contents, take_toList]
  have size : decoder.skipEmpty.buffer.size =
      (fromFirst decoder.allowEmpty decoder.buffer.toList).length := by
    rw [← contents, Ring.length_toList]
  rw [tryRecord, readHead]
  cases scanned : scan decoder.skipEmpty.buffer.toList with
  | overfull =>
      rw [← whole] at scanned
      exact Or.inr (Or.inr ⟨decoder.skipEmpty, rfl, readStream_of_overfull scanned⟩)
  | incomplete =>
      rw [← whole] at scanned
      have found := readStream_of_incomplete scanned
      rw [← size] at found
      cases full : decoder.skipEmpty.buffer.isFull with
      | true =>
          have enough : bufferLimit ≤ decoder.skipEmpty.buffer.size :=
            Nat.le_of_eq (beq_iff_eq.mp full).symm
          rw [if_pos enough] at found
          exact Or.inr (Or.inr ⟨decoder.skipEmpty, rfl, found⟩)
      | false =>
          have limit := decoder.skipEmpty.buffer.size_le
          have apart : decoder.skipEmpty.buffer.size ≠ bufferLimit := by
            intro equal
            rw [Ring.isFull, equal, beq_self_eq_true] at full
            cases full
          rw [if_neg (by omega), ← contents] at found
          exact Or.inr (Or.inl ⟨_, rfl, allowEmpty_skipEmpty decoder, found⟩)
  | complete record consumed =>
      rw [← whole] at scanned
      have found := readStream_of_complete scanned
      have rest : ({ decoder.skipEmpty with returned := some consumed } : Decoder).advance.reading =
          readStream decoder.allowEmpty
            ((fromFirst decoder.allowEmpty decoder.buffer.toList).drop consumed) := by
        rw [reading, allowEmpty_advance]
        show readStream decoder.skipEmpty.allowEmpty
          (decoder.skipEmpty.buffer.discard consumed).toList = _
        rw [Ring.toList_discard, contents, allowEmpty_skipEmpty]
      refine Or.inl ⟨record, { decoder.skipEmpty with returned := some consumed }, rfl, ?_, ?_⟩
      · rw [allowEmpty_advance]
        exact allowEmpty_skipEmpty decoder
      · rw [rest]
        exact found

/-- Draining a decoder gives the records that it holds, and fails when the rest can be none. -/
theorem drainFrom_cases
    {fuel : Nat} (decoder : Decoder)
    (enough : decoder.buffered < fuel) :
    (∃ left next, decoder.reading.left = some left ∧
      drainFrom fuel decoder = (decoder.reading.records, none, next) ∧
      next.allowEmpty = decoder.allowEmpty ∧ next.buffer.toList = left) ∨
    (∃ next, decoder.reading.left = none ∧
      drainFrom fuel decoder = (decoder.reading.records, some .messageTooBig, next)) := by
  induction fuel generalizing decoder with
  | zero => exact absurd enough (Nat.not_lt_zero _)
  | succ fuel hypothesis =>
      rw [drainFrom]
      rcases tryRecord_cases decoder with
        ⟨record, next, found, mode, read⟩ | ⟨next, found, mode, read⟩ | ⟨next, found, read⟩
      · have shorter := buffered_advance_lt found
        rw [found, read]
        rcases hypothesis next.advance (by omega) with
          ⟨left, last, waiting, drained, same, contents⟩ | ⟨last, refused, drained⟩
        · refine Or.inl ⟨left, last, waiting, ?_, same.trans mode, contents⟩
          simp only [drained, Reading.cons]
        · exact Or.inr ⟨last, refused, by simp only [drained, Reading.cons]⟩
      · rw [found, read]
        exact Or.inl ⟨_, next, rfl, rfl, mode, rfl⟩
      · rw [found, read]
        exact Or.inr ⟨next, rfl, rfl⟩

end Decoder

end Confinement.Wire
