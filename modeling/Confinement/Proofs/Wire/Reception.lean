import Confinement.Proofs.Wire.Reading

/-!
# Receiving a stream

A decoder that is drained after every delivery gives the records of the whole stream, as
`readStream` reads them, however the stream is delivered: read by read from a source whose stream
never fails for good (`readAll_follows`), or piece by piece as long as no piece is refused
(`feedAll_follows`).  Interrupted reads and reads without data leave no trace.
-/

namespace Confinement.Host

/-- The failure that a delivery is, if it is one. -/
def Delivery.cause? : Delivery → Option Failure
  | .bytes _ => none
  | .failure cause => some cause

namespace Source

/-- Whether a stream never fails for good: its reads are at most put off. -/
def Unbroken (source : Source) : Prop :=
  ∀ cause, Delivery.failure cause ∈ source → cause = .interrupted ∨ cause = .wouldBlock

instance (source : Source) : Decidable source.Unbroken :=
  decidable_of_iff
    (∀ delivery ∈ source, ∀ cause ∈ delivery.cause?,
      cause = .interrupted ∨ cause = .wouldBlock) <| by
    constructor
    · intro harmless cause member
      exact harmless _ member cause rfl
    · intro unbroken delivery member cause failed
      cases delivery with
      | bytes data => cases failed
      | failure other =>
          cases failed
          exact unbroken cause member

theorem Unbroken.tail
    {delivery : Delivery} {rest : Source}
    (unbroken : Unbroken (delivery :: rest)) :
    Unbroken rest := by
  intro cause member
  exact unbroken cause (List.mem_cons_of_mem _ member)

theorem unbroken_bytes_cons
    {data : Bytes} {rest : Source}
    (unbroken : Unbroken rest) :
    Unbroken (.bytes data :: rest) := by
  intro cause member
  rcases List.mem_cons.mp member with equal | later
  · cases equal
  · exact unbroken cause later

/-- What is left to be done with a source: the bytes to be handed out and the failures between. -/
def workload (source : Source) : Nat := source.left + source.length

/-- The first delivery is passed over, puts the read off, or has bytes to hand out. -/
theorem head_cases
    {delivery : Delivery} {tail : Source}
    (limit : Nat)
    (unbroken : Unbroken (delivery :: tail)) :
    (readPatiently limit (delivery :: tail) = readPatiently limit tail ∧
      contents (delivery :: tail) = tail.contents) ∨
    delivery = .failure .wouldBlock ∨
    ∃ byte run, delivery = .bytes (byte :: run) := by
  cases delivery with
  | failure cause =>
      rcases unbroken cause List.mem_cons_self with rfl | rfl
      · exact Or.inl ⟨rfl, rfl⟩
      · exact Or.inr (Or.inl rfl)
  | bytes data =>
      cases data with
      | nil => exact Or.inl ⟨rfl, rfl⟩
      | cons byte run => exact Or.inr (Or.inr ⟨byte, run, rfl⟩)

/-- What a read with room can do: it hands out bytes, finds the stream at its end, or is put off. -/
theorem readPatiently_cases
    {limit : Nat} {source : Source}
    (room : 0 < limit)
    (unbroken : source.Unbroken) :
    (∃ data rest, source.readPatiently limit = (.ok data, rest) ∧ data ≠ [] ∧
      data.length ≤ limit ∧ source.contents = data ++ rest.contents ∧ rest.Unbroken ∧
      rest.length ≤ source.length) ∨
    (source.readPatiently limit = (.ok [], []) ∧ source.contents = []) ∨
    (∃ rest, source.readPatiently limit = (.error .wouldBlock, rest) ∧
      source.contents = rest.contents ∧ rest.Unbroken ∧ rest.length < source.length) := by
  induction source with
  | nil => exact Or.inr (Or.inl ⟨rfl, rfl⟩)
  | cons delivery tail hypothesis =>
      rw [List.length_cons]
      rcases head_cases limit unbroken with ⟨passed, same⟩ | rfl | ⟨byte, run, rfl⟩
      · rw [passed, same]
        rcases hypothesis unbroken.tail with
          ⟨data, rest, result, some, bound, split, onward, shorter⟩ | ended |
          ⟨rest, result, split, onward, shorter⟩
        · exact Or.inl ⟨data, rest, result, some, bound, split, onward, by omega⟩
        · exact Or.inr (Or.inl ended)
        · exact Or.inr (Or.inr ⟨rest, result, split, onward, by omega⟩)
      · exact Or.inr (Or.inr ⟨tail, rfl, rfl, unbroken.tail, Nat.lt_succ_self _⟩)
      · have some : (byte :: run).take limit ≠ [] := by
          intro nothing
          rcases List.take_eq_nil_iff.mp nothing with zero | empty
          · omega
          · cases empty
        have bound := List.length_take_le limit (byte :: run)
        by_cases whole : (byte :: run).length ≤ limit
        · refine Or.inl ⟨(byte :: run).take limit, tail, ?_, some, bound, ?_, unbroken.tail, ?_⟩
          · rw [readPatiently, read, if_pos whole]
            all_goals simp
          · rw [List.take_of_length_le whole]
            rfl
          · omega
        · refine Or.inl ⟨(byte :: run).take limit, .bytes ((byte :: run).drop limit) :: tail,
            ?_, some, bound, ?_, unbroken_bytes_cons unbroken.tail, ?_⟩
          · rw [readPatiently, read, if_neg whole]
            all_goals simp
          · rw [contents, contents, ← List.append_assoc, List.take_append_drop]
          · exact Nat.le_refl _

end Source

end Confinement.Host

namespace Confinement.Wire

open Host

namespace Decoder

/-- A decoder from which every complete record has been removed, and whose rest may become one. -/
def Drained (decoder : Decoder) : Prop := decoder.reading = ⟨[], some decoder.buffer.toList⟩

theorem drained_empty (allowEmpty : Bool) : (empty allowEmpty).Drained :=
  readStream_nil allowEmpty

theorem Drained.not_full
    {decoder : Decoder}
    (drained : decoder.Drained) :
    decoder.buffered < bufferLimit := by
  have waiting : decoder.reading.left = some decoder.buffer.toList := by rw [drained]
  have short := (readStream_of_left waiting).1
  rwa [Ring.length_toList] at short

/-- What is left behind the records that were read waits for more bytes. -/
theorem drained_of_left
    {decoder next : Decoder}
    (waiting : decoder.reading.left = some next.buffer.toList)
    (mode : next.allowEmpty = decoder.allowEmpty) :
    next.Drained := by
  rw [Drained, reading, mode]
  exact (readStream_of_left waiting).2

/-- The reading of a drained decoder and of bytes behind it is that of the bytes it has kept. -/
theorem reading_of_append
    {decoder next : Decoder} {data : Bytes}
    (grown : next.buffer.toList = decoder.buffer.toList ++ data)
    (mode : next.allowEmpty = decoder.allowEmpty) :
    next.reading = readStream decoder.allowEmpty (decoder.buffer.toList ++ data) := by
  rw [reading, grown, mode]

/-- What a fill can do to a decoder that has room. -/
theorem fillFrom_cases
    {decoder : Decoder} {source : Source}
    (room : decoder.buffered < bufferLimit)
    (unbroken : source.Unbroken) :
    (∃ data next rest, decoder.fillFrom source = (.ok data.length, next, rest) ∧ data ≠ [] ∧
      next.buffer.toList = decoder.buffer.toList ++ data ∧
      next.allowEmpty = decoder.allowEmpty ∧
      source.contents = data ++ rest.contents ∧ rest.Unbroken ∧
      rest.workload < source.workload) ∨
    (∃ next, decoder.fillFrom source = (.ok 0, next, []) ∧
      next.buffer.toList = decoder.buffer.toList ∧ source.contents = []) ∨
    (∃ rest, decoder.fillFrom source = (.error .wouldBlock, decoder, rest) ∧
      source.contents = rest.contents ∧ rest.Unbroken ∧ rest.workload < source.workload) := by
  have writable : decoder.buffer.writable ≠ 0 := by
    intro full
    have size := (Ring.writable_eq_zero_iff _).mp full
    exact absurd size (Nat.ne_of_lt room)
  rw [fillFrom, if_neg writable]
  rcases Source.readPatiently_cases (Nat.pos_of_ne_zero writable) unbroken with
    ⟨data, rest, result, some, bound, split, onward, shorter⟩ | ⟨result, ended⟩ |
    ⟨rest, result, split, onward, shorter⟩
  · rw [result]
    refine Or.inl ⟨data, _, rest, rfl, some, ?_, rfl, split, onward, ?_⟩
    · rw [Ring.toList_fill, List.take_of_length_le bound]
    · have length := congrArg List.length split
      have positive := List.length_pos_iff.mpr some
      rw [List.length_append, Source.length_contents, Source.length_contents] at length
      simp only [Source.workload]
      omega
  · rw [result]
    refine Or.inr (Or.inl ⟨_, rfl, ?_, ended⟩)
    rw [Ring.toList_fill, List.take_nil, List.append_nil]
  · rw [result]
    refine Or.inr (Or.inr ⟨rest, rfl, split, onward, ?_⟩)
    have length := congrArg List.length split
    rw [Source.length_contents, Source.length_contents] at length
    simp only [Source.workload]
    omega

end Decoder

/-! ## Receiving -/

/-- How a stream was received. -/
inductive Reception where
  /-- A piece did not fit. -/
  | refused
  /-- The bytes are no records, or the stream failed. -/
  | failed (error : FramingError)
  /-- All of it was taken in: the records, and the decoder that is left. -/
  | done (records : List Record) (decoder : Decoder)

/-- A reception with records that came before it. -/
def Reception.after (records : List Record) : Reception → Reception
  | .done more decoder => .done (records ++ more) decoder
  | .refused => .refused
  | .failed error => .failed error

/-- Drains a decoder and goes on with what is left. -/
def drainThen (decoder : Decoder) (next : Decoder → Reception) : Reception :=
  match decoder.drain with
  | (_, some error, _) => .failed error
  | (records, none, drained) => (next drained).after records

/-- Takes in pieces in order and drains after each. -/
def feedAll : Decoder → List Bytes → Reception
  | decoder, [] => .done [] decoder
  | decoder, piece :: rest =>
    match decoder.feed piece with
    | (.error _, _) => .refused
    | (.ok (), fed) => drainThen fed fun drained => feedAll drained rest

/-- Reads a source to its end and drains after each read; `fuel` bounds the number of reads. -/
def readAllFrom : Nat → Decoder → Source → Reception
  | 0, decoder, _ => .done [] decoder
  | fuel + 1, decoder, source =>
    match decoder.fillFrom source with
    | (.ok 0, next, _) => .done [] next
    | (.ok (_ + 1), next, rest) | (.error .wouldBlock, next, rest) =>
      drainThen next fun drained => readAllFrom fuel drained rest
    | (.error error, _, _) => .failed error

/-- Reads a source to its end and drains after each read. -/
def readAll (decoder : Decoder) (source : Source) : Reception :=
  readAllFrom (source.workload + 1) decoder source

/-- Whether a reception is the one that a reading of the stream asks for. -/
def Reception.Follows (reading : Reading) (reception : Reception) : Prop :=
  (∃ left last, reading.left = some left ∧ reception = .done reading.records last ∧
    last.buffer.toList = left) ∨
  (reading.left = none ∧ reception = .failed .messageTooBig)

/-- What draining a decoder and going on can do. -/
theorem drainThen_cases (decoder : Decoder) (next : Decoder → Reception) :
    (∃ drained, decoder.reading.left = some drained.buffer.toList ∧ drained.Drained ∧
      drained.allowEmpty = decoder.allowEmpty ∧
      drainThen decoder next = (next drained).after decoder.reading.records) ∨
    (decoder.reading.left = none ∧ drainThen decoder next = .failed .messageTooBig) := by
  rw [drainThen, Decoder.drain]
  rcases Decoder.drainFrom_cases decoder (Nat.lt_succ_self _) with
    ⟨left, drained, waiting, result, mode, rfl⟩ | ⟨last, refused, result⟩
  · rw [result]
    exact Or.inl ⟨drained, waiting, Decoder.drained_of_left waiting mode, mode, rfl⟩
  · rw [result]
    exact Or.inr ⟨refused, rfl⟩

namespace Reception

/-- Records that were read before stand in front of those that follow. -/
theorem Follows.after
    {allowEmpty : Bool} {data left more : Bytes} {reception : Reception}
    (waiting : (readStream allowEmpty data).left = some left)
    (follows : Follows (readStream allowEmpty (left ++ more)) reception) :
    Follows (readStream allowEmpty (data ++ more))
      (reception.after (readStream allowEmpty data).records) := by
  rw [readStream_append, Reading.andThen, waiting]
  rcases follows with ⟨rest, last, kept, rfl, contents⟩ | ⟨refused, rfl⟩
  · exact Or.inl ⟨rest, last, kept, rfl, contents⟩
  · exact Or.inr ⟨refused, rfl⟩

/-- A stream that can go nowhere stays one whatever comes behind it. -/
theorem follows_of_refused
    {allowEmpty : Bool} {data : Bytes}
    (refused : (readStream allowEmpty data).left = none)
    (more : Bytes) :
    Follows (readStream allowEmpty (data ++ more)) (.failed .messageTooBig) := by
  rw [readStream_append, Reading.andThen, refused]
  exact Or.inr ⟨refused, rfl⟩

end Reception

/-- What comes after a delivery, drained, is received as the stream from there on. -/
theorem follows_drainThen
    {decoder fed : Decoder} {data more : Bytes} {next : Decoder → Reception}
    (grown : fed.buffer.toList = decoder.buffer.toList ++ data)
    (mode : fed.allowEmpty = decoder.allowEmpty)
    (onward : ∀ last : Decoder, last.Drained → last.allowEmpty = decoder.allowEmpty →
      drainThen fed next = (next last).after fed.reading.records →
        (next last).Follows (readStream decoder.allowEmpty (last.buffer.toList ++ more))) :
    (drainThen fed next).Follows
      (readStream decoder.allowEmpty (decoder.buffer.toList ++ (data ++ more))) := by
  rw [← List.append_assoc]
  have read := Decoder.reading_of_append grown mode
  rcases drainThen_cases fed next with ⟨last, waiting, drained, same, result⟩ | ⟨refused, result⟩
  · have follows := onward last drained (same.trans mode) result
    rw [read] at waiting
    rw [result, read]
    exact follows.after waiting
  · rw [read] at refused
    rw [result]
    exact Reception.follows_of_refused refused more

/-- Pieces of which none is refused are received as the stream that they make up. -/
theorem feedAll_follows
    {decoder : Decoder} {pieces : List Bytes}
    (drained : decoder.Drained)
    (accepted : feedAll decoder pieces ≠ .refused) :
    (feedAll decoder pieces).Follows
      (readStream decoder.allowEmpty (decoder.buffer.toList ++ pieces.flatten)) := by
  induction pieces generalizing decoder with
  | nil =>
      rw [List.flatten_nil, List.append_nil, ← Decoder.reading, drained]
      exact Or.inl ⟨_, decoder, rfl, rfl, rfl⟩
  | cons piece rest hypothesis =>
      rw [List.flatten_cons]
      rw [feedAll, Decoder.feed] at accepted ⊢
      cases pushed : decoder.buffer.push? piece with
      | none =>
          rw [pushed] at accepted
          exact absurd rfl accepted
      | some buffer =>
          rw [pushed] at accepted
          refine follows_drainThen (Ring.toList_push? pushed) rfl ?_
          intro last again mode result
          rw [← mode]
          apply hypothesis again
          intro refused
          rw [refused] at result
          exact accepted result

/-- Pieces for which the buffer has room even together are not refused. -/
theorem feedAll_ne_refused
    {decoder : Decoder} {pieces : List Bytes}
    (room : decoder.buffered + pieces.flatten.length ≤ bufferLimit) :
    feedAll decoder pieces ≠ .refused := by
  induction pieces generalizing decoder with
  | nil => exact Reception.noConfusion
  | cons piece rest hypothesis =>
      rw [List.flatten_cons, List.length_append] at room
      obtain ⟨buffer, pushed⟩ : ∃ buffer, decoder.buffer.push? piece = some buffer :=
        Ring.exists_push? (by rw [← Decoder.buffered]; omega)
      have grown := Ring.size_push? pushed
      rw [feedAll, Decoder.feed, pushed]
      show drainThen { decoder with buffer } _ ≠ .refused
      rcases drainThen_cases { decoder with buffer } (fun drained => feedAll drained rest) with
        ⟨last, waiting, _, _, result⟩ | ⟨_, result⟩
      · have shorter : last.buffered ≤ buffer.size := by
          have length := length_left_le waiting
          rwa [Ring.length_toList, Ring.length_toList] at length
        have onward : last.buffered + rest.flatten.length ≤ bufferLimit := by
          rw [Decoder.buffered] at room
          omega
        have accepted := hypothesis onward
        rw [result]
        intro refused
        cases outcome : feedAll last rest with
        | refused => exact accepted outcome
        | failed error => rw [outcome] at refused; cases refused
        | done records drained => rw [outcome] at refused; cases refused
      · rw [result]
        exact Reception.noConfusion

/-- A source is received as the stream that it delivers. -/
theorem readAllFrom_follows
    {fuel : Nat} {decoder : Decoder} {source : Source}
    (enough : source.workload < fuel)
    (drained : decoder.Drained)
    (unbroken : source.Unbroken) :
    (readAllFrom fuel decoder source).Follows
      (readStream decoder.allowEmpty (decoder.buffer.toList ++ source.contents)) := by
  induction fuel generalizing decoder source with
  | zero => exact absurd enough (Nat.not_lt_zero _)
  | succ fuel hypothesis =>
      rw [readAllFrom]
      rcases Decoder.fillFrom_cases drained.not_full unbroken with
        ⟨data, next, rest, result, some, grown, mode, split, onward, less⟩ |
        ⟨next, result, same, ended⟩ | ⟨rest, result, split, onward, less⟩
      · rw [result, split]
        cases data with
        | nil => exact absurd rfl some
        | cons byte run =>
            refine follows_drainThen grown mode ?_
            intro last again kept _
            rw [← kept]
            exact hypothesis (by omega) again onward
      · rw [result, ended, List.append_nil, ← Decoder.reading, drained]
        exact Or.inl ⟨_, next, rfl, rfl, same⟩
      · rw [result, split, ← List.nil_append rest.contents]
        refine follows_drainThen (List.append_nil _).symm rfl ?_
        intro last again kept _
        rw [← kept]
        exact hypothesis (by omega) again onward

theorem readAll_follows
    {decoder : Decoder} {source : Source}
    (drained : decoder.Drained)
    (unbroken : source.Unbroken) :
    (readAll decoder source).Follows
      (readStream decoder.allowEmpty (decoder.buffer.toList ++ source.contents)) :=
  readAllFrom_follows (Nat.lt_succ_self _) drained unbroken

end Confinement.Wire
