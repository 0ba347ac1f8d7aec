import Confinement.Proofs.Wire.Awaiting
import Confinement.Proofs.Wire.NormalForm

/-!
# Records written as they stand

A record can be written without any escape, its fields as they stand with separators between them.
What is read from such bytes is bounded by them (`length_wires_readStream_le`), and the wire form of
a record is never shorter than its fields as they stand.  So a list of records written like this is
read back exactly when nothing in it needed an escape and every record fits (`feedAll_bare_iff`):
one field that is changed by escaping makes the list too short to hold the records that it shows.
-/

namespace Confinement.Wire

open Host

/-! ## Fields that stand for themselves -/

theorem sublist_escape (field : Bytes) : field.Sublist (escape field) := by
  induction field with
  | nil => exact .slnil
  | cons byte rest hypothesis =>
      rw [escape]
      split
      · exact (hypothesis.cons_cons byte).cons escapeByte
      · exact hypothesis.cons_cons byte

namespace Record

/-- The fields as they stand, with separators between them. -/
def bareBody : Record → Bytes
  | [] => []
  | [field] => field
  | field :: rest => field ++ separator :: bareBody rest

/-- A record that is written without any escape. -/
def bare (record : Record) : Bytes := record.bareBody ++ [terminator]

/-- Whether a record is on the wire as it stands. -/
structure Plain (record : Record) : Prop where
  /-- No byte of any field needs an escape. -/
  unescaped : ∀ field ∈ record, escape field = field
  fits : record.wire.length ≤ bufferLimit

instance (record : Record) : Decidable record.Plain :=
  decidable_of_iff
    ((∀ field ∈ record, escape field = field) ∧ record.wire.length ≤ bufferLimit)
    ⟨fun ⟨unescaped, fits⟩ => ⟨unescaped, fits⟩, fun ⟨unescaped, fits⟩ => ⟨unescaped, fits⟩⟩

variable {record : Record}

theorem bareBody_sublist_body (record : Record) : record.bareBody.Sublist record.body := by
  fun_induction bareBody record with
  | case1 => exact .slnil
  | case2 field => exact sublist_escape field
  | case3 field rest some hypothesis =>
      rw [body]
      · exact (sublist_escape field).append (hypothesis.cons_cons separator)
      · exact some

/-- Without its escapes a record is no longer than with them. -/
theorem length_bare_le (record : Record) : record.bare.length ≤ record.wire.length :=
  (record.bareBody_sublist_body.append_right [terminator]).length_le

theorem body_eq_bareBody
    (unescaped : ∀ field ∈ record, escape field = field) :
    record.body = record.bareBody := by
  fun_induction bareBody record with
  | case1 => rfl
  | case2 field => exact unescaped field List.mem_cons_self
  | case3 field rest some hypothesis =>
      rw [body, unescaped field List.mem_cons_self,
        hypothesis fun other member => unescaped other (List.mem_cons_of_mem _ member)]
      exact some

/-- A plain record is its own wire form. -/
theorem Plain.wire_eq (plain : record.Plain) : record.wire = record.bare := by
  rw [wire, bare, body_eq_bareBody plain.unescaped]

/-- Fields of which escaping makes nothing longer stand for themselves. -/
theorem unescaped_of_length_body_le
    (short : record.body.length ≤ record.bareBody.length) :
    ∀ field ∈ record, escape field = field := by
  fun_induction bareBody record with
  | case1 =>
      rintro field ⟨⟩
  | case2 field =>
      intro other member
      rw [List.mem_singleton.1 member]
      exact ((sublist_escape field).eq_of_length_le short).symm
  | case3 field rest some hypothesis =>
      have first := (sublist_escape field).length_le
      have others := (bareBody_sublist_body rest).length_le
      rw [body] at short
      · simp only [List.length_append, List.length_cons] at short
        intro other member
        rcases List.mem_cons.1 member with rfl | later
        · exact ((sublist_escape other).eq_of_length_le (by omega)).symm
        · exact hypothesis (by omega) other later
      · exact some

theorem plain_of_length_wire_le
    (short : record.wire.length ≤ record.bare.length)
    (fits : record.wire.length ≤ bufferLimit) :
    record.Plain := by
  refine ⟨unescaped_of_length_body_le ?_, fits⟩
  rw [wire, bare, List.length_append, List.length_append] at short
  exact Nat.le_of_add_le_add_right short

theorem length_bares_le (records : List Record) :
    (records.flatMap bare).length ≤ (records.flatMap wire).length := by
  induction records with
  | nil => exact Nat.le_refl _
  | cons record rest hypothesis =>
      have first := record.length_bare_le
      simp only [List.flatMap_cons, List.length_append]
      omega

/-- Records whose wire forms take no more than the records as they stand need no escapes. -/
theorem length_wire_le_of_length_wires_le
    {records : List Record}
    (short : (records.flatMap wire).length ≤ (records.flatMap bare).length) :
    ∀ record ∈ records, record.wire.length ≤ record.bare.length := by
  induction records with
  | nil =>
      rintro record ⟨⟩
  | cons record rest hypothesis =>
      have longer := length_bares_le rest
      have first := record.length_bare_le
      simp only [List.flatMap_cons, List.length_append] at short
      intro other member
      rcases List.mem_cons.1 member with rfl | later
      · omega
      · exact hypothesis (by omega) other later

end Record

/-! ## What a stream can hold -/

/-- Every record in a stream is within the limits of a sender. -/
theorem bounds_of_mem_readStream
    {allowEmpty : Bool} {data : Bytes} {record : Record}
    (member : record ∈ (readStream allowEmpty data).records) :
    record.length ≤ fieldLimit ∧ record.wire.length ≤ bufferLimit := by
  fun_induction readStream allowEmpty data with
  | case1 => cases member
  | case2 => cases member
  | case3 => cases member
  | case4 data first consumed found hypothesis =>
      rcases List.mem_cons.1 member with rfl | later
      · obtain ⟨_, allowed, shorter⟩ := bounds_of_scan found
        have inside := (consumed_of_scan found).2
        have limit := List.length_take_le bufferLimit (fromFirst allowEmpty data)
        exact ⟨allowed, by omega⟩
      · exact hypothesis later

/-- A stream is at least as long as the wire forms of its records. -/
theorem length_wires_readStream_le (allowEmpty : Bool) (data : Bytes) :
    ((readStream allowEmpty data).records.flatMap Record.wire).length ≤ data.length := by
  fun_induction readStream allowEmpty data with
  | case1 => exact Nat.zero_le _
  | case2 => exact Nat.zero_le _
  | case3 => exact Nat.zero_le _
  | case4 data first consumed found hypothesis =>
      obtain ⟨_, _, shorter⟩ := bounds_of_scan found
      have inside := (consumed_of_scan found).2
      have less := length_fromFirst_le allowEmpty data
      rw [List.length_take] at inside
      rw [List.length_drop] at hypothesis
      simp only [Reading.cons, List.flatMap_cons, List.length_append]
      omega

/-! ## Reading records back -/

/-- A decoder that is fed wire forms one by one returns the records. -/
theorem feedAll_wires
    {records : List Record}
    (sendable : ∀ record ∈ records, record.Sendable)
    {decoder : Decoder} (nothing : decoder.buffered = 0) :
    ∃ last, feedAll decoder (records.map Record.wire) = .done records last ∧
      last.buffered = 0 := by
  induction records generalizing decoder with
  | nil => exact ⟨decoder, rfl, nothing⟩
  | cons record rest hypothesis =>
      have arrives := sendable record List.mem_cons_self
      have empty : decoder.buffer.toList = [] := by
        rw [← List.length_eq_zero_iff, Ring.length_toList]
        exact nothing
      obtain ⟨buffer, pushed⟩ : ∃ buffer, decoder.buffer.push? record.wire = some buffer := by
        apply Ring.exists_push?
        rw [← Decoder.buffered, nothing, Nat.zero_add]
        exact arrives.fits
      have read : ({ decoder with buffer } : Decoder).reading = ⟨[record], some []⟩ := by
        have whole := arrives.readStream_wire_append decoder.allowEmpty []
        rw [List.append_nil, readStream_nil] at whole
        rw [Decoder.reading, Ring.toList_push? pushed, empty, List.nil_append]
        exact whole
      rw [List.map_cons, feedAll, Decoder.feed, pushed]
      dsimp only
      rcases drainThen_cases { decoder with buffer } (fun drained =>
          feedAll drained (rest.map Record.wire)) with
        ⟨drained, left, _, _, result⟩ | ⟨refused, _⟩
      · rw [read] at left
        have spent : drained.buffered = 0 := by
          rw [Decoder.buffered, ← Ring.length_toList, ← Option.some.inj left]
          rfl
        obtain ⟨last, fed, finished⟩ :=
          hypothesis (fun other member => sendable other (List.mem_cons_of_mem _ member)) spent
        refine ⟨last, ?_, finished⟩
        rw [result, fed, read]
        rfl
      · rw [read] at refused
        cases refused

/--
Records written as they stand, of which none is empty or has too many fields, are read back exactly
when each of them is plain.
-/
theorem feedAll_bare_iff
    {records : List Record}
    (allowed : ∀ record ∈ records, record.length ≤ fieldLimit)
    (marked : ∀ record ∈ records, record.wire ≠ [terminator])
    (allowEmpty : Bool) :
    (∃ last, feedAll (Decoder.empty allowEmpty) (records.map Record.bare) = .done records last ∧
      last.buffered = 0) ↔
      ∀ record ∈ records, record.Plain := by
  constructor
  · rintro ⟨last, fed, _⟩ record member
    have accepted : feedAll (Decoder.empty allowEmpty) (records.map Record.bare) ≠ .refused := by
      rw [fed]
      exact Reception.noConfusion
    have follows := feedAll_follows (Decoder.drained_empty allowEmpty) accepted
    obtain ⟨left, other, waiting, result, _⟩ | ⟨_, failed⟩ := follows
    · rw [fed, Reception.done.injEq] at result
      -- What is read is what the records are, so it holds no fewer bytes than their wire forms.
      have whole : (readStream allowEmpty (records.flatMap Record.bare)).records = records := by
        rw [List.flatMap_def]
        exact result.1.symm
      have short := length_wires_readStream_le allowEmpty (records.flatMap Record.bare)
      rw [whole] at short
      rw [← whole] at member
      have fits := (bounds_of_mem_readStream member).2
      rw [whole] at member
      exact Record.plain_of_length_wire_le
        (Record.length_wire_le_of_length_wires_le short record member) fits
    · rw [fed] at failed
      cases failed
  · intro plain
    have sendable (record : Record) (member : record ∈ records) : record.Sendable :=
      ⟨allowed record member, (plain record member).fits, marked record member⟩
    have same : records.map Record.bare = records.map Record.wire :=
      List.map_congr_left fun record member => (plain record member).wire_eq.symm
    rw [same]
    exact feedAll_wires sendable rfl

end Confinement.Wire
