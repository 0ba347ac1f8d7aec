import Confinement.Proofs.Wire.RoundTrip

/-!
# The normal form of a received record

A receiver takes more than a sender sends: an escape may stand before a byte that needs none to be
told apart, and it stands for itself before an ordinary byte.  `Spelling` relates the bytes that a
receiver takes for a record to its fields, one constructor for each step of a scan, and a scan finds
what is spelled at the head and nothing else (`scan_eq_complete_iff`).

The wire form of a record is the shortest of its spellings (`Spelling.length_wire_le`), so whatever
was received can be sent on, in no more bytes than it came in, and is then received as the same
record.  To send on what was received is to bring its bytes into a normal form.
-/

namespace Confinement.Wire

open Host

/-! ## Records as their receivers see them -/

namespace Record

@[simp]
theorem asReceived_asReceived (record : Record) :
    record.asReceived.asReceived = record.asReceived := by
  by_cases bare : record = [[]]
  · rw [bare]
    rfl
  · rw [asReceived_eq_self bare, asReceived_eq_self bare]

@[simp]
theorem wire_asReceived (record : Record) : record.asReceived.wire = record.wire := by
  by_cases bare : record = [[]]
  · rw [bare]
    rfl
  · rw [asReceived_eq_self bare]

theorem length_asReceived_le (record : Record) : record.asReceived.length ≤ record.length := by
  by_cases bare : record = [[]]
  · rw [bare]
    exact Nat.zero_le _
  · exact Nat.le_of_eq (congrArg List.length (asReceived_eq_self bare))

/-- The first field of a wire form stands apart from the others. -/
theorem length_wire_cons (field : Bytes) (others : Record) :
    (wire (field :: others)).length = (escape field).length + (wire ([] :: others)).length := by
  cases others with
  | nil => simp [wire, body, escape]
  | cons next rest => simp [wire, body, escape, Nat.add_assoc]

end Record

/-! ## Spellings -/

/-- The bytes that a receiver takes for the fields of a record. -/
inductive Spelling : Bytes → Record → Prop where
  | ending : Spelling [terminator] [[]]
  | next {data field : Bytes} {others : Record}
      (rest : Spelling data (field :: others)) :
      Spelling (separator :: data) ([] :: field :: others)
  | ordinary {byte : UInt8} {data field : Bytes} {others : Record}
      (plain : isSpecial byte = false)
      (rest : Spelling data (field :: others)) :
      Spelling (byte :: data) ((byte :: field) :: others)
  | escaped {byte : UInt8} {data field : Bytes} {others : Record}
      (special : isSpecial byte = true)
      (rest : Spelling data (field :: others)) :
      Spelling (escapeByte :: byte :: data) ((byte :: field) :: others)
  /-- An escape before an ordinary byte stands for itself. -/
  | lone {byte : UInt8} {data field : Bytes} {others : Record}
      (plain : isSpecial byte = false)
      (rest : Spelling (byte :: data) (field :: others)) :
      Spelling (escapeByte :: byte :: data) ((escapeByte :: field) :: others)

namespace Spelling

/-- An ordinary byte at the head is the first of its field. -/
theorem head?_of_ordinary
    {byte : UInt8} {data field : Bytes} {others : Record}
    (spelled : Spelling (byte :: data) (field :: others))
    (plain : isSpecial byte = false) :
    field.head? = some byte := by
  cases spelled with
  | ending => cases plain
  | next => cases plain
  | ordinary => rfl
  | escaped => cases plain
  | lone => cases plain

/-- What is spelled has a field. -/
theorem ne_nil
    {data : Bytes} {record : Record}
    (spelled : Spelling data record) :
    record ≠ [] := by
  cases spelled <;> exact List.cons_ne_nil _ _

/-- Only a bare terminator spells an empty field and no others. -/
theorem eq_terminator
    {data : Bytes}
    (spelled : Spelling data [[]]) :
    data = [terminator] := by
  cases spelled with
  | ending => rfl

/-- No spelling of a record is shorter than its wire form. -/
theorem length_wire_le
    {data : Bytes} {record : Record}
    (spelled : Spelling data record) :
    record.wire.length ≤ data.length := by
  induction spelled with
  | ending => exact Nat.le_refl _
  | next rest hypothesis =>
      simp only [Record.wire, Record.body, escape, List.nil_append, List.length_append,
        List.length_cons] at hypothesis ⊢
      omega
  | ordinary plain rest hypothesis =>
      rw [Record.length_wire_cons] at hypothesis ⊢
      rw [escape_cons_of_not_needsEscape (needsEscape_of_ordinary _ plain)]
      simp only [List.length_cons]
      omega
  | escaped special rest hypothesis =>
      -- At worst, the wire form escapes the byte as well.
      rw [Record.length_wire_cons] at hypothesis ⊢
      rw [escape_cons]
      simp only [List.length_append, List.length_cons]
      split <;> simp <;> omega
  | @lone byte data field others plain rest hypothesis =>
      -- The ordinary byte behind the escape spares the escape its own.
      have unescaped : needsEscape escapeByte field.head? = false := by
        rw [rest.head?_of_ordinary plain]
        exact plain
      rw [Record.length_wire_cons] at hypothesis ⊢
      rw [escape_cons_of_not_needsEscape unescaped]
      simp only [List.length_cons] at hypothesis ⊢
      omega

end Spelling

/-- Every record that a scan finds is spelled by the bytes that it takes. -/
theorem spelling_of_scanFrom
    {fields : List Bytes} {field : Bytes} {before consumed : Nat} {data : Bytes} {record : Record}
    (found : scanFrom fields field before data = .complete record consumed)
    (room : fields.length < fieldLimit) :
    ∃ spelling rest first others,
      data = spelling ++ rest ∧ consumed = before + spelling.length ∧
      Spelling spelling (first :: others) ∧
      fields.length + (first :: others).length ≤ fieldLimit ∧
      record = Record.asReceived (fields.reverse ++ (field.reverse ++ first) :: others) := by
  fun_induction scanFrom fields field before data with
  | case1 => cases found
  | case2 => cases found
  | case3 fields field before next tail special hypothesis =>
      obtain ⟨spelling, rest, first, others, split, length, spelled, allowed, record⟩ :=
        hypothesis found room
      refine ⟨escapeByte :: next :: spelling, rest, next :: first, others, ?_, ?_,
        spelled.escaped special, allowed, ?_⟩
      · rw [split]
        rfl
      · simp only [List.length_cons]
        omega
      · rw [record]
        simp
  | case4 fields field before next tail ordinary hypothesis =>
      obtain ⟨spelling, rest, first, others, split, length, spelled, allowed, record⟩ :=
        hypothesis found room
      cases spelling with
      | nil => cases spelled
      | cons byte spelling =>
          -- The byte behind the escape is the first of what is left to spell.
          obtain ⟨rfl, split⟩ := List.cons.inj split
          refine ⟨escapeByte :: next :: spelling, rest, escapeByte :: first, others, ?_, ?_,
            spelled.lone (by simpa using ordinary), allowed, ?_⟩
          · rw [split]
            rfl
          · simp only [List.length_cons] at length ⊢
            omega
          · rw [record]
            simp
  | case5 => cases found
  | case6 fields field before rest within notEscape hypothesis =>
      obtain ⟨spelling, left, first, others, split, length, spelled, allowed, record⟩ :=
        hypothesis found (by simp only [List.length_cons]; omega)
      refine ⟨separator :: spelling, left, [], first :: others, ?_, ?_, spelled.next, ?_, ?_⟩
      · rw [split]
        rfl
      · simp only [List.length_cons]
        omega
      · simp only [List.length_cons] at allowed ⊢
        omega
      · rw [record]
        simp
  | case7 fields field before rest notEscape notSeparator =>
      cases found
      refine ⟨[terminator], rest, [], [], rfl, rfl, .ending, room, ?_⟩
      rw [closeRecord_eq_asReceived, List.append_nil]
  | case8 fields field before byte rest notEscape notSeparator notTerminator hypothesis =>
      obtain ⟨spelling, left, first, others, split, length, spelled, allowed, record⟩ :=
        hypothesis found room
      have plain : isSpecial byte = false := by
        rw [Bool.eq_false_iff, ne_eq, isSpecial_iff]
        rintro (isSeparator | isTerminator | isEscape)
        · exact notSeparator isSeparator
        · exact notTerminator isTerminator
        · exact notEscape isEscape
      refine ⟨byte :: spelling, left, byte :: first, others, ?_, ?_, spelled.ordinary plain,
        allowed, ?_⟩
      · rw [split]
        rfl
      · simp only [List.length_cons]
        omega
      · rw [record]
        simp

/-- A scan finds the record that is spelled at the head, whatever follows. -/
theorem scanFrom_of_spelling
    {spelling first : Bytes} {others : Record}
    (spelled : Spelling spelling (first :: others))
    {fields : List Bytes} (room : fields.length + (first :: others).length ≤ fieldLimit)
    (field : Bytes) (before : Nat) (rest : Bytes) :
    scanFrom fields field before (spelling ++ rest) =
      .complete (Record.asReceived (fields.reverse ++ (field.reverse ++ first) :: others))
        (before + spelling.length) := by
  generalize same : first :: others = record at spelled room
  induction spelled generalizing first others fields field before with
  | ending =>
      cases same
      rw [List.cons_append, scanFrom_terminator, closeRecord_eq_asReceived, List.append_nil]
      rfl
  | next spelled hypothesis =>
      cases same
      simp only [List.length_cons] at room
      rw [List.cons_append, scanFrom_separator _ _ _ _ (by omega),
        hypothesis [] (before + 1) rfl (by simp only [List.length_cons]; omega)]
      simp [Nat.add_assoc, Nat.add_comm 1]
  | ordinary plain spelled hypothesis =>
      cases same
      rw [List.cons_append, scanFrom_ordinary _ _ _ _ plain, hypothesis _ _ rfl room]
      simp [Nat.add_assoc, Nat.add_comm 1]
  | escaped special spelled hypothesis =>
      cases same
      rw [List.cons_append, List.cons_append, scanFrom_pair _ _ _ _ special,
        hypothesis _ _ rfl room]
      simp only [List.reverse_cons, List.append_assoc, List.singleton_append, List.length_cons]
      congr 1
      omega
  | lone plain spelled hypothesis =>
      cases same
      have onward := hypothesis (escapeByte :: field) (before + 1) rfl room
      rw [List.cons_append] at onward
      rw [List.cons_append, List.cons_append, scanFrom_lone _ _ _ _ plain, onward]
      simp [Nat.add_assoc, Nat.add_comm 1]

/--
A scan finds a record exactly when the bytes that it takes spell the record, with no more fields
than the limit.
-/
theorem scan_eq_complete_iff {data : Bytes} {record : Record} {consumed : Nat} :
    scan data = .complete record consumed ↔
      ∃ fields, Spelling (data.take consumed) fields ∧ fields.length ≤ fieldLimit ∧
        consumed ≤ data.length ∧ record = fields.asReceived := by
  constructor
  · intro found
    obtain ⟨spelling, rest, first, others, rfl, rfl, spelled, allowed, same⟩ :=
      spelling_of_scanFrom found (by decide)
    refine ⟨first :: others, ?_, ?_, (consumed_of_scan found).2, same⟩
    · rw [Nat.zero_add, List.take_left]
      exact spelled
    · simpa using allowed
  · rintro ⟨fields, spelled, allowed, inside, rfl⟩
    cases fields with
    | nil => exact absurd rfl spelled.ne_nil
    | cons first others =>
        have found := scanFrom_of_spelling spelled
          (by rw [List.length_nil, Nat.zero_add]; exact allowed) [] 0 (data.drop consumed)
        rw [List.take_append_drop, List.length_take, Nat.min_eq_left inside, Nat.zero_add] at found
        exact found

/-- A record that a scan finds is within the limits, and no shorter than its wire form. -/
theorem bounds_of_scan
    {data : Bytes} {record : Record} {consumed : Nat}
    (found : scan data = .complete record consumed) :
    record.asReceived = record ∧ record.length ≤ fieldLimit ∧ record.wire.length ≤ consumed := by
  obtain ⟨fields, spelled, allowed, _, rfl⟩ := scan_eq_complete_iff.1 found
  refine ⟨Record.asReceived_asReceived fields,
    Nat.le_trans (Record.length_asReceived_le fields) allowed, ?_⟩
  rw [Record.wire_asReceived]
  exact Nat.le_trans spelled.length_wire_le (List.length_take_le _ _)

/-- The record without fields is that of a bare terminator. -/
theorem head?_of_scan_empty
    {data : Bytes} {consumed : Nat}
    (scanned : scan data = .complete [] consumed) :
    data.head? = some terminator := by
  obtain ⟨fields, spelled, _, _, same⟩ := scan_eq_complete_iff.1 scanned
  have bare : fields = [[]] := by
    apply Classical.byContradiction
    intro other
    rw [Record.asReceived_eq_self other] at same
    exact spelled.ne_nil same.symm
  rw [bare] at spelled
  have alone := congrArg List.head? spelled.eq_terminator
  cases consumed with
  | zero => cases alone
  | succ count => rwa [List.head?_take, if_neg (Nat.succ_ne_zero count)] at alone

/-! ## Receiving -/

namespace Decoder

/-- A record that a decoder returns is what a scan finds behind the terminators passed over. -/
theorem scan_of_tryRecord
    {decoder next : Decoder} {record : Record}
    (received : decoder.tryRecord = (.ok (some record), next)) :
    ∃ count, scan decoder.skipEmpty.buffer.toList = .complete record count ∧
      next.returned = some count := by
  rw [tryRecord, readHead] at received
  split at received
  · cases received
  · split at received <;> cases received
  · rename_i found count scanned
    cases received
    exact ⟨count, scanned, rfl⟩

theorem tryRecord_of_scan
    {decoder : Decoder} {record : Record} {count : Nat}
    (scanned : scan decoder.skipEmpty.buffer.toList = .complete record count) :
    decoder.tryRecord = (.ok (some record), { decoder.skipEmpty with returned := some count }) := by
  rw [tryRecord, readHead, scanned]

/-- No terminator is left at the head where bare ones do not count. -/
theorem head?_fromFirst_ne (data : Bytes) :
    (fromFirst false data).head? ≠ some terminator := by
  have passed := List.head?_dropWhile_not (· == terminator) data
  intro head
  rw [fromFirst, if_neg Bool.false_ne_true] at head
  rw [head] at passed
  cases passed

/-- The record without fields is returned only where it counts. -/
theorem counts_of_tryRecord
    {decoder next : Decoder} {record : Record}
    (received : decoder.tryRecord = (.ok (some record), next)) :
    (decoder.allowEmpty || !record.isEmpty) = true := by
  cases mode : decoder.allowEmpty with
  | true => rfl
  | false =>
      obtain ⟨count, scanned, _⟩ := scan_of_tryRecord received
      rw [Bool.false_or, Bool.not_eq_true', List.isEmpty_eq_false_iff]
      rintro rfl
      rw [toList_skipEmpty, mode] at scanned
      exact head?_fromFirst_ne decoder.buffer.toList (head?_of_scan_empty scanned)

/-- A decoder that is fed the wire form of a record that counts returns the record. -/
theorem tryRecord_of_wire
    {record : Record}
    (allowed : record.length ≤ fieldLimit)
    (room : record.wire.length ≤ bufferLimit)
    {allowEmpty : Bool}
    (counts : (allowEmpty || !record.asReceived.isEmpty) = true) :
    ∃ fed next, (empty allowEmpty).feed record.wire = (.ok (), fed) ∧
      fed.tryRecord = (.ok (some record.asReceived), next) ∧
      next.returned = some record.wire.length ∧ next.advance.buffered = 0 := by
  have fits : (empty allowEmpty).buffer.size + record.wire.length ≤ bufferLimit := by
    rw [← Ring.length_toList]
    simpa [empty] using room
  obtain ⟨buffer, pushed⟩ := Ring.exists_push? fits
  have contents : buffer.toList = record.wire := Ring.toList_push? pushed
  let fed : Decoder := { empty allowEmpty with buffer }
  have first : fed.skipEmpty.buffer.toList = record.wire := by
    have whole := fromFirst_wire_append allowed counts []
    rw [List.append_nil] at whole
    rw [toList_skipEmpty]
    show fromFirst allowEmpty buffer.toList = record.wire
    rw [contents, whole]
  have scanned : scan fed.skipEmpty.buffer.toList =
      .complete record.asReceived record.wire.length := by
    have found := scan_wire allowed []
    rw [List.append_nil] at found
    rw [first, found]
  refine ⟨fed, _, ?_, tryRecord_of_scan scanned, rfl, ?_⟩
  · rw [feed, pushed]
  · show (fed.skipEmpty.buffer.discard record.wire.length).size = 0
    rw [Ring.size_discard, ← Ring.length_toList, first, Nat.sub_self]

/-! ## Sending on -/

/-- The bytes as which the first record of a decoder is sent on, if it has one and they fit. -/
def normalForm? (decoder : Decoder) : Option Bytes :=
  match decoder.tryRecord with
  | (.ok (some record), _) =>
    match Encoder.empty.writeRecord record with
    | (.ok (), sent) => some sent.sealedBytes
    | (.error _, _) => none
  | _ => none

variable {decoder next : Decoder} {record : Record}

/-- What was received is within the limits of a sender, and its wire form is no longer than it. -/
theorem bounds_of_tryRecord
    (received : decoder.tryRecord = (.ok (some record), next)) :
    record.asReceived = record ∧ record.length ≤ fieldLimit ∧
      record.wire.length ≤ bufferLimit ∧
      ∃ count, next.returned = some count ∧ record.wire.length ≤ count := by
  obtain ⟨count, scanned, returned⟩ := scan_of_tryRecord received
  obtain ⟨same, allowed, shorter⟩ := bounds_of_scan scanned
  have bounds := consumed_of_scan scanned
  have limit := decoder.skipEmpty.buffer.size_le
  rw [Ring.length_toList] at bounds
  exact ⟨same, allowed, by omega, count, returned, shorter⟩

theorem writeRecord_of_tryRecord
    (received : decoder.tryRecord = (.ok (some record), next))
    {encoder : Encoder} (nothing : encoder.sealedBytes = []) :
    ∃ sent, encoder.writeRecord record = (.ok (), sent) ∧ sent.sealedBytes = record.wire := by
  obtain ⟨_, allowed, room, _⟩ := bounds_of_tryRecord received
  have fits : encoder.sealedBytes.length + record.wire.length ≤ bufferLimit := by
    rw [nothing, List.length_nil, Nat.zero_add]
    exact room
  obtain ⟨sent, written, bytes⟩ := Encoder.writeRecord_of_fits allowed fits
  exact ⟨sent, written, by rw [bytes, nothing, List.nil_append]⟩

/-- The normal form of what was received is its wire form. -/
theorem normalForm?_of_tryRecord
    (received : decoder.tryRecord = (.ok (some record), next)) :
    decoder.normalForm? = some record.wire := by
  obtain ⟨sent, written, bytes⟩ := writeRecord_of_tryRecord received Encoder.sealedBytes_empty
  rw [normalForm?, received]
  dsimp only
  rw [written]
  exact congrArg some bytes

/--
Whatever a decoder has returned can be sent on.  Every encoder that has nothing sealed takes it, in
no more bytes than it came in, and an empty decoder that is fed these returns it again and has
nothing left.  So what is sent on is a normal form of what was received: it is never longer, and it
is its own normal form.
-/
theorem received_is_sendable
    (received : decoder.tryRecord = (.ok (some record), next)) :
    ∃ count bytes, next.returned = some count ∧
      decoder.normalForm? = some bytes ∧ bytes.length ≤ count ∧
      (∀ encoder : Encoder, encoder.sealedBytes = [] →
        ∃ sent, encoder.writeRecord record = (.ok (), sent) ∧ sent.sealedBytes = bytes) ∧
      ∃ fed again, (empty decoder.allowEmpty).feed bytes = (.ok (), fed) ∧
        fed.tryRecord = (.ok (some record), again) ∧
        again.returned = some bytes.length ∧ again.advance.buffered = 0 ∧
        fed.normalForm? = some bytes := by
  obtain ⟨same, allowed, room, count, returned, shorter⟩ := bounds_of_tryRecord received
  have counts : (decoder.allowEmpty || !record.asReceived.isEmpty) = true := by
    rw [same]
    exact counts_of_tryRecord received
  obtain ⟨fed, again, accepted, found, taken, drained⟩ := tryRecord_of_wire allowed room counts
  rw [same] at found
  exact ⟨count, record.wire, returned, normalForm?_of_tryRecord received, shorter,
    fun encoder nothing => writeRecord_of_tryRecord received nothing,
    fed, again, accepted, found, taken, drained, normalForm?_of_tryRecord found⟩

/-- A decoder that has received a bare terminator and a record with more escapes than it needs. -/
def verbose : Decoder :=
  ((empty false).feed
    [0x0A, 0x5C, 0x5C, 0x61, 0x20, 0x5C, 0x5C, 0x5C, 0x20, 0x5C, 0x62, 0x0A, 0x63]).2

/-- An escape is spared before an ordinary byte, and kept before an escaped separator. -/
theorem received_is_sendable_with_fewer_escapes :
    verbose.normalForm? = some [0x5C, 0x61, 0x20, 0x5C, 0x5C, 0x5C, 0x20, 0x5C, 0x62, 0x0A] ∧
      verbose.tryRecord.2.returned = some 11 ∧
      ∃ fed again,
        (empty false).feed [0x5C, 0x61, 0x20, 0x5C, 0x5C, 0x5C, 0x20, 0x5C, 0x62, 0x0A] =
          (.ok (), fed) ∧
        fed.tryRecord = (.ok (some [[0x5C, 0x61], [0x5C, 0x20, 0x5C, 0x62]]), again) ∧
        fed.normalForm? = some [0x5C, 0x61, 0x20, 0x5C, 0x5C, 0x5C, 0x20, 0x5C, 0x62, 0x0A] := by
  have scanned : scan verbose.skipEmpty.buffer.toList =
      .complete [[0x5C, 0x61], [0x5C, 0x20, 0x5C, 0x62]] 11 := by decide +kernel
  have received := tryRecord_of_scan scanned
  obtain ⟨count, bytes, returned, normal, _, _, fed, again, accepted, found, _, _, repeated⟩ :=
    received_is_sendable received
  have wire : verbose.normalForm? =
      some [0x5C, 0x61, 0x20, 0x5C, 0x5C, 0x5C, 0x20, 0x5C, 0x62, 0x0A] :=
    normalForm?_of_tryRecord received
  obtain rfl : bytes = _ := Option.some.inj (normal.symm.trans wire)
  refine ⟨wire, by rw [received], fed, again, accepted, found, repeated⟩

end Decoder

end Confinement.Wire
