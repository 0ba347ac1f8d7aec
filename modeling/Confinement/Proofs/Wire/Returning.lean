import Confinement.Proofs.Wire.NormalForm

/-!
# Records that are returned and removed

A decoder remembers the length of the record that it returned last, and an advance removes as many
bytes.  A `Watch` keeps what the calls of a decoder have told: the record that is due to be removed,
because the last look returned it and it was neither advanced over nor reset since.

After any calls an advance removes the bytes of the record that is due, and nothing when none is
due, with one exception: a look that fails while a record is due does not make the decoder forget
that record (`Watch.missed`).  It happens only where a bare terminator was returned, empty records
then were made not to count, and the bytes behind the terminator have too many fields.  The next
advance removes the first of these bytes.
-/

namespace Confinement.Wire

open Host

/-! ## Bytes at the head -/

theorem scan_terminator (rest : Bytes) : scan (terminator :: rest) = .complete [] 1 :=
  scanFrom_terminator [] [] 0 rest

/-- A record that counts is not passed over. -/
theorem fromFirst_of_counts
    {allowEmpty : Bool} {data : Bytes} {record : Record} {consumed : Nat}
    (scanned : scan data = .complete record consumed)
    (counts : (allowEmpty || !record.isEmpty) = true) :
    fromFirst allowEmpty data = data := by
  apply fromFirst_eq_self
  rcases Bool.or_eq_true_iff.1 counts with every | full
  · exact .inl every
  · right
    intro head
    obtain ⟨rest, rfl⟩ := List.head?_eq_some_iff.1 head
    rw [scan_terminator, Scan.complete.injEq] at scanned
    rw [← scanned.1] at full
    cases full

/-- Bytes with too many fields do not begin with a terminator, so none of them is passed over. -/
theorem fromFirst_of_overfull
    {allowEmpty : Bool} {data : Bytes}
    (scanned : scan data = .overfull) :
    fromFirst allowEmpty data = data := by
  apply fromFirst_eq_self
  right
  intro head
  obtain ⟨rest, rfl⟩ := List.head?_eq_some_iff.1 head
  rw [scan_terminator] at scanned
  cases scanned

/-- The bytes that a scan takes for a record are a record by themselves. -/
theorem scan_take_consumed
    {data : Bytes} {record : Record} {consumed : Nat}
    (scanned : scan data = .complete record consumed) :
    scan (data.take consumed) = .complete record (data.take consumed).length := by
  obtain ⟨fields, spelled, allowed, inside, same⟩ := scan_eq_complete_iff.1 scanned
  have length : (data.take consumed).length = consumed := by
    rw [List.length_take, Nat.min_eq_left inside]
  refine scan_eq_complete_iff.2 ⟨fields, ?_, allowed, Nat.le_refl _, same⟩
  rw [List.take_length]
  exact spelled

namespace Decoder

/-! ## Calls -/

/-- A call of a decoder, and for a fill the stream that it meets. -/
inductive Call where
  | feed (data : Bytes)
  | fill (source : Source)
  | tryRecord
  | advance
  | reset
  | setAllowEmpty (allowEmpty : Bool)

/-- A decoder after one more call. -/
def after (decoder : Decoder) : Call → Decoder
  | .feed data => (decoder.feed data).2
  | .fill source => (decoder.fillFrom source).2.1
  | .tryRecord => decoder.tryRecord.2
  | .advance => decoder.advance
  | .reset => decoder.reset
  | .setAllowEmpty allowEmpty => decoder.setAllowEmpty allowEmpty

/-- Whether a call leaves it at that which records count. -/
def Call.KeepsMode (allowEmpty : Bool) : Call → Prop
  | .setAllowEmpty other => other = allowEmpty
  | _ => True

/-- Whether a call also removes nothing. -/
def Call.KeepsHead (allowEmpty : Bool) : Call → Prop
  | .advance | .reset => False
  | call => call.KeepsMode allowEmpty

/-- A decoder that took in bytes, and nothing else. -/
structure Extended (decoder next : Decoder) : Prop where
  toList : ∃ more, next.buffer.toList = decoder.buffer.toList ++ more
  allowEmpty : next.allowEmpty = decoder.allowEmpty
  returned : next.returned = decoder.returned

theorem Extended.refl (decoder : Decoder) : decoder.Extended decoder :=
  ⟨⟨[], (List.append_nil _).symm⟩, rfl, rfl⟩

theorem extended_feed (decoder : Decoder) (data : Bytes) :
    decoder.Extended (decoder.feed data).2 := by
  rw [feed]
  cases pushed : decoder.buffer.push? data with
  | none => exact Extended.refl decoder
  | some buffer => exact ⟨⟨data, Ring.toList_push? pushed⟩, rfl, rfl⟩

theorem extended_fillFrom (decoder : Decoder) (source : Source) :
    decoder.Extended (decoder.fillFrom source).2.1 := by
  rw [fillFrom]
  split
  · exact Extended.refl decoder
  · split
    · exact ⟨⟨_, Ring.toList_fill _ _⟩, rfl, rfl⟩
    · exact Extended.refl decoder
    · exact Extended.refl decoder

/-- What a look leaves: an answer that the bytes at the head decide, and what is remembered. -/
theorem tryRecord_leaves (decoder : Decoder) :
    ∃ result next, decoder.tryRecord = (result, next) ∧
      next.allowEmpty = decoder.allowEmpty ∧
      next.buffer.toList = fromFirst decoder.allowEmpty decoder.buffer.toList ∧
      ((∃ record consumed, result = .ok (some record) ∧ next.returned = some consumed ∧
          scan next.buffer.toList = .complete record consumed) ∨
        (result = .ok none ∧ next.returned = none ∧ scan next.buffer.toList = .incomplete) ∨
        (∃ error, result = .error error ∧ next.returned = decoder.returned ∧
          (scan next.buffer.toList = .overfull ∨
            scan next.buffer.toList = .incomplete ∧ next.buffered = bufferLimit))) := by
  have mode := allowEmpty_skipEmpty decoder
  have contents := toList_skipEmpty decoder
  have kept : decoder.skipEmpty.returned = decoder.returned := by
    rw [skipEmpty]
    split <;> rfl
  rw [tryRecord, readHead]
  cases scanned : scan decoder.skipEmpty.buffer.toList with
  | overfull =>
      exact ⟨_, _, rfl, mode, contents, .inr (.inr ⟨_, rfl, kept, .inl scanned⟩)⟩
  | incomplete =>
      cases full : decoder.skipEmpty.buffer.isFull with
      | true =>
          exact ⟨_, _, rfl, mode, contents,
            .inr (.inr ⟨_, rfl, kept, .inr ⟨scanned, beq_iff_eq.1 full⟩⟩)⟩
      | false => exact ⟨_, _, rfl, mode, contents, .inr (.inl ⟨rfl, rfl, scanned⟩)⟩
  | complete record consumed =>
      exact ⟨_, _, rfl, mode, contents, .inl ⟨record, consumed, rfl, rfl, scanned⟩⟩

/-! ## Looking again -/

/-- Whether a record that counts is at the head. -/
structure Offers (decoder : Decoder) (record : Record) : Prop where
  scanned : ∃ consumed, scan decoder.buffer.toList = .complete record consumed
  counts : (decoder.allowEmpty || !record.isEmpty) = true

theorem offers_of_tryRecord
    {decoder next : Decoder} {record : Record}
    (found : decoder.tryRecord = (.ok (some record), next)) :
    next.Offers record := by
  have counted := counts_of_tryRecord found
  obtain ⟨result, last, same, mode, _, found' | ⟨none, _⟩ | ⟨error, failed, _⟩⟩ :=
    tryRecord_leaves decoder
  · obtain ⟨other, consumed, rfl, _, scanned⟩ := found'
    rw [found] at same
    cases same
    exact ⟨⟨consumed, scanned⟩, mode ▸ counted⟩
  · rw [found, none] at same
    cases same
  · rw [found, failed] at same
    cases same

/-- What is offered is found. -/
theorem Offers.tryRecord
    {decoder : Decoder} {record : Record}
    (offers : decoder.Offers record) :
    decoder.tryRecord.1 = .ok (some record) := by
  obtain ⟨consumed, scanned⟩ := offers.scanned
  rw [← fromFirst_of_counts scanned offers.counts, ← toList_skipEmpty] at scanned
  rw [tryRecord_of_scan scanned]

theorem Offers.extended
    {decoder next : Decoder} {record : Record}
    (offers : decoder.Offers record)
    (extended : decoder.Extended next) :
    next.Offers record := by
  obtain ⟨consumed, scanned⟩ := offers.scanned
  obtain ⟨more, grown⟩ := extended.toList
  refine ⟨⟨consumed, ?_⟩, extended.allowEmpty ▸ offers.counts⟩
  rw [grown]
  exact scan_append scanned Scan.noConfusion more

/-- A call that removes nothing and leaves the mode goes on offering the record at the head. -/
theorem Offers.after
    {decoder : Decoder} {record : Record} {call : Call}
    (offers : decoder.Offers record)
    (keeps : call.KeepsHead decoder.allowEmpty) :
    (decoder.after call).Offers record ∧
      (decoder.after call).allowEmpty = decoder.allowEmpty := by
  cases call with
  | feed data =>
      have extended := extended_feed decoder data
      exact ⟨offers.extended extended, extended.allowEmpty⟩
  | fill source =>
      have extended := extended_fillFrom decoder source
      exact ⟨offers.extended extended, extended.allowEmpty⟩
  | tryRecord =>
      obtain ⟨result, next, found, mode, _⟩ := tryRecord_leaves decoder
      have answer := offers.tryRecord
      rw [found] at answer
      cases answer
      rw [Decoder.after, found]
      exact ⟨offers_of_tryRecord found, mode⟩
  | advance => cases keeps
  | reset => cases keeps
  | setAllowEmpty other =>
      have same : other = decoder.allowEmpty := keeps
      rw [Decoder.after, same]
      exact ⟨offers, rfl⟩

theorem Offers.afterAll
    {decoder : Decoder} {record : Record} {calls : List Call}
    (offers : decoder.Offers record)
    (keep : ∀ call ∈ calls, call.KeepsHead decoder.allowEmpty) :
    (calls.foldl Decoder.after decoder).Offers record := by
  induction calls generalizing decoder with
  | nil => exact offers
  | cons call rest hypothesis =>
      obtain ⟨still, mode⟩ := offers.after (keep call List.mem_cons_self)
      apply hypothesis still
      rw [mode]
      exact fun other member => keep other (List.mem_cons_of_mem _ member)

end Decoder

/-! ## Watching a decoder -/

/-- A decoder and what its calls have told. -/
structure Watch where
  decoder : Decoder
  /-- The record that the last look returned, unless it was advanced over or reset since. -/
  due : Option Record
  /-- Whether a look failed while a record was due, and nothing was returned or removed since. -/
  missed : Bool

namespace Watch

open Decoder (Call)

def start (allowEmpty : Bool) : Watch := ⟨Decoder.empty allowEmpty, none, false⟩

/-- What a call makes due to be removed. -/
def dueAfter (watch : Watch) : Call → Option Record
  | .tryRecord =>
    match watch.decoder.tryRecord.1 with
    | .ok found => found
    | .error _ => none
  | .advance | .reset => none
  | .feed _ | .fill _ | .setAllowEmpty _ => watch.due

def missedAfter (watch : Watch) : Call → Bool
  | .tryRecord =>
    match watch.decoder.tryRecord.1 with
    | .ok _ => false
    | .error _ => watch.missed || watch.due.isSome
  | .advance | .reset => false
  | .feed _ | .fill _ | .setAllowEmpty _ => watch.missed

def after (watch : Watch) (call : Call) : Watch :=
  ⟨watch.decoder.after call, watch.dueAfter call, watch.missedAfter call⟩

/-- What a decoder remembers, given what its calls have told. -/
inductive Remembers (decoder : Decoder) : (due : Option Record) → (missed : Bool) → Prop
  | nothing (returned : decoder.returned = none) : Remembers decoder none false
  /-- The record that is due is at the head, and its length is remembered. -/
  | record {record : Record} {consumed : Nat}
      (returned : decoder.returned = some consumed)
      (scanned : scan decoder.buffer.toList = .complete record consumed) :
      Remembers decoder (some record) false
  /-- The terminator that was due is gone, and bytes that can be no record are at the head. -/
  | missed
      (returned : decoder.returned = some 1)
      (scanned : scan decoder.buffer.toList = .overfull) :
      Remembers decoder none true

variable {watch : Watch}

/-- Bytes that come later change nothing of what is remembered. -/
theorem Remembers.grown
    {decoder next : Decoder} {due : Option Record} {missed : Bool}
    (remembers : Remembers decoder due missed)
    {more : Bytes} (grown : next.buffer.toList = decoder.buffer.toList ++ more)
    (kept : next.returned = decoder.returned) :
    Remembers next due missed := by
  cases remembers with
  | nothing returned => exact .nothing (kept.trans returned)
  | record returned scanned =>
      refine .record (kept.trans returned) ?_
      rw [grown]
      exact scan_append scanned Scan.noConfusion more
  | missed returned scanned =>
      refine .missed (kept.trans returned) ?_
      rw [grown]
      exact scan_append scanned Scan.noConfusion more

/-- A look that fails while a record is due has passed over it: it was a bare terminator. -/
theorem overfull_of_failed
    {decoder next : Decoder} {record : Record} {consumed : Nat}
    (due : scan decoder.buffer.toList = .complete record consumed)
    (contents : next.buffer.toList = fromFirst decoder.allowEmpty decoder.buffer.toList)
    (failed : scan next.buffer.toList = .overfull ∨
      scan next.buffer.toList = .incomplete ∧ next.buffered = bufferLimit) :
    consumed = 1 ∧ scan next.buffer.toList = .overfull := by
  by_cases skips : decoder.allowEmpty = true ∨ decoder.buffer.toList.head? ≠ some terminator
  · -- Nothing was passed over, so the look saw the record.
    rw [contents, fromFirst_eq_self skips, due] at failed
    rcases failed with overfull | ⟨incomplete, _⟩
    · cases overfull
    · cases incomplete
  · obtain ⟨mode, head⟩ := not_or.1 skips
    rw [Bool.not_eq_true] at mode
    obtain ⟨rest, bytes⟩ := List.head?_eq_some_iff.1 (Decidable.not_not.1 head)
    rw [bytes, scan_terminator, Scan.complete.injEq] at due
    refine ⟨due.2.symm, failed.resolve_right ?_⟩
    -- With the terminator gone, the buffer is not full.
    rintro ⟨_, full⟩
    have shorter : next.buffered < decoder.buffered := by
      rw [Decoder.buffered, Decoder.buffered, ← Ring.length_toList, ← Ring.length_toList, contents,
        bytes, mode, fromFirst, if_neg Bool.false_ne_true, List.dropWhile_cons,
        if_pos (beq_self_eq_true terminator), List.length_cons]
      exact Nat.lt_succ_of_le (List.dropWhile_suffix _).length_le
    have bound : decoder.buffered ≤ bufferLimit := decoder.buffer.size_le
    omega

/-- A look keeps to what the calls have told. -/
theorem Remembers.tryRecord
    (remembers : Remembers watch.decoder watch.due watch.missed) :
    Remembers (watch.after .tryRecord).decoder (watch.after .tryRecord).due
      (watch.after .tryRecord).missed := by
  obtain ⟨result, next, found, _, contents, answer⟩ := Decoder.tryRecord_leaves watch.decoder
  simp only [after, Decoder.after, dueAfter, missedAfter, found]
  rcases answer with
    ⟨record, consumed, rfl, returned, scanned⟩ | ⟨rfl, returned, _⟩ |
      ⟨error, rfl, returned, failed⟩
  · exact .record returned scanned
  · exact .nothing returned
  · generalize watch.due = due, watch.missed = missed at remembers
    cases remembers with
    | nothing forgotten => exact .nothing (returned.trans forgotten)
    | record remembered scanned =>
        obtain ⟨rfl, overfull⟩ := overfull_of_failed scanned contents failed
        exact .missed (returned.trans remembered) overfull
    | missed remembered scanned =>
        refine .missed (returned.trans remembered) ?_
        rw [contents, fromFirst_of_overfull scanned]
        exact scanned

/-- Every call keeps to what the calls have told. -/
theorem Remembers.after
    (remembers : Remembers watch.decoder watch.due watch.missed)
    (call : Call) :
    Remembers (watch.after call).decoder (watch.after call).due (watch.after call).missed := by
  cases call with
  | feed data =>
      have extended := Decoder.extended_feed watch.decoder data
      obtain ⟨more, grown⟩ := extended.toList
      exact remembers.grown grown extended.returned
  | fill source =>
      have extended := Decoder.extended_fillFrom watch.decoder source
      obtain ⟨more, grown⟩ := extended.toList
      exact remembers.grown grown extended.returned
  | tryRecord => exact remembers.tryRecord
  | advance =>
      refine .nothing ?_
      show watch.decoder.advance.returned = none
      rw [Decoder.advance]
      split
      · rfl
      · assumption
  | reset => exact .nothing rfl
  | setAllowEmpty allowEmpty => exact remembers.grown (List.append_nil _).symm rfl

theorem Remembers.afterAll
    (remembers : Remembers watch.decoder watch.due watch.missed)
    (calls : List Call) :
    Remembers (calls.foldl Watch.after watch).decoder (calls.foldl Watch.after watch).due
      (calls.foldl Watch.after watch).missed := by
  induction calls generalizing watch with
  | nil => exact remembers
  | cons call rest hypothesis => exact hypothesis (remembers.after call)

/-! ## Removing -/

variable {decoder : Decoder}

theorem toList_advance
    {consumed : Nat}
    (returned : decoder.returned = some consumed) :
    decoder.advance.buffer.toList = decoder.buffer.toList.drop consumed := by
  rw [Decoder.advance, returned]
  exact Ring.toList_discard _ _

theorem Remembers.removes
    {record : Record} {missed : Bool}
    (remembers : Remembers decoder (some record) missed) :
    ∃ bytes, scan bytes = .complete record bytes.length ∧
      decoder.buffer.toList = bytes ++ decoder.advance.buffer.toList := by
  cases remembers with
  | record returned scanned =>
      refine ⟨_, scan_take_consumed scanned, ?_⟩
      rw [toList_advance returned]
      exact (List.take_append_drop _ _).symm

theorem Remembers.leaves
    (remembers : Remembers decoder none false) :
    decoder.buffer.toList = decoder.advance.buffer.toList := by
  cases remembers with
  | nothing returned => rw [Decoder.advance, returned]

/-- An advance after a miss removes the first of the bytes with too many fields. -/
theorem Remembers.loses
    {due : Option Record}
    (remembers : Remembers decoder due true) :
    ∃ byte, decoder.buffer.toList = byte :: decoder.advance.buffer.toList := by
  cases remembers with
  | missed returned scanned =>
      rw [toList_advance returned]
      cases bytes : decoder.buffer.toList with
      | nil =>
          rw [bytes] at scanned
          cases scanned
      | cons byte rest => exact ⟨byte, rfl⟩

/-! ## Where the mode stays -/

/-- Whether nothing was missed and what is due is still offered. -/
structure Steady (allowEmpty : Bool) (watch : Watch) : Prop where
  mode : watch.decoder.allowEmpty = allowEmpty
  offers : ∀ record, watch.due = some record → watch.decoder.Offers record
  missed : watch.missed = false

theorem Steady.after
    {allowEmpty : Bool} {call : Call}
    (steady : Steady allowEmpty watch)
    (keeps : call.KeepsMode allowEmpty) :
    Steady allowEmpty (watch.after call) := by
  obtain ⟨mode, offers, missed⟩ := steady
  have removing (removed : Decoder) (same : removed.allowEmpty = allowEmpty) :
      Steady allowEmpty ⟨removed, none, false⟩ := ⟨same, fun _ => nofun, rfl⟩
  cases call with
  | feed data =>
      have extended := Decoder.extended_feed watch.decoder data
      exact ⟨extended.allowEmpty.trans mode,
        fun record due => (offers record due).extended extended, missed⟩
  | fill source =>
      have extended := Decoder.extended_fillFrom watch.decoder source
      exact ⟨extended.allowEmpty.trans mode,
        fun record due => (offers record due).extended extended, missed⟩
  | tryRecord =>
      obtain ⟨result, next, found, same, _⟩ := Decoder.tryRecord_leaves watch.decoder
      simp only [Watch.after, Decoder.after, dueAfter, missedAfter, found]
      cases result with
      | ok answer =>
          refine ⟨same.trans mode, ?_, rfl⟩
          rintro record rfl
          exact Decoder.offers_of_tryRecord found
      | error error =>
          -- A record that is due is offered, and then a look does not fail.
          have nothing : watch.due = none := by
            cases due : watch.due with
            | none => rfl
            | some record =>
                have answer := (offers record due).tryRecord
                rw [found] at answer
                cases answer
          refine ⟨same.trans mode, fun _ => nofun, ?_⟩
          show (watch.missed || watch.due.isSome) = false
          rw [missed, nothing]
          rfl
  | advance => exact removing _ ((Decoder.allowEmpty_advance _).trans mode)
  | reset => exact removing _ mode
  | setAllowEmpty other =>
      have same : other = watch.decoder.allowEmpty := Eq.trans keeps mode.symm
      rw [Watch.after, Decoder.after, same]
      exact ⟨mode, offers, missed⟩

/-- Nothing is missed where the mode stays as it is. -/
theorem Steady.afterAll
    {allowEmpty : Bool} {calls : List Call}
    (steady : Steady allowEmpty watch)
    (keep : ∀ call ∈ calls, call.KeepsMode allowEmpty) :
    Steady allowEmpty (calls.foldl Watch.after watch) := by
  induction calls generalizing watch with
  | nil => exact steady
  | cons call rest hypothesis =>
      exact hypothesis (steady.after (keep call List.mem_cons_self))
        fun other member => keep other (List.mem_cons_of_mem _ member)

/-! ## After any calls -/

/--
After any calls, an advance removes the bytes of the record that is due, and nothing if none is due
and none was missed; one that was missed costs the byte at the head, and none is missed as long as
the mode stays.  A look repeats its answer until the record is removed or the mode is changed.
-/
theorem advance_removes_last_returned (allowEmpty : Bool) (calls : List Call) :
    let watch := calls.foldl after (start allowEmpty)
    let left := watch.decoder.advance.buffer.toList
    (∀ record, watch.due = some record →
      ∃ bytes, scan bytes = .complete record bytes.length ∧
        watch.decoder.buffer.toList = bytes ++ left) ∧
    (watch.due = none → watch.missed = false → watch.decoder.buffer.toList = left) ∧
    (watch.missed = true → ∃ byte, watch.decoder.buffer.toList = byte :: left) ∧
    ((∀ call ∈ calls, call.KeepsMode allowEmpty) → watch.missed = false) ∧
    ∀ record next, watch.decoder.tryRecord = (.ok (some record), next) →
      ∀ between : List Call, (∀ call ∈ between, call.KeepsHead next.allowEmpty) →
        (between.foldl Decoder.after next).tryRecord.1 = .ok (some record) := by
  intro watch left
  have fresh : Remembers (start allowEmpty).decoder (start allowEmpty).due
      (start allowEmpty).missed := .nothing rfl
  have remembers : Remembers watch.decoder watch.due watch.missed := fresh.afterAll calls
  refine ⟨?_, ?_, ?_, ?_, ?_⟩
  · intro record due
    rw [due] at remembers
    exact remembers.removes
  · intro due missed
    rw [due, missed] at remembers
    exact remembers.leaves
  · intro missed
    rw [missed] at remembers
    exact remembers.loses
  · intro keep
    have fresh : Steady allowEmpty (start allowEmpty) := ⟨rfl, fun _ => nofun, rfl⟩
    exact (fresh.afterAll keep).missed
  · intro record next found between keep
    exact ((Decoder.offers_of_tryRecord found).afterAll keep).tryRecord

/--
A bare terminator is returned, empty records are made not to count, and the twenty-one empty fields
behind it are refused.
-/
def refusedBehindTerminator : List Call :=
  [.feed (terminator :: List.replicate 20 separator ++ [terminator]), .tryRecord,
    .setAllowEmpty false, .tryRecord]

/-- An advance removes a byte of the refused record, although the last look returned none. -/
theorem removes_without_record :
    ¬∀ (allowEmpty : Bool) (calls : List Call),
      let watch := calls.foldl after (start allowEmpty)
      watch.due = none →
        watch.decoder.buffer.toList = watch.decoder.advance.buffer.toList := by
  intro removesNothing
  have nothing : (refusedBehindTerminator.foldl after (start true)).due = none := by
    decide +kernel
  have same := removesNothing true refusedBehindTerminator nothing
  revert same
  decide +kernel

/-- A bare terminator and two records arrive in three pieces, and the first record is returned. -/
def returnedOnce : List Call :=
  [.feed [0x0A, 0x61, 0x5C], .tryRecord, .fill [.failure .interrupted, .bytes [0x0A, 0x0A, 0x62]],
    .tryRecord, .feed [0x0A]]

/--
The record of one field with a line feed in it is returned again and removed with its escape; a
second advance removes nothing, and an advance after a miss does.
-/
theorem advance_removes_last_returned_once :
    let watch := returnedOnce.foldl after (start false)
    let next := watch.after .advance
    let refused := refusedBehindTerminator.foldl after (start true)
    (∃ bytes, scan bytes = .complete [[0x61, 0x0A]] bytes.length ∧
      watch.decoder.buffer.toList = bytes ++ next.decoder.buffer.toList) ∧
    next.decoder.buffer.toList = ([0x62, 0x0A] : Bytes) ∧
    next.decoder.buffer.toList = next.decoder.advance.buffer.toList ∧
    watch.missed = false ∧
    ([Call.feed [0x62], .tryRecord].foldl Decoder.after watch.decoder.tryRecord.2).tryRecord.1 =
      .ok (some [[0x61, 0x0A]]) ∧
    ∃ byte, refused.decoder.buffer.toList = byte :: refused.decoder.advance.buffer.toList := by
  intro watch next refused
  obtain ⟨removes, _, _, kept, repeats⟩ := advance_removes_last_returned false returnedOnce
  obtain ⟨_, leaves, _⟩ := advance_removes_last_returned false (returnedOnce ++ [.advance])
  rw [List.foldl_append, List.foldl_cons, List.foldl_nil] at leaves
  obtain ⟨_, _, loses, _⟩ := advance_removes_last_returned true refusedBehindTerminator
  refine ⟨?_, by decide +kernel, ?_, ?_, ?_, ?_⟩
  · have due : watch.due = some [[0x61, 0x0A]] := by decide +kernel
    exact removes _ due
  · exact leaves rfl rfl
  · exact kept (by simp [returnedOnce, Call.KeepsMode])
  · have answer : watch.decoder.tryRecord.1.toOption = some (some [[0x61, 0x0A]]) := by
      decide +kernel
    generalize found : watch.decoder.tryRecord = outcome at answer ⊢
    obtain ⟨error | _, last⟩ := outcome
    · cases answer
    · cases answer
      exact repeats _ _ found _ (by simp [Call.KeepsHead, Call.KeepsMode])
  · have missed : refused.missed = true := by decide +kernel
    exact loses missed

end Watch

end Confinement.Wire
