import Confinement.Proofs.Session.Delivery

/-!
# Bare terminators

Whether a session counts empty records is settled when it begins (`allowEmpty_deliverFrom`).  A
single byte that is delivered to a session is processed once (`deliverFrom_of_byte`), so a bare
terminator is either passed over or answered as a record without fields.
-/

namespace Confinement

open Host Policy Staging Wire

variable {World : Type}

/-! ## Modes -/

namespace Wire.Decoder

theorem allowEmpty_tryRecord
    {decoder next : Decoder} {result : Except FramingError (Option Record)}
    (found : decoder.tryRecord = (result, next)) :
    next.allowEmpty = decoder.allowEmpty := by
  have same : decoder.tryRecord.2.allowEmpty = decoder.skipEmpty.allowEmpty := by
    rw [tryRecord, readHead]
    split
    · rfl
    · split
      · rfl
      · rfl
    · rfl
  rw [found, allowEmpty_skipEmpty] at same
  exact same

theorem allowEmpty_fillFrom (decoder : Decoder) (source : Source) :
    (decoder.fillFrom source).2.1.allowEmpty = decoder.allowEmpty := by
  rw [fillFrom]
  split
  · rfl
  · split
    · rfl
    · rfl
    · rfl

end Wire.Decoder

namespace Session

theorem allowEmpty_receive (session : Session) (source : Source) :
    (session.receive source).2.1.decoder.allowEmpty = session.decoder.allowEmpty := by
  have same := session.decoder.allowEmpty_fillFrom source
  rw [receive]
  generalize session.decoder.fillFrom source = filled at same ⊢
  obtain ⟨result, decoder, rest⟩ := filled
  dsimp only
  split
  · exact same
  · exact same
  · exact same
  · exact same
  · exact same

variable (environment : Environment World)

theorem allowEmpty_processFrom (decoder : Decoder) (turn : Turn World) :
    (processFrom environment decoder turn).2.1.allowEmpty = decoder.allowEmpty := by
  fun_induction processFrom environment decoder turn with
  | case1 decoder turn isOpen error next found result last refused =>
      exact Decoder.allowEmpty_tryRecord found
  | case2 decoder turn isOpen next found => exact Decoder.allowEmpty_tryRecord found
  | case3 decoder turn isOpen record next found last answered hypothesis =>
      rw [hypothesis, Decoder.allowEmpty_advance]
      exact Decoder.allowEmpty_tryRecord found
  | case4 decoder turn isOpen record next found error last failed =>
      rw [Decoder.allowEmpty_advance]
      exact Decoder.allowEmpty_tryRecord found
  | case5 => rfl

theorem allowEmpty_process (session : Session) (sink : Sink) (shared : Shared World) :
    (process environment session sink shared).2.1.decoder.allowEmpty =
      session.decoder.allowEmpty := by
  have same := allowEmpty_processFrom environment session.decoder ⟨session.dialogue, sink, shared⟩
  rw [process]
  generalize processFrom environment session.decoder _ = processed at same ⊢
  exact same

/-- No delivery changes the mode of a session. -/
theorem allowEmpty_deliverFrom
    (fuel : Nat) (session : Session) (source : Source) (sink : Sink) (shared : Shared World) :
    (deliverFrom environment fuel session source sink shared).2.1.decoder.allowEmpty =
      session.decoder.allowEmpty := by
  induction fuel generalizing session source sink shared with
  | zero => rfl
  | succ fuel hypothesis =>
      have read := session.allowEmpty_receive source
      rw [deliverFrom]
      generalize session.receive source = received at read ⊢
      obtain ⟨error | ⟨⟩, next, rest⟩ := received
      · split
        · rfl
        · exact read
      · have answered := allowEmpty_process environment next sink shared
        dsimp only
        generalize process environment next sink shared = processed at answered ⊢
        obtain ⟨error | ⟨⟩, last, taken, after⟩ := processed
        · split
          · rfl
          · exact answered.trans read
        · split
          · rfl
          · exact (hypothesis last rest taken after).trans (answered.trans read)

/-! ## One byte -/

variable {environment} {fuel : Nat} {session : Session} {source : Source} {sink : Sink}
  {shared : Shared World} {byte : UInt8}

/-- A decoder in whose buffer nothing is complete is left to wait. -/
theorem processFrom_of_waiting
    (environment : Environment World)
    {decoder : Decoder} {left : Bytes} {turn : Turn World}
    (isOpen : turn.dialogue.phase.isOpen = true)
    (waiting : decoder.reading = ⟨[], some left⟩) :
    ∃ next, processFrom environment decoder turn = (.ok (), next, turn) ∧
      inquiriesFrom environment decoder turn = [] ∧ next.buffer.toList = left := by
  rcases decoder.tryRecord_cases with
    ⟨record, next, _, _, reading⟩ | ⟨next, found, _, reading⟩ | ⟨next, _, reading⟩
  · rw [waiting] at reading
    cases reading
  · rw [waiting, Reading.mk.injEq, Option.some.injEq] at reading
    obtain ⟨processed, nothing⟩ := processFrom_of_none environment isOpen found
    exact ⟨next, processed, nothing, reading.2.symm⟩
  · rw [waiting] at reading
    cases reading

/-- A single byte is delivered to a session that has kept nothing, which processes it once. -/
theorem deliverFrom_of_byte
    (isOpen : session.isOpen = true)
    (nothing : session.decoder.buffer.toList = [])
    (whole : source.contents = [byte])
    (unbroken : source.Unbroken)
    (enough : source.workload ≤ fuel) :
    ∃ decoder rest, decoder.buffer.toList = [byte] ∧
      decoder.allowEmpty = session.decoder.allowEmpty ∧
      ∀ last taken after,
        process environment ⟨decoder, session.dialogue⟩ sink shared = (.ok (), last, taken, after) →
        deliverFrom environment fuel session source sink shared =
            (.ok (), last, rest, taken, after) ∧
        heardFrom environment fuel session source sink shared =
          inquiries environment ⟨decoder, session.dialogue⟩ sink shared := by
  have more : source.contents ≠ [] := by
    rw [whole]
    exact List.cons_ne_nil _ _
  induction fuel generalizing session source with
  | zero =>
      have some : source.left ≠ 0 := by
        rw [← Source.length_contents]
        exact fun none => more (List.length_eq_zero_iff.1 none)
      exact absurd enough (by simp only [Source.workload]; omega)
  | succ fuel hypothesis =>
      have room : session.decoder.buffered < bufferLimit := by
        rw [Decoder.buffered, ← Ring.length_toList, nothing]
        exact Nat.zero_lt_succ _
      rcases Decoder.fillFrom_cases room unbroken with
        ⟨data, next, rest, filled, some, grown, mode, split, _⟩ | ⟨_, _, _, ended⟩ |
        ⟨rest, filled, split, calm, less⟩
      · obtain ⟨first, others, rfl⟩ := List.exists_cons_of_ne_nil some
        rw [whole, List.cons_append, List.cons.injEq] at split
        obtain ⟨rfl, behind⟩ := split
        obtain ⟨rfl, spent⟩ := List.append_eq_nil_iff.1 behind.symm
        have received : session.receive source =
            (.ok (), { session with decoder := next }, rest) := by
          rw [receive, filled]
          rfl
        rw [nothing] at grown
        refine ⟨next, rest, grown, mode, ?_⟩
        intro last taken after processed
        obtain ⟨later, also⟩ := deliverFrom_of_read fuel isOpen more received processed
        rw [deliverFrom_of_spent environment spent] at later
        rw [heardFrom_of_spent spent, List.append_nil] at also
        exact ⟨later, also⟩
      · exact absurd ended more
      · -- The byte is still to come, and until then there is nothing to process.
        have received : session.receive source = (.ok (), session, rest) := by
          rw [receive, filled]
        have awake : (⟨session.dialogue, sink, shared⟩ : Turn World).dialogue.phase.isOpen = true :=
          isOpen
        have waiting : session.decoder.reading = ⟨[], some []⟩ := by
          rw [Decoder.reading, nothing, readStream_nil]
        obtain ⟨kept, processed, silent, same⟩ :=
          processFrom_of_waiting environment awake waiting
        have mode := allowEmpty_processFrom environment session.decoder
          ⟨session.dialogue, sink, shared⟩
        rw [processed] at mode
        obtain ⟨later, also⟩ := deliverFrom_of_read fuel isOpen more received
          (process_of_processFrom environment processed)
        have still : (⟨kept, session.dialogue⟩ : Session).isOpen = true := isOpen
        rw [split] at whole more
        obtain ⟨decoder, last, holds, counting, onward⟩ :=
          hypothesis still same whole calm (by omega) more
        refine ⟨decoder, last, holds, counting.trans mode, ?_⟩
        intro final taken after ended
        obtain ⟨delivered, heard⟩ := onward final taken after ended
        refine ⟨later.trans delivered, ?_⟩
        rw [also, heard, inquiries, silent]
        rfl

/-! ## A bare terminator -/

variable {decoder : Decoder} {dialogue : Dialogue} {turn : Turn World}

/-- Where empty records do not count, a bare terminator is passed over. -/
theorem process_blank_of_passing
    (isOpen : dialogue.phase.isOpen = true)
    (mode : decoder.allowEmpty = false)
    (holds : decoder.buffer.toList = [terminator]) :
    ∃ next, process environment ⟨decoder, dialogue⟩ sink shared =
        (.ok (), ⟨next, dialogue⟩, sink, shared) ∧
      inquiries environment ⟨decoder, dialogue⟩ sink shared = [] ∧ next.buffer.toList = [] := by
  have waiting : decoder.reading = ⟨[], some []⟩ := by
    rw [Decoder.reading, mode, holds, ← readStream_nil false]
    exact readStream_congr rfl
  have awake : (⟨dialogue, sink, shared⟩ : Turn World).dialogue.phase.isOpen = true := isOpen
  obtain ⟨next, processed, silent, nothing⟩ := processFrom_of_waiting environment awake waiting
  refine ⟨next, ?_, silent, nothing⟩
  rw [process, processed]

/-- Where empty records count, a bare terminator is answered as one. -/
theorem process_blank_of_counting
    (isOpen : dialogue.phase.isOpen = true)
    (mode : decoder.allowEmpty = true)
    (holds : decoder.buffer.toList = [terminator])
    (answered : answerRecord environment [] ⟨dialogue, sink, shared⟩ = (.ok (), turn))
    (still : turn.dialogue.phase.isOpen = true) :
    ∃ next, process environment ⟨decoder, dialogue⟩ sink shared =
        (.ok (), ⟨next, turn.dialogue⟩, turn.sink, turn.shared) ∧
      inquiries environment ⟨decoder, dialogue⟩ sink shared = [.received []] ∧
      next.buffer.toList = [] := by
  have whole : scan ((fromFirst true [terminator]).take bufferLimit) = .complete [] 1 := rfl
  have holding : decoder.reading = ⟨[[]], some []⟩ := by
    rw [Decoder.reading, mode, holds, readStream_of_complete whole]
    exact congrArg (Reading.cons []) (readStream_nil true)
  have awake : (⟨dialogue, sink, shared⟩ : Turn World).dialogue.phase.isOpen = true := isOpen
  rcases decoder.tryRecord_cases with
    ⟨record, next, found, _, reading⟩ | ⟨next, _, _, reading⟩ | ⟨next, _, reading⟩
  · generalize waiting : next.advance.reading = onward at reading
    obtain ⟨records, left⟩ := onward
    rw [holding, Reading.cons] at reading
    cases reading
    obtain ⟨processed, heard⟩ := processFrom_of_record environment awake found answered
    obtain ⟨last, rest, silent, nothing⟩ := processFrom_of_waiting environment still waiting
    refine ⟨last, ?_, ?_, nothing⟩
    · rw [process, processed, rest]
    · rw [inquiries, heard, silent]
  · rw [holding] at reading
    cases reading
  · rw [holding] at reading
    cases reading

end Session

end Confinement
