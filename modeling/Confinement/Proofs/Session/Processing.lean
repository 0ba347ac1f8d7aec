import Confinement.Proofs.Session.Replies
import Confinement.Proofs.Wire.Reading

/-!
# Processing records

`Session.process` answers what its decoder comes up with, record by record, as long as the session
is open.  `Session.inquiries` lists what that is: a first part of what the buffer holds.
-/

namespace Confinement

open Host Policy Staging Wire

variable {World : Type}

/-- What a reading comes up with: its records, and at last bytes that can never become one. -/
def Wire.Reading.inquiries (reading : Reading) : List Inquiry :=
  reading.records.map .received ++
    if reading.left = none then [.malformed .messageTooBig] else []

theorem Wire.Reading.inquiries_cons (record : Record) (reading : Reading) :
    (reading.cons record).inquiries = .received record :: reading.inquiries := rfl

namespace Session

set_option linter.unusedVariables false in
/-- What a decoder comes up with while its records are answered. -/
def inquiriesFrom (environment : Environment World) (decoder : Decoder) (turn : Turn World) :
    List Inquiry :=
  if turn.dialogue.phase.isOpen then
    match found : decoder.tryRecord with
    | (.error error, _) => [.malformed error]
    | (.ok none, _) => []
    | (.ok (some record), next) =>
      .received record ::
        match answerRecord environment record turn with
        | (.ok (), last) => inquiriesFrom environment next.advance last
        | (.error _, _) => []
  else
    []
termination_by decoder.buffered
decreasing_by exact Decoder.buffered_advance_lt found

/-- What the decoder of a session comes up with while its records are answered. -/
def inquiries (environment : Environment World) (session : Session) (sink : Sink)
    (shared : Shared World) : List Inquiry :=
  inquiriesFrom environment session.decoder ⟨session.dialogue, sink, shared⟩

section

variable (environment : Environment World) {decoder next : Decoder} {turn : Turn World}

theorem processFrom_of_closed
    (decoder : Decoder)
    (closed : turn.dialogue.phase.isOpen = false) :
    processFrom environment decoder turn = (.ok (), decoder, turn) ∧
      inquiriesFrom environment decoder turn = [] := by
  rw [processFrom, inquiriesFrom, closed]
  exact ⟨rfl, rfl⟩

theorem processFrom_of_error
    {error : FramingError}
    (isOpen : turn.dialogue.phase.isOpen = true)
    (found : decoder.tryRecord = (.error error, next)) :
    processFrom environment decoder turn =
        ((refuseInput error turn).1, next, (refuseInput error turn).2) ∧
      inquiriesFrom environment decoder turn = [.malformed error] := by
  rw [processFrom, inquiriesFrom, if_pos isOpen, if_pos isOpen]
  constructor <;> split <;> simp_all

theorem processFrom_of_none
    (isOpen : turn.dialogue.phase.isOpen = true)
    (found : decoder.tryRecord = (.ok none, next)) :
    processFrom environment decoder turn = (.ok (), next, turn) ∧
      inquiriesFrom environment decoder turn = [] := by
  rw [processFrom, inquiriesFrom, if_pos isOpen, if_pos isOpen]
  constructor <;> split <;> simp_all

theorem processFrom_of_record
    {record : Record} {last : Turn World}
    (isOpen : turn.dialogue.phase.isOpen = true)
    (found : decoder.tryRecord = (.ok (some record), next))
    (answered : answerRecord environment record turn = (.ok (), last)) :
    processFrom environment decoder turn = processFrom environment next.advance last ∧
      inquiriesFrom environment decoder turn =
        .received record :: inquiriesFrom environment next.advance last := by
  constructor
  · rw [processFrom, if_pos isOpen]
    split <;> simp_all
  · rw [inquiriesFrom, if_pos isOpen]
    split <;> simp_all

theorem processFrom_of_failure
    {record : Record} {error : FramingError} {last : Turn World}
    (isOpen : turn.dialogue.phase.isOpen = true)
    (found : decoder.tryRecord = (.ok (some record), next))
    (failed : answerRecord environment record turn = (.error error, last)) :
    processFrom environment decoder turn = (.error error, next.advance, last) ∧
      inquiriesFrom environment decoder turn = [.received record] := by
  rw [processFrom, inquiriesFrom, if_pos isOpen, if_pos isOpen]
  constructor <;> split <;> simp_all

end

/-- What a decoder comes up with are the records that its buffer holds, from the first one on. -/
theorem inquiriesFrom_isPrefix
    (environment : Environment World) (decoder : Decoder) (turn : Turn World) :
    inquiriesFrom environment decoder turn <+: decoder.reading.inquiries := by
  cases isOpen : turn.dialogue.phase.isOpen with
  | false =>
      rw [(processFrom_of_closed environment decoder isOpen).2]
      exact List.nil_prefix
  | true =>
      rcases decoder.tryRecord_cases with
        ⟨record, next, found, _, reading⟩ | ⟨next, found, _, reading⟩ | ⟨next, found, reading⟩
      · have shorter := Decoder.buffered_advance_lt found
        rw [reading, Reading.inquiries_cons]
        generalize answer : answerRecord environment record turn = outcome
        obtain ⟨error | done, last⟩ := outcome
        · rw [(processFrom_of_failure environment isOpen found answer).2]
          exact (List.prefix_cons_inj _).2 List.nil_prefix
        · rw [(processFrom_of_record environment isOpen found answer).2]
          exact (List.prefix_cons_inj _).2
            (inquiriesFrom_isPrefix environment next.advance last)
      · rw [(processFrom_of_none environment isOpen found).2]
        exact List.nil_prefix
      · rw [(processFrom_of_error environment isOpen found).2, reading]
        exact List.prefix_rfl
termination_by decoder.buffered

end Session

end Confinement
