import Confinement.Proofs.Session.Processing
import Confinement.Proofs.Session.Responses

/-!
# Entries

Every inquiry that a session answers leaves an `Entry`: the inquiry, and the turns before and after
it was answered.  To a client that takes every reply, an entry tells the response to its inquiry and
ends where that leads (`Entry.meets`).
-/

namespace Confinement

open Host Policy Staging Wire

/-! ## Entries of a transcript -/

/-- An inquiry, and the turns before and after it was answered. -/
structure Entry (World : Type) where
  inquiry : Inquiry
  before : Turn World
  after : Turn World

/-- What the client was told. -/
def Entry.reply {World : Type} (entry : Entry World) : Bytes :=
  entry.after.output.drop entry.before.output.length

namespace Session

variable {World : Type} (environment : Environment World)

/-- The entries that answering inquiries leaves. -/
def entriesFrom (turn : Turn World) : List Inquiry → List (Entry World)
  | [] => []
  | inquiry :: rest =>
    ⟨inquiry, turn, (answered environment inquiry turn).2⟩ ::
      entriesFrom (answered environment inquiry turn).2 rest

/-- The turn that answering inquiries leaves. -/
def answeredAll (turn : Turn World) (inquiries : List Inquiry) : Turn World :=
  inquiries.foldl (fun turn inquiry => (answered environment inquiry turn).2) turn

/-- Processing is answering what the decoder comes up with. -/
theorem processFrom_answeredAll (decoder : Decoder) (turn : Turn World) :
    (processFrom environment decoder turn).2.2 =
      answeredAll environment turn (inquiriesFrom environment decoder turn) := by
  cases isOpen : turn.dialogue.phase.isOpen with
  | false =>
      obtain ⟨same, nothing⟩ := processFrom_of_closed environment decoder isOpen
      rw [same, nothing]
      rfl
  | true =>
      rcases decoder.tryRecord_cases with
        ⟨record, next, found, _⟩ | ⟨next, found, _⟩ | ⟨next, found, _⟩
      · have shorter := Decoder.buffered_advance_lt found
        generalize answer : answerRecord environment record turn = outcome
        have step : (answered environment (.received record) turn).2 = outcome.2 :=
          congrArg Prod.snd answer
        obtain ⟨error | done, last⟩ := outcome
        · obtain ⟨same, one⟩ := processFrom_of_failure environment isOpen found answer
          rw [same, one]
          exact step.symm
        · obtain ⟨same, more⟩ := processFrom_of_record environment isOpen found answer
          rw [same, more, processFrom_answeredAll next.advance last]
          exact congrArg
            (fun turn => answeredAll environment turn (inquiriesFrom environment next.advance last))
            step.symm
      · obtain ⟨same, nothing⟩ := processFrom_of_none environment isOpen found
        rw [same, nothing]
        rfl
      · obtain ⟨same, one⟩ := processFrom_of_error environment isOpen found
        rw [same, one]
        rfl
termination_by decoder.buffered

/-- For a client that takes every reply, processing never fails. -/
theorem processFrom_of_willing
    (decoder : Decoder) {turn : Turn World}
    (willing : turn.sink.Willing) :
    (processFrom environment decoder turn).1 = .ok () := by
  cases isOpen : turn.dialogue.phase.isOpen with
  | false => rw [(processFrom_of_closed environment decoder isOpen).1]
  | true =>
      rcases decoder.tryRecord_cases with
        ⟨record, next, found, _⟩ | ⟨next, found, _⟩ | ⟨next, found, _⟩
      · have shorter := Decoder.buffered_advance_lt found
        obtain ⟨last, answered, still, _⟩ := answerRecord_gives willing environment record
        rw [(processFrom_of_record environment isOpen found answered).1]
        exact processFrom_of_willing next.advance still
      · rw [(processFrom_of_none environment isOpen found).1]
      · obtain ⟨last, refused, _⟩ := refuseInput_gives willing .messageTooBig
        rw [(processFrom_of_error environment isOpen found).1, refused]
termination_by decoder.buffered

end Session

/-! ## Entries for a client that takes every reply -/

/-- The client is told the response to the inquiry, and the session stands where that leads. -/
theorem Entry.meets
    {World : Type} {environment : Environment World} {entry : Entry World}
    (willing : entry.before.sink.Willing)
    (answered : entry.after = (Session.answered environment entry.inquiry entry.before).2) :
    entry.reply = (entry.before.stance.meet environment entry.inquiry).answer.wire ∧
      entry.after.stance = (entry.before.stance.meet environment entry.inquiry).stance ∧
      entry.after.sink.Willing := by
  obtain ⟨next, gives, still, output, stance, _⟩ :=
    Session.answered_gives willing environment entry.inquiry
  have same : entry.after = next := by rw [answered, gives]
  rw [Entry.reply, same]
  refine ⟨?_, stance, still⟩
  rw [output, List.drop_left]

end Confinement
