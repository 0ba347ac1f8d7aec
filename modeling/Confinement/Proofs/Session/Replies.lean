import Confinement.Proofs.Commands
import Confinement.Proofs.Wire.Sealing
import Confinement.Session.Basic

/-!
# What an answer tells

The output of a turn is what the client took together with what is sealed for it, so a flush does
not change it.  Every answer adds one `Group` to the output: rows, if the client asked to see what
is staged, and one record that ends the answer.  The last record is missing only where it did not
fit, and then the session is no longer open (`Turn.Answered`).

`Reply.Yields` says this of the parts of an answer, and that none of them fails while the client
takes every write.
-/

namespace Confinement

open Host Policy Staging Wire

variable {World Result Next : Type}

/-- What the client has been told: the bytes it took, and those that are sealed for it. -/
def Turn.output (turn : Turn World) : Bytes :=
  turn.sink.accepted ++ turn.dialogue.encoder.sealedBytes

/-! ## Groups of records -/

/-- What a decoder comes up with. -/
inductive Inquiry where
  | received (record : Record)
  | malformed (error : FramingError)
  deriving DecidableEq

/-- Whether the client asks to see what is staged. -/
def Inquiry.IsDisplay : Inquiry → Prop
  | .received record => record.texts? = .ok Command.display.words
  | .malformed _ => False

/-- Whether a record can end the answer. -/
def Inquiry.Closes : Inquiry → Record → Prop
  | .received _, ending =>
    (∃ rest, ending = Record.ofTexts ("done" :: rest)) ∨
      ∃ refusal : Refusal, ending = Record.ofTexts ["error", refusal.token]
  | .malformed _, ending => ending = Record.ofTexts ["error", "too-big"]

/-- The records of one answer. -/
structure Group where
  /-- What is answered. -/
  inquiry : Inquiry
  /-- The rows that show what is staged. -/
  rows : List Record
  /-- The record that ends the answer, if it fitted. -/
  ending : Option Record
  strings : ∀ row ∈ rows, ∃ fields, row = Record.ofTexts ("string" :: fields)
  shown : rows ≠ [] → inquiry.IsDisplay
  closes : ∀ record, ending = some record → inquiry.Closes record

namespace Group

/-- The bytes of a group: its records one after another. -/
def wire (group : Group) : Bytes := (group.rows ++ group.ending.toList).flatMap Record.wire

def IsComplete (group : Group) : Prop := group.ending ≠ none

/-- The answer without a record. -/
def cut (inquiry : Inquiry) : Group where
  inquiry := inquiry
  rows := []
  ending := none
  strings _ member := by cases member
  shown some := absurd rfl some
  closes _ ending := by cases ending

def closing {inquiry : Inquiry} {record : Record} (closes : inquiry.Closes record) : Group where
  inquiry := inquiry
  rows := []
  ending := some record
  strings _ member := by cases member
  shown some := absurd rfl some
  closes _ ending := by cases ending; exact closes

/-- The answer with one more row in front. -/
def withRow (group : Group) (display : group.inquiry.IsDisplay) (fields : List String) : Group where
  inquiry := group.inquiry
  rows := Record.ofTexts ("string" :: fields) :: group.rows
  ending := group.ending
  strings row member := by
    rcases List.mem_cons.1 member with rfl | later
    · exact ⟨fields, rfl⟩
    · exact group.strings row later
  shown _ := display
  closes := group.closes

@[simp]
theorem wire_closing {inquiry : Inquiry} {record : Record} (closes : inquiry.Closes record) :
    (closing closes).wire = record.wire :=
  List.append_nil _

@[simp]
theorem wire_withRow (group : Group) (display : group.inquiry.IsDisplay) (fields : List String) :
    (group.withRow display fields).wire =
      (Record.ofTexts ("string" :: fields)).wire ++ group.wire := rfl

end Group

/-- Whether a turn leads to another by an answer; one without its end ends the session. -/
def Turn.Answered (inquiry : Inquiry) (turn next : Turn World) : Prop :=
  ∃ group : Group, group.inquiry = inquiry ∧ next.output = turn.output ++ group.wire ∧
    (¬group.IsComplete → next.dialogue.phase.isOpen = false)

namespace Turn.Answered

variable {inquiry : Inquiry} {turn before next after : Turn World}

theorem of_output
    (same : before.output = turn.output)
    (answered : turn.Answered inquiry next) :
    before.Answered inquiry next := by
  rw [Answered, same]
  exact answered

theorem settled
    (answered : turn.Answered inquiry next)
    (output : after.output = next.output)
    (phase : next.dialogue.phase.isOpen = false → after.dialogue.phase.isOpen = false) :
    turn.Answered inquiry after := by
  obtain ⟨group, about, told, ended⟩ := answered
  exact ⟨group, about, output.trans told, fun incomplete => phase (ended incomplete)⟩

end Turn.Answered

/-! ## Parts of an answer -/

namespace Reply

/--
Whether a part of an answer ends as `after` says.  It may fail instead, but not while the client
takes every write.
-/
def Yields (reply : Reply World Result) (turn : Turn World)
    (after : Result → Turn World → Prop) : Prop :=
  (∃ result next, reply turn = (.ok result, next) ∧
    (turn.sink.script = [] → next.sink.script = []) ∧ after result next) ∨
  ∃ error next, reply turn = (.error error, next) ∧ turn.sink.script ≠ []

namespace Yields

variable {reply first : Reply World Result} {turn : Turn World}
  {after middle : Result → Turn World → Prop}

theorem ok
    (yields : Yields reply turn after)
    {result : Result} {next : Turn World}
    (ended : reply turn = (.ok result, next)) :
    after result next := by
  rcases yields with ⟨_, _, same, _, holds⟩ | ⟨_, _, failed, _⟩
  · rw [same] at ended
    cases ended
    exact holds
  · rw [failed] at ended
    cases ended

theorem willing
    (yields : Yields reply turn after)
    (willing : turn.sink.script = []) :
    ∃ result next, reply turn = (.ok result, next) ∧ next.sink.script = [] := by
  rcases yields with ⟨result, next, ended, still, _⟩ | ⟨_, _, _, unwilling⟩
  · exact ⟨result, next, ended, still willing⟩
  · exact absurd willing unwilling

theorem weaken
    (yields : Yields reply turn middle)
    (implies : ∀ result next, middle result next → after result next) :
    Yields reply turn after := by
  rcases yields with ⟨result, next, ended, still, holds⟩ | failed
  · exact .inl ⟨result, next, ended, still, implies result next holds⟩
  · exact .inr failed

theorem bind
    {rest : Result → Reply World Next} {last : Next → Turn World → Prop}
    (yields : Yields first turn middle)
    (onward : ∀ result next, middle result next → Yields (rest result) next last) :
    Yields (first >>= rest) turn last := by
  rcases yields with ⟨result, next, ended, still, holds⟩ | ⟨error, next, failed, unwilling⟩
  · have step : (first >>= rest) turn = rest result next := by
      rw [Action.bind_apply, ended]
    rcases onward result next holds with
      ⟨answer, final, done, kept, true⟩ | ⟨error, final, failed, unwilling⟩
    · exact .inl ⟨answer, final, step.trans done, fun willing => kept (still willing), true⟩
    · exact .inr ⟨error, final, step.trans failed, fun willing => unwilling (still willing)⟩
  · refine .inr ⟨error, next, ?_, unwilling⟩
    rw [Action.bind_apply, failed]

theorem pure
    {result : Result}
    (holds : after result turn) :
    Yields (Pure.pure result) turn after :=
  .inl ⟨result, turn, rfl, fun willing => willing, holds⟩

theorem modify
    {change : Turn World → Turn World} {after : Unit → Turn World → Prop}
    (kept : (change turn).sink = turn.sink)
    (holds : after () (change turn)) :
    Yields (Action.modify change) turn after :=
  .inl ⟨(), change turn, rfl, fun willing => by rw [kept, willing], holds⟩

end Yields

variable {inquiry : Inquiry} (turn : Turn World)

theorem flush_yields :
    Yields flush turn fun _ next =>
      next.output = turn.output ∧ next.dialogue.phase = turn.dialogue.phase := by
  generalize flushed : turn.dialogue.encoder.flush turn.sink = outcome
  obtain ⟨result, encoder, sink⟩ := outcome
  have told := Encoder.accepted_flush flushed
  have open_sink (willing : turn.sink.script = []) :
      result = .ok turn.dialogue.encoder.pending ∧ sink.script = [] := by
    obtain ⟨next, handed, _⟩ := turn.dialogue.encoder.flush_of_open willing
    rw [handed] at flushed
    cases flushed
    exact ⟨rfl, rfl⟩
  rw [Yields, flush, flushed]
  cases result with
  | ok count => exact .inl ⟨(), _, rfl, fun willing => (open_sink willing).2, told, rfl⟩
  | error error =>
      have unwilling : turn.sink.script ≠ [] := by
        intro willing
        cases (open_sink willing).1
      cases error with
      | wouldBlock => exact .inl ⟨(), _, rfl, fun willing => absurd willing unwilling, told, rfl⟩
      | _ => exact .inr ⟨_, _, rfl, unwilling⟩

/-- Encoding a record adds its wire form, or nothing where it does not fit. -/
theorem encode_yields (fields : List String) :
    Yields (encode fields) turn fun fits next =>
      next.output = turn.output ++ (if fits then (Record.ofTexts fields).wire else []) ∧
        next.dialogue.phase = turn.dialogue.phase := by
  left
  rw [encode]
  rcases Encoder.writeRecord_cases turn.dialogue.encoder (Record.ofTexts fields) with
    ⟨_, _, encoder, written, bytes⟩ | ⟨_, error, encoder, refused, bytes⟩
  · rw [written]
    refine ⟨true, _, rfl, fun willing => willing, ?_, rfl⟩
    rw [Turn.output, bytes, ← List.append_assoc]
    rfl
  · rw [refused]
    refine ⟨false, _, rfl, fun willing => willing, ?_, rfl⟩
    rw [Turn.output, bytes]
    exact (List.append_nil _).symm

theorem trySend_yields (fields : List String) :
    Yields (trySend fields) turn fun fits next =>
      next.output = turn.output ++ (if fits then (Record.ofTexts fields).wire else []) ∧
        next.dialogue.phase = turn.dialogue.phase := by
  apply (encode_yields turn fields).bind
  rintro (_ | _) next ⟨told, phase⟩
  · apply (flush_yields next).bind
    rintro ⟨⟩ flushed ⟨same, still⟩
    apply (encode_yields flushed fields).weaken
    rintro fits last ⟨more, kept⟩
    refine ⟨?_, kept.trans (still.trans phase)⟩
    rw [more, same, told]
    exact congrArg (· ++ _) (List.append_nil _)
  · exact Yields.pure ⟨told, phase⟩

/-- A record that is sent ends an answer, or ends the session. -/
theorem send_yields
    {fields : List String}
    (closes : inquiry.Closes (Record.ofTexts fields)) :
    Yields (send fields) turn fun _ next => turn.Answered inquiry next := by
  apply (trySend_yields turn fields).bind
  rintro (_ | _) next ⟨told, phase⟩
  · apply Yields.modify rfl
    exact ⟨.cut inquiry, rfl, told, fun _ => rfl⟩
  · apply Yields.pure
    refine ⟨.closing closes, rfl, ?_, fun incomplete => absurd nofun incomplete⟩
    rw [told, Group.wire_closing]
    rfl

theorem closes_done
    (record : Record) (rest : List String) :
    (Inquiry.received record).Closes (Record.ofTexts ("done" :: rest)) :=
  .inl ⟨rest, rfl⟩

theorem closes_error
    (record : Record) (refusal : Refusal) :
    (Inquiry.received record).Closes (Record.ofTexts ["error", refusal.token]) :=
  .inr ⟨refusal, rfl⟩

/-- An invalid session stays one, so ending it changes nothing in what was answered. -/
theorem setPhase_invalid_yields
    {before : Turn World}
    (answered : before.Answered inquiry turn) :
    Yields (setPhase .invalid) turn fun _ next => before.Answered inquiry next := by
  apply Yields.modify rfl
  exact answered.settled rfl (fun _ => rfl)

/-- A change that leaves the output alone can come before an answer. -/
theorem modify_bind_yields
    {change : Turn World → Turn World} {rest : Reply World Unit}
    (sink : (change turn).sink = turn.sink)
    (output : (change turn).output = turn.output)
    (answers : Yields rest (change turn) fun _ next => (change turn).Answered inquiry next) :
    Yields (Action.modify change >>= fun _ => rest) turn
      fun _ next => turn.Answered inquiry next := by
  have changed : Yields (Action.modify change) turn fun _ next => next = change turn :=
    Yields.modify sink rfl
  apply changed.bind
  rintro _ _ rfl
  apply answers.weaken
  intro _ last answered
  exact answered.of_output output.symm

variable {record : Record}

theorem reject_yields (refusal : Refusal) :
    Yields (reject refusal) turn fun _ next => turn.Answered (.received record) next := by
  have told (refusal : Refusal) (turn : Turn World) :
      Yields (sendError refusal) turn fun _ next => turn.Answered (.received record) next :=
    send_yields turn (closes_error record refusal)
  cases refusal with
  | «protocol» =>
      apply (told .protocol turn).bind
      intro _ next answered
      exact setPhase_invalid_yields next answered
  | internal =>
      exact modify_bind_yields turn rfl rfl (told .internal _)
  | _ => exact told _ turn

theorem negotiate_yields (offer : List String) :
    Yields (negotiate offer) turn fun _ next => turn.Answered (.received record) next := by
  rw [negotiate]
  cases offered? offer with
  | some version =>
      exact modify_bind_yields turn rfl rfl (send_yields _ (closes_done record _))
  | none =>
      apply (send_yields turn (closes_error record .protocol)).bind
      intro _ next answered
      exact setPhase_invalid_yields next answered

/-- Rows are sent one by one; one that does not fit is the last, and an error ends the answer. -/
theorem sendRows_yields
    (display : (Inquiry.received record).IsDisplay)
    (rows : List (List String)) :
    Yields (sendRows rows) turn fun _ next => turn.Answered (.received record) next := by
  induction rows generalizing turn with
  | nil => exact send_yields turn (closes_done record [])
  | cons row rest hypothesis =>
      apply (trySend_yields turn ("string" :: row)).bind
      rintro (_ | _) next ⟨told, _⟩
      · apply (send_yields next (closes_error record .bufferFull)).weaken
        intro _ last answered
        exact answered.of_output (told.trans (List.append_nil _)).symm
      · apply (hypothesis next).weaken
        rintro _ last ⟨group, about, more, ended⟩
        rw [← about] at display
        refine ⟨group.withRow display row, about, ?_, ended⟩
        rw [more, told, Group.wire_withRow, List.append_assoc]
        rfl

theorem display_yields
    (display : (Inquiry.received record).IsDisplay) :
    Yields Reply.display turn fun _ next => turn.Answered (.received record) next :=
  sendRows_yields turn display (contextRows turn.dialogue.context)

theorem switchLog_yields (switch : Option Bool) :
    Yields (switchLog switch) turn fun _ next => turn.Answered (.received record) next := by
  cases switch with
  | some on =>
      let switched := { turn with shared := { turn.shared with logging := on } }
      have step : switchLog (some on) turn =
          send ["done", Command.switchWord switched.shared.logging] switched := rfl
      rw [Yields, step]
      apply (send_yields switched (closes_done record _)).weaken
      intro _ next answered
      exact answered.of_output rfl
  | none =>
      have step : switchLog none turn =
          send ["done", Command.switchWord turn.shared.logging] turn := rfl
      rw [Yields, step]
      exact send_yields turn (closes_done record _)

theorem staged_yields (attempt : Except StagingError Context) :
    Yields (staged attempt) turn fun _ next => turn.Answered (.received record) next := by
  cases attempt with
  | ok context => exact modify_bind_yields turn rfl rfl (send_yields _ (closes_done record []))
  | error error => exact reject_yields turn error.refusal

theorem transact_yields (transaction : Context → World → Outcome World) :
    Yields (transact transaction) turn fun _ next => turn.Answered (.received record) next := by
  generalize made : transaction turn.dialogue.context turn.shared.world = outcome
  obtain ⟨result, world⟩ := outcome
  let changed := { turn with shared := { turn.shared with world } }
  cases result with
  | ok done =>
      have step : transact transaction turn = send ["done"] changed := by rw [transact, made]
      rw [Yields, step]
      exact send_yields changed (closes_done record [])
  | error error =>
      have step : transact transaction turn = reject error.refusal changed := by
        rw [transact, made]
      rw [Yields, step]
      exact reject_yields changed error.refusal

theorem dispatch_yields
    (environment : Environment World) (command : Command)
    (display : command = .display → (Inquiry.received record).IsDisplay) :
    Yields (dispatch environment command) turn
      fun _ next => turn.Answered (.received record) next := by
  cases command with
  | clear => exact staged_yields turn (.ok Context.empty)
  | display => exact display_yields turn (display rfl)
  | log switch => exact switchLog_yields turn switch
  | install => exact transact_yields turn (install environment)
  | uninstall => exact transact_yields turn (uninstall environment)
  | _ => exact staged_yields turn _

theorem command_yields
    (environment : Environment World) {fields : List String}
    (texts : record.texts? = .ok fields) :
    Yields (command environment fields) turn
      fun _ next => turn.Answered (.received record) next := by
  rw [command]
  split
  · rename_i command parsed
    apply dispatch_yields turn environment command
    rintro rfl
    rw [Command.eq_words_of_parse parsed] at texts
    exact texts
  · exact send_yields turn (closes_done record [])
  · exact reject_yields turn _

theorem answerFields_yields
    (environment : Environment World) {fields : List String}
    (texts : record.texts? = .ok fields) :
    Yields (answerFields environment fields) turn
      fun _ next => turn.Answered (.received record) next := by
  let noted := { turn with shared := turn.shared.note .received fields }
  by_cases first : noted.dialogue.phase = .awaitingVersion
  · by_cases magic : fields.head? = some Command.magic
    · have step : answerFields environment fields turn = negotiate (fields.drop 1) noted := by
        rw [answerFields, if_pos first, if_pos magic]
      rw [Yields, step]
      exact negotiate_yields noted (fields.drop 1)
    · have step : answerFields environment fields turn =
          (setPhase (.active Command.defaultVersion) >>= fun _ => command environment fields)
            noted := by
        rw [answerFields, if_pos first, if_neg magic]
      rw [Yields, step]
      exact modify_bind_yields noted rfl rfl (command_yields _ environment texts)
  · have step : answerFields environment fields turn = command environment fields noted := by
      rw [answerFields, if_neg first]
    rw [Yields, step]
    exact command_yields noted environment texts

/-- Every record is answered, whatever it holds and whatever the backends say. -/
theorem answer_yields
    (environment : Environment World) (record : Record) :
    Yields (answer environment record) turn
      fun _ next => turn.Answered (.received record) next := by
  rw [answer]
  cases texts : record.texts? with
  | ok fields => exact answerFields_yields turn environment texts
  | error fault => exact reject_yields turn .protocol

end Reply

namespace Session

open Reply

variable (turn : Turn World)

theorem answerRecord_yields
    (environment : Environment World) (record : Record) :
    Yields (answerRecord environment record) turn
      fun _ next => turn.Answered (.received record) next := by
  apply (answer_yields turn environment record).bind
  intro _ next answered
  apply (flush_yields next).weaken
  rintro _ last ⟨output, phase⟩
  apply answered.settled output
  intro ended
  rw [phase, ended]

/-- Input that is no record is answered with one error, and the session is at its end. -/
theorem refuseInput_yields :
    Yields (refuseInput .messageTooBig) turn fun _ next =>
      turn.Answered (.malformed .messageTooBig) next ∧ next.dialogue.phase.isOpen = false := by
  have told : Yields (sendError .messageTooBig) turn fun _ next =>
      turn.Answered (.malformed .messageTooBig) next :=
    send_yields turn rfl
  apply told.bind
  intro _ next answered
  have ended : Yields (setPhase .invalid) next fun _ last =>
      turn.Answered (.malformed .messageTooBig) last ∧ last.dialogue.phase.isOpen = false :=
    Yields.modify rfl ⟨answered.settled rfl (fun _ => rfl), rfl⟩
  apply ended.bind
  rintro _ last ⟨answered, closed⟩
  apply (flush_yields last).weaken
  rintro _ final ⟨output, phase⟩
  rw [phase]
  exact ⟨answered.settled output (fun ended => by rw [phase, ended]), closed⟩

end Session

end Confinement
