import Confinement.Proofs.Session.Processing
import Confinement.Proofs.Wire.Writers

/-!
# Answers to any writer

Answering a record flushes replies in several places, and each flush writes until it is done, put
off or fails.  `Reply.Settles` says that a part of an answer comes to its end all the same, after
some number of writes: what the client would do with further ones makes no difference.  Every part
does if only finitely many writes are interrupted, and so does all of `Session.process`
(`process_settles`).
-/

namespace Confinement

open Host Policy Staging Wire

variable {World Result Next : Type}

/-- The turn with a client that takes the next writes as a script says. -/
def Turn.facing (turn : Turn World) (script : List WriteOutcome) : Turn World :=
  { turn with sink := { turn.sink with script } }

namespace Reply

/-- Whether a part of an answer comes to its end, whatever the writer, as long as it relents. -/
def Settles (reply : Reply World Result) (turn : Turn World) : Prop :=
  ∀ writer : Writer, writer.Relents →
    ∃ writes result next, ∀ more,
      reply (turn.facing (writer.first writes ++ more)) = (result, Turn.facing next more)

namespace Settles

variable {reply : Reply World Result} {turn : Turn World}

/-- What makes no writes comes to its end. -/
theorem of_silent
    (silent : ∀ script,
      reply (turn.facing script) = ((reply turn).1, (reply turn).2.facing script)) :
    Settles reply turn :=
  fun _ _ => ⟨0, (reply turn).1, (reply turn).2, silent⟩

theorem pure (result : Result) : Settles (Pure.pure result) turn :=
  of_silent fun _ => rfl

theorem modify
    {change : Turn World → Turn World}
    (apart : ∀ script, change (turn.facing script) = (change turn).facing script) :
    Settles (Action.modify change) turn :=
  of_silent fun script => congrArg (Prod.mk _) (apart script)

/-- What does the same as another answer does from another turn. -/
theorem of_eq
    {other : Reply World Result} {start : Turn World}
    (settles : Settles other start)
    (same : ∀ script, reply (turn.facing script) = other (start.facing script)) :
    Settles reply turn := by
  intro writer relents
  obtain ⟨writes, result, next, settled⟩ := settles writer relents
  exact ⟨writes, result, next, fun more => (same _).trans (settled more)⟩

/-- The second part meets the writer as the first one leaves it. -/
theorem bind
    {first : Reply World Result} {rest : Result → Reply World Next}
    (head : Settles first turn)
    (tail : ∀ result next, Settles (rest result) next) :
    Settles (first >>= rest) turn := by
  intro writer relents
  obtain ⟨writes, outcome, next, settled⟩ := head writer relents
  cases outcome with
  | error error =>
      refine ⟨writes, .error error, next, fun more => ?_⟩
      rw [Action.bind_apply, settled]
  | ok result =>
      obtain ⟨others, answer, last, onward⟩ :=
        tail result next (writer.after writes) (relents.after writes)
      refine ⟨writes + others, answer, last, fun more => ?_⟩
      rw [Writer.first_add, List.append_assoc, Action.bind_apply, settled]
      exact onward more

end Settles

variable (turn : Turn World)

theorem setPhase_settles (phase : SessionPhase) : Settles (setPhase phase) turn :=
  .modify fun _ => rfl

theorem flush_settles : Settles flush turn := by
  intro writer relents
  obtain ⟨writes, result, encoder, taken, settled⟩ :=
    Encoder.flush_settles relents turn.dialogue.encoder turn.sink.accepted
  let next : Turn World :=
    { turn with dialogue := { turn.dialogue with encoder }, sink := { accepted := taken } }
  rcases result with error | count
  · by_cases blocked : error = .wouldBlock
    · subst blocked
      refine ⟨writes, .ok (), next, fun more => ?_⟩
      dsimp only [flush, Turn.facing]
      rw [settled]
    · refine ⟨writes, .error error, next, fun more => ?_⟩
      dsimp only [flush, Turn.facing]
      rw [settled]
      cases error with
      | wouldBlock => exact absurd rfl blocked
      | _ => rfl
  · refine ⟨writes, .ok (), next, fun more => ?_⟩
    dsimp only [flush, Turn.facing]
    rw [settled]

theorem encode_settles (fields : List String) : Settles (encode fields) turn := by
  refine .of_silent fun script => ?_
  dsimp only [encode, Turn.facing]
  cases turn.dialogue.encoder.writeRecord (Record.ofTexts fields) with
  | mk outcome encoder => cases outcome <;> rfl

theorem trySend_settles (fields : List String) : Settles (trySend fields) turn := by
  refine (encode_settles turn fields).bind fun fitted next => ?_
  cases fitted with
  | true => exact .pure true
  | false => exact (flush_settles next).bind fun _ flushed => encode_settles flushed fields

theorem send_settles (fields : List String) : Settles (send fields) turn := by
  refine (trySend_settles turn fields).bind fun fitted next => ?_
  cases fitted with
  | true => exact .pure ()
  | false => exact setPhase_settles next .invalid

theorem reject_settles (refusal : Refusal) : Settles (reject refusal) turn := by
  cases refusal with
  | «protocol» =>
      exact (send_settles turn _).bind fun _ next => setPhase_settles next .invalid
  | internal => exact Settles.bind (.modify fun _ => rfl) fun _ next => send_settles next _
  | _ => exact send_settles turn _

theorem negotiate_settles (offer : List String) : Settles (negotiate offer) turn := by
  rw [negotiate]
  split
  · exact (setPhase_settles turn _).bind fun _ next => send_settles next _
  · exact (send_settles turn _).bind fun _ next => setPhase_settles next .invalid

theorem sendRows_settles (rows : List (List String)) : Settles (sendRows rows) turn := by
  induction rows generalizing turn with
  | nil => exact send_settles turn _
  | cons row rest hypothesis =>
      refine (trySend_settles turn _).bind fun fitted next => ?_
      cases fitted with
      | true => exact hypothesis next
      | false => exact send_settles next _

theorem display_settles : Settles display turn :=
  (sendRows_settles turn (contextRows turn.dialogue.context)).of_eq fun _ => rfl

theorem switchLog_settles (switch : Option Bool) : Settles (switchLog switch) turn := by
  have told (turn : Turn World) :
      Settles (fun turn => send ["done", Command.switchWord turn.shared.logging] turn) turn :=
    (send_settles turn ["done", Command.switchWord turn.shared.logging]).of_eq fun _ => rfl
  cases switch with
  | none => exact told turn
  | some on => exact Settles.bind (.modify fun _ => rfl) fun _ next => told next

theorem staged_settles (attempt : Except StagingError Context) :
    Settles (staged attempt) turn := by
  cases attempt with
  | ok context => exact Settles.bind (.modify fun _ => rfl) fun _ next => send_settles next _
  | error error => exact reject_settles turn _

theorem transact_settles (transaction : Context → World → Outcome World) :
    Settles (transact transaction) turn := by
  cases made : transaction turn.dialogue.context turn.shared.world with
  | mk result world =>
      let changed : Turn World := { turn with shared := { turn.shared with world } }
      cases result with
      | ok done =>
          refine (send_settles changed ["done"]).of_eq fun script => ?_
          dsimp only [transact, Turn.facing]
          rw [made]
      | error error =>
          refine (reject_settles changed error.refusal).of_eq fun script => ?_
          dsimp only [transact, Turn.facing]
          rw [made]

theorem dispatch_settles (environment : Environment World) (command : Command) :
    Settles (dispatch environment command) turn := by
  let context := turn.dialogue.context
  let inspect := environment.inspect turn.shared.world
  cases command with
  | clear => exact staged_settles turn (.ok Context.empty)
  | display => exact display_settles turn
  | log switch => exact switchLog_settles turn switch
  | id id => exact staged_settles turn (context.setId id)
  | path path word => exact staged_settles turn (stagePath context inspect path word)
  | permission permission => exact staged_settles turn (context.addPermission permission)
  | plug exportDirectory importId importDirectory =>
      exact staged_settles turn
        (context.addPlug inspect ⟨exportDirectory, importId, importDirectory⟩)
  | install => exact transact_settles turn (install environment)
  | uninstall => exact transact_settles turn (uninstall environment)

theorem command_settles (environment : Environment World) (fields : List String) :
    Settles (command environment fields) turn := by
  rw [command]
  split
  · exact dispatch_settles turn environment _
  · exact send_settles turn _
  · exact reject_settles turn _

theorem answerFields_settles (environment : Environment World) (fields : List String) :
    Settles (answerFields environment fields) turn := by
  let noted := { turn with shared := turn.shared.note .received fields }
  by_cases first : turn.dialogue.phase = .awaitingVersion
  · by_cases magic : fields.head? = some Command.magic
    · refine (negotiate_settles noted (fields.drop 1)).of_eq fun script => ?_
      dsimp only [answerFields, Turn.facing]
      rw [if_pos first, if_pos magic]
    · have opened : Settles (setPhase (.active Command.defaultVersion) >>= fun _ =>
          command environment fields) noted :=
        (setPhase_settles noted _).bind fun _ next => command_settles next environment fields
      refine opened.of_eq fun script => ?_
      dsimp only [answerFields, Turn.facing]
      rw [if_pos first, if_neg magic]
  · refine (command_settles noted environment fields).of_eq fun script => ?_
    dsimp only [answerFields, Turn.facing]
    rw [if_neg first]

theorem answer_settles (environment : Environment World) (record : Record) :
    Settles (answer environment record) turn := by
  rw [answer]
  split
  · exact answerFields_settles turn environment _
  · exact reject_settles turn _

end Reply

namespace Session

open Reply

variable (environment : Environment World)

theorem answerRecord_settles (record : Record) (turn : Turn World) :
    Settles (answerRecord environment record) turn :=
  (answer_settles turn environment record).bind fun _ next => flush_settles next

theorem refuseInput_settles (error : FramingError) (turn : Turn World) :
    Settles (refuseInput error) turn :=
  (send_settles turn _).bind fun _ next =>
    (setPhase_settles next .invalid).bind fun _ last => flush_settles last

/-- Answering what is buffered comes to its end, after some number of writes. -/
theorem processFrom_settles
    {writer : Writer}
    (relents : writer.Relents)
    (decoder : Decoder) (turn : Turn World) :
    ∃ writes result last after, ∀ more,
      processFrom environment decoder (turn.facing (writer.first writes ++ more)) =
        (result, last, Turn.facing after more) := by
  by_cases isOpen : turn.dialogue.phase.isOpen = true
  · have reads (script : List WriteOutcome) :
        (turn.facing script).dialogue.phase.isOpen = true := isOpen
    generalize found : decoder.tryRecord = search
    obtain ⟨error | none | record, next⟩ := search
    · obtain ⟨writes, result, after, settled⟩ := refuseInput_settles error turn writer relents
      refine ⟨writes, result, next, after, fun more => ?_⟩
      rw [(processFrom_of_error environment (reads _) found).1, settled]
    · refine ⟨0, .ok (), next, turn, fun more => ?_⟩
      exact (processFrom_of_none environment (reads _) found).1
    · obtain ⟨writes, outcome, last, settled⟩ :=
        answerRecord_settles environment record turn writer relents
      cases outcome with
      | error error =>
          refine ⟨writes, .error error, next.advance, last, fun more => ?_⟩
          exact (processFrom_of_failure environment (reads _) found (settled more)).1
      | ok done =>
          have shorter := Decoder.buffered_advance_lt found
          obtain ⟨others, result, final, after, onward⟩ :=
            processFrom_settles (relents.after writes) next.advance last
          refine ⟨writes + others, result, final, after, fun more => ?_⟩
          rw [Writer.first_add, List.append_assoc,
            (processFrom_of_record environment (reads _) found (settled _)).1]
          exact onward more
  · have closed (script : List WriteOutcome) :
        (turn.facing script).dialogue.phase.isOpen = false := Bool.eq_false_iff.2 isOpen
    exact ⟨0, .ok (), decoder, turn, fun more =>
      (processFrom_of_closed environment decoder (closed _)).1⟩
termination_by decoder.buffered

theorem process_settles
    {writer : Writer}
    (relents : writer.Relents)
    (session : Session) (accepted : Bytes) (shared : Shared World) :
    ∃ writes result last taken after, ∀ more,
      process environment session ⟨writer.first writes ++ more, accepted⟩ shared =
        (result, last, ⟨more, taken⟩, after) := by
  obtain ⟨writes, result, last, after, settled⟩ :=
    processFrom_settles environment relents session.decoder
      ⟨session.dialogue, ⟨[], accepted⟩, shared⟩
  refine ⟨writes, result, ⟨last, after.dialogue⟩, after.sink.accepted, after.shared,
    fun more => ?_⟩
  have ended := settled more
  dsimp only [Turn.facing] at ended
  rw [process, ended]

end Session

end Confinement
