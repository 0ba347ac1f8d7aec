import Confinement.Client.Basic
import Confinement.Proofs.Session.Replies
import Confinement.Proofs.Staging.Reachable
import Confinement.Proofs.Wire.Handover

/-!
# Responses

A client that takes every reply is given the whole of each answer at once, so no buffer decides
what a record does.  `Stance.respond` says what it does without any: how the record is answered,
and the phase, the context, the world and the log switch that it leaves.  The only limit that
remains is that of a single record (`Fits`).

Answering a record is its response (`answerRecord_gives`).
-/

namespace Confinement

open Host Policy Staging Wire

variable {World : Type}

/-! ## Answers -/

/-- Whether fields can be sent at all. -/
def Fits (fields : List String) : Prop :=
  fields.length ≤ fieldLimit ∧ (Record.ofTexts fields).wire.length ≤ bufferLimit

instance (fields : List String) : Decidable (Fits fields) :=
  inferInstanceAs (Decidable (_ ∧ _))

/-- The records that carry an answer. -/
def Answer.records (answer : Answer) : List Record :=
  answer.rows.map (fun row => Record.ofTexts ("string" :: row)) ++
    [Record.ofTexts answer.status.fields]

/-- The bytes that carry an answer. -/
def Answer.wire (answer : Answer) : Bytes := answer.records.flatMap Record.wire

/-- The answer that is an ending only. -/
def Status.alone (status : Status) : Answer := ⟨[], status⟩

theorem Status.wire_alone (status : Status) :
    status.alone.wire = (Record.ofTexts status.fields).wire :=
  List.append_nil _

theorem Answer.wire_cons (row : List String) (rows : List (List String)) (status : Status) :
    (⟨row :: rows, status⟩ : Answer).wire =
      (Record.ofTexts ("string" :: row)).wire ++ (⟨rows, status⟩ : Answer).wire := rfl

/-! ## Responses -/

/-- Where a session and what it shares stand, without buffers and the journal. -/
structure Stance (World : Type) where
  phase : SessionPhase
  context : Context
  world : World
  /-- Whether records are logged. -/
  logging : Bool

/-- Where a turn stands. -/
def Turn.stance (turn : Turn World) : Stance World :=
  ⟨turn.dialogue.phase, turn.dialogue.context, turn.shared.world, turn.shared.logging⟩

/-- What is said to a record, and where that leaves everything. -/
structure Response (World : Type) where
  answer : Answer
  stance : Stance World

namespace Stance

def done (stance : Stance World) (fields : List String) : Response World :=
  ⟨(Status.done fields).alone, stance⟩

/-- A refusal: malformed input ends the session, and a backend's failure latches the context. -/
def refused (stance : Stance World) (refusal : Refusal) : Response World where
  answer := (Status.refused refusal.token).alone
  stance :=
    match refusal with
    | .protocol => { stance with phase := .invalid }
    | .internal => { stance with context := stance.context.raise }
    | _ => stance

/-- The rows up to the first that does not fit, which is answered with an error. -/
def shown (rows : List (List String)) : Answer where
  rows := rows.takeWhile fun row => decide (Fits ("string" :: row))
  status :=
    if ∀ row ∈ rows, Fits ("string" :: row) then .done []
    else .refused Refusal.bufferFull.token

def negotiated (stance : Stance World) (offer : List String) : Response World :=
  match Reply.offered? offer with
  | some version => { stance with phase := .active version }.done [toString version]
  | none => stance.refused .protocol

def switched (stance : Stance World) (switch : Option Bool) : Response World :=
  let next := { stance with logging := switch.getD stance.logging }
  next.done [Command.switchWord next.logging]

def staged (stance : Stance World) (attempt : Except StagingError Context) : Response World :=
  match attempt with
  | .ok context => { stance with context }.done []
  | .error error => stance.refused error.refusal

def transacted (stance : Stance World) (transaction : Context → World → Outcome World) :
    Response World :=
  let (result, world) := transaction stance.context stance.world
  match result with
  | .ok () => { stance with world }.done []
  | .error error => { stance with world }.refused error.refusal

def dispatched (environment : Environment World) (stance : Stance World) :
    Command → Response World
  | .clear => stance.staged (.ok Context.empty)
  | .display => ⟨shown (Reply.contextRows stance.context), stance⟩
  | .log switch => stance.switched switch
  | .id id => stance.staged (stance.context.setId id)
  | .path path word =>
    stance.staged (Reply.stagePath stance.context (environment.inspect stance.world) path word)
  | .permission permission => stance.staged (stance.context.addPermission permission)
  | .plug exportDirectory importId importDirectory =>
    stance.staged (stance.context.addPlug (environment.inspect stance.world)
      ⟨exportDirectory, importId, importDirectory⟩)
  | .install => stance.transacted (install environment)
  | .uninstall => stance.transacted (uninstall environment)

def commanded (environment : Environment World) (stance : Stance World) (fields : List String) :
    Response World :=
  match Command.parse fields with
  | .ok command => stance.dispatched environment command
  | .error .empty => stance.done []
  | .error error => stance.refused error.refusal

/-- The response to a record that is text. -/
def told (environment : Environment World) (stance : Stance World) (fields : List String) :
    Response World :=
  if stance.phase = .awaitingVersion then
    if fields.head? = some Command.magic then stance.negotiated (fields.drop 1)
    else { stance with phase := .active Command.defaultVersion }.commanded environment fields
  else
    stance.commanded environment fields

/-- The response to a record. -/
def respond (environment : Environment World) (stance : Stance World) (record : Record) :
    Response World :=
  match record.texts? with
  | .ok fields => stance.told environment fields
  | .error _ => stance.refused .protocol

end Stance

/-- The response to what a decoder comes up with; input that is no record ends the session. -/
def Stance.meet (environment : Environment World) (stance : Stance World) :
    Inquiry → Response World
  | .received record => stance.respond environment record
  | .malformed error =>
    ⟨(Status.refused error.refusal.token).alone, { stance with phase := .invalid }⟩

/-! ## Commands and other records -/

/-- The command that an inquiry spells. -/
def Inquiry.command? : Inquiry → Option Command
  | .received record => record.texts?.toOption.bind fun fields => (Command.parse fields).toOption
  | .malformed _ => none

/-- The phase in which a command is carried out: the version is settled by the first one. -/
def SessionPhase.settled : SessionPhase → SessionPhase
  | .awaitingVersion => .active Command.defaultVersion
  | phase => phase

theorem SessionPhase.isOpen_settled (phase : SessionPhase) :
    phase.settled.isOpen = phase.isOpen := by
  cases phase <;> rfl

theorem Command.head?_words_ne_magic (command : Command) :
    command.words.head? ≠ some magic := by
  cases command <;> simp [words, word, magic]

namespace Stance

variable (environment : Environment World)

theorem told_of_offer
    {stance : Stance World} {fields : List String}
    (first : stance.phase = .awaitingVersion)
    (magic : fields.head? = some Command.magic) :
    stance.told environment fields = stance.negotiated (fields.drop 1) := by
  rw [told, if_pos first, if_pos magic]

theorem told_of_command
    {stance : Stance World} {fields : List String}
    (further : ¬(stance.phase = .awaitingVersion ∧ fields.head? = some Command.magic)) :
    stance.told environment fields =
      { stance with phase := stance.phase.settled }.commanded environment fields := by
  rw [told]
  cases phase : stance.phase with
  | awaitingVersion =>
      rw [if_pos rfl, if_neg fun magic => further ⟨phase, magic⟩]
      rfl
  | _ =>
      rw [if_neg SessionPhase.noConfusion]
      congr 1
      exact congrArg (fun phase => { stance with phase }) phase

/--
A record spells a command, which is carried out once the version is settled, or its answer and the
next phase depend on the record and the phase alone, and nothing else changes.
-/
theorem respond_cases (phase : SessionPhase) (record : Record) :
    (∃ command, (Inquiry.received record).command? = some command ∧
      ∀ stance : Stance World, stance.phase = phase →
        stance.respond environment record =
          { stance with phase := phase.settled }.dispatched environment command) ∨
    ((Inquiry.received record).command? = none ∧
      ∃ answer next, ∀ stance : Stance World, stance.phase = phase →
        stance.respond environment record = ⟨answer, { stance with phase := next }⟩) := by
  let malformed := (Status.refused Refusal.protocol.token).alone
  rw [Inquiry.command?]
  cases texts : record.texts? with
  | error fault =>
      refine .inr ⟨rfl, malformed, .invalid, ?_⟩
      intro stance _
      rw [respond, texts]
      rfl
  | ok fields =>
      have step (stance : Stance World) :
          stance.respond environment record = stance.told environment fields := by
        rw [respond, texts]
      by_cases offer : phase = .awaitingVersion ∧ fields.head? = some Command.magic
      · obtain ⟨first, magic⟩ := offer
        right
        constructor
        · cases parsed : Command.parse fields with
          | error error => simp [Except.toOption, parsed]
          | ok command =>
              rw [Command.eq_words_of_parse parsed] at magic
              exact absurd magic command.head?_words_ne_magic
        · cases found : Reply.offered? (fields.drop 1) with
          | none =>
              refine ⟨malformed, .invalid, ?_⟩
              intro stance same
              rw [step, told_of_offer environment (same.trans first) magic, negotiated, found]
              rfl
          | some version =>
              refine ⟨(Status.done [toString version]).alone, .active version, ?_⟩
              intro stance same
              rw [step, told_of_offer environment (same.trans first) magic, negotiated, found]
              rfl
      · have onward {stance : Stance World} (same : stance.phase = phase) :
            stance.respond environment record =
              { stance with phase := phase.settled }.commanded environment fields := by
          rw [← same] at offer
          rw [step, told_of_command environment offer, same]
        cases parsed : Command.parse fields with
        | ok command =>
            refine .inl ⟨command, by simp [Except.toOption, parsed], ?_⟩
            intro stance same
            rw [onward same, commanded, parsed]
        | error error =>
            right
            constructor
            · simp [Except.toOption, parsed]
            · cases error with
              | empty =>
                  refine ⟨(Status.done []).alone, phase.settled, ?_⟩
                  intro stance same
                  rw [onward same, commanded, parsed]
                  rfl
              | _ =>
                  refine ⟨malformed, .invalid, ?_⟩
                  intro stance same
                  rw [onward same, commanded, parsed]
                  rfl

/-- An inquiry spells a command, or what it leads to depends on the phase alone. -/
theorem meet_cases (phase : SessionPhase) (inquiry : Inquiry) :
    (∃ command, inquiry.command? = some command ∧
      ∀ stance : Stance World, stance.phase = phase →
        stance.meet environment inquiry =
          { stance with phase := phase.settled }.dispatched environment command) ∨
    (inquiry.command? = none ∧
      ∃ answer next, ∀ stance : Stance World, stance.phase = phase →
        stance.meet environment inquiry = ⟨answer, { stance with phase := next }⟩) := by
  cases inquiry with
  | malformed error => exact .inr ⟨rfl, _, _, fun _ _ => rfl⟩
  | received record => exact respond_cases environment phase record

theorem world_refused (stance : Stance World) (refusal : Refusal) :
    (stance.refused refusal).stance.world = stance.world := by
  cases refusal <;> rfl

theorem world_staged (stance : Stance World) (attempt : Except StagingError Context) :
    (stance.staged attempt).stance.world = stance.world := by
  cases attempt with
  | ok context => rfl
  | error error => exact world_refused stance error.refusal

variable {environment} {stance : Stance World}

theorem reachable_refused
    (reachable : Reachable stance.context)
    (refusal : Refusal) :
    Reachable (stance.refused refusal).stance.context := by
  cases refusal with
  | internal => exact reachable.step .raise
  | _ => exact reachable

theorem reachable_staged
    (reachable : Reachable stance.context)
    (operation : Operation) :
    Reachable (stance.staged (operation.outcome stance.context)).stance.context := by
  have next := reachable.step operation
  rw [Operation.leaves] at next
  cases result : operation.outcome stance.context with
  | ok context =>
      rw [result] at next
      exact next
  | error error => exact reachable_refused reachable error.refusal

theorem reachable_transacted
    (reachable : Reachable stance.context)
    (transaction : Context → World → Outcome World) :
    Reachable (stance.transacted transaction).stance.context := by
  rw [transacted]
  rcases transaction stance.context stance.world with ⟨error | done, world⟩
  · have still : Reachable { stance with world }.context := reachable
    exact reachable_refused still error.refusal
  · exact reachable

/-- A response leaves a context that operations lead to. -/
theorem reachable_dispatched
    (reachable : Reachable stance.context)
    (command : Command) :
    Reachable (stance.dispatched environment command).stance.context := by
  cases command with
  | clear => exact reachable_staged reachable .clear
  | display => exact reachable
  | log switch => exact reachable
  | id id => exact reachable_staged reachable (.setId id)
  | path path word =>
      rw [dispatched, Reply.stagePath]
      cases Kind.ofWord? word with
      | some kind => exact reachable_staged reachable (.addPath _ path kind)
      | none => exact reachable_refused reachable .invalidArgument
  | permission permission => exact reachable_staged reachable (.addPermission permission)
  | plug exportDirectory importId importDirectory =>
      exact reachable_staged reachable (.addPlug _ ⟨exportDirectory, importId, importDirectory⟩)
  | install => exact reachable_transacted reachable (install environment)
  | uninstall => exact reachable_transacted reachable (uninstall environment)

theorem reachable_meet
    (reachable : Reachable stance.context)
    (inquiry : Inquiry) :
    Reachable (stance.meet environment inquiry).stance.context := by
  rcases meet_cases environment stance.phase inquiry with
    ⟨command, _, same⟩ | ⟨_, answer, next, same⟩
  · rw [same stance rfl]
    have still : Reachable { stance with phase := stance.phase.settled }.context := reachable
    exact reachable_dispatched still command
  · rw [same stance rfl]
    exact reachable

end Stance

/-! ## Parts of an answer -/

namespace Reply

/-- Whether a part of an answer says to a willing client what a response does. -/
def Gives (reply : Reply World Unit) (turn : Turn World) (response : Response World) : Prop :=
  ∃ next, reply turn = (.ok (), next) ∧ next.sink.Willing ∧
    next.output = turn.output ++ response.answer.wire ∧ next.stance = response.stance

variable {turn : Turn World}

/-- A part that begins with a step which says nothing gives what the rest gives. -/
theorem Gives.after
    {reply rest : Reply World Unit} {response : Response World} (changed : Turn World)
    (step : reply turn = rest changed)
    (silent : changed.output = turn.output)
    (gives : Gives rest changed response) :
    Gives reply turn response := by
  obtain ⟨next, answered, willing, output, stance⟩ := gives
  exact ⟨next, step.trans answered, willing, output.trans (by rw [silent]), stance⟩

theorem flush_of_willing
    (willing : turn.sink.Willing) :
    ∃ next, flush turn = (.ok (), next) ∧ next.sink.Willing ∧ next.output = turn.output ∧
      next.stance = turn.stance ∧ next.dialogue.encoder.sealedBytes = [] := by
  obtain ⟨count, encoder, sink, flushed, still, nothing, accepted⟩ :=
    Encoder.flush_of_willing turn.dialogue.encoder willing
  refine ⟨{ turn with dialogue := { turn.dialogue with encoder }, sink }, ?_, still, ?_, rfl,
    nothing⟩
  · rw [flush, flushed]
  · rw [Turn.output, Turn.output, accepted]
    show _ ++ encoder.sealedBytes = _
    rw [nothing, List.append_nil]

theorem stance_note
    (turn : Turn World) (dialogue : Dialogue) (direction : Direction) (fields : List String)
    (phase : dialogue.phase = turn.dialogue.phase)
    (context : dialogue.context = turn.dialogue.context) :
    Turn.stance ⟨dialogue, turn.sink, turn.shared.note direction fields⟩ = turn.stance := by
  rw [Turn.stance, Turn.stance, phase, context, Shared.note]
  split <;> rfl

/-- Encoding fields fails only where they have no room behind what is sealed. -/
theorem encode_cases (turn : Turn World) (fields : List String) :
    (Fits fields ∧ ∃ next, encode fields turn = (.ok true, next) ∧ next.sink = turn.sink ∧
      next.output = turn.output ++ (Record.ofTexts fields).wire ∧ next.stance = turn.stance) ∨
    ((turn.dialogue.encoder.sealedBytes = [] → ¬Fits fields) ∧
      ∃ next, encode fields turn = (.ok false, next) ∧ next.sink = turn.sink ∧
        next.output = turn.output ∧ next.stance = turn.stance) := by
  have count : (Record.ofTexts fields).length = fields.length := List.length_map _
  rw [encode]
  rcases Encoder.writeRecord_cases turn.dialogue.encoder (Record.ofTexts fields) with
    ⟨allowed, room, encoder, written, bytes⟩ | ⟨reason, error, encoder, refused, bytes⟩
  · rw [written]
    refine .inl ⟨⟨count ▸ allowed, by omega⟩, _, rfl, rfl, ?_, ?_⟩
    · rw [Turn.output, bytes, ← List.append_assoc]
      rfl
    · exact stance_note turn _ .sent fields rfl rfl
  · rw [refused]
    refine .inr ⟨?_, _, rfl, rfl, ?_, rfl⟩
    · rintro nothing ⟨allowed, room⟩
      rw [nothing, List.length_nil, Nat.zero_add, count] at reason
      omega
    · rw [Turn.output, bytes]
      rfl

/-- To a willing client, fields are sent when they fit into a record. -/
theorem trySend_of_willing
    (willing : turn.sink.Willing)
    (fields : List String) :
    ∃ next, trySend fields turn = (.ok (decide (Fits fields)), next) ∧ next.sink.Willing ∧
      next.output = turn.output ++ (if Fits fields then (Record.ofTexts fields).wire else []) ∧
      next.stance = turn.stance := by
  rcases encode_cases turn fields with
    ⟨fits, next, encoded, sink, output, stance⟩ | ⟨_, first, failed, kept, same, unchanged⟩
  · refine ⟨next, ?_, by rwa [sink], by rw [output, if_pos fits], stance⟩
    rw [trySend, Action.bind_apply, encoded, decide_eq_true fits]
    rfl
  · -- The buffer was not empty, or the fields fit nowhere; a flush tells which.
    rw [← kept] at willing
    obtain ⟨middle, flushed, still, told, moved, nothing⟩ := flush_of_willing willing
    have onward : trySend fields turn = encode fields middle := by
      rw [trySend, Action.bind_apply, failed]
      dsimp only
      rw [if_neg Bool.false_ne_true, Action.bind_apply, flushed]
    rw [onward, ← same, ← told, ← unchanged, ← moved]
    rcases encode_cases middle fields with
      ⟨fits, next, encoded, sink, output, stance⟩ | ⟨tooLong, next, refused, sink, output, stance⟩
    · rw [encoded, decide_eq_true fits, if_pos fits]
      exact ⟨next, rfl, by rwa [sink], output, stance⟩
    · rw [refused, decide_eq_false (tooLong nothing), if_neg (tooLong nothing), List.append_nil]
      exact ⟨next, rfl, by rwa [sink], output, stance⟩

theorem send_gives
    (willing : turn.sink.Willing)
    (status : Status)
    (fits : Fits status.fields) :
    Gives (send status.fields) turn ⟨status.alone, turn.stance⟩ := by
  obtain ⟨next, sent, still, output, stance⟩ := trySend_of_willing willing status.fields
  rw [decide_eq_true fits] at sent
  rw [if_pos fits] at output
  refine ⟨next, ?_, still, output.trans ?_, stance⟩
  · rw [send, Action.bind_apply, sent]
    rfl
  · rw [Status.wire_alone]

theorem fits_refusal (refusal : Refusal) : Fits ["error", refusal.token] := by
  cases refusal <;> decide

theorem fits_done : Fits ["done"] := by decide

theorem fits_switch (on : Bool) : Fits ["done", Command.switchWord on] := by
  cases on <;> decide

/-- The only version that is ever settled is the one that is spoken. -/
theorem offered?_eq
    {offer : List String} {version : Nat}
    (found : offered? offer = some version) :
    version = Command.defaultVersion := by
  have equal := List.find?_some found
  exact beq_iff_eq.1 equal

theorem sendError_gives
    (willing : turn.sink.Willing)
    (refusal : Refusal) :
    Gives (sendError refusal) turn ⟨(Status.refused refusal.token).alone, turn.stance⟩ :=
  send_gives willing (.refused refusal.token) (fits_refusal refusal)

/-- An answer may be followed by the end of the session. -/
theorem Gives.invalid
    {reply : Reply World Unit} {answer : Answer} {stance : Stance World}
    (gives : Gives reply turn ⟨answer, stance⟩) :
    Gives (reply >>= fun _ => setPhase .invalid) turn
      ⟨answer, { stance with phase := .invalid }⟩ := by
  obtain ⟨next, answered, willing, output, reached⟩ := gives
  refine ⟨{ next with dialogue := { next.dialogue with phase := .invalid } }, ?_, willing,
    output, ?_⟩
  · rw [Action.bind_apply, answered]
    rfl
  · have same : next.stance = stance := reached
    rw [← same]
    rfl

theorem reject_gives
    (willing : turn.sink.Willing)
    (refusal : Refusal) :
    Gives (reject refusal) turn (turn.stance.refused refusal) := by
  cases refusal with
  | «protocol» => exact (sendError_gives willing .protocol).invalid
  | internal =>
      let raised := { turn with
        dialogue := { turn.dialogue with context := turn.dialogue.context.raise } }
      have still : raised.sink.Willing := willing
      exact Gives.after raised rfl rfl (sendError_gives still .internal)
  | _ => exact sendError_gives willing _

theorem negotiate_gives
    (willing : turn.sink.Willing)
    (offer : List String) :
    Gives (negotiate offer) turn (turn.stance.negotiated offer) := by
  rw [negotiate, Stance.negotiated]
  cases found : offered? offer with
  | none => exact (sendError_gives willing .protocol).invalid
  | some version =>
      let settled := { turn with dialogue := { turn.dialogue with phase := .active version } }
      have still : settled.sink.Willing := willing
      have fits : Fits (Status.done [toString version]).fields := by
        rw [offered?_eq found]
        decide
      exact Gives.after settled rfl rfl (send_gives still (.done [toString version]) fits)

/-- Rows are shown up to the first that does not fit. -/
theorem sendRows_gives
    (willing : turn.sink.Willing)
    (rows : List (List String)) :
    Gives (sendRows rows) turn ⟨Stance.shown rows, turn.stance⟩ := by
  induction rows generalizing turn with
  | nil => exact send_gives willing (.done []) fits_done
  | cons row rest hypothesis =>
      obtain ⟨next, sent, still, output, stance⟩ := trySend_of_willing willing ("string" :: row)
      by_cases fits : Fits ("string" :: row)
      · rw [decide_eq_true fits] at sent
        rw [if_pos fits] at output
        obtain ⟨last, answered, calm, told, reached⟩ := hypothesis still
        have shown : (Stance.shown (row :: rest)).wire =
            (Record.ofTexts ("string" :: row)).wire ++ (Stance.shown rest).wire := by
          simp only [Stance.shown, List.takeWhile_cons, List.forall_mem_cons, fits, decide_true,
            if_true, true_and]
          exact Answer.wire_cons _ _ _
        refine ⟨last, ?_, calm, ?_, reached.trans stance⟩
        · rw [sendRows, Action.bind_apply, sent]
          exact answered
        · rw [told, output, shown, List.append_assoc]
      · rw [decide_eq_false fits] at sent
        rw [if_neg fits, List.append_nil] at output
        have shown : Stance.shown (row :: rest) =
            (Status.refused Refusal.bufferFull.token).alone := by
          simp only [Stance.shown, List.takeWhile_cons, List.forall_mem_cons, fits, decide_false,
            false_and, if_false, Bool.false_eq_true]
          rfl
        have step : sendRows (row :: rest) turn = sendError .bufferFull next := by
          rw [sendRows, Action.bind_apply, sent]
          rfl
        rw [shown, ← stance]
        exact Gives.after next step output (sendError_gives still .bufferFull)

theorem switchLog_gives
    (willing : turn.sink.Willing)
    (switch : Option Bool) :
    Gives (switchLog switch) turn (turn.stance.switched switch) := by
  have sent (turn : Turn World) (willing : turn.sink.Willing) :
      Gives (send ["done", Command.switchWord turn.shared.logging]) turn
        (turn.stance.done [Command.switchWord turn.stance.logging]) :=
    send_gives willing (.done [_]) (fits_switch turn.shared.logging)
  cases switch with
  | none =>
      have step : switchLog none turn =
          send ["done", Command.switchWord turn.shared.logging] turn := rfl
      exact Gives.after turn step rfl (sent turn willing)
  | some on =>
      let switched := { turn with shared := { turn.shared with logging := on } }
      have step : switchLog (some on) turn =
          send ["done", Command.switchWord switched.shared.logging] switched := rfl
      exact Gives.after switched step rfl (sent switched willing)

theorem staged_gives
    (willing : turn.sink.Willing)
    (attempt : Except StagingError Context) :
    Gives (staged attempt) turn (turn.stance.staged attempt) := by
  cases attempt with
  | error error => exact reject_gives willing error.refusal
  | ok context =>
      let changed := { turn with dialogue := { turn.dialogue with context } }
      have still : changed.sink.Willing := willing
      exact Gives.after changed rfl rfl
        (send_gives still (.done []) fits_done)

theorem transact_gives
    (willing : turn.sink.Willing)
    (transaction : Context → World → Outcome World) :
    Gives (transact transaction) turn (turn.stance.transacted transaction) := by
  rw [Stance.transacted]
  generalize made : transaction turn.stance.context turn.stance.world = outcome
  have same : transaction turn.dialogue.context turn.shared.world = outcome := made
  obtain ⟨result, world⟩ := outcome
  let changed := { turn with shared := { turn.shared with world } }
  have still : changed.sink.Willing := willing
  cases result with
  | ok done =>
      have step : transact transaction turn = send ["done"] changed := by rw [transact, same]
      exact Gives.after changed step rfl (send_gives still (.done []) fits_done)
  | error error =>
      have step : transact transaction turn = reject error.refusal changed := by
        rw [transact, same]
      exact Gives.after changed step rfl (reject_gives still error.refusal)

theorem dispatch_gives
    (willing : turn.sink.Willing)
    (environment : Environment World) (command : Command) :
    Gives (dispatch environment command) turn (turn.stance.dispatched environment command) := by
  cases command with
  | clear => exact staged_gives willing (.ok Context.empty)
  | display => exact sendRows_gives willing (contextRows turn.dialogue.context)
  | log switch => exact switchLog_gives willing switch
  | install => exact transact_gives willing (install environment)
  | uninstall => exact transact_gives willing (uninstall environment)
  | _ => exact staged_gives willing _

theorem command_gives
    (willing : turn.sink.Willing)
    (environment : Environment World) (fields : List String) :
    Gives (command environment fields) turn (turn.stance.commanded environment fields) := by
  rw [command, Stance.commanded]
  cases Command.parse fields with
  | ok command => exact dispatch_gives willing environment command
  | error error =>
      cases error with
      | empty => exact send_gives willing (.done []) fits_done
      | _ => exact reject_gives willing _

theorem answerFields_gives
    (willing : turn.sink.Willing)
    (environment : Environment World) (fields : List String) :
    Gives (answerFields environment fields) turn (turn.stance.told environment fields) := by
  let noted := { turn with shared := turn.shared.note .received fields }
  have still : noted.sink.Willing := willing
  have same : noted.stance = turn.stance := stance_note turn _ .received fields rfl rfl
  rw [Stance.told, ← same]
  by_cases first : noted.dialogue.phase = .awaitingVersion
  · have awaiting : noted.stance.phase = .awaitingVersion := first
    rw [if_pos awaiting]
    by_cases magic : fields.head? = some Command.magic
    · have step : answerFields environment fields turn = negotiate (fields.drop 1) noted := by
        rw [answerFields, if_pos first, if_pos magic]
      rw [if_pos magic]
      exact Gives.after noted step rfl (negotiate_gives still _)
    · let active := { noted with
        dialogue := { noted.dialogue with phase := .active Command.defaultVersion } }
      have step : answerFields environment fields turn = command environment fields active := by
        rw [answerFields, if_pos first, if_neg magic]
        rfl
      have willing : active.sink.Willing := willing
      rw [if_neg magic]
      exact Gives.after active step rfl (command_gives willing environment fields)
  · have settled : noted.stance.phase ≠ .awaitingVersion := first
    have step : answerFields environment fields turn = command environment fields noted := by
      rw [answerFields, if_neg first]
    rw [if_neg settled]
    exact Gives.after noted step rfl (command_gives still environment fields)

theorem answer_gives
    (willing : turn.sink.Willing)
    (environment : Environment World) (record : Record) :
    Gives (answer environment record) turn (turn.stance.respond environment record) := by
  rw [answer, Stance.respond]
  cases record.texts? with
  | ok fields => exact answerFields_gives willing environment fields
  | error fault => exact reject_gives willing .protocol

end Reply

/-! ## Records -/

namespace Session

variable {turn : Turn World}

/-- A willing client is given the response to a record, and nothing is left to be handed over. -/
theorem answerRecord_gives
    (willing : turn.sink.Willing)
    (environment : Environment World) (record : Record) :
    ∃ next, answerRecord environment record turn = (.ok (), next) ∧ next.sink.Willing ∧
      next.output = turn.output ++ (turn.stance.respond environment record).answer.wire ∧
      next.stance = (turn.stance.respond environment record).stance ∧
      next.dialogue.encoder.sealedBytes = [] := by
  obtain ⟨middle, answered, still, output, stance⟩ :=
    Reply.answer_gives willing environment record
  obtain ⟨next, flushed, calm, same, kept, nothing⟩ := Reply.flush_of_willing still
  refine ⟨next, ?_, calm, same.trans output, kept.trans stance, nothing⟩
  rw [answerRecord, Action.bind_apply, answered]
  exact flushed

/-- A willing client is told that its input is no record. -/
theorem refuseInput_gives
    (willing : turn.sink.Willing)
    (error : FramingError) :
    ∃ next, refuseInput error turn = (.ok (), next) ∧ next.sink.Willing ∧
      next.output = turn.output ++ (Status.refused error.refusal.token).alone.wire ∧
      next.stance = { turn.stance with phase := .invalid } ∧
      next.dialogue.encoder.sealedBytes = [] := by
  obtain ⟨middle, refused, still, output, stance⟩ :=
    Reply.sendError_gives willing error.refusal
  let ended := { middle with dialogue := { middle.dialogue with phase := .invalid } }
  have taking : ended.sink.Willing := still
  obtain ⟨next, flushed, calm, same, kept, nothing⟩ := Reply.flush_of_willing taking
  refine ⟨next, ?_, calm, same.trans output, kept.trans ?_, nothing⟩
  · rw [refuseInput, Action.bind_apply, refused]
    exact flushed
  · have reached : middle.stance = turn.stance := stance
    rw [← reached]
    rfl

/-- Answers what a decoder came up with. -/
def answered (environment : Environment World) : Inquiry → Reply World Unit
  | .received record => answerRecord environment record
  | .malformed error => refuseInput error

/-- A willing client is given the response to each inquiry, and nothing is left over. -/
theorem answered_gives
    (willing : turn.sink.Willing)
    (environment : Environment World) (inquiry : Inquiry) :
    ∃ next, answered environment inquiry turn = (.ok (), next) ∧ next.sink.Willing ∧
      next.output = turn.output ++ (turn.stance.meet environment inquiry).answer.wire ∧
      next.stance = (turn.stance.meet environment inquiry).stance ∧
      next.dialogue.encoder.sealedBytes = [] := by
  cases inquiry with
  | received record => exact answerRecord_gives willing environment record
  | malformed error => exact refuseInput_gives willing error

end Session

end Confinement
