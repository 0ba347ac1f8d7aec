import Confinement.Client.Batch
import Confinement.Proofs.Client.Agreement
import Confinement.Proofs.Session.Blanks

/-!
# The end of waiting

The runner sends the words of a command as one record, and the client waits for the answer to it.
One empty word is sent as a bare terminator, like no word at all.  A session that counts empty
records answers it; a session that does not passes it over, and the client waits for an answer that
never comes (`blank_is_not_answered`).  Every other command that the client can encode is answered
in both modes (`answered_unless_blank`).
-/

namespace Confinement

open Host Policy Staging Wire

variable {World : Type}

/-! ## Bare terminators -/

theorem Wire.Record.wire_eq_terminator_iff {record : Record} :
    record.wire = [terminator] ↔ record = [] ∨ record = [[]] := by
  constructor
  · intro bare
    cases record with
    | nil => exact .inl rfl
    | cons field rest =>
        by_cases empty : field = []
        · cases rest with
          | nil => exact .inr (congrArg (fun field => [field]) empty)
          | cons next others =>
              have nothing : body (field :: next :: others) = [] := by simpa [wire] using bare
              rw [body] at nothing
              · cases (List.append_eq_nil_iff.1 nothing).2
              · exact List.cons_ne_nil _ _
        · exact absurd bare (wire_ne_terminator empty)
  · rintro (rfl | rfl)
    · rfl
    · rfl

/-- Of all words that a command may have, only a single empty one is sent as a bare terminator. -/
theorem wire_ofTexts_eq_terminator_iff
    {words : List String}
    (given : words ≠ []) :
    (Record.ofTexts words).wire = [terminator] ↔ words = [""] := by
  rw [Record.wire_eq_terminator_iff, Record.ofTexts]
  constructor
  · rintro (none | one)
    · exact absurd (List.map_eq_nil_iff.1 none) given
    · obtain ⟨word, rest, rfl⟩ := List.exists_cons_of_ne_nil given
      rw [List.map_cons, List.cons.injEq, List.map_eq_nil_iff] at one
      obtain ⟨empty, rfl⟩ := one
      have blank : Text.bytes word = Text.bytes "" := empty
      rw [Text.bytes_injective blank]
  · rintro rfl
    exact .inr rfl

/-- A record without fields is answered with an ending only, and the session stays open. -/
theorem Stance.respond_empty
    (environment : Environment World) {stance : Stance World}
    (isOpen : stance.phase.isOpen = true) :
    (stance.respond environment []).answer = (Status.done []).alone ∧
      (stance.respond environment []).stance.phase.isOpen = true := by
  have further :
      ¬(stance.phase = .awaitingVersion ∧ ([] : List String).head? = some Command.magic) :=
    fun both => by cases both.2
  have told : stance.respond environment [] = stance.told environment [] := rfl
  rw [told, Stance.told_of_command environment further]
  exact ⟨rfl, (SessionPhase.isOpen_settled _).trans isOpen⟩

/-! ## A blank command -/

/--
Whether the client is left waiting: the session has heard and said nothing, goes on, and holds
nothing that could still lead to an answer, and the client has come to the end of what it is sent.
-/
structure Exchange.Waits (exchange : Exchange World Answer) : Prop where
  heard : exchange.heard = []
  produced : exchange.produced = []
  isOpen : exchange.link.session.isOpen = true
  replies : exchange.link.session.dialogue.encoder.sealedBytes = []
  requests : exchange.link.session.decoder.buffer.toList = []
  told : exchange.result = .error .closed

namespace Link

variable {environment : Environment World} {passage : Passage} {link : Link World}

/-- No exchange changes the mode of the session. -/
theorem allowEmpty_perform
    (environment : Environment World) (passage : Passage) (fields : List String)
    {Result : Type} (step : Client.Step Result) (link : Link World) :
    (link.perform environment passage fields step).link.session.decoder.allowEmpty =
      link.session.decoder.allowEmpty :=
  Session.allowEmpty_deliverFrom environment _ _ _ _ _

theorem fits_blank : Fits [""] := by decide

theorem wire_blank : (Record.ofTexts [""]).wire = [terminator] :=
  (wire_ofTexts_eq_terminator_iff (List.cons_ne_nil _ _)).2 rfl

/-- What comes of a blank command is what the session makes of a bare terminator. -/
theorem ask_blank
    (turn : Turn World) {inquiries : List Inquiry} {result : Except ClientError Answer}
    {client : Client}
    (settled : link.Settled)
    (isOpen : link.session.isOpen = true)
    (processed : ∀ decoder : Decoder, decoder.buffer.toList = [terminator] →
      decoder.allowEmpty = link.session.decoder.allowEmpty →
      ∃ next, Session.process environment ⟨decoder, link.session.dialogue⟩
          { script := passage.replyWrites } link.shared =
            (.ok (), ⟨next, turn.dialogue⟩, turn.sink, turn.shared) ∧
        Session.inquiries environment ⟨decoder, link.session.dialogue⟩
          { script := passage.replyWrites } link.shared = inquiries ∧
        next.buffer.toList = [])
    (asked : Client.ask [""] (link.client.facing passage.requestWrites
      (passage.down.cut turn.sink.accepted)) = (result, client)) :
    ∃ next : Decoder, next.buffer.toList = [] ∧ link.ask environment passage [""] =
      ⟨result, .ok (), inquiries, turn.sink.accepted,
        ⟨client, ⟨next, turn.dialogue⟩, turn.shared⟩⟩ := by
  have sent := sent_of_settled settled fits_blank passage
  rw [wire_blank] at sent
  obtain ⟨decoder, rest, holds, same, onward⟩ :=
    Session.deliverFrom_of_byte isOpen settled.requests (passage.up.contents_cut [terminator])
      (passage.up.harmless_cut [terminator]) (Nat.le_refl _)
  obtain ⟨next, done, heard, nothing⟩ := processed decoder holds same
  obtain ⟨delivered, also⟩ := onward _ _ _ done
  refine ⟨next, nothing, ?_⟩
  rw [ask, perform]
  dsimp only
  rw [sent, delivered, also, heard]
  dsimp only
  rw [asked]

/-- Where empty records do not count, the session passes over a single empty word. -/
theorem waits_of_blank
    (settled : link.Settled)
    (isOpen : link.session.isOpen = true)
    (mode : link.session.decoder.allowEmpty = false)
    (environment : Environment World) (passage : Passage) :
    (link.ask environment passage [""]).Waits := by
  obtain ⟨client, asked, _⟩ :=
    Client.ask_of_silence settled.client passage.requestWrites_lossless
      (passage.down.harmless_cut _) fits_blank (passage.down.contents_cut [])
  obtain ⟨next, nothing, ended⟩ := ask_blank
    ⟨link.session.dialogue, { script := passage.replyWrites }, link.shared⟩ settled isOpen
    (fun decoder holds same => Session.process_blank_of_passing isOpen (same.trans mode) holds)
    asked
  rw [ended]
  exact ⟨rfl, rfl, isOpen, settled.replies, nothing, rfl⟩

/-- Where empty records count, the session answers a single empty word. -/
theorem answers_blank
    (settled : link.Settled)
    (isOpen : link.session.isOpen = true)
    (mode : link.session.decoder.allowEmpty = true)
    (environment : Environment World) (passage : Passage) :
    let exchange := link.ask environment passage [""]
    exchange.produced = (Status.done []).alone.wire ∧
      exchange.result = .ok (Status.done []).alone := by
  have awake : link.stance.phase.isOpen = true := isOpen
  obtain ⟨answer, still⟩ := Stance.respond_empty environment awake
  have willing : (⟨link.session.dialogue, { script := passage.replyWrites }, link.shared⟩ :
      Turn World).sink.Willing := passage.replyWrites_willing
  obtain ⟨turn, answered, _, output, stance, flushed⟩ :=
    Session.answerRecord_gives willing environment []
  have stays : turn.dialogue.phase.isOpen = true :=
    (congrArg (fun stance => stance.phase.isOpen) stance).trans still
  have produced : turn.sink.accepted = (Status.done []).alone.wire := by
    rw [Turn.output, Turn.output, flushed, List.append_nil] at output
    rw [output, settled.replies, ← answer]
    rfl
  have sendable : (Status.done []).alone.Sendable :=
    Answer.sendable_of_fits (fun _ member => by cases member) Reply.fits_done
  have whole := passage.down.contents_cut turn.sink.accepted
  rw [produced] at whole
  obtain ⟨client, asked, _⟩ :=
    Client.ask_of_answered settled.client passage.requestWrites_lossless
      (passage.down.harmless_cut _) fits_blank sendable whole
  rw [← produced] at asked
  obtain ⟨next, _, ended⟩ := ask_blank turn settled isOpen
    (fun decoder holds same =>
      Session.process_blank_of_counting isOpen (same.trans mode) holds answered stays)
    asked
  intro exchange
  rw [← produced]
  exact ⟨congrArg Exchange.produced ended, congrArg Exchange.result ended⟩

/-! ## Any command -/

/-- Whether a session goes on and nothing waits on either side, and in which mode it is. -/
structure Ready (allowEmpty : Bool) (link : Link World) : Prop where
  settled : link.Settled
  isOpen : link.session.isOpen = true
  mode : link.session.decoder.allowEmpty = allowEmpty

/-- Once the version is settled a link is ready for commands. -/
theorem ready_connect
    (environment : Environment World) (allowEmpty : Bool) (shared : Shared World)
    (greeting : Passage) :
    ((fresh allowEmpty shared).connect environment greeting).link.Ready allowEmpty := by
  have mode : ((fresh allowEmpty shared).connect environment
      greeting).link.session.decoder.allowEmpty = allowEmpty := by
    rw [connect, allowEmpty_perform]
    rfl
  have greeted := connect_fresh environment allowEmpty shared greeting
  -- By name no comparison runs the exchange.
  generalize (fresh allowEmpty shared).connect environment greeting = hello at mode greeted ⊢
  obtain ⟨_, _, settled, _, stance⟩ := greeted
  exact ⟨settled, congrArg (fun stance => stance.phase.isOpen) stance, mode⟩

/--
After the handshake, and whenever nothing waits on either side of an open session, whatever is
staged: every command of at least one word that the client can encode is answered, and the client
gives that answer, unless the command is a single empty word and empty records do not count.  In
that case nothing is answered, and nothing that has been sent will ever be.
-/
theorem answered_unless_blank
    (environment : Environment World) (allowEmpty : Bool) (shared : Shared World)
    (greeting : Passage) :
    let hello := (fresh allowEmpty shared).connect environment greeting
    hello.result = .ok () ∧ hello.link.Ready allowEmpty ∧
      ∀ link : Link World, link.Ready allowEmpty → ∀ passage words, words ≠ [] →
        (Encoder.empty.writeRecord (Record.ofTexts words)).1 = .ok () →
        let exchange := link.ask environment passage words
        (¬(allowEmpty = false ∧ words = [""]) →
          ∃ answer, exchange.produced = answer.wire ∧ exchange.result = .ok answer) ∧
        (allowEmpty = false ∧ words = [""] → exchange.Waits) := by
  refine ⟨(connect_fresh environment allowEmpty shared greeting).1,
    ready_connect environment allowEmpty shared greeting, ?_⟩
  intro link ready passage words given encodable exchange
  constructor
  · intro ordinary
    by_cases blank : words = [""]
    · subst blank
      have counting : link.session.decoder.allowEmpty = true := by
        rw [ready.mode]
        exact Bool.eq_true_of_not_eq_false fun passing => ordinary ⟨passing, rfl⟩
      obtain ⟨produced, told⟩ :=
        answers_blank ready.settled ready.isOpen counting environment passage
      exact ⟨_, produced, told⟩
    · have requestable : Requestable words :=
        ⟨encodable, fun bare => blank ((wire_ofTexts_eq_terminator_iff given).1 bare)⟩
      have agrees := agrees_of_open ready.settled requestable ready.isOpen environment passage
      exact ⟨_, agrees.produced, agrees.told⟩
  · rintro ⟨passing, rfl⟩
    exact waits_of_blank ready.settled ready.isOpen (ready.mode.trans passing) environment passage

/-- Two empty words are no blank command. -/
theorem answered_unless_blank_of_two_empty_words :
    let environment := machineEnvironment .memory .simulated
    let hello :=
      (fresh false { world := { files := FileTree.empty } }).connect environment dribbling
    let exchange := hello.link.ask environment dribbling ["", ""]
    ∃ answer, exchange.produced = answer.wire ∧ exchange.result = .ok answer := by
  intro environment hello exchange
  obtain ⟨_, ready, each⟩ :=
    answered_unless_blank environment false { world := { files := FileTree.empty } } dribbling
  exact (each hello.link ready dribbling ["", ""] (by decide) (by decide)).1 (by decide)

/-- After a single empty word the client waits for an answer that does not come. -/
theorem blank_is_not_answered :
    let environment := machineEnvironment .memory .simulated
    ¬∀ allowEmpty words, words ≠ [] → Batch.isHelp words = false →
      (Encoder.empty.writeRecord (Record.ofTexts words)).1 = .ok () →
      let hello := (fresh allowEmpty { world := { files := FileTree.empty } }).connect environment
        dribbling
      let exchange := hello.link.ask environment dribbling words
      ∃ answer, exchange.produced = answer.wire ∧ exchange.result = .ok answer := by
  intro environment always
  have ready := ready_connect environment false { world := { files := FileTree.empty } } dribbling
  have waits := waits_of_blank ready.settled ready.isOpen ready.mode environment dribbling
  obtain ⟨answer, _, told⟩ := always false [""] (by decide) (by decide) (by decide)
  cases waits.told.symm.trans told

end Link

end Confinement
