import Confinement.Policy.Machine
import Confinement.Proofs.Client.Exchange
import Confinement.Proofs.Session.Delivery
import Confinement.Proofs.Session.Endings

/-!
# Client and session agree

A `Link` is a client and the session that serves it, with an ordered stream each way that loses
nothing.  In an exchange the client sends a request and waits, the session is delivered what was
sent, in reads of any sizes, and the client is delivered what the session handed over, again in
reads of any sizes.

As long as the session is open, it hears exactly the request, the client gives exactly the answer,
and nothing is left over on either side; the session ends with the first refusal that is fatal to
the client, and after it nothing is heard (`agrees_on_every_request`).
-/

namespace Confinement

open Host Policy Staging Wire

variable {World : Type}

/-! ## Passages -/

/-- An ordered stream one way: it loses nothing, and its failures are harmless. -/
structure Carriage (Harmless : Failure → Prop) where
  /-- How the bytes that are sent arrive. -/
  cut : Bytes → Source
  contents_cut : ∀ data, (cut data).contents = data
  harmless_cut : ∀ data cause, Delivery.failure cause ∈ cut data → Harmless cause

/-- What becomes of the bytes of one exchange. -/
structure Passage where
  /-- What becomes of the client's writes: each is taken, if only in parts and after a while. -/
  requestWrites : List WriteOutcome
  requestWrites_lossless : ∀ outcome ∈ requestWrites, outcome.Lossless
  /-- The reads of the session. -/
  up : Carriage fun cause => cause = .interrupted ∨ cause = .wouldBlock
  /-- What becomes of the session's writes: all of them are taken, if only in parts. -/
  replyWrites : List WriteOutcome
  replyWrites_willing : ∀ outcome ∈ replyWrites, outcome.Willing
  /-- The reads of the client, which waits for bytes. -/
  down : Carriage fun cause => cause = .interrupted

/-! ## Requests -/

/--
Whether the encoder of a client accepts a request, and not as a bare terminator, which is no record
to most sessions.
-/
def Requestable (fields : List String) : Prop :=
  (Encoder.empty.writeRecord (Record.ofTexts fields)).1 = .ok () ∧
    (Record.ofTexts fields).wire ≠ [terminator]

/-- An encoder that has nothing sealed accepts the fields that fit, and no others. -/
theorem Wire.Encoder.writeRecord_eq_ok_iff
    {encoder : Encoder}
    (nothing : encoder.sealedBytes = [])
    (fields : List String) :
    (encoder.writeRecord (Record.ofTexts fields)).1 = .ok () ↔ Fits fields := by
  have count : (Record.ofTexts fields).length = fields.length := List.length_map _
  rcases encoder.writeRecord_cases (Record.ofTexts fields) with
    ⟨allowed, room, next, written, _⟩ | ⟨reason, error, next, refused, _⟩
  · rw [written]
    exact iff_of_true rfl ⟨count ▸ allowed, by omega⟩
  · rw [refused]
    rw [nothing, List.length_nil, Nat.zero_add, count] at reason
    refine iff_of_false (fun equal => by cases equal) ?_
    rintro ⟨allowed, room⟩
    omega

theorem requestable_iff (fields : List String) :
    Requestable fields ↔ Fits fields ∧ (Record.ofTexts fields).wire ≠ [terminator] := by
  rw [Requestable, Encoder.writeRecord_eq_ok_iff Encoder.sealedBytes_empty]

instance (fields : List String) : Decidable (Requestable fields) :=
  decidable_of_iff _ (requestable_iff fields).symm

theorem Requestable.sendable
    {fields : List String}
    (requestable : Requestable fields) :
    (Record.ofTexts fields).Sendable := by
  obtain ⟨⟨allowed, fits⟩, marked⟩ := (requestable_iff fields).1 requestable
  refine ⟨?_, fits, marked⟩
  rw [Record.ofTexts, List.length_map]
  exact allowed

/-! ## Links -/

/-- A client and the session that serves it. -/
structure Link (World : Type) where
  client : Client
  session : Session
  shared : Shared World

/-- What came of an exchange. -/
structure Exchange (World Result : Type) where
  /-- What the client gives. -/
  result : Except ClientError Result
  /-- How the delivery to the session ended. -/
  served : Except FramingError Unit
  /-- What the session came up with. -/
  heard : List Inquiry
  /-- What the session handed over. -/
  produced : Bytes
  link : Link World

/-- What comes of an exchange when the client goes on by itself. -/
def Exchange.andThen {Result Next : Type} (exchange : Exchange World Result)
    (step : Client.Step Next) : Exchange World Next :=
  let (result, client) := step exchange.link.client
  { exchange with result, link := { exchange.link with client } }

namespace Link

/-- A client that has just connected, and the session that has just been accepted. -/
def fresh (allowEmpty : Bool) (shared : Shared World) : Link World :=
  ⟨Client.fresh ⟨[], {}⟩, Session.fresh allowEmpty, shared⟩

/-- An exchange in which the client does a step that sends a request and waits for the answer. -/
def perform {Result : Type} (environment : Environment World) (passage : Passage)
    (fields : List String) (step : Client.Step Result) (link : Link World) :
    Exchange World Result :=
  let sent := (Client.send fields (link.client.facing passage.requestWrites [])).2
  let source := passage.up.cut sent.connection.sink.accepted
  let sink : Sink := { script := passage.replyWrites }
  let (served, session, _, taken, shared) :=
    Session.deliverFrom environment source.workload link.session source sink link.shared
  let (result, client) :=
    step (link.client.facing passage.requestWrites (passage.down.cut taken.accepted))
  { result
    served
    heard := Session.heardFrom environment source.workload link.session source sink link.shared
    produced := taken.accepted
    link := ⟨client, session, shared⟩ }

/-- A request and its answer. -/
def ask (environment : Environment World) (passage : Passage) (fields : List String)
    (link : Link World) : Exchange World Answer :=
  link.perform environment passage fields (Client.ask fields)

/-- The exchange in which the version is settled. -/
def connect (environment : Environment World) (passage : Passage) (link : Link World) :
    Exchange World Unit :=
  link.perform environment passage [Command.magic, toString Command.defaultVersion]
    Client.handshake

/-- A link after some requests. -/
def after (environment : Environment World) : Link World → List (Passage × List String) → Link World
  | link, [] => link
  | link, (passage, fields) :: rest =>
    after environment (link.ask environment passage fields).link rest

/-- Where a link stands. -/
def stance (link : Link World) : Stance World :=
  ⟨link.session.phase, link.session.context, link.shared.world, link.shared.logging⟩

/-- Whether nothing waits on either side of a link. -/
structure Settled (link : Link World) : Prop where
  client : link.client.Settled
  replies : link.session.dialogue.encoder.sealedBytes = []
  requests : link.session.decoder.buffer.toList = []

variable {environment : Environment World} {passage : Passage} {fields : List String}
  {link : Link World}

theorem sent_of_settled
    (settled : link.Settled)
    (fits : Fits fields)
    (passage : Passage) :
    (Client.send fields
        (link.client.facing passage.requestWrites [])).2.connection.sink.accepted =
      (Record.ofTexts fields).wire := by
  have steady : Source.Steady [] := fun _ member => by cases member
  exact (Client.ask_of_settled settled.client passage.requestWrites_lossless steady fits).1

/-- Whether a session has served one request and the client does its step with what it said. -/
structure Serves {Result : Type} (environment : Environment World) (passage : Passage)
    (fields : List String) (step : Client.Step Result) (link : Link World)
    (exchange : Exchange World Result) : Prop where
  served : exchange.served = .ok ()
  heard : exchange.heard = [.received (Record.ofTexts fields)]
  produced : exchange.produced =
    (link.stance.respond environment (Record.ofTexts fields)).answer.wire
  stance : exchange.link.stance =
    (link.stance.respond environment (Record.ofTexts fields)).stance
  replies : exchange.link.session.dialogue.encoder.sealedBytes = []
  requests : exchange.link.session.decoder.buffer.toList = []
  stepped : step (link.client.facing passage.requestWrites (passage.down.cut exchange.produced)) =
    (exchange.result, exchange.link.client)

/-- An open session serves what it is sent. -/
theorem serves_of_open
    (settled : link.Settled)
    (requestable : Requestable fields)
    (isOpen : link.session.isOpen = true)
    (environment : Environment World) (passage : Passage)
    {Result : Type} (step : Client.Step Result) :
    link.Serves environment passage fields step
      (link.perform environment passage fields step) := by
  have sendable := requestable.sendable
  have sent := sent_of_settled settled ((requestable_iff fields).1 requestable).1 passage
  have whole : link.session.decoder.buffer.toList ++
      (passage.up.cut (Record.ofTexts fields).wire).contents = (Record.ofTexts fields).wire := by
    rw [settled.requests, passage.up.contents_cut]
    rfl
  have more : (passage.up.cut (Record.ofTexts fields).wire).contents ≠ [] := by
    rw [passage.up.contents_cut]
    exact List.append_ne_nil_of_right_ne_nil _ (List.cons_ne_nil _ _)
  have unbroken : (passage.up.cut (Record.ofTexts fields).wire).Unbroken :=
    passage.up.harmless_cut _
  have willing : (⟨link.session.dialogue, { script := passage.replyWrites }, link.shared⟩ :
      Turn World).sink.Willing := passage.replyWrites_willing
  -- Every reply is taken, so the answer to the record does not depend on how it is taken.
  obtain ⟨turn, answered, _, output, stance, flushed⟩ :=
    Session.answerRecord_gives willing environment (Record.ofTexts fields)
  obtain ⟨decoder, rest, delivered, heard, nothing⟩ :=
    Session.deliverFrom_of_record environment isOpen sendable whole more unbroken (Nat.le_refl _)
      answered
  have produced : turn.sink.accepted =
      (link.stance.respond environment (Record.ofTexts fields)).answer.wire := by
    rw [Turn.output, Turn.output, flushed, List.append_nil] at output
    rw [output, settled.replies]
    rfl
  rw [perform]
  dsimp only
  rw [sent, delivered, heard]
  dsimp only
  refine ⟨rfl, rfl, produced, stance, flushed, nothing, rfl⟩

/-- Whether an exchange leaves the session as it was and the client does its step with nothing. -/
structure Passes {Result : Type} (passage : Passage) (step : Client.Step Result)
    (link : Link World) (exchange : Exchange World Result) : Prop where
  served : exchange.served = .ok ()
  heard : exchange.heard = []
  produced : exchange.produced = []
  session : exchange.link.session = link.session
  shared : exchange.link.shared = link.shared
  stepped : step (link.client.facing passage.requestWrites (passage.down.cut [])) =
    (exchange.result, exchange.link.client)

/-- A session that is not open hears nothing and says nothing. -/
theorem passes_of_closed
    (closed : link.session.isOpen = false)
    (environment : Environment World) (passage : Passage) (fields : List String)
    {Result : Type} (step : Client.Step Result) :
    link.Passes passage step (link.perform environment passage fields step) := by
  rw [perform]
  dsimp only
  rw [Session.deliverFrom_of_closed environment closed, Session.heardFrom_of_closed closed]
  exact ⟨rfl, rfl, rfl, rfl, rfl, rfl⟩

/-- A request of any kind gets what `ask` gets, and then only the client acts. -/
theorem perform_bind
    {answer : Answer}
    (told : (link.ask environment passage fields).result = .ok answer)
    {Result : Type} (next : Answer → Client.Step Result) :
    link.perform environment passage fields (Client.ask fields >>= next) =
      (link.ask environment passage fields).andThen (next answer) := by
  rw [ask, perform] at told
  dsimp only at told
  rw [Exchange.andThen, ask, perform, perform]
  dsimp only
  rw [Action.bind_apply]
  generalize Client.ask fields _ = asked at told ⊢
  obtain ⟨result, client⟩ := asked
  cases told
  rfl

/-! ## One request -/

/-- Whether the client and the session agree about a request that an open session is sent. -/
structure Agrees (environment : Environment World) (passage : Passage) (fields : List String)
    (link : Link World) (answer : Answer) : Prop where
  told : (link.ask environment passage fields).result = .ok answer
  served : (link.ask environment passage fields).served = .ok ()
  heard : (link.ask environment passage fields).heard = [.received (Record.ofTexts fields)]
  produced : (link.ask environment passage fields).produced = answer.wire
  response : link.stance.respond environment (Record.ofTexts fields) =
    ⟨answer, (link.ask environment passage fields).link.stance⟩
  /-- What the client makes of the answer in a request of its own. -/
  requested : ∀ (Result : Type) (next : Answer → Client.Step Result),
    link.perform environment passage fields (Client.ask fields >>= next) =
      (link.ask environment passage fields).andThen (next answer)
  settled : (link.ask environment passage fields).link.Settled
  notTooBig : answer.status ≠ .refused Refusal.messageTooBig.token
  closed_iff : (link.ask environment passage fields).link.session.isOpen = false ↔
    ∃ token, answer.status = .refused token ∧
      (ClientError.refused (fields.headD "") token).isFatal = true

theorem agrees_of_open
    (settled : link.Settled)
    (requestable : Requestable fields)
    (isOpen : link.session.isOpen = true)
    (environment : Environment World) (passage : Passage) :
    link.Agrees environment passage fields
      (link.stance.respond environment (Record.ofTexts fields)).answer := by
  have serves :=
    serves_of_open settled requestable isOpen environment passage (Client.ask fields)
  have awake : link.stance.phase.isOpen = true := isOpen
  have regular := Stance.regular_respond environment awake (Record.ofTexts fields)
  have whole : (passage.down.cut (link.ask environment passage fields).produced).contents =
      (link.stance.respond environment (Record.ofTexts fields)).answer.wire := by
    rw [passage.down.contents_cut]
    exact serves.produced
  obtain ⟨next, asked, calm, _⟩ :=
    Client.ask_of_answered settled.client passage.requestWrites_lossless
      (passage.down.harmless_cut _) ((requestable_iff fields).1 requestable).1
      (Answer.sendable_of_fits regular.rows regular.ending) whole
  have stepped := serves.stepped.symm.trans asked
  rw [Prod.mk.injEq] at stepped
  refine ⟨stepped.1, serves.served, serves.heard, serves.produced, ?_, ?_,
    ⟨?_, serves.replies, serves.requests⟩, regular.notTooBig, ?_⟩
  · exact congrArg (Response.mk _) serves.stance.symm
  · intro Result next
    exact perform_bind stepped.1 next
  · rw [← stepped.2] at calm
    exact calm
  · have phase : (link.ask environment passage fields).link.session.phase =
        (link.stance.respond environment (Record.ofTexts fields)).stance.phase :=
      congrArg Stance.phase serves.stance
    rw [Session.isOpen, phase, regular.closed_iff]
    constructor
    · intro malformed
      exact ⟨_, malformed, beq_self_eq_true _⟩
    · rintro ⟨token, refused, fatal⟩
      rw [refused, beq_iff_eq.1 fatal]

/-- Whether a session that is not open stays as it is, and the client is told that it has ended. -/
structure Ended (environment : Environment World) (passage : Passage) (fields : List String)
    (link : Link World) : Prop where
  told : (link.ask environment passage fields).result = .error .closed
  heard : (link.ask environment passage fields).heard = []
  produced : (link.ask environment passage fields).produced = []
  session : (link.ask environment passage fields).link.session = link.session
  shared : (link.ask environment passage fields).link.shared = link.shared
  settled : (link.ask environment passage fields).link.Settled

theorem ended_of_closed
    (settled : link.Settled)
    (requestable : Requestable fields)
    (closed : link.session.isOpen = false)
    (environment : Environment World) (passage : Passage) :
    link.Ended environment passage fields := by
  have passes := passes_of_closed closed environment passage fields (Client.ask fields)
  obtain ⟨next, asked, calm, _⟩ :=
    Client.ask_of_silence settled.client passage.requestWrites_lossless
      (passage.down.harmless_cut _) ((requestable_iff fields).1 requestable).1
      (passage.down.contents_cut [])
  have stepped := passes.stepped.symm.trans asked
  rw [Prod.mk.injEq] at stepped
  refine ⟨stepped.1, passes.heard, passes.produced, passes.session, passes.shared, ?_, ?_, ?_⟩
  · rw [← stepped.2] at calm
    exact calm
  · have same : (link.ask environment passage fields).link.session = link.session :=
      passes.session
    rw [same]
    exact settled.replies
  · have same : (link.ask environment passage fields).link.session = link.session :=
      passes.session
    rw [same]
    exact settled.requests

/-! ## The version -/

theorem settled_fresh (allowEmpty : Bool) (shared : Shared World) :
    (fresh allowEmpty shared).Settled :=
  ⟨Client.settled_fresh {}, rfl, rfl⟩

theorem respond_greeting
    (environment : Environment World) {stance : Stance World}
    (first : stance.phase = .awaitingVersion) :
    stance.respond environment
        (Record.ofTexts [Command.magic, toString Command.defaultVersion]) =
      ⟨(Status.done [toString Command.defaultVersion]).alone,
        { stance with phase := .active Command.defaultVersion }⟩ := by
  have understood :
      Reply.offered? [toString Command.defaultVersion] = some Command.defaultVersion := by decide
  rw [Stance.respond, Record.texts?_ofTexts]
  dsimp only
  rw [Stance.told_of_offer environment first rfl, Stance.negotiated, List.drop_one, List.tail_cons,
    understood]
  rfl

/-- A client that connects to a fresh session settles the version, and nothing is left over. -/
theorem connect_fresh
    (environment : Environment World) (allowEmpty : Bool) (shared : Shared World)
    (greeting : Passage) :
    let hello := (fresh allowEmpty shared).connect environment greeting
    hello.result = .ok () ∧
      hello.heard =
        [.received (Record.ofTexts [Command.magic, toString Command.defaultVersion])] ∧
      hello.link.Settled ∧ hello.link.client.version = Command.defaultVersion ∧
      hello.link.stance =
        ⟨.active Command.defaultVersion, Context.empty, shared.world, shared.logging⟩ := by
  intro hello
  have requestable : Requestable [Command.magic, toString Command.defaultVersion] := by decide
  have settled := settled_fresh allowEmpty shared
  have serves : (fresh allowEmpty shared).Serves environment greeting
      [Command.magic, toString Command.defaultVersion] Client.handshake hello :=
    serves_of_open settled requestable rfl environment greeting Client.handshake
  have awaiting : (fresh allowEmpty shared).stance.phase = .awaitingVersion := rfl
  have response := respond_greeting environment awaiting
  have whole : (greeting.down.cut hello.produced).contents =
      (Status.done [toString Command.defaultVersion]).alone.wire := by
    rw [greeting.down.contents_cut]
    exact serves.produced.trans (by rw [response])
  have sendable : (Status.done [toString Command.defaultVersion]).alone.Sendable :=
    Answer.sendable_of_fits (fun _ member => by cases member) (by decide)
  obtain ⟨next, asked, calm, _⟩ :=
    Client.ask_of_answered settled.client greeting.requestWrites_lossless
      (greeting.down.harmless_cut _) ((requestable_iff _).1 requestable).1 sendable whole
  have stepped := serves.stepped.symm.trans (Client.handshake_of_ask asked)
  rw [Prod.mk.injEq] at stepped
  obtain ⟨result, client⟩ := stepped
  have version : hello.link.client = { next with version := Command.defaultVersion } := client
  refine ⟨result, serves.heard, ⟨?_, serves.replies, serves.requests⟩, ?_, ?_⟩
  · rw [version]
    exact ⟨calm.sent, calm.read, calm.steady⟩
  · rw [version]
  · exact serves.stance.trans (by rw [response]; rfl)

/-! ## Any number of requests -/

/-- The error that the end of a request is to a client that needs it done, if any. -/
def failure? (fields : List String) : Except ClientError Answer → Option ClientError
  | .error error => some error
  | .ok ⟨_, .refused token⟩ => some (.refused (fields.headD "") token)
  | .ok ⟨_, .done _⟩ => none

/-- The errors that some requests end with. -/
def failures (environment : Environment World) :
    Link World → List (Passage × List String) → List ClientError
  | _, [] => []
  | link, (passage, fields) :: rest =>
    let exchange := link.ask environment passage fields
    (failure? fields exchange.result).toList ++ failures environment exchange.link rest

/-- A request leaves nothing over, and it leaves the session open unless its failure is fatal. -/
theorem ask_of_settled
    (settled : link.Settled)
    (requestable : Requestable fields)
    (environment : Environment World) (passage : Passage) :
    let exchange := link.ask environment passage fields
    exchange.link.Settled ∧
      (exchange.link.session.isOpen = true ↔ link.session.isOpen = true ∧
        ∀ failure ∈ (failure? fields exchange.result).toList, failure.isFatal = false) := by
  intro exchange
  cases isOpen : link.session.isOpen with
  | false =>
      have ended := ended_of_closed settled requestable isOpen environment passage
      refine ⟨ended.settled, iff_of_false ?_ fun both => Bool.noConfusion both.1⟩
      rw [ended.session, isOpen]
      exact Bool.false_ne_true
  | true =>
      have agrees := agrees_of_open settled requestable isOpen environment passage
      refine ⟨agrees.settled, ?_⟩
      rw [← Bool.not_eq_false, agrees.closed_iff, agrees.told]
      generalize (link.stance.respond environment (Record.ofTexts fields)).answer = answer
      obtain ⟨rows, status⟩ := answer
      cases status with
      | done words => simp [failure?]
      | refused token => simp [failure?]

/-- Some requests leave nothing over, and the session is open as long as no failure is fatal. -/
theorem after_of_settled
    {requests : List (Passage × List String)}
    (settled : link.Settled)
    (requestable : ∀ request ∈ requests, Requestable request.2)
    (environment : Environment World) :
    (link.after environment requests).Settled ∧
      ((link.after environment requests).session.isOpen = true ↔ link.session.isOpen = true ∧
        ∀ failure ∈ link.failures environment requests, failure.isFatal = false) := by
  induction requests generalizing link with
  | nil => exact ⟨settled, (and_iff_left fun _ member => by cases member).symm⟩
  | cons request rest hypothesis =>
      obtain ⟨passage, fields⟩ := request
      -- What one request leaves behind is settled again, whether or not the session is open.
      obtain ⟨next, step⟩ :=
        ask_of_settled settled (requestable _ List.mem_cons_self) environment passage
      obtain ⟨last, run⟩ :=
        hypothesis next fun other member => requestable other (List.mem_cons_of_mem _ member)
      refine ⟨last, ?_⟩
      rw [after, run, step, failures, List.forall_mem_append, and_assoc]

/--
A client connects to a fresh session over streams that lose nothing, and makes any requests that its
encoder accepts.  To each request that finds the session open, the client gives the answer that the
session has produced for exactly that request, and nothing is left over for the next one; no request
is refused for its size.  The session is open until the first refusal that is fatal to the client,
and from there on it hears nothing.
-/
theorem agrees_on_every_request
    (environment : Environment World) (allowEmpty : Bool) (shared : Shared World)
    (greeting : Passage) (requests : List (Passage × List String))
    (requestable : ∀ request ∈ requests, Requestable request.2) :
    let hello := (fresh allowEmpty shared).connect environment greeting
    hello.result = .ok () ∧
      hello.heard =
        [.received (Record.ofTexts [Command.magic, toString Command.defaultVersion])] ∧
      hello.link.Settled ∧ hello.link.client.version = Command.defaultVersion ∧
      hello.link.stance =
        ⟨.active Command.defaultVersion, Context.empty, shared.world, shared.logging⟩ ∧
      ∀ earlier passage fields later, requests = earlier ++ (passage, fields) :: later →
        let link := hello.link.after environment earlier
        (link.session.isOpen = true ↔
          ∀ failure ∈ hello.link.failures environment earlier, failure.isFatal = false) ∧
        (link.session.isOpen = true → ∃ answer, link.Agrees environment passage fields answer) ∧
        (link.session.isOpen = false → link.Ended environment passage fields) := by
  have greeted := connect_fresh environment allowEmpty shared greeting
  -- All that matters of the first exchange is said now, and by name no comparison runs it.
  generalize (fresh allowEmpty shared).connect environment greeting = hello at greeted ⊢
  obtain ⟨result, heard, settled, version, stance⟩ := greeted
  refine ⟨result, heard, settled, version, stance, ?_⟩
  intro earlier passage fields later split link
  have among : ∀ request ∈ earlier, Requestable request.2 := by
    intro request member
    exact requestable request (split ▸ List.mem_append_left _ member)
  have here : Requestable fields :=
    requestable (passage, fields) (split ▸ List.mem_append_right _ List.mem_cons_self)
  have first : hello.link.session.isOpen = true :=
    congrArg (fun stance => stance.phase.isOpen) stance
  obtain ⟨still, run⟩ := after_of_settled settled among environment
  refine ⟨run.trans (and_iff_right first), ?_, ?_⟩
  · intro isOpen
    exact ⟨_, agrees_of_open still here isOpen environment passage⟩
  · intro closed
    exact ended_of_closed still here closed environment passage

/-- A stream that delivers byte by byte and fails before each. -/
def dribble (Harmless : Failure → Prop) (cause : Failure) (harmless : Harmless cause) :
    Carriage Harmless where
  cut data := data.flatMap fun byte => [.failure cause, .bytes [byte]]
  contents_cut data := by
    induction data with
    | nil => rfl
    | cons byte rest hypothesis => exact congrArg (byte :: ·) hypothesis
  harmless_cut data other member := by
    obtain ⟨byte, _, among⟩ := List.mem_flatMap.1 member
    rcases List.mem_cons.1 among with equal | later
    · cases equal
      exact harmless
    · cases List.mem_singleton.1 later

/-- Both sides write in parts and read byte by byte. -/
def dribbling : Passage where
  requestWrites := [.accept 3, .failure .wouldBlock, .failure .interrupted, .accept 1]
  requestWrites_lossless := by decide
  up := dribble _ .wouldBlock (.inr rfl)
  replyWrites := [.accept 2, .failure .interrupted]
  replyWrites_willing := by decide
  down := dribble _ .interrupted rfl

/-- Two commands, a word that is none, and a command that comes too late. -/
def requests : List (Passage × List String) :=
  [["id", "ab"], ["display"], ["stop"], ["clear"]].map fun fields => (dribbling, fields)

/-- The rows of the second request do not get in the way of the third, which ends the session. -/
theorem agrees_on_every_request_until_malformed :
    let environment := machineEnvironment .memory .simulated
    let hello :=
      (fresh false { world := { files := FileTree.empty } }).connect environment dribbling
    (∀ request ∈ requests, Requestable request.2) ∧
      (∃ answer, (hello.link.after environment (requests.take 1)).Agrees environment dribbling
        ["display"] answer ∧ answer = ⟨[["id", "ab"]], .done []⟩) ∧
      (hello.link.after environment (requests.take 3)).Ended environment dribbling ["clear"] := by
  intro environment hello
  have requestable : ∀ request ∈ requests, Requestable request.2 := by decide
  obtain ⟨_, _, _, _, _, each⟩ :=
    agrees_on_every_request environment false { world := { files := FileTree.empty } } dribbling
      requests requestable
  refine ⟨requestable, ?_, ?_⟩
  · have isOpen : (hello.link.after environment (requests.take 1)).session.isOpen = true := by
      decide +kernel
    obtain ⟨answer, agrees⟩ := (each (requests.take 1) dribbling ["display"] _ rfl).2.1 isOpen
    have told : ((hello.link.after environment (requests.take 1)).ask environment dribbling
        ["display"]).result.toOption = some ⟨[["id", "ab"]], .done []⟩ := by decide +kernel
    rw [agrees.told] at told
    exact ⟨answer, agrees, Option.some.inj told⟩
  · have closed : (hello.link.after environment (requests.take 3)).session.isOpen = false := by
      decide +kernel
    exact (each (requests.take 3) dribbling ["clear"] [] rfl).2.2 closed

end Link

end Confinement
