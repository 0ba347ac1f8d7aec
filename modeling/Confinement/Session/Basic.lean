import Confinement.Action
import Confinement.Command
import Confinement.Policy.Transaction
import Confinement.Text.Number
import Confinement.Wire.Decoder
import Confinement.Wire.Encoder

/-!
# Sessions

A `Session` is the daemon's side of one connection.  The first record may settle the version; every
later one is a command and is answered with `done` or with `error` and the word of a refusal.  A
malformed record ends the session, and nothing buffered after it is read.

The decoder stands apart from the rest, the `Dialogue`: answering a record never touches it.  What
sessions share, the world of the backends and the log switch, is a `Shared`; a `Turn` is everything
that answering a record can see and change.
-/

namespace Confinement

open Host Policy Staging Wire

/-- How far a session has come. -/
inductive SessionPhase where
  | awaitingVersion
  | active (version : Nat)
  /-- The client broke the rules, or a reply did not fit. -/
  | invalid
  | closed
  deriving DecidableEq, Repr

/-- Whether records are still read in a phase. -/
def SessionPhase.isOpen : SessionPhase → Bool
  | .awaitingVersion | .active _ => true
  | .invalid | .closed => false

/-- The way a logged record went. -/
inductive Direction where
  | received
  | sent
  deriving DecidableEq, Repr

/-- What all sessions of a daemon share. -/
structure Shared (World : Type) where
  world : World
  /-- Whether records are logged. -/
  logging : Bool := false
  /-- The records logged, in order, their fields joined by blanks. -/
  journal : List (Direction × String) := []

/-- Notes a record while logging is on. -/
def Shared.note {World : Type} (shared : Shared World) (direction : Direction)
    (fields : List String) : Shared World :=
  if shared.logging then
    { shared with journal := shared.journal ++ [(direction, String.intercalate " " fields)] }
  else
    shared

/-- A session without its decoder. -/
structure Dialogue where
  phase : SessionPhase
  encoder : Encoder
  context : Context

/-- Everything that answering a record can see and change. -/
structure Turn (World : Type) where
  dialogue : Dialogue
  sink : Sink
  shared : Shared World

/-- A part of an answer. -/
abbrev Reply (World : Type) := Action FramingError (Turn World)

namespace Reply

variable {World : Type}

def setPhase (phase : SessionPhase) : Reply World Unit :=
  Action.modify fun turn => { turn with dialogue := { turn.dialogue with phase } }

/-- Replaces what is staged. -/
def setContext (context : Context) : Reply World Unit :=
  Action.modify fun turn => { turn with dialogue := { turn.dialogue with context } }

/-- Hands over sealed replies as far as the client takes them now. -/
def flush : Reply World Unit := fun turn =>
  let (result, encoder, sink) := turn.dialogue.encoder.flush turn.sink
  let next := { turn with dialogue := { turn.dialogue with encoder }, sink }
  match result with
  | .ok _ | .error .wouldBlock => (.ok (), next)
  | .error error => (.error error, next)

/-- Encodes a reply, and logs it; whether it fitted. -/
def encode (fields : List String) : Reply World Bool := fun turn =>
  match turn.dialogue.encoder.writeRecord (Record.ofTexts fields) with
  | (.ok (), encoder) =>
    (.ok true, { turn with
      dialogue := { turn.dialogue with encoder }
      shared := turn.shared.note .sent fields })
  | (.error _, encoder) => (.ok false, { turn with dialogue := { turn.dialogue with encoder } })

/-- Encodes a reply, making room by a flush when it does not fit at once; whether it fitted. -/
def trySend (fields : List String) : Reply World Bool := do
  if ← encode fields then
    pure true
  else
    flush
    encode fields

/-- Sends a reply; one that does not fit ends the session. -/
def send (fields : List String) : Reply World Unit := do
  if ← trySend fields then pure () else setPhase .invalid

/-- Tells the client of a refusal. -/
def sendError (refusal : Refusal) : Reply World Unit := send ["error", refusal.token]

/-- Refuses a record: malformed input ends the session, and a backend's failure latches. -/
def reject (refusal : Refusal) : Reply World Unit := do
  match refusal with
  | .protocol =>
    sendError .protocol
    setPhase .invalid
  | .internal =>
    Action.modify fun turn =>
      { turn with dialogue := { turn.dialogue with context := turn.dialogue.context.raise } }
    sendError .internal
  | other => sendError other

/-- The version that the words of an offer settle: the first that is understood. -/
def offered? (words : List String) : Option Nat :=
  (words.filterMap (Text.unsigned? Text.wordBound)).find? (· == Command.defaultVersion)

def negotiate (offer : List String) : Reply World Unit := do
  match offered? offer with
  | some version =>
    setPhase (.active version)
    send ["done", toString version]
  | none =>
    sendError .protocol
    setPhase .invalid

/-- The row that shows one staged thing. -/
def itemRow : Item → List String
  | .id id => ["id", id]
  | .path entry => ["path", entry.path, entry.kind.word]
  | .permission permission => ["permission", permission]
  | .plug plug => ["plug", plug.exportDirectory, plug.importId, plug.importDirectory]

def contextRows (context : Context) : List (List String) :=
  (if context.latched then [["error", "on"]] else []) ++ context.items.map itemRow

/-- Sends rows and then `done`; a row that does not fit ends the display with an error. -/
def sendRows : List (List String) → Reply World Unit
  | [] => send ["done"]
  | row :: rest => do
    if ← trySend ("string" :: row) then sendRows rest else sendError .bufferFull

/-- Shows what is staged. -/
def display : Reply World Unit := fun turn => sendRows (contextRows turn.dialogue.context) turn

/-- Sets the log switch, if asked to, and tells its position. -/
def switchLog (switch : Option Bool) : Reply World Unit := do
  match switch with
  | some on => Action.modify fun turn => { turn with shared := { turn.shared with logging := on } }
  | none => pure ()
  fun turn => send ["done", Command.switchWord turn.shared.logging] turn

/-- Answers an attempt to stage something. -/
def staged (attempt : Except StagingError Context) : Reply World Unit := do
  match attempt with
  | .ok context =>
    setContext context
    send ["done"]
  | .error error => reject error.refusal

/-- Makes a transaction with what is staged and answers with its outcome. -/
def transact (transaction : Context → World → Outcome World) : Reply World Unit := fun turn =>
  let (result, world) := transaction turn.dialogue.context turn.shared.world
  let next := { turn with shared := { turn.shared with world } }
  match result with
  | .ok () => send ["done"] next
  | .error error => reject error.refusal next

/-- The outcome of staging a path whose kind is given by a word. -/
def stagePath (context : Context) (inspect : Inspection) (path word : String) :
    Except StagingError Context :=
  match Kind.ofWord? word with
  | some kind => context.addPath inspect path kind
  | none => .error (.unknownKind word)

/-- Carries out a command. -/
def dispatch (environment : Environment World) (command : Command) : Reply World Unit :=
  fun turn =>
    let context := turn.dialogue.context
    let inspect := environment.inspect turn.shared.world
    let answer : Reply World Unit := match command with
      | .clear => staged (.ok Context.empty)
      | .display => display
      | .log switch => switchLog switch
      | .id id => staged (context.setId id)
      | .path path word => staged (stagePath context inspect path word)
      | .permission permission => staged (context.addPermission permission)
      | .plug exportDirectory importId importDirectory =>
        staged (context.addPlug inspect ⟨exportDirectory, importId, importDirectory⟩)
      | .install => transact (install environment)
      | .uninstall => transact (uninstall environment)
    answer turn

def command (environment : Environment World) (fields : List String) : Reply World Unit :=
  match Command.parse fields with
  | .ok command => dispatch environment command
  | .error .empty => send ["done"]
  | .error error => reject error.refusal

def answerFields (environment : Environment World) (fields : List String) : Reply World Unit :=
  fun turn =>
    let noted := { turn with shared := turn.shared.note .received fields }
    if noted.dialogue.phase = .awaitingVersion then
      if fields.head? = some Command.magic then
        negotiate (fields.drop 1) noted
      else
        (do
          setPhase (.active Command.defaultVersion)
          command environment fields : Reply World Unit) noted
    else
      command environment fields noted

/-- Answers a record; one that is no text is malformed. -/
def answer (environment : Environment World) (record : Record) : Reply World Unit :=
  match record.texts? with
  | .ok fields => answerFields environment fields
  | .error _ => reject .protocol

end Reply

/-- The daemon's side of one connection. -/
structure Session where
  decoder : Decoder
  dialogue : Dialogue

namespace Session

variable {World : Type}

/-- A session in which nothing has happened. -/
def fresh (allowEmpty : Bool) : Session :=
  ⟨Decoder.empty allowEmpty, ⟨.awaitingVersion, Encoder.empty, Context.empty⟩⟩

/-- The text under which a failure of the client's stream is told. -/
def errorMessage (error : FramingError) : String := "session transport failed: " ++ error.message

/-- How far the session has come. -/
def phase (session : Session) : SessionPhase := session.dialogue.phase

/-- Whether records are still read. -/
def isOpen (session : Session) : Bool := session.phase.isOpen

/-- The settled version, while commands are answered. -/
def version? (session : Session) : Option Nat :=
  match session.phase with
  | .active version => some version
  | _ => none

/-- What the client has staged. -/
def context (session : Session) : Context := session.dialogue.context

/-- Whether replies wait to be handed over. -/
def wantsWrite (session : Session) : Bool := !session.dialogue.encoder.isFlushed

/-- Lets the client go. -/
def close (session : Session) : Session :=
  { session with dialogue := { session.dialogue with phase := .closed } }

/--
One read.  The end of the stream closes the session; a stream without data and a full buffer are
left to the next attempt to read a record.
-/
def receive (session : Session) (source : Source) : Except FramingError Unit × Session × Source :=
  let (result, decoder, rest) := session.decoder.fillFrom source
  let next := { session with decoder }
  match result with
  | .ok 0 => (.ok (), next.close, rest)
  | .ok _ | .error .wouldBlock | .error .messageTooBig => (.ok (), next, rest)
  | .error error => (.error error, next, rest)

/-- Ends a session whose input is no record. -/
def refuseInput (error : FramingError) : Reply World Unit := do
  Reply.sendError error.refusal
  Reply.setPhase .invalid
  Reply.flush

/-- Answers one record and hands the replies over. -/
def answerRecord (environment : Environment World) (record : Record) : Reply World Unit := do
  Reply.answer environment record
  Reply.flush

set_option linter.unusedVariables false in
/-- Answers the complete records of a decoder, as long as the session is open. -/
def processFrom (environment : Environment World) (decoder : Decoder) (turn : Turn World) :
    Except FramingError Unit × Decoder × Turn World :=
  if turn.dialogue.phase.isOpen then
    match found : decoder.tryRecord with
    | (.error error, next) =>
      let (result, last) := refuseInput error turn
      (result, next, last)
    | (.ok none, next) => (.ok (), next, turn)
    | (.ok (some record), next) =>
      match answerRecord environment record turn with
      | (.ok (), last) => processFrom environment next.advance last
      | (.error error, last) => (.error error, next.advance, last)
  else
    (.ok (), decoder, turn)
termination_by decoder.buffered
decreasing_by exact Decoder.buffered_advance_lt found

/-- Answers the complete records of a session. -/
def process (environment : Environment World) (session : Session) (sink : Sink)
    (shared : Shared World) :
    Except FramingError Unit × Session × Sink × Shared World :=
  let (result, decoder, turn) :=
    processFrom environment session.decoder ⟨session.dialogue, sink, shared⟩
  (result, ⟨decoder, turn.dialogue⟩, turn.sink, turn.shared)

/-- Hands over replies that still wait. -/
def flush (session : Session) (sink : Sink) : Except FramingError Unit × Session × Sink :=
  let (result, encoder, after) := session.dialogue.encoder.flush sink
  let next := { session with dialogue := { session.dialogue with encoder } }
  match result with
  | .ok _ | .error .wouldBlock => (.ok (), next, after)
  | .error error => (.error error, next, after)

/--
Delivers a stream read by read, answering what is complete after each, to a client that takes every
reply.  It stops when the stream is used up, on an error and when the session is no longer open;
`fuel` bounds the number of reads.
-/
def deliverFrom (environment : Environment World) :
    Nat → Session → Source → Sink → Shared World →
      Except FramingError Unit × Session × Source × Sink × Shared World
  | 0, session, source, sink, shared => (.ok (), session, source, sink, shared)
  | fuel + 1, session, source, sink, shared =>
    if source.left = 0 || !session.isOpen then
      (.ok (), session, source, sink, shared)
    else
      match session.receive source with
      | (.error error, next, rest) => (.error error, next, rest, sink, shared)
      | (.ok (), next, rest) =>
        match process environment next sink shared with
        | (.error error, last, taken, after) => (.error error, last, rest, taken, after)
        | (.ok (), last, taken, after) => deliverFrom environment fuel last rest taken after

/-- Delivers bytes to a client that takes every reply. -/
def deliver (environment : Environment World) (session : Session) (data : Bytes)
    (shared : Shared World) :
    Except FramingError Unit × Session × Source × Sink × Shared World :=
  deliverFrom environment (data.length + 1) session (Source.ofBytes data) {} shared

end Session

end Confinement
