import Confinement.Action
import Confinement.Command
import Confinement.Endpoint.Reach
import Confinement.Text.Number
import Confinement.Wire.Connection

/-!
# Clients

A `Client` sends requests to the daemon and collects the answer to each: the rows of a listing and
the status that ends it.  `Client.ask` is one exchange; the requests that the daemon knows are
functions of their own, for which a refusal is an error.
-/

namespace Confinement

open Host Wire

/-- How an answer ends. -/
inductive Status where
  /-- The request was carried out; more fields may follow the word. -/
  | done (fields : List String)
  /-- The request was refused, with a word that tells why. -/
  | refused (token : String)
  deriving DecidableEq, Repr

/-- Everything that the daemon sends back for one request. -/
structure Answer where
  rows : List (List String)
  status : Status
  deriving DecidableEq, Repr

/-- Words joined by blanks. -/
def spaced (words : List String) : String := String.intercalate " " words

/-- The fields that end an answer. -/
def Status.fields : Status → List String
  | .done fields => "done" :: fields
  | .refused token => ["error", token]

/-- The lines that show an answer, the ending last. -/
def Answer.lines (answer : Answer) : List String :=
  answer.rows.map (fun row => spaced ("string" :: row)) ++ [spaced answer.status.fields]

/-- Why a request failed. -/
inductive ClientError where
  /-- The host of the daemon is not found. -/
  | resolve (endpoint : String) (cause : Failure)
  /-- The daemon cannot be reached. -/
  | connect (endpoint : String) (cause : Failure)
  /-- The request could not be sent. -/
  | send (error : FramingError)
  /-- The answer could not be read. -/
  | receive (error : FramingError)
  | closed
  /-- The daemon sent something that is no answer. -/
  | unexpectedReply (reply : String)
  | refused (command token : String)
  deriving DecidableEq, Repr

/-- The error code of a failure: the kernel's number, or `rest` when it has none. -/
def failureCode (cause : Failure) (rest : Errno) : Int :=
  -((cause.code?.getD rest.code : Nat) : Int)

def framingCode : FramingError → Int
  | .stream cause => failureCode cause .inputOutput
  | .wouldBlock => -(Errno.tryAgain.code : Int)
  | error => -(error.refusal.cause.code : Int)

namespace ClientError

/-- The text under which the error is told. -/
def message : ClientError → String
  | .resolve endpoint cause =>
    "failed to resolve daemon address " ++ endpoint ++ ": " ++ cause.message
  | .connect endpoint cause =>
    "failed to connect to daemon at " ++ endpoint ++ ": " ++ cause.message
  | .send error => "failed to send request: " ++ error.message
  | .receive error => "failed to read reply: " ++ error.message
  | .closed => "daemon closed the connection"
  | .unexpectedReply reply => "unexpected reply '" ++ reply ++ "'"
  | .refused command token => command ++ " refused: " ++ token

def code : ClientError → Int
  | .resolve _ _ => -(Errno.addressNotAvailable.code : Int)
  | .connect _ cause => failureCode cause .connectionRefused
  | .send error | .receive error => framingCode error
  | .closed => -(Errno.brokenPipe.code : Int)
  | .unexpectedReply _ => -(Errno.protocolError.code : Int)
  | .refused _ token =>
    -(((Refusal.ofToken? token).map Refusal.cause |>.getD .protocolError).code : Int)

/-- Whether the connection can carry no more requests. -/
def isFatal : ClientError → Bool
  | .refused _ token => token == Refusal.protocol.token
  | .resolve _ _ | .connect _ _ | .send _ | .receive _ | .closed | .unexpectedReply _ => true

/-- The error of an endpoint that cannot be reached. -/
def ofReach (endpoint : Endpoint) : ReachError → ClientError
  | .resolve cause => .resolve endpoint.text cause
  | .connect cause => .connect endpoint.text cause

end ClientError

/-- A connection to the daemon, and the version agreed on. -/
structure Client where
  connection : Connection
  version : Nat

namespace Client

abbrev Step (Result : Type) := Action ClientError Client Result

/-- A client that has just connected. -/
def fresh (peer : Peer) : Client :=
  ⟨Connection.fresh peer.source peer.sink, Command.defaultVersion⟩

/-- Hands over what is sealed, waiting whenever the daemon takes nothing now. -/
def flushFrom : Nat → Encoder → Sink → Except FramingError Unit × Encoder × Sink
  | 0, encoder, sink => (.ok (), encoder, sink)
  | fuel + 1, encoder, sink =>
    match encoder.flush sink with
    | (.ok _, next, after) => (.ok (), next, after)
    | (.error .wouldBlock, next, after) => flushFrom fuel next after
    | (.error error, next, after) => (.error error, next, after)

def send (fields : List String) : Step Unit := fun client =>
  let connection := client.connection
  match connection.encoder.writeRecord (Record.ofTexts fields) with
  | (.error error, encoder) =>
    (.error (.send error), { client with connection := { connection with encoder } })
  | (.ok (), encoder) =>
    let (result, flushed, sink) :=
      flushFrom (connection.sink.script.length + 1) encoder connection.sink
    (result.mapError .send,
      { client with connection := { connection with encoder := flushed, sink } })

set_option linter.unusedVariables false in
/-- Collects the records of an answer, after some rows. -/
def collect (rows : List (List String)) (connection : Connection) :
    Except ClientError Answer × Connection :=
  match found : connection.await (fun _ => false) with
  | (.error .closed, next) => (.error .closed, next)
  | (.error (.framing error), next) => (.error (.receive error), next)
  | (.ok record, next) =>
    match record.lossyTexts with
    | "string" :: row => collect (rows ++ [row]) next
    | "done" :: fields => (.ok ⟨rows, .done fields⟩, next)
    | "error" :: fields => (.ok ⟨rows, .refused (fields.headD "")⟩, next)
    | words => (.error (.unexpectedReply (spaced words)), next)
termination_by connection.workload
decreasing_by exact Connection.workload_await_lt found

def receive : Step Answer := fun client =>
  let (result, connection) := collect [] client.connection
  (result, { client with connection })

/-- Sends a request and reads its answer. -/
def ask (fields : List String) : Step Answer := do
  send fields
  receive

/-- The rows of an answer and the fields of its ending; a refusal is an error. -/
def accepted (command : String) (answer : Answer) : Step (List (List String) × List String) :=
  match answer.status with
  | .done fields => Action.answer (answer.rows, fields)
  | .refused token => Action.fail (.refused command token)

/-- The error of an ending that lacks what is asked for. -/
def unexpectedEnding (fields : List String) : ClientError :=
  .unexpectedReply (spaced ("done" :: fields))

def handshake : Step Unit := do
  let answer ← ask [Command.magic, toString Command.defaultVersion]
  let (_, fields) ← accepted Command.magic answer
  match fields.head?.bind (Text.unsigned? Text.wordBound) with
  | some version => Action.modify fun client => { client with version }
  | none => Action.fail (unexpectedEnding fields)

/-- Makes a request of which only success matters. -/
def request (fields : List String) : Step Unit := do
  let _ ← accepted (fields.headD "") (← ask fields)

def clear : Step Unit := request ["clear"]

/-- Stages the application's id. -/
def setId (id : String) : Step Unit := request ["id", id]

def addPath (path kind : String) : Step Unit := request ["path", path, kind]

def addPermission (permission : String) : Step Unit := request ["permission", permission]

def addPlug (exportDirectory importId importDirectory : String) : Step Unit :=
  request ["plug", exportDirectory, importId, importDirectory]

def install : Step Unit := request ["install"]

def uninstall : Step Unit := request ["uninstall"]

def display : Step (List (List String)) := do
  let (rows, _) ← accepted "display" (← ask ["display"])
  pure rows

/-- Asks for the log switch, turning it first when told to. -/
def log (switch : Option Bool) : Step Bool := do
  let answer ← ask ("log" :: (switch.map Command.switchWord).toList)
  let (_, fields) ← accepted "log" answer
  match fields.head? with
  | some "on" => pure true
  | some "off" => pure false
  | _ => Action.fail (unexpectedEnding fields)

end Client

end Confinement
