import Confinement.Client.Basic
import Confinement.CommandLine
import Confinement.Settings.Basic
import Confinement.Text.Blank

/-!
# Batches

The command runner: it forwards a single command given on its command line, or one command for each
line of its input, and prints the answers.  Empty lines and comments are passed over, and the
command `help` is answered without the daemon.

A refusal is printed and the batch goes on, unless it is one after which the daemon reads nothing
more.
-/

namespace Confinement.Batch

open CommandLine Host

/-- What an option of the runner gives. -/
inductive Given where
  | socket (endpoint : Endpoint)
  /-- Commands are printed before their answers. -/
  | echo
  deriving DecidableEq, Repr

def grammar : Grammar Given where
  takesCommand := true
  options :=
    [⟨"socket", some 's', .valued "SPEC" fun text =>
        ((Endpoint.parse text).mapError EndpointError.message).map .socket⟩,
      ⟨"echo", some 'e', .flag .echo⟩, ⟨"help", some 'h', .help⟩,
      ⟨"version", some 'V', .version⟩]

/-- The endpoint among the options given, or the one at which a daemon listens by itself. -/
def endpointOf : List Given → Endpoint
  | [] => Settings.standard.socket
  | .socket endpoint :: _ => endpoint
  | .echo :: rest => endpointOf rest

/-! ## Texts -/

def versionText : String := "sec-lsm-manager-cmd 0.1.0\n"

/-- The short explanation of the command line. -/
def shortHelp : String :=
  "Sends commands to the sec-lsm-manager daemon\n\n" ++
  "Usage: sec-lsm-manager-cmd [OPTIONS] [COMMAND]...\n\n" ++
  "Arguments:\n" ++
  "  [COMMAND]...  Command word followed by its arguments\n\n" ++
  "Options:\n" ++
  "  -s, --socket <SPEC>  Daemon endpoint, `unix:<path>` or `tcp:<host>:<port>` [default: " ++
  Settings.standard.socket.text ++ "]\n" ++
  "  -e, --echo           Prints each command before its replies\n" ++
  "  -h, --help           Print help (see more with '--help')\n" ++
  "  -V, --version        Print version\n"

/-- The full explanation of the command line. -/
def fullHelp : String :=
  "Sends commands to the sec-lsm-manager daemon.\n\n" ++
  "With a COMMAND, runs it once. Otherwise reads one command per line from standard input, " ++
  "skipping blank lines and `#` comments.\n\n" ++
  "Usage: sec-lsm-manager-cmd [OPTIONS] [COMMAND]...\n\n" ++
  "Arguments:\n" ++
  "  [COMMAND]...\n          Command word followed by its arguments\n\n" ++
  "Options:\n" ++
  "  -s, --socket <SPEC>\n" ++
  "          Daemon endpoint, `unix:<path>` or `tcp:<host>:<port>`\n" ++
  "          \n          [default: " ++ Settings.standard.socket.text ++ "]\n\n" ++
  "  -e, --echo\n          Prints each command before its replies\n\n" ++
  "  -h, --help\n          Print help (see a summary with '-h')\n\n" ++
  "  -V, --version\n          Print version\n"

/-- The answer to the command `help`. -/
def vocabulary : String :=
  "commands:\n" ++
  "  clear                               reset the staged application\n" ++
  "  id APP_ID                           set the application identifier\n" ++
  "  path PATH TYPE                      add a path; TYPE is one of default, conf,\n" ++
  "                                      data, exec, http, icon, id, lib, plug, public\n" ++
  "  permission PERMISSION               add a permission\n" ++
  "  plug EXPORT_DIR APP_ID IMPORT_DIR   share EXPORT_DIR with application APP_ID\n" ++
  "  install                             install the staged application\n" ++
  "  uninstall                           remove the staged application\n" ++
  "  display                             list the staged application\n" ++
  "  log [on|off]                        query or switch protocol logging\n" ++
  "  help                                print this list\n"

/-! ## Commands -/

/-- Why a batch ended early. -/
inductive BatchError where
  | client (error : ClientError)
  /-- The commands could not be read. -/
  | readInput (cause : Failure)
  /-- The answers could not be printed. -/
  | writeOutput (cause : Failure)
  deriving DecidableEq, Repr

namespace BatchError

/-- The text under which the error is told. -/
def message : BatchError → String
  | .client error => error.message
  | .readInput cause => "failed to read commands: " ++ cause.message
  | .writeOutput cause => "failed to write replies: " ++ cause.message

def code : BatchError → Int
  | .client error => error.code
  | .readInput cause | .writeOutput cause => failureCode cause .inputOutput

end BatchError

/-- What a running batch works with. -/
structure Desk where
  client : Client
  input : Source
  output : Sink

abbrev Step (Result : Type) := Action BatchError Desk Result

def print (text : String) : Step Unit := fun desk =>
  let (result, output) := desk.output.writeAll (Text.bytes text)
  (result.mapError .writeOutput, { desk with output })

/-- Prints lines in order. -/
def printLines (lines : List String) : Step Unit :=
  Action.forEach (fun line => print (line ++ "\n")) lines

def exchange {Result : Type} (step : Client.Step Result) : Step Result := fun desk =>
  let (result, client) := step desk.client
  (result.mapError .client, { desk with client })

/-- Whether words are the command that is answered without the daemon. -/
def isHelp (words : List String) : Bool := words == ["help"]

/-- Whether an answer is a success; a refusal after which nothing more is read is an error. -/
def judge (fields : List String) (answer : Answer) : Step Bool :=
  match answer.status with
  | .done _ => Action.answer true
  | .refused token =>
    let refusal := ClientError.refused (fields.headD "") token
    if refusal.isFatal then Action.fail (.client refusal) else Action.answer false

/-- Sends one command and prints its answer; whether it was carried out. -/
def forward (echo : Bool) (fields : List String) : Step Bool := do
  if echo then
    print ("> " ++ spaced fields ++ "\n")
  let answer ← exchange (Client.ask fields)
  printLines answer.lines
  judge fields answer

/-- What a line of input asks for. -/
inductive LineMeaning where
  | nothing
  | help
  | command (fields : List String)
  deriving DecidableEq, Repr

def meaning (line : String) : LineMeaning :=
  let text := Text.trim line
  if text = "" ∨ text.toList.head? = some '#' then .nothing
  else if isHelp (Text.words text) then .help
  else .command (Text.words text)

/-- Does what a line asks for. -/
def obey (echo : Bool) : LineMeaning → Step Unit
  | .nothing => Action.answer ()
  | .help => print vocabulary
  | .command fields => do
    let _ ← forward echo fields

set_option linter.unusedVariables false in
/-- Does what the lines of the input ask for, in order. -/
def runLines (echo : Bool) (source : Source) : Step Unit := fun desk =>
  match found : source.readLine with
  | (.error cause, rest) => (.error (.readInput cause), { desk with input := rest })
  | (.ok [], rest) => (.ok (), { desk with input := rest })
  | (.ok (first :: others), rest) =>
    match Text.ofBytes? (first :: others) with
    | none => (.error (.readInput .notText), { desk with input := rest })
    | some line =>
      match obey echo (meaning line) { desk with input := rest } with
      | (.ok (), next) => runLines echo rest next
      | (.error error, next) => (.error error, next)
termination_by source.left
decreasing_by
  have taken := Source.left_readLine found
  simp only [List.length_cons] at taken
  omega

/-! ## The runner -/

/-- How a run of the program ended. -/
structure Report where
  code : Nat
  output : Sink
  complaint : String
  /-- What the daemon was sent, when it was reached. -/
  sent : Option Bytes

/-- The first line of what was complained about. -/
def Report.firstLine (report : Report) : String :=
  let line := report.complaint.toList.takeWhile (· ≠ '\n')
  String.ofList (if line.getLast? = some '\r' then line.dropLast else line)

/-- The report of a text printed instead of a run. -/
def Report.ofText (output : Sink) (text : String) : Report :=
  match output.writeAll (Text.bytes text) with
  | (.ok (), next) => ⟨0, next, "", none⟩
  | (.error cause, next) => ⟨1, next, cause.message ++ "\n", none⟩

/-- The report of a command line that was not understood; the two requests are answered. -/
def Report.ofUsage (output : Sink) : UsageError → Report
  | .help full =>
    ⟨0, (output.writeAll (Text.bytes (if full then fullHelp else shortHelp))).2, "", none⟩
  | .version => ⟨0, (output.writeAll (Text.bytes versionText)).2, "", none⟩
  | error => ⟨2, output, error.message, none⟩

/-- The report of a batch or of a single command that ended. -/
def Report.ofOutcome (desk : Desk) : Except BatchError Bool → Report
  | .ok success =>
    ⟨if success then 0 else 1, desk.output, "", some desk.client.connection.sink.accepted⟩
  | .error error =>
    ⟨1, desk.output, error.message ++ " (" ++ toString error.code ++ ")\n",
      some desk.client.connection.sink.accepted⟩

/-- Does what a command line asks for with a client that is connected. -/
def serve (echo : Bool) (command : List String) (desk : Desk) : Report :=
  if command.isEmpty then
    let (result, last) := runLines echo desk.input desk
    Report.ofOutcome last (result.map fun _ => true)
  else
    let (result, last) := forward echo command desk
    Report.ofOutcome last result

/-- Runs the program with the words of its command line. -/
def run (words : List String) (reach : Endpoint → Except ReachError Peer) (input : Source)
    (output : Sink) : Report :=
  match grammar.read words with
  | .error error => Report.ofUsage output error
  | .ok parsed =>
    if isHelp parsed.command then
      Report.ofText output vocabulary
    else
      let endpoint := endpointOf parsed.items
      match reach endpoint with
      | .error error => ⟨1, output, (ClientError.ofReach endpoint error).message ++ "\n", none⟩
      | .ok peer =>
        match Client.handshake (Client.fresh peer) with
        | (.error error, client) =>
          ⟨1, output, error.message ++ "\n", some client.connection.sink.accepted⟩
        | (.ok (), client) =>
          serve (parsed.items.contains .echo) parsed.command ⟨client, input, output⟩

end Confinement.Batch
