import Confinement.CommandLine
import Confinement.Settings.Environment
import Confinement.Settings.Selector
import Confinement.Settings.Source

/-!
# Settings

What a daemon can be told.  Settings come in four layers, each above the next: the command line, the
environment, a configuration file, and the standard settings.  `Settings.load` puts the layers
over one another and reads every field from the result.
-/

namespace Confinement

open CommandLine Host Settings

/-- What a daemon is told. -/
structure Settings where
  socket : Endpoint
  logFilter : String
  logFormat : LogFormat
  /-- The seconds after which a silent client is let go; zero never lets it go. -/
  idleTimeout : Nat
  maxClients : Nat
  /-- The account that the daemon switches to. -/
  user : Option String
  /-- The group that the daemon switches to. -/
  group : Option String
  labeller : LabellerKind
  store : StoreKind
  cynagoraSocket : Endpoint
  policyDirectory : String
  /-- Whether an empty record is a record. -/
  allowEmptyRecords : Bool
  deriving DecidableEq, Repr

namespace Settings

/-- The settings of a daemon that is told nothing. -/
def standard : Settings where
  socket := .unix "/run/sec-lsm-manager/sec-lsm-manager.socket"
  logFilter := "info"
  logFormat := .json
  idleTimeout := 0
  maxClients := 3
  user := none
  group := none
  labeller := .auto
  store := .cynagora
  cynagoraSocket := .unix "/var/run/cynagora/cynagora.admin"
  policyDirectory := "/var/lib/sec-lsm-manager"
  allowEmptyRecords := false

/-- The seconds after which a silent client is let go, if ever. -/
def idleSeconds? (settings : Settings) : Option Nat :=
  if settings.idleTimeout = 0 then none else some settings.idleTimeout

/-- The layer that spells out settings. -/
def layer (settings : Settings) : Value :=
  .table <|
    [("socket", .text settings.socket.text), ("log_filter", .text settings.logFilter),
      ("log_format", .text settings.logFormat.word),
      ("idle_timeout", .natural settings.idleTimeout),
      ("max_clients", .natural settings.maxClients)] ++
    settings.user.toList.map (fun name => ("user", .text name)) ++
    settings.group.toList.map (fun name => ("group", .text name)) ++
    [("mac_backend", .text settings.labeller.word),
      ("permission_backend", .text settings.store.word),
      ("cynagora_socket", .text settings.cynagoraSocket.text),
      ("policy_dir", .text settings.policyDirectory),
      ("allow_empty_records", .bool settings.allowEmptyRecords)]

/-- A choice by its exact word, which may also be the only key of a table and stand for nothing. -/
def choice? {Choice : Type} (word : Choice → String) (all : List Choice) : Value → Option Choice
  | .text text => stored? word all text
  | .table [(key, .null)] => stored? word all key
  | _ => none

/-- A text that may be left out. -/
def optionalText? : Option Value → Option (Option String)
  | none | some .null => some none
  | some value => value.asText?.map some

/-- The settings that a joined layer spells, when every field has a fitting value. -/
def ofValue? (value : Value) : Option Settings := do
  let field := Value.lookup? value.entries
  let endpoint (name : String) : Option Endpoint :=
    (field name).bind fun value => (endpointOfValue value).toOption
  some {
    socket := ← endpoint "socket"
    logFilter := ← (field "log_filter").bind Value.asText?
    logFormat := ← (field "log_format").bind (choice? LogFormat.word LogFormat.all)
    idleTimeout := ← (field "idle_timeout").bind (Value.asNat? Text.longBound)
    maxClients := ← (field "max_clients").bind (Value.asNat? Text.longBound)
    user := ← optionalText? (field "user")
    group := ← optionalText? (field "group")
    labeller := ← (field "mac_backend").bind (choice? LabellerKind.word LabellerKind.all)
    store := ← (field "permission_backend").bind (choice? StoreKind.word StoreKind.all)
    cynagoraSocket := ← endpoint "cynagora_socket"
    policyDirectory := ← (field "policy_dir").bind Value.asText?
    allowEmptyRecords := ← (field "allow_empty_records").bind Value.asBool? }

/-! ## The command line -/

/-- What an option of the daemon gives. -/
inductive Given where
  | file (path : String)
  | field (name : String) (value : Value)

def readText (name text : String) : Except String Given := .ok (.field name (.text text))

/-- A setting that is an endpoint, told in its text form. -/
def readEndpoint (name text : String) : Except String Given :=
  match Endpoint.parse text with
  | .ok endpoint => .ok (.field name (.text endpoint.text))
  | .error error => .error error.message

def readNumber (name text : String) : Except String Given :=
  match Text.unsigned? Text.longBound text with
  | some value => .ok (.field name (.natural value))
  | none => .error "invalid number"

/-- A setting that is a choice, in any case. -/
def readChoice {Choice : Type} (word : Choice → String) (all : List Choice) (name text : String) :
    Except String Given :=
  match typed? word all text with
  | some choice => .ok (.field name (.text (word choice)))
  | none => .error "Matching variant not found"

def readPath (text : String) : Except String Given :=
  if text = "" then .error "a value is required" else .ok (.file text)

def grammar : Grammar Given where
  takesCommand := false
  options :=
    [⟨"config-path", none, .valued "PATH" readPath⟩,
      ⟨"socket", some 's', .valued "SOCKET" (readEndpoint "socket")⟩,
      ⟨"log-filter", none, .valued "LOG_FILTER" (readText "log_filter")⟩,
      ⟨"log-format", none,
        .valued "LOG_FORMAT" (readChoice LogFormat.word LogFormat.all "log_format")⟩,
      ⟨"idle-timeout", some 't', .valued "IDLE_TIMEOUT" (readNumber "idle_timeout")⟩,
      ⟨"max-clients", none, .valued "MAX_CLIENTS" (readNumber "max_clients")⟩,
      ⟨"user", some 'u', .valued "USER" (readText "user")⟩,
      ⟨"group", some 'g', .valued "GROUP" (readText "group")⟩,
      ⟨"mac-backend", none,
        .valued "MAC_BACKEND" (readChoice LabellerKind.word LabellerKind.all "mac_backend")⟩,
      ⟨"permission-backend", none,
        .valued "PERMISSION_BACKEND"
          (readChoice StoreKind.word StoreKind.all "permission_backend")⟩,
      ⟨"cynagora-socket", none,
        .valued "CYNAGORA_SOCKET" (readEndpoint "cynagora_socket")⟩,
      ⟨"policy-dir", none, .valued "POLICY_DIR" (readText "policy_dir")⟩,
      ⟨"allow-empty-records", none, .flag (.field "allow_empty_records" (.bool true))⟩,
      ⟨"help", some 'h', .help⟩]

/-- The settings among the options given. -/
def givenFields : List Given → List (String × Value)
  | [] => []
  | .field name value :: rest => (name, value) :: givenFields rest
  | .file _ :: rest => givenFields rest

/-- The configuration file named by the options given. -/
def givenFile? : List Given → Option String
  | [] => none
  | .file path :: _ => some path
  | .field _ _ :: rest => givenFile? rest

/-- The layer of a command line.  The flag is always told: it is off when it is not given. -/
def commandLayer (given : List Given) : Value :=
  .table <| (givenFields given).foldl (fun entries entry => Value.put entry.1 entry.2 entries)
    [("allow_empty_records", .bool false)]

/-! ## Loading -/

/-- Why settings could not be loaded. -/
inductive LoadError where
  | commandLine (error : UsageError)
  | file
  | cyclicFile
  /-- A setting has a value that does not fit it. -/
  | merge
  | several
  deriving DecidableEq, Repr

def LoadError.ofSource : SourceFault → LoadError
  | .unreadable => .file
  | .cyclic => .cyclicFile
  | .misfit => .merge

/-- The name of the variable that holds the path of the configuration file, after the start. -/
def fileVariable : String := "CONFIG_PATH"

/-- The path of the configuration file in the environment. -/
def fileInEnvironment? (environment : List (String × String)) : Option String :=
  (environment.lookup (Environment.commonStart ++ fileVariable)).filter (· ≠ "")

/-- The configuration file that is looked for in the working directory. -/
def commonFile : String := ".sec_lsm_manager.toml"

/-- The files that are looked for when the command line names none. -/
def optionalFiles (environment : List (String × String)) : List String :=
  (fileInEnvironment? environment).toList ++ [commonFile]

def namedFiles (words : List String) (environment : List (String × String)) : List String :=
  (givenFile? (((grammar.read words).toOption.map Parsed.items).getD [])).toList ++
    optionalFiles environment

/-- The standard settings with layers over them, the last one uppermost. -/
def joined (layers : List Value) : Value := layers.foldl Value.overlay standard.layer

/-- The faults of some steps, told as one. -/
def LoadError.ofFaults : List LoadError → Option LoadError
  | [] => none
  | [fault] => some fault
  | _ :: _ :: _ => some .several

/-- Whether two values are the same text, number or truth value. -/
def isSame : Value → Value → Bool
  | .text left, .text right => left == right
  | .natural left, .natural right => left == right
  | .bool left, .bool right => left == right
  | _, _ => false

/-- Whether a command line says nothing but every standard setting. -/
def repeatsStandard (given : List Given) : Bool :=
  let told := (commandLayer given).entries
  let expected := standard.layer.entries
  (givenFile? given).isNone && told.all (fun entry => (Value.lookup? expected entry.1).isSome) &&
    expected.all fun entry => (Value.lookup? told entry.1).any (isSame entry.2)

/-- The layer of the options given; options that say nothing new do not count. -/
def givenLayer (given : List Given) : Value :=
  if repeatsStandard given then .table [] else commandLayer given

/--
Loads settings from the words of a command line, environment variables and configuration files.  A
layer that is at fault is left out, so that the other layers are still judged.
-/
def load (words : List String) (environment : List (String × String)) (tree : FileTree) :
    Except LoadError Settings :=
  let command := grammar.read words
  let items := (command.toOption.map Parsed.items).getD []
  let search := Source.search tree (givenFile? items) (optionalFiles environment)
  let settings := ofValue? <| joined
    [search.found.getD (.table []), Environment.layer environment,
      (command.toOption.map fun _ => givenLayer items).getD (.table [])]
  let faults := (match command with | .ok _ => [] | .error error => [.commandLine error]) ++
    search.faults.map LoadError.ofSource ++
    (match settings with | some _ => [] | none => [.merge])
  match settings, LoadError.ofFaults faults with
  | some settings, none => .ok settings
  | _, some error => .error error
  | none, none => .error .merge

end Settings

end Confinement
