import Confinement.Client.Batch
import Confinement.Daemon.Backends
import Confinement.Daemon.Launch

/-!
# The program

With `serve` as its first word the program is a daemon with a single client, the one at its standard
input and output; the other words are the daemon's options.  Otherwise it is the command runner.

The machine on which it works is a model: what a session grants and labels lasts as long as the
program does, and no other machine is within reach.
-/

namespace Confinement.Main

open Host Policy

def variableName (option : String) : String :=
  Settings.Environment.commonStart ++
    String.ofList (option.toList.map fun c => if c = '-' then '_' else c.toUpper)

/-- The environment variables that settings can come from. -/
def readEnvironment : IO (List (String × String)) :=
  Settings.grammar.options.filterMapM fun option => do
    let name := variableName option.long
    return (← IO.getEnv name).map (name, ·)

/-- The file tree with the file at a path, if it can be read. -/
def plant (tree : FileTree) (path : String) : IO FileTree := do
  try
    let content ← IO.FS.readBinFile path
    let parents := (Path.parent? path).elim [] fun parent => [Planting.directory parent]
    return (parents ++ [Planting.file path content.toList]).foldl FileTree.plant tree
  catch _ =>
    return tree

/-- Loads the settings of the daemon from its options, the environment and the files they name. -/
def load (options : List String) : IO (Except Settings.LoadError Settings) := do
  let found ← readEnvironment
  let tree ← (Settings.namedFiles options found).foldlM plant FileTree.empty
  return Settings.load options found tree

/-- Answers what a client sends until there is no more or the session is over. -/
partial def converse (environment : Environment Machine) (input output : IO.FS.Stream)
    (session : Session) (shared : Shared Machine) : IO Unit := do
  let data ← input.read 4096
  if data.isEmpty then
    return
  let (result, next, _, sink, after) :=
    Session.deliver environment session data.toList shared
  output.write ⟨sink.accepted.toArray⟩
  output.flush
  if result.isOk && next.isOpen then
    converse environment input output next after

/-- Serves the client at standard input and output. -/
def serve (options : List String) : IO UInt32 := do
  let loaded ← load options
  let judged : Except BootstrapError Settings := do
    let settings ← loaded.mapError .settings
    Bootstrap.checkClients settings
    Bootstrap.checkFilter settings
    return settings
  match judged with
  | .error error =>
    let (code, complaint) := Launch.report (.error (.bootstrap error))
    IO.eprint complaint
    return code.toUInt32
  | .ok settings =>
    converse (hostEnvironment settings) (← IO.getStdin) (← IO.getStdout)
      (Session.fresh settings.allowEmptyRecords)
      { world := Machine.ofSettings settings FileTree.empty .isolated }
    return 0

/-- Runs the command runner. -/
def command (words : List String) : IO UInt32 := do
  let reach (endpoint : Endpoint) : Except ReachError Peer :=
    (endpoint.reach FileTree.empty .isolated).map fun _ => { source := [] }
  let report := Batch.run words reach [] {}
  (← IO.getStdout).write ⟨report.output.accepted.toArray⟩
  IO.eprint report.complaint
  return report.code.toUInt32

end Confinement.Main

def main (words : List String) : IO UInt32 :=
  match words with
  | "serve" :: options => Confinement.Main.serve options
  | _ => Confinement.Main.command words
