import Confinement.Daemon.LogFilter
import Confinement.Policy.Machine
import Confinement.Server.Listener
import Confinement.Server.Pool
import Confinement.Settings.Basic

/-!
# Starting a daemon

`Bootstrap.run` takes the steps from settings to a claimed endpoint: it judges the settings and the
log filter, makes the directory of the socket file, chooses the backends and claims the endpoint.
The first step that fails ends it.  What has been reached is noted as a list of events.
-/

namespace Confinement

open Host Policy

/-- Why a daemon did not start. -/
inductive BootstrapError where
  /-- The settings could not be loaded. -/
  | settings (error : Settings.LoadError)
  /-- There would be no room for any client. -/
  | noClients
  | logFilter (fault : LogFilter.Fault)
  /-- The directory of the socket file could not be made. -/
  | prepare (error : PreparationError)
  /-- The endpoint could not be claimed. -/
  | listen (error : ListenerError)
  deriving DecidableEq, Repr

/-- The text under which the error is told; what is wrong with settings is told elsewhere. -/
def BootstrapError.message : BootstrapError → String
  | .settings _ => "failed to load configuration"
  | .noClients => "max_clients must be at least 1, got 0"
  | .logFilter fault => "failed to initialise telemetry: invalid log filter: " ++ fault.message
  | .prepare error => "failed to prepare daemon socket: " ++ error.message
  | .listen error => "failed to bind daemon socket: " ++ error.message

/-- What is told of a daemon's life. -/
inductive LifeEvent where
  | starting
  | backends (store labeller : String)
  | succeeded (endpoint : Endpoint)
  /-- It did not start. -/
  | failed (error : BootstrapError)
  | stopped (reason : StopReason)
  deriving DecidableEq, Repr

/-- Where a daemon is started: the file system, and what has been told so far. -/
structure Site where
  files : FileTree
  /-- The events told so far. -/
  events : List LifeEvent := []

namespace Bootstrap

abbrev Step (Result : Type) := Action BootstrapError Site Result

def tell (event : LifeEvent) : Step Unit :=
  Action.modify fun site => { site with events := site.events ++ [event] }

/-- A step that only judges. -/
def judge {Result : Type} (result : Except BootstrapError Result) : Step Result := fun site =>
  (result, site)

/-- A step that works on the file system. -/
def onFiles {Error : Type} (wrap : Error → BootstrapError)
    (work : FileTree → Except Error Unit × FileTree) : Step Unit := fun site =>
  let (result, files) := work site.files
  (result.mapError wrap, { site with files })

/-- Judges the number of clients. -/
def checkClients (settings : Settings) : Except BootstrapError Unit :=
  if settings.maxClients = 0 then .error .noClients else .ok ()

def checkFilter (settings : Settings) : Except BootstrapError Unit :=
  match LogFilter.fault? settings.logFilter with
  | some fault => .error (.logFilter fault)
  | none => .ok ()

/-- The name of the labeller that settings choose. -/
def labellerName (settings : Settings) : String :=
  (LabellerChoice.ofKind settings.labeller).labeller.name

/-- The steps of the start; the log filter is judged unless the log is set up already. -/
def prepare (logReady : Bool) (network : Network)
    (loaded : Except Settings.LoadError Settings) : Step Settings := do
  let settings ← judge (loaded.mapError .settings)
  judge (checkClients settings)
  judge (if logReady then .ok () else checkFilter settings)
  onFiles .prepare settings.socket.prepare
  tell (.backends settings.store.word (labellerName settings))
  onFiles .listen (Listener.bind settings.socket network)
  pure settings

/-- Starts a daemon, telling how it goes. -/
def run (logReady : Bool) (network : Network) (loaded : Except Settings.LoadError Settings) :
    Step Settings := do
  tell .starting
  fun site =>
    match prepare logReady network loaded site with
    | (.ok settings, next) =>
      (.ok settings, { next with events := next.events ++ [.succeeded settings.socket] })
    | (.error error, next) =>
      (.error error, { next with events := next.events ++ [.failed error] })

end Bootstrap

end Confinement
