import Confinement.Daemon.Account
import Confinement.Daemon.Bootstrap

/-!
# The life of a daemon

`Launch.run` starts a daemon, gives up the rights it was started with, and serves until it stops.
Once the endpoint is claimed, every way out tries to remove the socket file again; by then the
daemon may have become somebody who must not.
-/

namespace Confinement

open Host

/-- Why a daemon ended without having been stopped. -/
inductive LaunchError where
  /-- It did not start. -/
  | bootstrap (error : BootstrapError)
  /-- Its rights could not be given up. -/
  | account (error : AccountError)
  /-- It could not go on serving. -/
  | listener (error : ListenerError)
  deriving DecidableEq, Repr

/-- The text under which the error is told. -/
def LaunchError.message : LaunchError → String
  | .bootstrap error => "daemon bootstrap failed: " ++ error.message
  | .account error => "failed to drop privileges: " ++ error.message
  | .listener error => "daemon socket listener failed: " ++ error.message

namespace Launch

/-- A step in the life of a daemon. -/
abbrev Step (Result : Type) := Action LaunchError Site Result

/-- What serving comes to, given the settings and the file system, which it may change. -/
abbrev Serving := Settings → FileTree → Except Errno StopReason × FileTree

def cleanup (settings : Settings) (site : Site) : Site :=
  { site with files := Listener.cleanup settings.socket site.files }

/-- Serves, and then cleans up whatever comes of it. -/
def serve (serving : Serving) (settings : Settings) : Step StopReason := fun site =>
  let (result, files) := serving settings site.files
  let next := cleanup settings { site with files }
  match result with
  | .ok reason => (.ok reason, { next with events := next.events ++ [.stopped reason] })
  | .error cause => (.error (.listener (.wait (.poll cause))), next)

/-- Gives up rights, and cleans up when that fails; the rest is done with those that are left. -/
def dropRights (accounts : Accounts) (settings : Settings) : Step Unit := fun site =>
  let (result, reached) := accounts.drop settings.user settings.group site.files.actor
  let next := { site with files := site.files.as reached }
  match result with
  | .ok () => (.ok (), next)
  | .error error => (.error (.account error), cleanup settings next)

def start (logReady : Bool) (network : Network) (loaded : Except Settings.LoadError Settings) :
    Step Settings := fun site =>
  let (result, next) := Bootstrap.run logReady network loaded site
  (result.mapError .bootstrap, next)

/-- The life of a daemon. -/
def run (logReady : Bool) (network : Network) (accounts : Accounts) (serving : Serving)
    (loaded : Except Settings.LoadError Settings) : Step StopReason := do
  let settings ← start logReady network loaded
  dropRights accounts settings
  serve serving settings

def brokenOff : Nat := 101

/-- The exit code of a daemon, and its last words; one that breaks off has none. -/
def report : Except LaunchError StopReason → Nat × String
  | .ok _ => (0, "")
  | .error (.bootstrap (.logFilter .torn)) => (brokenOff, "")
  | .error error => (1, "sec-lsm-managerd: " ++ error.message ++ "\n")

end Launch

end Confinement
