import Confinement.Host.Attribute
import Confinement.Host.Network
import Confinement.Policy.Machine
import Confinement.Server.Guests
import Confinement.Settings.Basic

/-!
# The backends of a daemon

The backends that settings choose, working on the machine itself: attributes are set and programs
are run, and the permission service is looked for at its endpoint.
-/

namespace Confinement

open Host Policy

namespace Policy

/-- Where the kernel's rule interface is mounted. -/
def ruleMount : String := "/sys/fs/smackfs"

/-- The labeller by rules that settings choose. -/
def hostSmack (settings : Settings) : Smack Machine where
  rulesDirectory := Path.join settings.policyDirectory "smack"
  mount := ruleMount
  files := Machine.filesPart
  setAttribute path name value machine := (setAttribute machine.files path name value, machine)

/-- The labeller by modules that settings choose. -/
def hostSelinux (settings : Settings) : Selinux Machine where
  modulesDirectory := Path.join settings.policyDirectory "selinux"
  files := Machine.filesPart
  run program arguments directory :=
    Machine.filesPart.call (Selinux.runProgram program arguments directory)

def hostLabeller (settings : Settings) : Labeller Machine :=
  match settings.labeller with
  | .smack => (hostSmack settings).labeller
  | .selinux => (hostSelinux settings).labeller
  | .simulate | .auto => LabellerChoice.simulated.labeller

/-- The permission store that settings choose. -/
def hostStore (settings : Settings) : PermissionStore Machine :=
  match settings.store with
  | .cynagora => StoreChoice.cynagora.store
  | .memory => StoreChoice.memory.store

/-- The environment that settings choose. -/
def hostEnvironment (settings : Settings) : Environment Machine where
  store := hostStore settings
  labeller := hostLabeller settings
  inspect machine := machine.files.stat

/-- Why the permission service cannot be reached, if so. -/
def serviceFailure? (files : FileTree) (network : Network) : Endpoint → Option Failure
  | .unix path =>
    match files.connectSocket path with
    | .ok () => none
    | .error cause => some cause
  | .tcp host port =>
    match network.resolve host with
    | .error cause => some cause
    | .ok none => some (.told ("no address resolved for " ++ host ++ ":" ++ toString port))
    | .ok (some address) =>
      match network.connect address port with
      | .ok () => none
      | .error cause => some cause

/-- The machine on which a daemon with the given settings works. -/
def Machine.ofSettings (settings : Settings) (files : FileTree) (network : Network) : Machine :=
  let endpoint := settings.cynagoraSocket
  { files
    agent :=
      match serviceFailure? files network endpoint with
      | some cause => .unreachableAt endpoint.text cause
      | none => .ofPeers endpoint.text [] }

end Policy

/-- How the server of a daemon works. -/
def Settings.serverOptions (settings : Settings) : ServerOptions where
  maxClients := settings.maxClients
  idleTimeout := settings.idleSeconds?
  allowEmptyRecords := settings.allowEmptyRecords

def Settings.serveGuests (settings : Settings) (network : Network) (guests : List Guest)
    (files : FileTree) : Verdict × Pool Machine :=
  Guest.serveAll (hostEnvironment settings) guests
    { options := settings.serverOptions
      shared := { world := Machine.ofSettings settings files network } }

end Confinement
