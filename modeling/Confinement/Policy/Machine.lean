import Confinement.Policy.Cynagora
import Confinement.Policy.Memory
import Confinement.Policy.Selinux
import Confinement.Policy.Simulated
import Confinement.Policy.Smack
import Confinement.Settings.Selector

/-!
# Machines

A `Machine` is a world in which every backend of this library can run: a file tree, permissions in
memory, a client of the permission service, and answers prepared for backends that are played by a
script.  It keeps a list of the calls made, in the order in which they are made or return.

`StoreChoice` and `LabellerChoice` say which backends are used.
-/

namespace Confinement.Policy

open Host Staging

/-- One prepared answer. -/
inductive Prepared where
  /-- The call succeeds; a check answers with the flag. -/
  | success (flag : Bool)
  | failure (error : BackendError)
  deriving DecidableEq, Repr

/-- Prepared answers for each kind of call, used one per call. -/
structure Script where
  /-- For permission checks; afterwards they are denied. -/
  checks : List Prepared := []
  adds : List Prepared := []
  drops : List Prepared := []
  installs : List Prepared := []
  uninstalls : List Prepared := []
  attributes : List Prepared := []
  programs : List Prepared := []
  deriving Repr

/-- One call of a backend, with its result where it has one. -/
inductive BackendCall where
  | check (label permission : String) (result : Except BackendError Bool)
  | add (label : String) (permissions : List String) (replace : Bool)
    (result : Except BackendError Unit)
  | drop (label : String) (result : Except BackendError Unit)
  | install (result : Except BackendError Unit)
  | uninstall (result : Except BackendError Unit)
  | attribute (path name : String) (value : Bytes)
  | run (program : String) (arguments : List String) (directory : String)

/-- A world for every backend. -/
structure Machine where
  files : FileTree
  grants : Grants := Grants.empty
  installed : TextSet := TextSet.empty
  agent : Cynagora.Agent := Cynagora.Agent.ofPeers "unix:cynagora.sock" []
  script : Script := {}
  /-- The calls made so far. -/
  calls : List BackendCall := []

namespace Machine

def filesPart : Part Machine FileTree := ⟨files, fun files machine => { machine with files }⟩

/-- The permissions that a machine keeps in memory. -/
def grantsPart : Part Machine Grants := ⟨grants, fun grants machine => { machine with grants }⟩

/-- The applications that a machine has set up in simulation. -/
def installedPart : Part Machine TextSet :=
  ⟨installed, fun installed machine => { machine with installed }⟩

/-- A machine's client of the permission service. -/
def agentPart : Part Machine Cynagora.Agent := ⟨agent, fun agent machine => { machine with agent }⟩

def note (machine : Machine) (call : BackendCall) : Machine :=
  { machine with calls := machine.calls ++ [call] }

/-- A machine without the calls noted so far. -/
def forget (machine : Machine) : Machine := { machine with calls := [] }

end Machine

/-- The result of a call whose answer is prepared; without one it succeeds with `rest`. -/
def Prepared.result (rest : Bool) : Option Prepared → Except BackendError Bool
  | some (.success flag) => .ok flag
  | some (.failure error) => .error error
  | none => .ok rest

/-- The next prepared answer of one kind. -/
def nextPrepared (answers : Script → List Prepared) (use : Script → Script) :
    Call Machine Unit := fun machine =>
  let result := Prepared.result true (answers machine.script).head?
  (result.map (fun _ => ()), { machine with script := use machine.script })

/-- The store whose answers are prepared. -/
def scriptedStore : PermissionStore Machine where
  name := "scripted"
  check _ _ := fun machine =>
    (Prepared.result false machine.script.checks.head?,
      { machine with script := { machine.script with checks := machine.script.checks.drop 1 } })
  add _ _ _ := nextPrepared Script.adds fun script => { script with adds := script.adds.drop 1 }
  drop _ := nextPrepared Script.drops fun script => { script with drops := script.drops.drop 1 }

/-- The labeller whose answers are prepared. -/
def scriptedLabeller : Labeller Machine where
  name := "scripted"
  label id := "Label:" ++ id
  install _ := nextPrepared Script.installs fun script =>
    { script with installs := script.installs.drop 1 }
  uninstall _ := nextPrepared Script.uninstalls fun script =>
    { script with uninstalls := script.uninstalls.drop 1 }

/-- Sets an attribute as prepared; a failure is told in the words of its error. -/
def scriptedAttribute (path name : String) (value : Bytes) (machine : Machine) :
    Except Failure Unit × Machine :=
  let noted := machine.note (.attribute path name value)
  let (result, next) := nextPrepared Script.attributes
    (fun script => { script with attributes := script.attributes.drop 1 }) noted
  (result.mapError (fun error => .told error.message), next)

def scriptedRun (program : String) (arguments : List String) (directory : String) :
    Call Machine Unit := fun machine =>
  nextPrepared Script.programs (fun script => { script with programs := script.programs.drop 1 })
    (machine.note (.run program arguments directory))

/-- The labeller by rules, with its files below the working directory. -/
def machineSmack : Smack Machine where
  rulesDirectory := "policy/smack"
  mount := "smackfs"
  files := Machine.filesPart
  setAttribute := scriptedAttribute

/-- The labeller by modules, with its files below the working directory. -/
def machineSelinux : Selinux Machine where
  modulesDirectory := "policy/selinux"
  files := Machine.filesPart
  run := scriptedRun

/-- A permission store to be used. -/
inductive StoreChoice where
  | memory
  | cynagora
  | scripted
  deriving DecidableEq, Repr

/-- A labeller to be used. -/
inductive LabellerChoice where
  | simulated
  | smack
  | selinux
  | scripted
  deriving DecidableEq, Repr

/-- The labeller that a setting names; without a kernel to ask, `auto` is the simulation. -/
def LabellerChoice.ofKind : Settings.LabellerKind → LabellerChoice
  | .smack => .smack
  | .selinux => .selinux
  | .simulate | .auto => .simulated

def StoreChoice.store : StoreChoice → PermissionStore Machine
  | .memory => memoryStore Machine.grantsPart
  | .cynagora => cynagoraStore Machine.agentPart
  | .scripted => scriptedStore

def LabellerChoice.labeller : LabellerChoice → Labeller Machine
  | .simulated => simulatedLabeller Machine.installedPart
  | .smack => machineSmack.labeller
  | .selinux => machineSelinux.labeller
  | .scripted => scriptedLabeller

/-- A call that is noted with its result when it returns. -/
def noted {Result : Type} (note : Except BackendError Result → BackendCall)
    (call : Call Machine Result) : Call Machine Result := fun machine =>
  let (result, next) := call machine
  (result, next.note (note result))

/-- A store whose calls are noted. -/
def PermissionStore.noted (store : PermissionStore Machine) : PermissionStore Machine where
  name := store.name
  check label permission := Policy.noted (.check label permission) (store.check label permission)
  add label permissions replace :=
    Policy.noted (.add label permissions.items replace) (store.add label permissions replace)
  drop label := Policy.noted (.drop label) (store.drop label)

/-- A labeller whose calls are noted. -/
def Labeller.noted (labeller : Labeller Machine) : Labeller Machine where
  name := labeller.name
  label := labeller.label
  install context := Policy.noted .install (labeller.install context)
  uninstall context := Policy.noted .uninstall (labeller.uninstall context)

/-- The environment of a machine with the chosen backends, their calls noted. -/
def machineEnvironment (store : StoreChoice) (labeller : LabellerChoice) :
    Environment Machine where
  store := store.store.noted
  labeller := labeller.labeller.noted
  inspect machine := machine.files.stat

end Confinement.Policy
