import Confinement.Policy.Backend

/-!
# Install and uninstall

Committing a context touches two services that know nothing of each other.  `install` checks every
plug, grants the permissions and then sets up access control; when that last step fails, the grants
are taken back.  `uninstall` takes back the grants and then the access control, and restores
nothing.
-/

namespace Confinement.Policy

open Staging Wire

/-- Why a context was not committed or retracted. -/
inductive TransactionError where
  /-- The context is latched and must be cleared first. -/
  | latched
  | missingId
  /-- The application does not declare the permission to export to another. -/
  | plugForbidden (id importId required : String)
  | permission (error : BackendError)
  | labelling (error : BackendError)
  deriving DecidableEq, Repr

namespace TransactionError

/-- The text under which the error is told. -/
def message : TransactionError → String
  | .latched => "context is in its error state; clear it first"
  | .missingId => "an application id is required"
  | .plugForbidden id importId required =>
    "'" ++ id ++ "' lacks permission '" ++ required ++ "' to export to '" ++ importId ++ "'"
  | .permission error => "permission backend failed: " ++ error.message
  | .labelling error => "MAC backend failed: " ++ error.message

/-- The class reported to the client. -/
def refusal : TransactionError → Refusal
  | .latched => .unrecoverable
  | .missingId => .invalidArgument
  | .plugForbidden _ _ _ => .accessDenied
  | .permission error | .labelling error => error.refusal

end TransactionError

/-- The permission by which an application accepts plugs from everyone. -/
def publicPlugs : String := "urn:redpesk:permission::public:plugs"

/-- The permission that an application needs to export, to everyone or to partners. -/
def exportPermission (id : String) (isPublic : Bool) : String :=
  "urn:redpesk:permission:" ++ id ++ ":" ++ (if isPublic then "public" else "partner") ++
    ":export:plug"

variable {World : Type}

/-- How a step of a transaction ended, and the world it left. -/
abbrev Outcome (World : Type) := Except TransactionError Unit × World

/-- Why a context cannot be committed or retracted at all, if so. -/
def unready? (context : Context) : Option TransactionError :=
  if context.latched then some .latched
  else if context.needsId && context.id.isNone then some .missingId
  else none

/-- Checks that an application may export to the importer of a plug. -/
def checkPlug (environment : Environment World) (context : Context) (id : String) (plug : Plug)
    (world : World) : Outcome World :=
  match environment.store.check (environment.labeller.label plug.importId) publicPlugs world with
  | (.error error, next) => (.error (.permission error), next)
  | (.ok isPublic, next) =>
    let required := exportPermission id isPublic
    if required ∈ context.permissions then (.ok (), next)
    else (.error (.plugForbidden id plug.importId required), next)

/-- Checks every plug, also after a failure, and answers with the first failure. -/
def checkPlugs (environment : Environment World) (context : Context) (id : String) :
    List Plug → World → Outcome World
  | [], world => (.ok (), world)
  | plug :: rest, world =>
    let (first, next) := checkPlug environment context id plug world
    let (others, last) := checkPlugs environment context id rest next
    match first with
    | .error error => (.error error, last)
    | .ok () => (others, last)

/-- Sets up access control; when that fails, `undo` is done and its result does not count. -/
def installLabels (environment : Environment World) (context : Context) (undo : World → World)
    (world : World) : Outcome World :=
  match environment.labeller.install context world with
  | (.ok (), next) => (.ok (), next)
  | (.error error, next) => (.error (.labelling error), undo next)

def install (environment : Environment World) (context : Context) (world : World) :
    Outcome World :=
  match unready? context with
  | some error => (.error error, world)
  | none =>
    match context.id with
    | none => installLabels environment context (fun next => next) world
    | some id =>
      match checkPlugs environment context id context.plugs world with
      | (.error error, next) => (.error error, next)
      | (.ok (), next) =>
        let label := environment.labeller.label id
        match environment.store.add label context.permissions true next with
        | (.error error, after) => (.error (.permission error), after)
        | (.ok (), after) =>
          installLabels environment context (fun last => (environment.store.drop label last).2)
            after

/-- Takes back the access control of a context. -/
def uninstallLabels (environment : Environment World) (context : Context) (world : World) :
    Outcome World :=
  match environment.labeller.uninstall context world with
  | (.ok (), next) => (.ok (), next)
  | (.error error, next) => (.error (.labelling error), next)

def uninstall (environment : Environment World) (context : Context) (world : World) :
    Outcome World :=
  match unready? context with
  | some error => (.error error, world)
  | none =>
    match context.id with
    | none => uninstallLabels environment context world
    | some id =>
      match environment.store.drop (environment.labeller.label id) world with
      | (.error error, next) => (.error (.permission error), next)
      | (.ok (), next) => uninstallLabels environment context next

end Confinement.Policy
