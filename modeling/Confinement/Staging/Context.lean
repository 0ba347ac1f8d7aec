import Confinement.Action
import Confinement.Text.Blank
import Confinement.Text.Set
import Confinement.Host.Failure
import Confinement.Host.FileTree
import Confinement.Host.Path
import Confinement.Staging.Kind
import Confinement.Wire.Refusal

/-!
# Staged contexts

A `Context` collects what one application asks for: its identifier, its paths and their kinds, its
permissions and the directories it exports.  Nothing touches the system until the context is
committed.

Every operation that stages something returns the new context or the first check that failed, in
the order: latch, form of the arguments, duplicates, file system.  The file system is only asked
through a function from paths to what stands there.
-/

namespace Confinement.Staging

open Host Wire

/-- A path and the part it plays. -/
structure LabelledPath where
  path : String
  kind : Kind
  deriving DecidableEq, Repr

/-- A directory that one application exports and another imports. -/
structure Plug where
  exportDirectory : String
  /-- The application that imports it. -/
  importId : String
  /-- Where that application gets it. -/
  importDirectory : String
  deriving DecidableEq, Repr

/-- Why something was not staged. -/
inductive StagingError where
  /-- The context is latched and must be cleared first. -/
  | latched
  | invalidId (id : String)
  | idAlreadySet (current : String)
  | invalidPermission (permission : String)
  | permissionExists (permission : String)
  | invalidPath (path : String)
  | unknownKind (word : String)
  | pathExists (path : String)
  | plugExists (path : String)
  | notFound (path : String)
  /-- The path may not be inspected. -/
  | accessDenied (path : String)
  /-- The path leads to something that is no directory. -/
  | notADirectory (path : String)
  /-- The path could not be inspected. -/
  | inspect (path : String) (cause : Failure)
  deriving DecidableEq, Repr

namespace StagingError

/-- The text under which the error is told. -/
def message : StagingError → String
  | .latched => "context is in its error state; clear it first"
  | .invalidId id => "invalid application id '" ++ id ++ "'"
  | .idAlreadySet current => "application id already set to '" ++ current ++ "'"
  | .invalidPermission permission => "invalid permission '" ++ permission ++ "'"
  | .permissionExists permission => "permission '" ++ permission ++ "' already added"
  | .invalidPath path => "invalid path '" ++ path ++ "'"
  | .unknownKind word => "unknown path type '" ++ word ++ "'"
  | .pathExists path => "path '" ++ path ++ "' already added"
  | .plugExists path => "plug import directory '" ++ path ++ "' already used"
  | .notFound path => "path '" ++ path ++ "' not found"
  | .accessDenied path => "path '" ++ path ++ "' is not accessible"
  | .notADirectory path => "path '" ++ path ++ "' is not a directory"
  | .inspect path cause => "failed to inspect '" ++ path ++ "': " ++ cause.message

/-- The class reported to the client. -/
def refusal : StagingError → Refusal
  | .latched => .unrecoverable
  | .invalidId _ | .invalidPermission _ | .invalidPath _ | .unknownKind _ => .invalidArgument
  | .idAlreadySet _ | .permissionExists _ | .pathExists _ | .plugExists _ => .alreadyExists
  | .notFound _ => .notFound
  | .accessDenied _ => .accessDenied
  | .notADirectory _ => .notADirectory
  | .inspect _ _ => .internal

end StagingError

def isIdChar (c : Char) : Bool := c.isAlphanum || c == '_' || c == '-'

/-- Identifiers have 2 to 200 characters: letters, digits, `_` and `-`. -/
def isValidId (id : String) : Bool :=
  2 ≤ id.utf8ByteSize && id.utf8ByteSize ≤ 200 && id.toList.all isIdChar

/-- Permissions have 1 to 1024 bytes and neither blanks nor control characters. -/
def isValidPermission (permission : String) : Bool :=
  permission ≠ "" && permission.utf8ByteSize ≤ 1024 &&
    permission.toList.all (fun c => !Text.isBlank c && !Text.isControl c)

/-- Paths have 1 to 4096 bytes and no NUL. -/
def isValidPath (path : String) : Bool :=
  path ≠ "" && path.utf8ByteSize ≤ 4096 && path.toList.all (· ≠ '\x00')

/-- What one application has asked for so far. -/
structure Context where
  id : Option String := none
  /-- Whether something staged needs an identifier. -/
  needsId : Bool := false
  /-- Its paths, in the order they came. -/
  paths : List LabelledPath := []
  permissions : TextSet := TextSet.empty
  /-- Its plugs, in the order they came. -/
  plugs : List Plug := []
  /-- Whether a failure has latched the context. -/
  latched : Bool := false
  deriving DecidableEq

/-- One staged thing. -/
inductive Item where
  | id (id : String)
  | path (entry : LabelledPath)
  | permission (permission : String)
  | plug (plug : Plug)
  deriving DecidableEq, Repr

/-- What stands at the end of a path, as far as it can be told. -/
abbrev Inspection := String → Except Failure Node

/-- Checks what a path leads to. -/
def probe (inspect : Inspection) (needsDirectory : Bool) (path : String) :
    Except StagingError Unit :=
  match inspect path with
  | .ok node =>
    if needsDirectory && !node.isDirectory then .error (.notADirectory path) else .ok ()
  | .error (.os .noEntry) | .error (.os .notADirectory) => .error (.notFound path)
  | .error (.os .accessDenied) | .error (.os .notPermitted) => .error (.accessDenied path)
  | .error cause => .error (.inspect path cause)

/-- A change of a context that may be refused; what it has done by then stays done. -/
abbrev Edit := Action StagingError Context Unit

namespace Edit

/-- Goes on only if something holds. -/
def require (holds : Bool) (error : StagingError) : Edit :=
  if holds then Action.answer () else Action.fail error

/-- Goes on only if a context is not latched. -/
def requireReleased : Edit := fun context => require (!context.latched) .latched context

/-- Goes on only if a path leads to what it should. -/
def requireAt (inspect : Inspection) (needsDirectory : Bool) (path : String) : Edit :=
  fun context => (probe inspect needsDirectory path, context)

def setId (id : String) : Edit := do
  requireReleased
  require (isValidId id) (.invalidId id)
  let context ← Action.get
  match context.id with
  | some current => Action.fail (.idAlreadySet current)
  | none => Action.modify fun context => { context with id := some id }

def addPermission (permission : String) : Edit := do
  requireReleased
  require (isValidPermission permission) (.invalidPermission permission)
  let context ← Action.get
  require (permission ∉ context.permissions) (.permissionExists permission)
  Action.modify fun context =>
    { context with permissions := context.permissions.insert permission }
  Action.modify fun context => { context with needsId := true }

def addPath (inspect : Inspection) (path : String) (kind : Kind) : Edit := do
  requireReleased
  require (isValidPath path) (.invalidPath path)
  let context ← Action.get
  require (!context.paths.any (fun entry => decide (Path.Same entry.path path))) (.pathExists path)
  requireAt inspect kind.needsDirectory path
  Action.modify fun context => { context with needsId := context.needsId || kind.needsId }
  Action.modify fun context => { context with paths := context.paths ++ [⟨path, kind⟩] }

def addPlug (inspect : Inspection) (plug : Plug) : Edit := do
  requireReleased
  require (isValidPath plug.exportDirectory) (.invalidPath plug.exportDirectory)
  require (isValidPath plug.importDirectory) (.invalidPath plug.importDirectory)
  require (isValidId plug.importId) (.invalidId plug.importId)
  let context ← Action.get
  require
    (!context.plugs.any (fun other =>
      decide (Path.Same other.importDirectory plug.importDirectory)))
    (.plugExists plug.importDirectory)
  requireAt inspect true plug.exportDirectory
  requireAt inspect true plug.importDirectory
  Action.modify fun context => { context with plugs := context.plugs ++ [plug] }
  Action.modify fun context => { context with needsId := true }

/-- How an edit of a context ends; the context of a refused edit is no longer of interest. -/
def attempt (edit : Edit) (context : Context) : Except StagingError Context :=
  match edit context with
  | (.ok (), next) => .ok next
  | (.error error, _) => .error error

end Edit

namespace Context

/-- The context in which nothing is staged. -/
def empty : Context := {}

def setId (context : Context) (id : String) : Except StagingError Context :=
  (Edit.setId id).attempt context

def addPermission (context : Context) (permission : String) : Except StagingError Context :=
  (Edit.addPermission permission).attempt context

def addPath (context : Context) (inspect : Inspection) (path : String) (kind : Kind) :
    Except StagingError Context :=
  (Edit.addPath inspect path kind).attempt context

def addPlug (context : Context) (inspect : Inspection) (plug : Plug) :
    Except StagingError Context :=
  (Edit.addPlug inspect plug).attempt context

def raise (context : Context) : Context := { context with latched := true }

/-- What is staged: the identifier, the paths, the permissions and the plugs. -/
def items (context : Context) : List Item :=
  context.id.toList.map Item.id ++ context.paths.map Item.path ++
    context.permissions.items.map Item.permission ++ context.plugs.map Item.plug

/-- The staged things that a visitor sees who stops after `limit` of them, and whether it stops. -/
def visit (context : Context) (limit : Option Nat) : List Item × Bool :=
  match limit with
  | none => (context.items, false)
  | some count =>
    let seen := context.items.take (max 1 count)
    (seen, !seen.isEmpty && count ≤ seen.length)

end Context

end Confinement.Staging
