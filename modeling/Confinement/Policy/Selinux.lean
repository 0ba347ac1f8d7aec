import Confinement.Host.Program
import Confinement.Policy.Backend
import Confinement.Policy.Label

/-!
# Access control by policy modules

The labeller for kernels whose policy is loaded in modules.  For each application it writes the
sources of one module, has it built and loaded, and has the staged paths relabelled.

The three sources are functions of the module's name and the context: `typeEnforcement` declares the
application's domain and one type for each kind of file, `interface` lets importers in, and
`fileContexts` gives each location its type.
-/

namespace Confinement.Policy

open Host Staging

namespace Selinux

/-- The part of a type's name that tells the kind of file. -/
def typeSuffix : Kind → String
  | .plain => "file"
  | kind => kind.word

/-- The type of a module's files of one kind. -/
def fileType (name : String) (kind : Kind) : String := name ++ "_" ++ typeSuffix kind ++ "_t"

def kindLines (name : String) (kind : Kind) : List String :=
  let type := fileType name kind
  ["type " ++ type ++ ";",
    "files_type(" ++ type ++ ")",
    "allow " ++ name ++ "_t " ++ type ++ ":file manage_file_perms;",
    "allow " ++ name ++ "_t " ++ type ++ ":dir manage_dir_perms;"]

def plugLines (name : String) (plug : Plug) : List String :=
  let importer := moduleName plug.importId
  ["optional_policy(`",
    "    gen_require(`type " ++ importer ++ "_t;')",
    "    " ++ name ++ "_plug_import(" ++ importer ++ "_t)",
    "')"]

/-- The source that declares a module's types and what its domain may do. -/
def typeEnforcement (name : String) (context : Context) : String :=
  String.intercalate "\n" <|
    ["policy_module(" ++ name ++ ", 1.0)", "", "type " ++ name ++ "_t;",
      "domain_type(" ++ name ++ "_t)"] ++
    Kind.all.flatMap (kindLines name) ++
    ["domain_entry_file(" ++ name ++ "_t, " ++ name ++ "_exec_t)"] ++
    context.plugs.flatMap (plugLines name) ++ [""]

/-- The source that lets importers read a module's exported directories. -/
def interface (name : String) : String :=
  "## <summary>Policy of application " ++ name ++ "</summary>\n\n" ++
  "interface(`" ++ name ++ "_plug_import',`\n" ++
  "\tgen_require(`type " ++ name ++ "_plug_t;')\n" ++
  "\tallow $1 " ++ name ++ "_plug_t:dir list_dir_perms;\n" ++
  "\tallow $1 " ++ name ++ "_plug_t:file read_file_perms;\n" ++
  "')\n"

/-- The characters with a meaning in a pattern. -/
def patternChars : List Char :=
  ['\\', '.', '+', '*', '?', '(', ')', '[', ']', '{', '}', '^', '$', '|']

/-- A path as a pattern that stands for itself. -/
def escapePattern (path : String) : String :=
  String.ofList (path.toList.flatMap fun c => if c ∈ patternChars then ['\\', c] else [c])

/-- The locations that get a type: the staged paths, then the exported directories. -/
def locations (context : Context) : List (String × Kind) :=
  context.paths.map (fun entry => (entry.path, entry.kind)) ++
    context.plugs.map (fun plug => (plug.exportDirectory, Kind.plug))

/-- The line that gives one location its type. -/
def locationLine (name : String) (location : String × Kind) : String :=
  escapePattern location.1 ++ "(/.*)?\tgen_context(system_u:object_r:" ++
    fileType name location.2 ++ ",s0)\n"

/-- The source that gives each location its type. -/
def fileContexts (name : String) (context : Context) : String :=
  String.join ((locations context).map (locationLine name))

/-- The makefile that builds modules. -/
def makefile : String := "/usr/share/selinux/devel/Makefile"

end Selinux

/-- What a labeller by modules works with. -/
structure Selinux (World : Type) where
  /-- The directory that holds a directory for each module. -/
  modulesDirectory : String
  files : Part World FileTree
  run : (program : String) → (arguments : List String) → (directory : String) → Call World Unit

namespace Selinux

/-- Runs a program on a file tree; one that does not succeed is a failure. -/
def runProgram (program : String) (arguments : List String) (directory : String) :
    Call FileTree Unit := fun tree =>
  match Program.run tree program arguments directory with
  | (.error cause, next) => (.error (.spawn program cause), next)
  | (.ok (.exited 0), next) => (.ok (), next)
  | (.ok status, next) => (.error (.toolFailed program status.message), next)

variable {World : Type} (selinux : Selinux World)

/-- The directory of an application's module. -/
def moduleDirectory (id : String) : String := Path.join selinux.modulesDirectory id

def makeDirectory (directory : String) : Call World Unit := fun world =>
  match (selinux.files.get world).makeDirectories 0o755 directory with
  | (none, tree) => (.ok (), selinux.files.put tree world)
  | (some cause, tree) => (.error (.file "create" directory cause), selinux.files.put tree world)

def writeSource (path content : String) : Call World Unit := fun world =>
  match (selinux.files.get world).writeFile path (Text.bytes content) with
  | .ok tree => (.ok (), selinux.files.put tree world)
  | .error cause => (.error (.file "write" path cause), world)

/-- Writes the three sources of an application's module. -/
def writeSources (id : String) (context : Context) : Call World Unit := do
  let directory := selinux.moduleDirectory id
  let name := moduleName id
  selinux.makeDirectory directory
  selinux.writeSource (Path.join directory (id ++ ".te")) (typeEnforcement name context)
  selinux.writeSource (Path.join directory (id ++ ".if")) (interface name)
  selinux.writeSource (Path.join directory (id ++ ".fc")) (fileContexts name context)

/-- Has a staged path relabelled. -/
def relabel (directory : String) (entry : LabelledPath) : Call World Unit :=
  selinux.run "restorecon" ["-R", entry.path] directory

/-- Sets up an application: writes its module, builds and loads it and relabels its paths. -/
def install (context : Context) : Call World Unit :=
  match context.id with
  | none => pure ()
  | some id => do
    let directory := selinux.moduleDirectory id
    let package := id ++ ".pp"
    selinux.writeSources id context
    selinux.run "make" ["-f", makefile, package] directory
    selinux.run "semodule" ["-i", package] directory
    Action.forEach (selinux.relabel directory) context.paths

/-- Removes the directory of a module; one that is gone already is no failure. -/
def removeDirectory (directory : String) : Call World Unit := fun world =>
  match (selinux.files.get world).removeAll directory with
  | .ok tree => (.ok (), selinux.files.put tree world)
  | .error (.os .noEntry) => (.ok (), world)
  | .error cause => (.error (.file "remove" directory cause), world)

/-- Takes an application back: unloads its module and removes the module's directory. -/
def uninstall (context : Context) : Call World Unit :=
  match context.id with
  | none => pure ()
  | some id => fun world =>
    let directory := selinux.moduleDirectory id
    if (selinux.files.get world).isDirectory directory then
      (do
        selinux.run "semodule" ["-r", moduleName id] selinux.modulesDirectory
        selinux.removeDirectory directory : Call World Unit) world
    else
      (.ok (), world)

def labeller : Labeller World where
  name := "selinux"
  label := domainLabel
  install := selinux.install
  uninstall := selinux.uninstall

end Selinux

end Confinement.Policy
