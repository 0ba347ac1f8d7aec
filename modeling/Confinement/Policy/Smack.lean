import Confinement.Policy.Backend
import Confinement.Policy.Label

/-!
# Access rules by label

The labeller for kernels that decide by rules `subject object access`.  Each application has a label
of its own and one for each kind of its files.  Its rules are kept in a rule file, loaded into the
kernel through a file there, and loaded again without access when the application goes.

`rulesOf` gives the rules of a context, and `readRules` reads back what `ruleText` writes.
-/

namespace Confinement.Policy

open Host Staging

/-- What one label may do to another. -/
structure Rule where
  /-- The label that acts. -/
  subject : String
  /-- The label that is acted on. -/
  object : String
  access : String
  deriving DecidableEq, Repr

namespace Rule

/-- The line that states a rule, with an access of its own. -/
def line (rule : Rule) (access : String) : String :=
  rule.subject ++ " " ++ rule.object ++ " " ++ access ++ "\n"

/-- The rule that a line states, if it has three words. -/
def ofLine? (line : String) : Option Rule :=
  match Text.words line with
  | [subject, object, access] => some ⟨subject, object, access⟩
  | _ => none

end Rule

def fullAccess : String := "rwxatl"

def noAccess : String := "-"

/-- The kinds whose files have a label of their own. -/
def ownKinds : List Kind := [.conf, .data, .exec, .http, .icon, .id, .lib, .plug]

/-- The two rules for an application's files of one kind. -/
def kindRules (id : String) (kind : Kind) : List Rule :=
  [⟨applicationLabel id, pathLabel id kind, fullAccess⟩,
    ⟨systemLabel, pathLabel id kind, fullAccess⟩]

/-- The rules of an application: its own, and one for each application that imports from it. -/
def rulesOf (id : String) (context : Context) : List Rule :=
  [⟨systemLabel, applicationLabel id, fullAccess⟩,
    ⟨applicationLabel id, systemLabel, "wx"⟩,
    ⟨applicationLabel id, sharedLabel, "rx"⟩] ++
  ownKinds.flatMap (kindRules id) ++
  context.plugs.map fun plug =>
    ⟨applicationLabel plug.importId, pathLabel id .plug, fullAccess⟩

def ruleText (rules : List Rule) : String :=
  String.join (rules.map fun rule => rule.line rule.access)

/-- The rules in the text of a rule file; lines that state none are passed over. -/
def readRules (text : String) : List Rule :=
  (text.toList.splitOn '\n').filterMap fun line => Rule.ofLine? (String.ofList line)

/-- The name of the attribute that carries a file's label. -/
def accessAttribute : String := "security.SMACK64"

/-- The name of the attribute that carries the label of a program's processes. -/
def execAttribute : String := "security.SMACK64EXEC"

/-- The name of the attribute that hands a directory's label on to new files. -/
def transmuteAttribute : String := "security.SMACK64TRANSMUTE"

/-- What a labeller by rules works with. -/
structure Smack (World : Type) where
  rulesDirectory : String
  mount : String
  files : Part World FileTree
  setAttribute : (path name : String) → (value : Bytes) → World → Except Failure Unit × World

namespace Smack

variable {World : Type} (smack : Smack World)

/-- Changes the file system, or fails with the action and the path. -/
def change (action path : String) (operation : FileTree → Except Failure FileTree) :
    Call World Unit := fun world =>
  match operation (smack.files.get world) with
  | .ok tree => (.ok (), smack.files.put tree world)
  | .error cause => (.error (.file action path cause), world)

def ruleFile (id : String) : String := Path.join smack.rulesDirectory ("app-" ++ id)

def makeDirectory : Call World Unit := fun world =>
  match (smack.files.get world).makeDirectories 0o755 smack.rulesDirectory with
  | (none, tree) => (.ok (), smack.files.put tree world)
  | (some cause, tree) =>
    (.error (.file "create" smack.rulesDirectory cause), smack.files.put tree world)

def writeRules (path : String) (rules : List Rule) : Call World Unit := do
  smack.makeDirectory
  smack.change "write" path (fun tree => tree.writeFile path (Text.bytes (ruleText rules)))

/-- Reads the rule file, if there is one. -/
def loadRules (path : String) : Call World (Option (List Rule)) := fun world =>
  match (smack.files.get world).readText path with
  | .ok text => (.ok (some (readRules text)), world)
  | .error (.os .noEntry) => (.ok none, world)
  | .error cause => (.error (.file "read" path cause), world)

/-- The file through which rules are loaded. -/
def loadFile : String := Path.join smack.mount "load2"

/-- The lines that load rules, each with its own access or all with the given one. -/
def loadLines (rules : List Rule) (access : Option String) : List String :=
  rules.map fun rule => rule.line (access.getD rule.access)

/-- Loads rules into the kernel; without its interface there is nothing to load into. -/
def pushRules (rules : List Rule) (access : Option String) : Call World Unit := fun world =>
  let tree := smack.files.get world
  if tree.isPresent smack.loadFile then
    match tree.openForWriting smack.loadFile with
    | .error cause => (.error (.file "open" smack.loadFile cause), world)
    | .ok (place, content) =>
      let written := (loadLines rules access).flatMap Text.bytes
      (.ok (), smack.files.put
        (tree.insert place (.file (FileTree.overwritten content written))) world)
  else
    (.ok (), world)

def label (path name value : String) : Call World Unit := fun world =>
  match smack.setAttribute path name (Text.bytes value) world with
  | (.ok (), next) => (.ok (), next)
  | (.error cause, next) => (.error (.file "label" path cause), next)

def labelPath (id : String) (entry : LabelledPath) : Call World Unit := do
  smack.label entry.path accessAttribute (pathLabel id entry.kind)
  fun world =>
    if entry.kind = .exec ∧ (smack.files.get world).isFile entry.path then
      smack.label entry.path execAttribute (applicationLabel id) world
    else
      (.ok (), world)
  fun world =>
    if (smack.files.get world).isDirectory entry.path then
      smack.label entry.path transmuteAttribute "TRUE" world
    else
      (.ok (), world)

def labelPlug (id : String) (plug : Plug) : Call World Unit := do
  smack.label plug.exportDirectory accessAttribute (pathLabel id .plug)
  smack.label plug.exportDirectory transmuteAttribute "TRUE"

/-- Sets up an application: its rule file, its rules in the kernel and the labels of its files. -/
def install (context : Context) : Call World Unit :=
  match context.id with
  | none => pure ()
  | some id => do
    let rules := rulesOf id context
    smack.writeRules (smack.ruleFile id) rules
    smack.pushRules rules none
    Action.forEach (smack.labelPath id) context.paths
    Action.forEach (smack.labelPlug id) context.plugs

/-- Takes an application back: its rules lose their access and its rule file goes. -/
def uninstall (context : Context) : Call World Unit :=
  match context.id with
  | none => pure ()
  | some id => do
    let path := smack.ruleFile id
    match ← smack.loadRules path with
    | none => pure ()
    | some rules => do
      smack.pushRules rules (some noAccess)
      smack.change "remove" path (fun tree => tree.removeFile path)

def labeller : Labeller World where
  name := "smack"
  label := applicationLabel
  install := smack.install
  uninstall := smack.uninstall

end Smack

end Confinement.Policy
