import Confinement.Text.Utf8
import Confinement.Host.Credentials
import Confinement.Host.Failure
import Confinement.Host.Path

/-!
# File trees

A `FileTree` holds what stands at each place: directories, files, symbolic links and socket
files.  `FileTree.locate` finds the place that a path names, following links, and the operations on
files are built from it.  Each operation fails with the cause that the kernel gives.

Everything is done on behalf of the tree's actor, and what is made belongs to it.  Directories keep
the modes with which they were made; files, links and socket files have those that a common mask
leaves.  An operation consults the modes of the directories it searches and changes and of the files
it writes (`may`, `removalBar?`).

Places are absolute: the list of names from the root.  `lookup_insert` and `lookup_erase` say
that an operation changes no other place than the one it names.
-/

namespace Confinement.Host

/-- What stands at a place. -/
inductive Node where
  | directory (mode : Nat)
  | file (content : Bytes)
  | link (target : String)
  /-- A socket file, and whether someone listens on it. -/
  | socket (live : Bool)
  deriving DecidableEq, Repr

def Node.isDirectory : Node → Bool
  | .directory _ => true
  | _ => false

def Node.isFile : Node → Bool
  | .file _ => true
  | _ => false

/-- The mode of a node; but for directories it is the one that the mask leaves. -/
def Node.mode : Node → Nat
  | .directory mode => mode
  | .file _ => 0o644
  | .link _ => 0o777
  | .socket _ => 0o755

/-- The names from the root to a place. -/
abbrev Place := List String

/-- What stands where, the directory at which relative paths start, and who uses the tree. -/
structure FileTree where
  /-- The places that hold something; the first entry of a place counts. -/
  entries : List (Place × Node)
  start : Place
  /-- On whose behalf everything is done. -/
  actor : Credentials := .superuser
  /-- Whose things stand where; what is not listed is the superuser's. -/
  owners : List (Place × Credentials) := []
  deriving DecidableEq, Repr

/-- Where a path leads: to a node, or to a free name in an existing directory. -/
inductive Spot where
  | present (place : Place) (node : Node)
  /-- The directory exists and holds nothing of this name. -/
  | vacant (directory : Place) (name : String)
  deriving DecidableEq, Repr

namespace FileTree

def lookup (tree : FileTree) (place : Place) : Option Node := tree.entries.lookup place

/-- Puts a node at a place, in place of what stood there. -/
def insert (tree : FileTree) (place : Place) (node : Node) : FileTree :=
  { tree with entries := (place, node) :: tree.entries.filter (fun entry => entry.1 ≠ place) }

def erase (tree : FileTree) (place : Place) : FileTree :=
  { tree with
    entries := tree.entries.filter (fun entry => entry.1 ≠ place)
    owners := tree.owners.filter (fun entry => entry.1 ≠ place) }

/-- Puts a new node at a free place; it belongs to the actor. -/
def add (tree : FileTree) (place : Place) (node : Node) : FileTree :=
  { tree.insert place node with owners := (place, tree.actor) :: tree.owners }

/-- The tree in the hands of another actor. -/
def as (tree : FileTree) (actor : Credentials) : FileTree := { tree with actor }

/-- To whom it belongs what stands at a place. -/
def ownerOf (tree : FileTree) (place : Place) : Credentials :=
  (tree.owners.lookup place).getD .superuser

theorem lookup_filter_of_keep {Entry : Type} (entries : List (Place × Entry)) (place : Place)
    (keep : Place × Entry → Bool)
    (kept : ∀ entry, keep (place, entry) = true) :
    (entries.filter keep).lookup place = entries.lookup place := by
  induction entries with
  | nil => rfl
  | cons entry rest hypothesis =>
    obtain ⟨key, node⟩ := entry
    by_cases same : place = key
    · subst same
      simp [kept]
    · have other : (place == key) = false := by simpa using same
      by_cases keeps : keep (key, node) = true <;>
        simp [keeps, List.lookup_cons, other, hypothesis]

theorem lookup_filter_ne_self (entries : List (Place × Node)) (place : Place) :
    (entries.filter (fun entry => entry.1 ≠ place)).lookup place = none := by
  induction entries with
  | nil => rfl
  | cons entry rest hypothesis =>
    obtain ⟨key, node⟩ := entry
    by_cases same : key = place
    · rw [List.filter_cons_of_neg (by simp [same])]
      exact hypothesis
    · have other : (place == key) = false :=
        beq_eq_false_iff_ne.2 (fun equal => same equal.symm)
      rw [List.filter_cons_of_pos (by simp [same]), List.lookup_cons, other]
      exact hypothesis

@[simp]
theorem lookup_insert (tree : FileTree) (place other : Place) (node : Node) :
    (tree.insert place node).lookup other =
      if other = place then some node else tree.lookup other := by
  by_cases same : other = place
  · simp [lookup, insert, same]
  · have kept := lookup_filter_of_keep tree.entries other
      (fun entry => entry.1 ≠ place) (by simp [same])
    have different : (other == place) = false := by simpa using same
    rw [if_neg same]
    unfold lookup insert
    rw [List.lookup_cons, different]
    exact kept

@[simp]
theorem lookup_erase (tree : FileTree) (place other : Place) :
    (tree.erase place).lookup other = if other = place then none else tree.lookup other := by
  by_cases same : other = place
  · subst same
    rw [if_pos rfl]
    exact lookup_filter_ne_self tree.entries other
  · rw [if_neg same]
    exact lookup_filter_of_keep tree.entries other
      (fun entry => entry.1 ≠ place) (by simp [same])

@[simp]
theorem lookup_add (tree : FileTree) (place other : Place) (node : Node) :
    (tree.add place node).lookup other =
      if other = place then some node else tree.lookup other :=
  tree.lookup_insert place other node

@[simp]
theorem lookup_as (tree : FileTree) (actor : Credentials) (place : Place) :
    (tree.as actor).lookup place = tree.lookup place := rfl

theorem ownerOf_erase (tree : FileTree) {place other : Place}
    (apart : other ≠ place) :
    (tree.erase place).ownerOf other = tree.ownerOf other := by
  rw [ownerOf, erase, lookup_filter_of_keep _ _ _ (by simp [apart])]
  rfl

theorem ownerOf_add (tree : FileTree) (place other : Place) (node : Node) :
    (tree.add place node).ownerOf other =
      if other = place then tree.actor else tree.ownerOf other := by
  rw [ownerOf, add, List.lookup_cons]
  by_cases same : other = place
  · rw [if_pos same, beq_iff_eq.2 same]
    rfl
  · rw [if_neg same, beq_false_of_ne same]
    rfl

/-! ## What the actor may do -/

def modeOf? (tree : FileTree) (place : Place) : Option Nat := (tree.lookup place).map Node.mode

/-- Whether the actor may use what stands at a place. -/
def may (tree : FileTree) (use : Use) (place : Place) : Bool :=
  tree.actor.isSuper ||
    (tree.modeOf? place).any fun mode => tree.actor.granted (tree.ownerOf place) mode use

/-- Whether only owners may take names out of the directory at a place. -/
def isSticky (tree : FileTree) (place : Place) : Bool :=
  (tree.modeOf? place).any Credentials.isSticky

/-- Whether the actor owns something, or may act as if it did. -/
def owns (tree : FileTree) (place : Place) : Bool :=
  tree.actor.isSuper || tree.actor.user == (tree.ownerOf place).user

/-- Why the actor may not take away what stands at a place, if it may not. -/
def removalBar? (tree : FileTree) (place : Place) : Option Errno :=
  if !tree.may .change place.dropLast then some .accessDenied
  else if tree.isSticky place.dropLast && !tree.owns place && !tree.owns place.dropLast then
    some .notPermitted
  else none

/-- Puts something new into a directory, if the actor may change that. -/
def create (tree : FileTree) (directory : Place) (name : String) (node : Node) :
    Except Failure FileTree :=
  if tree.may .change directory then .ok (tree.add (directory ++ [name]) node)
  else .error (.os .accessDenied)

theorem create_eq_ok_iff {tree next : FileTree} {directory : Place} {name : String} {node : Node} :
    tree.create directory name node = .ok next ↔
      tree.may .change directory = true ∧ next = tree.add (directory ++ [name]) node := by
  rw [create]
  split
  · rename_i allowed
    rw [Except.ok.injEq, eq_comm]
    exact (and_iff_right allowed).symm
  · rename_i denied
    exact iff_of_false nofun fun both => denied both.1

/-- A tree with an empty working directory and nothing else. -/
def empty : FileTree where
  entries :=
    [(["tmp", "work"], .directory 0o755), (["tmp"], .directory 0o1777), ([], .directory 0o755)]
  start := ["tmp", "work"]

/-- The longest name of a directory entry. -/
def nameLimit : Nat := 255

/-- One more than the longest path. -/
def pathLimit : Nat := 4096

/-- The number of links followed on one way. -/
def linkLimit : Nat := 40

/-- The names to walk along a path; a trailing slash asks for a directory, as a `.` does. -/
def steps (path : String) : List String :=
  (Path.segments path).filter (· ≠ "") ++
    (if path.toList.getLast? = some '/' then ["."] else [])

/-- The place at which the walk along a path starts, seen from a directory. -/
def origin (here : Place) (path : String) : Place := if Path.isAbsolute path then [] else here

/--
Walks along names from a directory; each directory must be searched for the next name.  A link on
the way, or one at the end when `follow` is set, is followed by `detour` from the directory that
holds it.
-/
def walkWith (tree : FileTree) (follow : Bool)
    (detour : Place → List String → Except Errno Spot) (here : Place) :
    List String → Except Errno Spot
  | [] =>
    match tree.lookup here with
    | some node => .ok (.present here node)
    | none => .error .noEntry
  | name :: rest =>
    if tree.may .search here then
      if name = "." then
        walkWith tree follow detour here rest
      else if name = ".." then
        walkWith tree follow detour here.dropLast rest
      else if name.utf8ByteSize > nameLimit then
        .error .nameTooLong
      else
        let place := here ++ [name]
        match tree.lookup place with
        | none => if rest.isEmpty then .ok (.vacant here name) else .error .noEntry
        | some (.directory _) => walkWith tree follow detour place rest
        | some (.link target) =>
          if rest.isEmpty && !follow then
            .ok (.present place (.link target))
          else
            detour (origin here target) (steps target ++ rest)
        | some node => if rest.isEmpty then .ok (.present place node) else .error .notADirectory
    else
      .error .accessDenied

/-- Walks along names, following at most `links` links. -/
def walk (tree : FileTree) (follow : Bool) : (links : Nat) → Place → List String → Except Errno Spot
  | 0 => walkWith tree follow (fun _ _ => .error .tooManyLinks)
  | links + 1 => walkWith tree follow (walk tree follow links)

/-- Whether a path can be walked along at all. -/
def checkPath (path : String) : Option Failure :=
  if path.toList.contains '\x00' then some .nulInName
  else if path = "" then some (.os .noEntry)
  else if path.utf8ByteSize ≥ pathLimit then some (.os .nameTooLong)
  else none

def locate (tree : FileTree) (follow : Bool) (path : String) : Except Failure Spot :=
  match checkPath path with
  | some cause => .error cause
  | none => (tree.walk follow linkLimit (origin tree.start path) (steps path)).mapError .os

/-- How a way out of a directory that must not be left is told. -/
def escape : Failure := .told "a path led outside of the filesystem"

/--
Walks along names from a directory without ever leaving the directory `root`.  A link is followed by
`detour` from the directory that holds it, unless it leads to an absolute place.
-/
def walkInsideWith (tree : FileTree) (root : Place)
    (detour : Place → List String → Except Failure Spot) (here : Place) :
    List String → Except Failure Spot
  | [] =>
    match tree.lookup here with
    | some node => .ok (.present here node)
    | none => .error (.os .noEntry)
  | name :: rest =>
    if tree.may .search here then
      if name = "." then
        walkInsideWith tree root detour here rest
      else if name = ".." then
        if here = root then .error escape else walkInsideWith tree root detour here.dropLast rest
      else if name.utf8ByteSize > nameLimit then
        .error (.os .nameTooLong)
      else
        let place := here ++ [name]
        match tree.lookup place with
        | none => if rest.isEmpty then .ok (.vacant here name) else .error (.os .noEntry)
        | some (.directory _) => walkInsideWith tree root detour place rest
        | some (.link target) =>
          if Path.isAbsolute target then .error escape else detour here (steps target ++ rest)
        | some node =>
          if rest.isEmpty then .ok (.present place node) else .error (.os .notADirectory)
    else
      .error (.os .accessDenied)

/-- Walks along names without leaving a directory, following at most `links` links. -/
def walkInside (tree : FileTree) (root : Place) :
    (links : Nat) → Place → List String → Except Failure Spot
  | 0 => walkInsideWith tree root (fun _ _ => .error (.os .tooManyLinks))
  | links + 1 => walkInsideWith tree root (walkInside tree root links)

/-- A path without its trailing slashes, unless it is the root. -/
def withoutTrailingSlashes (path : String) : String :=
  let kept := (path.toList.reverse.dropWhile (· == '/')).reverse
  if kept.isEmpty ∧ path ≠ "" then "/" else String.ofList kept

/-- The node that a path names, links followed. -/
def stat (tree : FileTree) (path : String) : Except Failure Node :=
  match tree.locate true path with
  | .error cause => .error cause
  | .ok (.present _ node) => .ok node
  | .ok (.vacant _ _) => .error (.os .noEntry)

/-- The node that a path names, a final link not followed. -/
def linkStat (tree : FileTree) (path : String) : Except Failure Node :=
  match tree.locate false path with
  | .error cause => .error cause
  | .ok (.present _ node) => .ok node
  | .ok (.vacant _ _) => .error (.os .noEntry)

/-- Whether a path leads to a directory. -/
def isDirectory (tree : FileTree) (path : String) : Bool :=
  match tree.stat path with
  | .ok node => node.isDirectory
  | .error _ => false

/-- Whether a path leads to a regular file. -/
def isFile (tree : FileTree) (path : String) : Bool :=
  match tree.stat path with
  | .ok node => node.isFile
  | .error _ => false

/-- Whether a path leads anywhere. -/
def isPresent (tree : FileTree) (path : String) : Bool :=
  match tree.stat path with
  | .ok _ => true
  | .error _ => false

/-- Makes a directory whose parent exists. -/
def makeDirectory (tree : FileTree) (mode : Nat) (path : String) : Except Failure FileTree :=
  match tree.locate false (withoutTrailingSlashes path) with
  | .error cause => .error cause
  | .ok (.present _ _) => .error (.os .exists)
  | .ok (.vacant parent name) => tree.create parent name (.directory mode)

/-- The ancestors that must be made, nearest first: those before the first that is there. -/
def missingAncestors (mode : Nat) : FileTree → List String →
    Except Failure (List String × FileTree)
  | tree, [] => .ok ([], tree)
  | tree, path :: rest =>
    if path = "" then
      .ok ([], tree)
    else
      match tree.makeDirectory mode path with
      | .ok next => .ok ([], next)
      | .error (.os .noEntry) =>
        match missingAncestors mode tree rest with
        | .ok (missing, next) => .ok (path :: missing, next)
        | .error cause => .error cause
      | .error (.os .exists) =>
        if tree.isDirectory path then .ok ([], tree) else .error (.os .exists)
      | .error cause => .error cause

/-- Makes directories in order; one that is there already is left as it is. -/
def makeEach (mode : Nat) : FileTree → List String → Option Failure × FileTree
  | tree, [] => (none, tree)
  | tree, path :: rest =>
    match tree.makeDirectory mode path with
    | .ok next => makeEach mode next rest
    | .error (.os .exists) =>
      if tree.isDirectory path then makeEach mode tree rest else (some (.os .exists), tree)
    | .error cause => (some cause, tree)

/-- Makes a directory and the parents it lacks, and tells what went wrong on the way. -/
def makeDirectories (tree : FileTree) (mode : Nat) (path : String) : Option Failure × FileTree :=
  if path = "" then
    (none, tree)
  else
    match missingAncestors mode tree (Path.ancestors path) with
    | .error cause => (some cause, tree)
    | .ok (missing, next) => makeEach mode next missing.reverse

/-- Whether a path asks for a directory by its last character. -/
def endsInSlash (path : String) : Bool := path.toList.getLast? == some '/'

/-- Writes a whole file, made when absent. -/
def writeFile (tree : FileTree) (path : String) (content : Bytes) : Except Failure FileTree :=
  match tree.locate true (withoutTrailingSlashes path) with
  | .error cause => .error cause
  | .ok (.present _ (.directory _)) => .error (.os .isADirectory)
  | .ok (.present place (.socket _)) =>
    .error (.os (if tree.may .change place then .noSuchDevice else .accessDenied))
  | .ok (.present _ (.link _)) => .error (.os .tooManyLinks)
  | .ok (.present place (.file _)) =>
    if endsInSlash path then .error (.os .notADirectory)
    else if tree.may .change place then .ok (tree.insert place (.file content))
    else .error (.os .accessDenied)
  | .ok (.vacant parent name) =>
    if endsInSlash path then .error (.os .isADirectory)
    else tree.create parent name (.file content)

/-- The place and content of an existing file that is opened for writing. -/
def openForWriting (tree : FileTree) (path : String) : Except Failure (Place × Bytes) :=
  match tree.locate true path with
  | .error cause => .error cause
  | .ok (.present place (.file content)) =>
    if tree.may .change place then .ok (place, content) else .error (.os .accessDenied)
  | .ok (.present _ (.directory _)) => .error (.os .isADirectory)
  | .ok (.present place (.socket _)) =>
    .error (.os (if tree.may .change place then .noSuchDevice else .accessDenied))
  | .ok (.present _ (.link _)) => .error (.os .tooManyLinks)
  | .ok (.vacant _ _) => .error (.os .noEntry)

/-- The content of a file after bytes are written from its start on; the rest stays. -/
def overwritten (content written : Bytes) : Bytes := written ++ content.drop written.length

def readFile (tree : FileTree) (path : String) : Except Failure Bytes :=
  match tree.locate true path with
  | .error cause => .error cause
  | .ok (.present _ (.file content)) => .ok content
  | .ok (.present place (.directory _)) =>
    .error (.os (if tree.may .read place then .isADirectory else .accessDenied))
  | .ok (.present _ (.socket _)) => .error (.os .noSuchDevice)
  | .ok (.present _ (.link _)) => .error (.os .tooManyLinks)
  | .ok (.vacant _ _) => .error (.os .noEntry)

def readText (tree : FileTree) (path : String) : Except Failure String :=
  match tree.readFile path with
  | .error cause => .error cause
  | .ok content =>
    match Text.ofBytes? content with
    | some text => .ok text
    | none => .error .notText

/-- The place of the directory that holds what a path names. -/
def locateParent (tree : FileTree) (path : String) : Except Failure Place :=
  match Path.parent? path with
  | none => .error (.os .invalid)
  | some "" => .ok tree.start
  | some parent =>
    match tree.locate true parent with
    | .error cause => .error cause
    | .ok (.vacant _ _) => .error (.os .noEntry)
    | .ok (.present place (.directory _)) => .ok place
    | .ok (.present _ _) => .error (.os .notADirectory)

/--
The place and the bytes of the file that a path names.  The name is looked up in the directory that
holds it, and links must not lead out of that directory.
-/
def readInside (tree : FileTree) (path : String) : Except Failure (Place × Bytes) :=
  match Path.fileName? path with
  | none => .error (.os .invalid)
  | some name =>
    if path.toList.contains '\x00' then
      .error .nulInName
    else do
      let root ← tree.locateParent path
      match ← tree.walkInside root linkLimit root [name] with
      | .vacant _ _ => .error (.os .noEntry)
      | .present place (.file content) => .ok (place, content)
      | .present _ (.directory _) => .error (.os .isADirectory)
      | .present _ (.link _) => .error (.os .tooManyLinks)
      | .present _ (.socket _) => .error (.os .noSuchDevice)

/-- Removes a file, link or socket file. -/
def removeFile (tree : FileTree) (path : String) : Except Failure FileTree :=
  match tree.locate false path with
  | .error cause => .error cause
  | .ok (.vacant _ _) => .error (.os .noEntry)
  | .ok (.present place node) =>
    match tree.removalBar? place with
    | some cause => .error (.os cause)
    | none => if node.isDirectory then .error (.os .isADirectory) else .ok (tree.erase place)

/-- Whether a place is another one or lies below it. -/
def isWithin (directory place : Place) : Bool := directory.isPrefixOf place

/-- The tree without what stands at a place and below it. -/
def without (tree : FileTree) (place : Place) : FileTree :=
  { tree with
    entries := tree.entries.filter (fun entry => !isWithin place entry.1)
    owners := tree.owners.filter (fun entry => !isWithin place entry.1) }

/-- Why the actor may not take away a place with all below it, if it may not. -/
def clearanceBar? (tree : FileTree) (place : Place) : Option Errno :=
  match tree.removalBar? place with
  | some cause => some cause
  | none =>
    let inside := tree.entries.filter fun entry => isWithin place entry.1 && entry.2.isDirectory
    if inside.all fun entry => [.read, .search, .change].all fun use => tree.may use entry.1 then
      none
    else
      some .accessDenied

/--
Removes a directory with all it holds, or nothing of it when something in it may not be removed; a
link is removed itself.
-/
def removeAll (tree : FileTree) (path : String) : Except Failure FileTree :=
  match tree.locate false path with
  | .error cause => .error cause
  | .ok (.vacant _ _) => .error (.os .noEntry)
  | .ok (.present place (.directory _)) =>
    match tree.clearanceBar? place with
    | some cause => .error (.os cause)
    | none => .ok (tree.without place)
  | .ok (.present place (.link _)) =>
    match tree.removalBar? place with
    | some cause => .error (.os cause)
    | none => .ok (tree.erase place)
  | .ok (.present _ _) => .error (.os .notADirectory)

/-- Makes a directory with its parents, as a whole. -/
def makeAll (tree : FileTree) (path : String) : Except Failure FileTree :=
  match tree.makeDirectories 0o755 path with
  | (none, next) => .ok next
  | (some cause, _) => .error cause

/-- Removes whatever a path names. -/
def remove (tree : FileTree) (path : String) : Except Failure FileTree :=
  match tree.removeFile path with
  | .ok next => .ok next
  | .error _ => tree.removeAll path

def makeLink (tree : FileTree) (path target : String) : Except Failure FileTree :=
  match tree.locate false path with
  | .error cause => .error cause
  | .ok (.present _ _) => .error (.os .exists)
  | .ok (.vacant parent name) => tree.create parent name (.link target)

/-- The length of the path field in a socket address. -/
def socketPathLimit : Nat := 108

/-- Whether a path fits a socket address. -/
def checkSocketPath (path : String) : Option Failure :=
  if path.toList.contains '\x00' then some .nulInSocketPath
  else if path.utf8ByteSize ≥ socketPathLimit then some .socketPathTooLong
  else none

/-- Makes a socket file that someone listens on, or did. -/
def bindSocket (tree : FileTree) (live : Bool) (path : String) : Except Failure FileTree :=
  match checkSocketPath path with
  | some cause => .error cause
  | none =>
    match tree.locate false path with
    | .error cause => .error cause
    | .ok (.present _ _) => .error (.os .addressInUse)
    | .ok (.vacant parent name) => tree.create parent name (.socket live)

/-- Connects to the socket file that a path leads to, if the actor may write to it. -/
def connectSocket (tree : FileTree) (path : String) : Except Failure Unit :=
  match checkSocketPath path with
  | some cause => .error cause
  | none =>
    match tree.locate true path with
    | .error cause => .error cause
    | .ok (.vacant _ _) => .error (.os .noEntry)
    | .ok (.present place node) =>
      if !tree.may .change place then .error (.os .accessDenied)
      else if node = .socket true then .ok ()
      else .error (.os .connectionRefused)

/-- What a listing shows of one entry. -/
inductive Shown where
  | directory
  | file (content : Bytes)
  | other
  deriving DecidableEq, Repr

/-- What a listing shows of a node. -/
def Node.shown : Node → Shown
  | .directory _ => .directory
  | .file content => .file content
  | .link _ | .socket _ => .other

/-- Everything below a directory, under the name it was asked by, in the order of the paths. -/
def listing (tree : FileTree) (path : String) : List (String × Shown) :=
  match tree.locate true path with
  | .ok (.present place (.directory _)) =>
    let below := tree.entries.filterMap fun entry =>
      if isWithin place entry.1 ∧ entry.1 ≠ place then
        some (Path.join path (Path.ofSegments (entry.1.drop place.length)), Node.shown entry.2)
      else
        none
    below.mergeSort (fun left right => decide (left.1 ≤ right.1))
  | _ => []

end FileTree

/-- One thing put into a fresh working directory. -/
inductive Planting where
  | directory (path : String)
  | file (path : String) (content : Bytes)
  | link (path target : String)
  | socket (path : String) (live : Bool)
  deriving Repr

namespace FileTree

/-- Puts one thing into a tree; what cannot be put there is left out. -/
def plant (tree : FileTree) : Planting → FileTree
  | .directory path => (tree.makeDirectories 0o755 path).2
  | .file path content => (tree.writeFile path content).toOption.getD tree
  | .link path target => (tree.makeLink path target).toOption.getD tree
  | .socket path live => (tree.bindSocket live path).toOption.getD tree

/-- The working directory with the given things put into it in order. -/
def planted (things : List Planting) : FileTree := things.foldl plant empty

/-- A working directory with directories, files and links of every kind. -/
def sample : List Planting :=
  [.directory "d1/sub", .directory "d2", .directory "d3", .directory "sp ace",
    .directory "a.b+c", .file "f1" (Text.bytes "x"), .file "f2" [],
    .file "d1/in" (Text.bytes "y"), .link "ld" "d1", .link "lf" "f1", .link "broken" "nowhere",
    .link "loop" "loop", .file "we\\ird\nname" (Text.bytes "z"), .directory "é"]

end FileTree

end Confinement.Host
