import Confinement.Host.FileTree
import Confinement.Settings.Document
import Confinement.Settings.Selector

/-!
# Configuration files

Finding and reading configuration files.  A file may extend another one, named relative to its own
directory; its settings lie over those of the file it extends.

A file must be a document in the wide dialect.  Its settings are read in the narrow one, so a
document that only the wide dialect knows is a file whose settings do not fit.
-/

namespace Confinement.Settings

open Host

/-- Why a configuration file gives no settings. -/
inductive SourceFault where
  /-- It cannot be read, it is no document, or what it extends is not there. -/
  | unreadable
  | cyclic
  /-- Its settings cannot be read. -/
  | misfit
  deriving DecidableEq, Repr

namespace Source

/-- The name endings of formats that are not read. -/
def foreignEndings : List String := ["json", "json5", "yaml", "yml"]

/-- Whether a place holds a file of another format, by the ending of its name. -/
def isForeign (place : Place) : Bool :=
  ((place.getLast?.bind Path.extension?).map lowered).any (· ∈ foreignEndings)

/-- The settings that the bytes of a file spell. -/
def entries (place : Place) (content : Bytes) : Except SourceFault (List (String × Value)) :=
  if isForeign place then .error .unreadable
  else
    match (Text.ofBytes? content).filter Document.isSound with
    | none => .error .unreadable
    | some text =>
      match Document.parse? .narrow text with
      | none => .error .misfit
      | some entries => .ok entries

/--
The settings of the file that a path names, over those of the files it extends; `above` are the
files that extend it, and `fuel` bounds the number of files that follow.
-/
def readFrom (tree : FileTree) :
    (fuel : Nat) → (above : List Place) → (path : String) → Except SourceFault (Option Value)
  | 0, _, _ => .error .cyclic
  | fuel + 1, above, path =>
    match tree.readInside path with
    | .error (.os .noEntry) => .ok none
    | .error _ => .error .unreadable
    | .ok (place, content) =>
      if place ∈ above then .error .cyclic
      else do
        let own ← entries place content
        match Value.lookup? own "extends" with
        | none => pure (some (.table own))
        | some (.text base) =>
          match ← readFrom { tree with start := place.dropLast } fuel (place :: above) base with
          | none => .error .unreadable
          | some below => pure (some (below.overlay (.table own)))
        | some _ => .error .unreadable

/-- The settings of the file that a path names, if there is one. -/
def read (tree : FileTree) (path : String) : Except SourceFault (Option Value) :=
  readFrom tree (tree.entries.length + 1) [] path

/-- What a search for a configuration file has found. -/
structure Search where
  /-- The settings of the first file that could be read. -/
  found : Option Value
  /-- What was wrong with the file that had to be there. -/
  required : List SourceFault
  /-- What was wrong with files before the one found. -/
  optional : List SourceFault

/-- Searches among files that need not be there. -/
def searchOptional (tree : FileTree) (faults : List SourceFault) : List String → Search
  | [] => ⟨none, [], faults⟩
  | path :: rest =>
    match read tree path with
    | .ok (some value) => ⟨some value, [], faults⟩
    | .ok none => searchOptional tree faults rest
    | .error fault => searchOptional tree (faults ++ [fault]) rest

/-- Searches for a file that should be there and then, without it, among others. -/
def search (tree : FileTree) (required : Option String) (optional : List String) : Search :=
  match required with
  | none => searchOptional tree [] optional
  | some path =>
    let later (fault : SourceFault) : Search :=
      { searchOptional tree [] (optional.filter (· ≠ path)) with required := [fault] }
    match read tree path with
    | .ok (some value) => ⟨some value, [], []⟩
    | .ok none => later .unreadable
    | .error fault => later fault

/-- What is wrong with a search: faults of optional files count when nothing was found. -/
def Search.faults (search : Search) : List SourceFault :=
  search.required ++ if search.found.isNone then search.optional else []

end Source

end Confinement.Settings
