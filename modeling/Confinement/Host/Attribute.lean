import Confinement.Host.FileTree

/-!
# Extended attributes

Whether the kernel sets an attribute of a file, without following a link at the end of its path.
The name is judged before the path: it has 1 to 255 bytes, and it must belong to a class of names
that the kernel knows.  All classes but one are the superuser's.
-/

namespace Confinement.Host

/-- The position of the first NUL byte of a text. -/
def nulPosition? (text : String) : Option Nat := (Text.bytes text).findIdx? (· == 0)

def attributeNameLimit : Nat := 255

def attributeValueLimit : Nat := 65536

/-- The classes of names that only the superuser may set. -/
def reservedClasses : List String := ["trusted.", "security.", "system."]

def attributeClasses : List String := "user." :: reservedClasses

/-- Whether a name belongs to a class, with something after the class. -/
def isKnownAttribute (name : String) : Bool :=
  attributeClasses.any fun start =>
    start.toList.isPrefixOf name.toList && start.length < name.length

def isReservedAttribute (name : String) : Bool :=
  reservedClasses.any fun start => start.toList.isPrefixOf name.toList

/-- Whether a name belongs to the class that only files and directories may have. -/
def isUserAttribute (name : String) : Bool := "user.".toList.isPrefixOf name.toList

/-- Why the actor may not set an attribute of what stands at a place, if it may not. -/
def attributeBar? (tree : FileTree) (place : Place) (node : Node) (name : String) : Option Errno :=
  if isUserAttribute name && !(node.isDirectory || node.isFile) then some .notPermitted
  else if isReservedAttribute name then
    if tree.actor.isSuper then none else some .notPermitted
  else if tree.may .change place then none
  else some .accessDenied

/-- Sets an attribute of a path, as far as the kernel's checks go. -/
def setAttribute (tree : FileTree) (path name : String) (value : Bytes) : Except Failure Unit :=
  match nulPosition? path, nulPosition? name with
  | some position, _ => .error (.nulInArgument position)
  | none, some position => .error (.nulInArgument position)
  | none, none =>
    if name = "" ∨ name.utf8ByteSize > attributeNameLimit then
      .error (.os .outOfRange)
    else if value.length > attributeValueLimit then
      .error (.os .argumentsTooLong)
    else
      match tree.locate false path with
      | .error cause => .error cause
      | .ok (.vacant _ _) => .error (.os .noEntry)
      | .ok (.present place node) =>
        match attributeBar? tree place node name with
        | some cause => .error (.os cause)
        | none => if isKnownAttribute name then .ok () else .error (.os .notSupported)

end Confinement.Host
