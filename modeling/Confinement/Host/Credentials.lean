/-!
# Credentials

Files are used on somebody's behalf: by a user, who belongs to a group.  What stands in a file tree
has an owner and a mode, and the mode says what the owner, others of its group and everybody else
may do with it.  The superuser may do everything.
-/

namespace Confinement.Host

/-- A user and its group, by number. -/
structure Credentials where
  user : Nat
  group : Nat
  deriving DecidableEq, Repr

namespace Credentials

def superuser : Credentials := ⟨0, 0⟩

/-- Whether these are credentials to which everything is allowed, whatever the group. -/
def isSuper (actor : Credentials) : Bool := actor.user == 0

end Credentials

/-- A use of a file or directory: to search it is to look names up in it. -/
inductive Use where
  | search
  | change
  | read
  deriving DecidableEq, Repr

/-- The bit of a mode that grants a use to everybody else. -/
def Use.bit : Use → Nat
  | .search => 0
  | .change => 1
  | .read => 2

namespace Credentials

/-- Whether a mode grants a use of something that an owner has. -/
def granted (actor owner : Credentials) (mode : Nat) (use : Use) : Bool :=
  if actor.user = owner.user then mode.testBit (use.bit + 6)
  else if actor.group = owner.group then mode.testBit (use.bit + 3)
  else mode.testBit use.bit

theorem granted_own (actor : Credentials) (mode : Nat) (use : Use) :
    actor.granted actor mode use = mode.testBit (use.bit + 6) :=
  if_pos rfl

/-- Whether a mode says that only owners may take names out of a directory. -/
def isSticky (mode : Nat) : Bool := mode.testBit 9

end Credentials

end Confinement.Host
