import Confinement.Action
import Confinement.Host.Credentials
import Confinement.Host.Failure

/-!
# Accounts

Giving up the rights with which a daemon was started: first the groups, then the user.  Without a
group of its own in the settings, a user brings its primary group along.  A call that is refused
leaves what the calls before it have changed.
-/

namespace Confinement

open Host

/-- Why the account could not be switched. -/
inductive AccountError where
  /-- A name could not be looked up. -/
  | lookup (what name : String) (cause : Errno)
  /-- There is no such user. -/
  | unknownUser (name : String)
  /-- There is no such group. -/
  | unknownGroup (name : String)
  | switch (call : String) (cause : Errno)
  deriving DecidableEq, Repr

/-- The text under which the error is told. -/
def AccountError.message : AccountError → String
  | .lookup what name cause =>
    "failed to look up " ++ what ++ " '" ++ name ++ "': " ++ cause.words
  | .unknownUser name => "unknown user '" ++ name ++ "'"
  | .unknownGroup name => "unknown group '" ++ name ++ "'"
  | .switch call cause => call ++ " failed: " ++ cause.words

/-- What a machine knows of accounts, and whether it lets them be switched to. -/
structure Accounts where
  /-- A user brings its primary group along. -/
  user : (name : String) → Except Errno (Option Credentials)
  group : (name : String) → Except Errno (Option Nat)
  switch : (call : String) → (number : Nat) → Except Errno Unit

namespace Accounts

/-- A machine without accounts but those that every system has. -/
def empty : Accounts where
  user name := .ok ([("root", .superuser), ("nobody", ⟨65534, 65534⟩)].lookup name)
  group name := .ok ([("root", 0), ("nogroup", 65534)].lookup name)
  switch _ _ := .ok ()

variable (accounts : Accounts)

def findUser (name : String) : Except AccountError Credentials :=
  match accounts.user name with
  | .error cause => .error (.lookup "user" name cause)
  | .ok none => .error (.unknownUser name)
  | .ok (some found) => .ok found

def findGroup (name : String) : Except AccountError Nat :=
  match accounts.group name with
  | .error cause => .error (.lookup "group" name cause)
  | .ok none => .error (.unknownGroup name)
  | .ok (some number) => .ok number

/-- The numbers of the user and the group to switch to, as far as there is something to switch. -/
def resolve (user group : Option String) : Except AccountError (Option Nat × Option Nat) := do
  let found ← user.mapM accounts.findUser
  let named ← group.mapM accounts.findGroup
  pure (found.map Credentials.user, named.or (found.map Credentials.group))

/-- A step that changes for whom a daemon runs. -/
abbrev Step := Action AccountError Credentials Unit

def change (call : String) (number : Nat) (reached : Credentials → Credentials) : Step :=
  fun actor =>
    match accounts.switch call number with
    | .ok () => (.ok (), reached actor)
    | .error cause => (.error (.switch call cause), actor)

/-- Gives up the other groups and switches to one. -/
def changeGroup (group : Nat) : Step := do
  accounts.change "setgroups" 0 id
  accounts.change "setgid" group fun actor => { actor with group }

def changeUser (user : Nat) : Step :=
  accounts.change "setuid" user fun actor => { actor with user }

/-- Switches to the accounts that are named. -/
def drop (user group : Option String) : Step := fun actor =>
  match accounts.resolve user group with
  | .error error => (.error error, actor)
  | .ok (user, group) => (do
      group.forM accounts.changeGroup
      user.forM accounts.changeUser : Step) actor

end Accounts

end Confinement
