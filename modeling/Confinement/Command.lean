import Confinement.Wire.Refusal

/-!
# Commands

What a client can ask, and the spelling of each request as a list of fields.  `Command.parse` reads
the fields of a record and `Command.words` writes them; a list of fields that spells no command is
refused with the reason.
-/

namespace Confinement

/-- One request of a client. -/
inductive Command where
  | clear
  | display
  | id (identifier : String)
  | install
  | log (switch : Option Bool)
  | path (location kind : String)
  | permission (name : String)
  | plug (exportDirectory importId importDirectory : String)
  | uninstall
  deriving DecidableEq, Repr

/-- The word that opens the record which settles the version. -/
def Command.magic : String := "sec-lsm-manager"

/-- The version that is spoken, also without being settled. -/
def Command.defaultVersion : Nat := 1

/-- Why fields spell no command. -/
inductive CommandError where
  /-- There are no fields. -/
  | empty
  /-- The first field is no command word. -/
  | unknown (word : String)
  | arity (word expected : String) (found : Nat)
  /-- The argument of `log` is neither `on` nor `off`. -/
  | logSwitch (argument : String)
  deriving DecidableEq, Repr

namespace CommandError

/-- The text under which the error is told. -/
def message : CommandError → String
  | .empty => "empty command"
  | .unknown word => "unknown command '" ++ word ++ "'"
  | .arity word expected found =>
    "'" ++ word ++ "' takes " ++ expected ++ " argument(s), got " ++ toString found
  | .logSwitch argument => "invalid log switch '" ++ argument ++ "'"

/-- The class reported to the client: such a record is malformed input. -/
def refusal (_ : CommandError) : Wire.Refusal := .protocol

end CommandError

namespace Command

def word : Command → String
  | .clear => "clear"
  | .display => "display"
  | .id _ => "id"
  | .install => "install"
  | .log _ => "log"
  | .path _ _ => "path"
  | .permission _ => "permission"
  | .plug _ _ _ => "plug"
  | .uninstall => "uninstall"

/-- The argument that sets the log switch. -/
def switchWord (on : Bool) : String := if on then "on" else "off"

def arguments : Command → List String
  | .clear | .display | .install | .uninstall => []
  | .id identifier => [identifier]
  | .log switch => (switch.map switchWord).toList
  | .path location kind => [location, kind]
  | .permission name => [name]
  | .plug exportDirectory importId importDirectory => [exportDirectory, importId, importDirectory]

/-- The fields that spell a command. -/
def words (command : Command) : List String := command.word :: command.arguments

/-- The number of arguments that a command word takes, in words. -/
def arityOf? (name : String) : Option String :=
  if name = "clear" ∨ name = "display" ∨ name = "install" ∨ name = "uninstall" then some "0"
  else if name = "id" ∨ name = "permission" then some "1"
  else if name = "log" then some "0 or 1"
  else if name = "path" then some "2"
  else if name = "plug" then some "3"
  else none

/-- The error of fields that spell no command. -/
def refuse (name : String) (given : List String) : CommandError :=
  match arityOf? name with
  | some expected => .arity name expected given.length
  | none => .unknown name

/-- The command that fields spell. -/
def parse : List String → Except CommandError Command
  | [] => .error .empty
  | ["clear"] => .ok .clear
  | ["display"] => .ok .display
  | ["id", identifier] => .ok (.id identifier)
  | ["install"] => .ok .install
  | ["log"] => .ok (.log none)
  | ["log", "on"] => .ok (.log (some true))
  | ["log", "off"] => .ok (.log (some false))
  | ["log", other] => .error (.logSwitch other)
  | ["path", location, kind] => .ok (.path location kind)
  | ["permission", name] => .ok (.permission name)
  | ["plug", exportDirectory, importId, importDirectory] =>
    .ok (.plug exportDirectory importId importDirectory)
  | ["uninstall"] => .ok .uninstall
  | first :: rest => .error (refuse first rest)

/-- Reading what was written gives the command back. -/
@[simp]
theorem parse_words (command : Command) : parse command.words = .ok command := by
  cases command with
  | log switch => rcases switch with _ | _ | _ <;> rfl
  | _ => rfl

end Command

end Confinement
