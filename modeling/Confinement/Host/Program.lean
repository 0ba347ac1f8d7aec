import Confinement.Host.Shell

/-!
# Programs

The few programs that policy tools are tried with: the utilities and a shell.  `Program.run` gives
the status with which a program ends and the file tree that is left, or the cause for which it could
not be run.
-/

namespace Confinement.Host.Program

/-- The cause for which a program that is not known cannot be run. -/
def refusal (tree : FileTree) (program : String) : Failure :=
  if program.toList.contains '/' then
    match tree.locate true program with
    | .error cause => cause
    | .ok (.vacant _ _) => .os .noEntry
    | .ok (.present _ _) => .os .accessDenied
  else if program.utf8ByteSize > FileTree.nameLimit then .os .nameTooLong
  else .os .noEntry

/-- Runs a program in the directory where the file tree starts. -/
def runHere (tree : FileTree) (program : String) (arguments : List String) :
    Except Failure Status × FileTree :=
  let name := Shell.programName program
  if ["sh", "dash", "bash"].contains name then
    match Shell.invocation? program arguments with
    | some (isStrict, script, parameters) =>
      let shell := Shell.runScript tree isStrict script parameters
      (.ok shell.status, shell.tree)
    | none => (.ok (.exited (if arguments.isEmpty then 0 else 2)), tree)
  else
    match Utility.run? tree [] name arguments with
    | some effect => (.ok (.exited effect.code), effect.tree)
    | none => (.error (refusal tree program), tree)

def run (tree : FileTree) (program : String) (arguments : List String) (directory : String) :
    Except Failure Status × FileTree :=
  if (directory :: program :: arguments).any (·.toList.contains '\x00') then
    (.error (.told "nul byte found in provided data"), tree)
  else
    match tree.locate true directory with
    | .error cause => (.error cause, tree)
    | .ok (.vacant _ _) => (.error (.os .noEntry), tree)
    | .ok (.present place (.directory _)) =>
      if tree.may .search place then
        let (result, next) := runHere { tree with start := place } program arguments
        (result, { next with start := tree.start })
      else (.error (.os .accessDenied), tree)
    | .ok (.present _ _) => (.error (.os .notADirectory), tree)

end Confinement.Host.Program
