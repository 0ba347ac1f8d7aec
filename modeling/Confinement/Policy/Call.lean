import Confinement.Action
import Confinement.Wire.Refusal

/-!
# Calls to policy backends

A `Call World Result` is one call of a backend: it acts on the world that the backends share and
answers with a result or with the way in which the backend failed.

`Part World Value` singles out one part of a world, so that a backend names only what it needs.
-/

namespace Confinement.Policy

open Host Wire

/-- How a backend failed. -/
inductive BackendError where
  /-- The service cannot be reached. -/
  | connect (endpoint : String) (cause : Failure)
  /-- Records could not be moved to or from the service. -/
  | framing (error : FramingError)
  | closed
  | unexpectedReply (request reply : String)
  /-- A file could not be worked on. -/
  | file (action path : String) (cause : Failure)
  /-- A program could not be started. -/
  | spawn (program : String) (cause : Failure)
  /-- A program did not succeed. -/
  | toolFailed (program status : String)
  deriving DecidableEq, Repr

namespace BackendError

/-- The text under which the error is told. -/
def message : BackendError → String
  | .connect endpoint cause => "failed to connect to " ++ endpoint ++ ": " ++ cause.message
  | .framing error => "backend transport failed: " ++ error.message
  | .closed => "backend closed the connection"
  | .unexpectedReply request reply => "unexpected reply to " ++ request ++ ": " ++ reply
  | .file action path cause =>
    "failed to " ++ action ++ " '" ++ path ++ "': " ++ cause.message
  | .spawn program cause => "failed to run " ++ program ++ ": " ++ cause.message
  | .toolFailed program status => program ++ " exited with " ++ status

/-- The class reported to the client: a backend's failure is nothing the client did. -/
def refusal (_ : BackendError) : Refusal := .internal

/-- Whether the connection on which the error arose can no longer be used. -/
def breaksConnection : BackendError → Bool
  | .connect _ _ | .framing _ | .closed => true
  | .unexpectedReply _ _ | .file _ _ _ | .spawn _ _ | .toolFailed _ _ => false

end BackendError

abbrev Call (World : Type) := Action BackendError World

/-- One part of a world, which can be looked at and replaced. -/
structure Part (World Value : Type) where
  get : World → Value
  put : Value → World → World

/-- A call that acts on one part of the world. -/
def Part.call {World Value Result : Type} (part : Part World Value) (call : Call Value Result) :
    Call World Result :=
  fun world =>
    let (result, value) := call (part.get world)
    (result, part.put value world)

end Confinement.Policy
