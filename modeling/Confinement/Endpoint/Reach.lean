import Confinement.Endpoint.Basic
import Confinement.Host.Network

/-!
# Reaching endpoints

What comes of connecting to an endpoint, given the file system and the network of a machine.
-/

namespace Confinement

open Host

/-- Why an endpoint cannot be reached. -/
inductive ReachError where
  /-- The host is not found. -/
  | resolve (cause : Failure)
  | connect (cause : Failure)
  deriving DecidableEq, Repr

namespace Endpoint

/-- The path of a socket address: what stands before the first NUL. -/
def addressPath (path : String) : String :=
  String.ofList (path.toList.takeWhile (· ≠ '\x00'))

/--
Connects to the socket that a path names.  A path that begins with NUL is no path but a name, under
which nobody listens.
-/
def reachSocket (tree : FileTree) (path : String) : Except Failure Unit :=
  if path.utf8ByteSize ≥ FileTree.socketPathLimit then .error .socketPathTooLong
  else if path.toList.head? = some '\x00' then .error (.os .connectionRefused)
  else tree.connectSocket (addressPath path)

def reach (endpoint : Endpoint) (tree : FileTree) (network : Network) : Except ReachError Unit :=
  match endpoint with
  | .unix path => (reachSocket tree path).mapError .connect
  | .tcp host port =>
    match network.resolve host with
    | .error cause => .error (.resolve cause)
    | .ok none => .error (.resolve (.told "no resolved addresses"))
    | .ok (some address) => (network.connect address port).mapError .connect

end Endpoint

end Confinement
