import Confinement.Endpoint.Basic
import Confinement.Host.Network

/-!
# Listeners

Claiming the endpoint at which a server listens.  A socket file that nobody listens on is replaced;
one with a listener, and anything that is no socket, is left alone and makes the claim fail.
-/

namespace Confinement

open Host

/-- Why a server cannot wait for its clients. -/
inductive WaitFault where
  /-- The listener cannot be kept from waiting for a single client. -/
  | blocking (cause : Failure)
  /-- The wait itself failed. -/
  | poll (cause : Errno)
  deriving DecidableEq, Repr

/-- The text under which the fault is told. -/
def WaitFault.message : WaitFault → String
  | .blocking cause => "failed to enable non-blocking mode: " ++ cause.message
  | .poll cause => "failed to wait for socket readiness: " ++ cause.words

/-- Why a server cannot listen, or cannot go on. -/
inductive ListenerError where
  /-- The host is not found. -/
  | resolve (host : String) (port : Nat) (cause : Failure)
  /-- The host has no address. -/
  | noAddress (host : String) (port : Nat)
  /-- The address cannot be claimed. -/
  | bindAddress (address : String) (port : Nat) (cause : Failure)
  /-- The socket file cannot be made. -/
  | bindSocket (path : String) (cause : Failure)
  | inUse (path : String)
  | notSocket (path : String)
  /-- What stands there cannot be looked at. -/
  | inspect (path : String) (cause : Failure)
  /-- It cannot be told whether someone listens there. -/
  | probe (path : String) (cause : Failure)
  /-- The socket file that nobody listens on cannot be removed. -/
  | removeStale (path : String) (cause : Failure)
  | wait (fault : WaitFault)
  deriving DecidableEq, Repr

/-- The text under which the error is told. -/
def ListenerError.message : ListenerError → String
  | .resolve host port cause =>
    "failed to resolve TCP address " ++ host ++ ":" ++ toString port ++ ": " ++ cause.message
  | .noAddress host port => "no TCP addresses resolved for " ++ host ++ ":" ++ toString port
  | .bindAddress address port cause =>
    "failed to bind TCP listener at " ++ address ++ ":" ++ toString port ++ ": " ++ cause.message
  | .bindSocket path cause => "failed to bind unix listener at " ++ path ++ ": " ++ cause.message
  | .inUse path => "existing unix socket " ++ path ++ " is already in use"
  | .notSocket path => "unix socket path " ++ path ++ " is not a socket"
  | .inspect path cause =>
    "failed to read metadata for unix socket " ++ path ++ ": " ++ cause.message
  | .probe path cause =>
    "failed to connect to existing unix socket " ++ path ++ ": " ++ cause.message
  | .removeStale path cause =>
    "failed to remove stale unix socket " ++ path ++ ": " ++ cause.message
  | .wait fault => fault.message

namespace Listener

/-- Removes a socket file that nobody listens on. -/
def removeStale (tree : FileTree) (path : String) : Except ListenerError FileTree :=
  (tree.removeFile path).mapError (.removeStale path)

/-- Makes room for a socket file: only a socket that refuses a connection is removed. -/
def clearPath (tree : FileTree) (path : String) : Except ListenerError FileTree :=
  match tree.linkStat path with
  | .error (.os .noEntry) => .ok tree
  | .error cause => .error (.inspect path cause)
  | .ok (.socket _) =>
    match tree.connectSocket path with
    | .ok () => .error (.inUse path)
    | .error (.os .connectionRefused) | .error (.os .noEntry) => removeStale tree path
    | .error cause => .error (.probe path cause)
  | .ok _ => .error (.notSocket path)

/-- Makes a socket file and listens on it. -/
def bindSocket (tree : FileTree) (path : String) : Except ListenerError Unit × FileTree :=
  match clearPath tree path with
  | .error error => (.error error, tree)
  | .ok cleared =>
    match cleared.bindSocket true path with
    | .error cause => (.error (.bindSocket path cause), cleared)
    | .ok bound => (.ok (), bound)

/-- Listens at an address of the network. -/
def bindAddress (network : Network) (host : String) (port : Nat) : Except ListenerError Unit :=
  match network.resolve host with
  | .error cause => .error (.resolve host port cause)
  | .ok none => .error (.noAddress host port)
  | .ok (some address) => (network.listen address port).mapError (.bindAddress address port)

/-- Claims an endpoint. -/
def claim (endpoint : Endpoint) (network : Network) (tree : FileTree) :
    Except ListenerError Unit × FileTree :=
  match endpoint with
  | .unix path => bindSocket tree path
  | .tcp host port => (bindAddress network host port, tree)

/-- Removes the socket file of an endpoint, if it is there and may be removed. -/
def cleanup (endpoint : Endpoint) (tree : FileTree) : FileTree :=
  match endpoint with
  | .unix path => (tree.removeFile path).toOption.getD tree
  | .tcp _ _ => tree

/-- Listens at an endpoint; a claim that cannot be used is given up. -/
def bind (endpoint : Endpoint) (network : Network) (tree : FileTree) :
    Except ListenerError Unit × FileTree :=
  match claim endpoint network tree, network.unblock with
  | (.error error, next), _ => (.error error, next)
  | (.ok (), next), .ok () => (.ok (), next)
  | (.ok (), next), .error cause => (.error (.wait (.blocking cause)), cleanup endpoint next)

end Listener

end Confinement
