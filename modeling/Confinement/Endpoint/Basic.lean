import Confinement.Endpoint.Reference
import Confinement.Host.FileTree
import Confinement.Text.Number

/-!
# Endpoints

Where a daemon listens and a client connects: a socket file or a TCP address.  `Endpoint.parse`
reads the text form and `Endpoint.text` writes it.

`Endpoint.prepare` makes the directory in which a socket file can be made.
-/

namespace Confinement

open Host

/-- The address of a daemon. -/
inductive Endpoint where
  | unix (path : String)
  | tcp (host : String) (port : Nat)
  deriving DecidableEq, Repr

/-- Why a text is no endpoint. -/
inductive EndpointError where
  /-- The scheme is neither `unix` nor `tcp`. -/
  | unsupportedScheme (scheme : String)
  /-- There is no host. -/
  | missingHost (text : String)
  /-- There is no port. -/
  | missingPort (text : String)
  /-- There is no path. -/
  | missingPath (text : String)
  /-- The path is no text. -/
  | invalidPath (text : String)
  /-- The text is no absolute reference. -/
  | reference (fault : Reference.Fault)
  deriving DecidableEq, Repr

/-- The text under which the error is told. -/
def EndpointError.message : EndpointError → String
  | .unsupportedScheme scheme => "unsupported socket scheme '" ++ scheme ++ "'"
  | .missingHost text => "missing TCP host in '" ++ text ++ "'"
  | .missingPort text => "missing TCP port in '" ++ text ++ "'"
  | .missingPath text => "missing Unix socket path in '" ++ text ++ "'"
  | .invalidPath text => "invalid Unix socket path in '" ++ text ++ "'"
  | .reference fault => fault.message

/-- Why the directory of a socket file could not be made. -/
inductive PreparationError where
  /-- The path has no directory. -/
  | missingParent (path : String)
  /-- The directory could not be made. -/
  | createDirectory (path : String) (cause : Failure)
  deriving DecidableEq, Repr

/-- The text under which the error is told. -/
def PreparationError.message : PreparationError → String
  | .missingParent path => "socket path '" ++ path ++ "' has no parent directory"
  | .createDirectory path cause =>
    "failed to create socket directory '" ++ path ++ "': " ++ cause.message

namespace Endpoint

def text : Endpoint → String
  | .unix path => "unix:" ++ path
  | .tcp host port => "tcp:" ++ host ++ ":" ++ toString port

/-- The path of a socket file. -/
def unixPath? : Endpoint → Option String
  | .unix path => some path
  | .tcp _ _ => none

/-- What stands before and after the last colon of a text. -/
def splitLastColon (chars : List Char) : Option (List Char × List Char) :=
  if chars.contains ':' then
    let reversed := chars.reverse
    some ((reversed.dropWhile (· ≠ ':')).tail.reverse, (reversed.takeWhile (· ≠ ':')).reverse)
  else
    none

/-- The socket file that a path names, its percent encoding undone. -/
def ofUnixPath (text path : String) : Except EndpointError Endpoint :=
  match Text.ofBytes? (Percent.decode (Text.bytes path)) with
  | none => .error (.invalidPath text)
  | some "" => .error (.missingPath text)
  | some decoded => .ok (.unix decoded)

/-- The address that a path `host:port` names. -/
def ofTcpPath (text path : String) : Except EndpointError Endpoint :=
  match splitLastColon path.toList with
  | none => .error (.missingPort text)
  | some ([], _) => .error (.missingHost text)
  | some (host, port) =>
    match Text.unsigned? 65536 (String.ofList port) with
    | none => .error (.missingPort text)
    | some number => .ok (.tcp (Percent.encodeControls (String.ofList host)) number)

/-- Reads the text form of an endpoint. -/
def parse (text : String) : Except EndpointError Endpoint :=
  match Reference.parse text with
  | .error fault => .error (.reference fault)
  | .ok reference =>
    if reference.scheme = "unix" then
      ofUnixPath text reference.path
    else if reference.scheme = "tcp" then
      if reference.isOpaque then
        ofTcpPath text reference.path
      else
        match reference.host, reference.port with
        | none, _ => .error (.missingHost text)
        | some _, none => .error (.missingPort text)
        | some host, some port => .ok (.tcp host port)
    else
      .error (.unsupportedScheme reference.scheme)

/-- The access mode of a directory made for a socket file. -/
def socketDirectoryMode : Nat := 0o700

/--
Makes the directory of a socket file and the parents it lacks.  That something stands in its place
already is no error here.
-/
def prepare (endpoint : Endpoint) (tree : FileTree) : Except PreparationError Unit × FileTree :=
  match endpoint with
  | .tcp _ _ => (.ok (), tree)
  | .unix path =>
    match Path.parent? path with
    | none | some "" => (.error (.missingParent path), tree)
    | some parent =>
      match tree.makeDirectories socketDirectoryMode parent with
      | (none, next) | (some (.os .exists), next) => (.ok (), next)
      | (some cause, next) => (.error (.createDirectory parent cause), next)

end Endpoint

end Confinement
