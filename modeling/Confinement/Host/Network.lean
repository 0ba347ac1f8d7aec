import Confinement.Host.Failure

/-!
# Networks

What a machine finds when it looks up the name of a host, connects to an address or listens at one.
`Network.isolated` is a machine without a network: it can listen at its own addresses, but no
address can be reached.
-/

namespace Confinement.Host

/-- What a machine finds on its network. -/
structure Network where
  /-- The address of a host; a lookup may also succeed without any address. -/
  resolve : (host : String) → Except Failure (Option String)
  connect : (address : String) → (port : Nat) → Except Failure Unit
  listen : (address : String) → (port : Nat) → Except Failure Unit
  /-- Whether a listener can be kept from waiting for a single client. -/
  unblock : Except Failure Unit := .ok ()

namespace Network

/-- Whether a text is a number below 256 in decimal digits, without a needless zero. -/
def isOctet (digits : List Char) : Bool :=
  digits.all Char.isDigit &&
    match digits with
    | [] => false
    | ['0'] => true
    | '0' :: _ => false
    | _ => digits.length ≤ 3 &&
      digits.foldl (fun value c => value * 10 + (c.toNat - '0'.toNat)) 0 < 256

/-- The parts of an address of four octets. -/
def octets? (address : String) : Option (List (List Char)) :=
  let parts := address.toList.splitOn '.'
  if parts.length = 4 ∧ parts.all isOctet then some parts else none

/-- Whether an address belongs to the machine itself. -/
def isOwn (address : String) : Bool :=
  match octets? address with
  | some (first :: rest) =>
    String.ofList first == "127" || (first :: rest).all fun part => String.ofList part == "0"
  | _ => false

def lookupFailure : Failure :=
  .told "failed to lookup address information: Temporary failure in name resolution"

/-- A machine without a network. -/
def isolated : Network where
  resolve host :=
    if host = "localhost" then .ok (some "127.0.0.1")
    else if (octets? host).isSome then .ok (some host)
    else .error lookupFailure
  connect _ _ := .error (.os .networkUnreachable)
  listen address _ := if isOwn address then .ok () else .error (.os .addressNotAvailable)

end Network

end Confinement.Host
