import Confinement.Host.Failure

/-!
# Refusals

Why a request is refused, as the peer is told: a closed vocabulary of causes, each with one word on
the wire and one error number on the client's side.
-/

namespace Confinement.Wire

open Host

/-- The class of a refusal. -/
inductive Refusal where
  | invalidArgument
  /-- Something that is staged already. -/
  | alreadyExists
  /-- A path that leads nowhere. -/
  | notFound
  /-- A path that may not be inspected, or a plug that may not be exported. -/
  | accessDenied
  | notADirectory
  | unrecoverable
  | outOfMemory
  | protocol
  /-- The reply does not fit the output buffer. -/
  | bufferFull
  | messageTooBig
  | internal
  deriving DecidableEq, Repr

namespace Refusal

/-- Every class, in the order of their declaration. -/
def all : List Refusal :=
  [.invalidArgument, .alreadyExists, .notFound, .accessDenied, .notADirectory, .unrecoverable,
    .outOfMemory, .protocol, .bufferFull, .messageTooBig, .internal]

/-- The word of a class on the wire. -/
def token : Refusal → String
  | .invalidArgument => "invalid"
  | .alreadyExists => "exists"
  | .notFound => "not-found"
  | .accessDenied => "forbidden"
  | .notADirectory => "not-a-directory"
  | .unrecoverable => "unrecoverable"
  | .outOfMemory => "out-of-memory"
  | .protocol => "protocol"
  | .bufferFull => "buffer-full"
  | .messageTooBig => "too-big"
  | .internal => "internal"

def ofToken? (word : String) : Option Refusal := all.find? (fun refusal => refusal.token == word)

/-- Each class is found by its own word. -/
@[simp]
theorem ofToken?_token (refusal : Refusal) : ofToken? refusal.token = some refusal := by
  cases refusal <;> decide

/-- The cause that a class stands for on the client's side. -/
def cause : Refusal → Errno
  | .invalidArgument => .invalid
  | .alreadyExists => .exists
  | .notFound => .noEntry
  | .accessDenied => .accessDenied
  | .notADirectory => .notADirectory
  | .unrecoverable => .notRecoverable
  | .outOfMemory => .outOfMemory
  | .protocol => .protocolError
  | .bufferFull => .noBufferSpace
  | .messageTooBig => .messageTooBig
  | .internal => .cancelled

end Refusal

/-- Why records could not be encoded, decoded or moved. -/
inductive FramingError where
  /-- The output buffer cannot take the record. -/
  | bufferFull
  | tooManyFields
  /-- A received record exceeds the buffer or the number of fields. -/
  | messageTooBig
  /-- The stream has no data or room now. -/
  | wouldBlock
  | stream (cause : Failure)
  deriving DecidableEq, Repr

namespace FramingError

/-- The text under which a framing error is told. -/
def message : FramingError → String
  | .bufferFull => "output buffer of 2000 bytes is full"
  | .tooManyFields => "record exceeds 20 fields"
  | .messageTooBig => "inbound record exceeds the codec limits"
  | .wouldBlock => "transport would block"
  | .stream cause => "transport failure: " ++ cause.message

/-- The class reported to the peer. -/
def refusal : FramingError → Refusal
  | .bufferFull => .bufferFull
  | .tooManyFields | .messageTooBig => .messageTooBig
  | .wouldBlock | .stream _ => .internal

end FramingError

end Confinement.Wire
