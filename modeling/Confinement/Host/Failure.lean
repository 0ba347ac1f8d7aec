/-!
# Failures of the outside world

Files, sockets and programs fail for causes that the kernel numbers, and for a few that are found
before the kernel is asked.  `Failure.message` is the text under which each one is told;
`Failure.code?` is the kernel's number, for the causes that have one.
-/

namespace Confinement.Host

/-- A numbered cause. -/
inductive Errno where
  | notPermitted
  | noEntry
  | inputOutput
  | tryAgain
  | outOfMemory
  | accessDenied
  | exists
  | notADirectory
  | isADirectory
  | invalid
  | outOfRange
  | nameTooLong
  | notEmpty
  | tooManyLinks
  | protocolError
  | messageTooBig
  | notSupported
  | addressInUse
  | addressNotAvailable
  | networkUnreachable
  | noBufferSpace
  | connectionRefused
  | cancelled
  | notRecoverable
  | brokenPipe
  | noSuchDevice
  | argumentsTooLong
  deriving DecidableEq, Repr

/-- The kernel's number of a cause. -/
def Errno.code : Errno → Nat
  | .notPermitted => 1
  | .noEntry => 2
  | .inputOutput => 5
  | .noSuchDevice => 6
  | .argumentsTooLong => 7
  | .tryAgain => 11
  | .outOfMemory => 12
  | .accessDenied => 13
  | .exists => 17
  | .notADirectory => 20
  | .isADirectory => 21
  | .invalid => 22
  | .brokenPipe => 32
  | .outOfRange => 34
  | .nameTooLong => 36
  | .notEmpty => 39
  | .tooManyLinks => 40
  | .protocolError => 71
  | .messageTooBig => 90
  | .notSupported => 95
  | .addressInUse => 98
  | .addressNotAvailable => 99
  | .networkUnreachable => 101
  | .noBufferSpace => 105
  | .connectionRefused => 111
  | .cancelled => 125
  | .notRecoverable => 131

def Errno.words : Errno → String
  | .notPermitted => "Operation not permitted"
  | .noEntry => "No such file or directory"
  | .inputOutput => "Input/output error"
  | .noSuchDevice => "No such device or address"
  | .argumentsTooLong => "Argument list too long"
  | .tryAgain => "Resource temporarily unavailable"
  | .outOfMemory => "Cannot allocate memory"
  | .accessDenied => "Permission denied"
  | .exists => "File exists"
  | .notADirectory => "Not a directory"
  | .isADirectory => "Is a directory"
  | .invalid => "Invalid argument"
  | .brokenPipe => "Broken pipe"
  | .outOfRange => "Numerical result out of range"
  | .nameTooLong => "File name too long"
  | .notEmpty => "Directory not empty"
  | .tooManyLinks => "Too many levels of symbolic links"
  | .protocolError => "Protocol error"
  | .messageTooBig => "Message too long"
  | .notSupported => "Operation not supported"
  | .addressInUse => "Address already in use"
  | .addressNotAvailable => "Cannot assign requested address"
  | .networkUnreachable => "Network is unreachable"
  | .noBufferSpace => "No buffer space available"
  | .connectionRefused => "Connection refused"
  | .cancelled => "Operation canceled"
  | .notRecoverable => "State not recoverable"

/-- Why an operation on the outside world failed. -/
inductive Failure where
  | os (cause : Errno)
  | wouldBlock
  /-- A signal came first; the operation may be tried again. -/
  | interrupted
  | brokenPipe
  | connectionReset
  /-- The peer did not answer in time. -/
  | timedOut
  /-- A write took no byte. -/
  | writeZero
  /-- The bytes read are no text. -/
  | notText
  | nulInName
  | nulInSocketPath
  /-- An argument holds a NUL byte, first at `position`. -/
  | nulInArgument (position : Nat)
  /-- A socket path does not fit a socket address. -/
  | socketPathTooLong
  /-- A cause told by someone else. -/
  | told (text : String)
  deriving DecidableEq, Repr

namespace Failure

/-- The text under which a failure is told. -/
def message : Failure → String
  | .os cause => cause.words ++ " (os error " ++ toString cause.code ++ ")"
  | .wouldBlock => "operation would block"
  | .interrupted => "operation interrupted"
  | .brokenPipe => "broken pipe"
  | .connectionReset => "connection reset"
  | .timedOut => "timed out"
  | .writeZero => "write zero"
  | .notText => "stream did not contain valid UTF-8"
  | .nulInName => "file name contained an unexpected NUL byte"
  | .nulInSocketPath => "paths must not contain interior null bytes"
  | .nulInArgument position =>
    "nul byte found in provided data at position: " ++ toString position
  | .socketPathTooLong => "path must be shorter than SUN_LEN"
  | .told text => text

/-- The kernel's number of the cause, when the kernel gave one. -/
def code? : Failure → Option Nat
  | .os cause => some cause.code
  | _ => none

end Failure

end Confinement.Host
