import Confinement.Session.Basic

/-!
# The pool of clients

A `Pool` holds the clients that a server works for, at most as many as its options allow.  A round
waits until something can be done, accepts clients while there is room, answers those that are
ready, and lets go of those that are done.

What the outside world does in a round is a `Moment`: the outcome of the wait, the clients that
arrive and the time.  `Pool.run` takes the moments from a schedule, so what holds of every schedule
holds whatever the world does.
-/

namespace Confinement

open Host Policy Wire

/-- How a server works. -/
structure ServerOptions where
  /-- How many clients it works for at a time; it always has room for one. -/
  maxClients : Nat := 3
  /-- The time after which a silent client is let go, if ever. -/
  idleTimeout : Option Nat := none
  /-- Whether an empty record is a record. -/
  allowEmptyRecords : Bool := false
  deriving DecidableEq, Repr

/-- The number of clients for which there is room. -/
def ServerOptions.capacity (options : ServerOptions) : Nat := max 1 options.maxClients

/-- One client in the pool. -/
structure Seat where
  /-- The number of clients that were accepted before it. -/
  serial : Nat
  peer : Peer
  session : Session
  /-- When something was last heard of the client. -/
  lastActivity : Nat

/-- Something that is waited for. -/
inductive Polled where
  | listener
  /-- A client, by its serial number, and whether it has replies to take. -/
  | client (serial : Nat) (wantsWrite : Bool)
  deriving DecidableEq, Repr

/-- What a wait reports about one thing that it was for. -/
structure Flags where
  /-- A client arrived, or sent something, or will send nothing more. -/
  readable : Bool := false
  writable : Bool := false
  hungUp : Bool := false
  broken : Bool := false
  deriving DecidableEq, Repr

def Flags.callsForRead (flags : Flags) : Bool := flags.readable || flags.hungUp || flags.broken

/-- What comes of accepting a client. -/
inductive Arrival where
  | peer (peer : Peer)
  | nobody
  | failure (cause : Failure)

/-- What comes of a wait. -/
inductive Waited where
  /-- A signal came first. -/
  | interrupted
  | failed (cause : Errno)
  /-- A number of things are ready, each as its flags say. -/
  | woken (ready : Nat) (report : Polled → Flags)

/-- What the world does in one round. -/
structure Moment where
  /-- Whether the server has been told to stop. -/
  shutdown : Bool := false
  waited : Waited
  /-- What comes of accepting clients, in order. -/
  arrivals : List Arrival := []
  now : Nat := 0

/-- Why a server stopped. -/
inductive StopReason where
  /-- Nothing happened for the idle time, and no client is left. -/
  | idle
  | shutdown
  deriving DecidableEq, Repr

/-- What follows a round. -/
inductive Verdict where
  | goesOn
  | stops (reason : StopReason)
  | fails (cause : Errno)
  deriving DecidableEq, Repr

/-- What serving came to when no further round follows. -/
def Verdict.result : Verdict → Except Errno StopReason
  | .fails cause => .error cause
  | .stops reason => .ok reason
  | .goesOn => .ok .shutdown

namespace Seat

variable {World : Type}

/-- Reads once and answers the complete records. -/
def exchange (environment : Environment World) (now : Nat) (seat : Seat) (shared : Shared World) :
    Except FramingError Unit × Seat × Shared World :=
  let source := seat.peer.source
  let (received, session, rest) := seat.session.receive source
  let lastActivity := if rest.left < source.left then now else seat.lastActivity
  match received with
  | .error error =>
    (.error error, { seat with session, peer := { seat.peer with source := rest } }, shared)
  | .ok () =>
    let (result, session, sink, after) := session.process environment seat.peer.sink shared
    (result, { seat with session, peer := ⟨rest, sink⟩, lastActivity }, after)

/-- Hands over replies that still wait. -/
def flush (seat : Seat) : Except FramingError Unit × Seat :=
  let (result, session, sink) := seat.session.flush seat.peer.sink
  (result, { seat with session, peer := { seat.peer with sink } })

/-- Lets the client go at the end of the round. -/
def shut (seat : Seat) : Seat := { seat with session := seat.session.close }

/-- Hands over replies, and lets the client go when that fails. -/
def flushOrShut (seat : Seat) : Seat :=
  match seat.flush with
  | (.ok (), next) => next
  | (.error _, next) => next.shut

/-- Does for a client what its flags call for. -/
def attend (environment : Environment World) (now : Nat) (flags : Flags) (seat : Seat)
    (shared : Shared World) : Seat × Shared World :=
  let (result, served, after) :=
    if flags.callsForRead then seat.exchange environment now shared else (.ok (), seat, shared)
  match result with
  | .error _ => (served.shut, after)
  | .ok () => (if flags.writable then served.flushOrShut else served, after)

/-- Whether nothing has been heard of the client for too long. -/
def isIdle (timeout : Option Nat) (now : Nat) (seat : Seat) : Bool :=
  timeout.any (fun limit => decide (limit ≤ now - seat.lastActivity))

/-- Whether a client stays in the pool. -/
def stays (timeout : Option Nat) (now : Nat) (seat : Seat) : Bool :=
  seat.session.isOpen && !seat.isIdle timeout now

/-- The client's end when the connection is closed; one that broke the rules is told before. -/
def farewell (seat : Seat) : Peer :=
  if seat.session.phase = .invalid then seat.flush.2.peer else seat.peer

end Seat

/-- What is asked about a client in a wait. -/
def Seat.polled (seat : Seat) : Polled := .client seat.serial seat.session.wantsWrite

/-- The clients of a server and what they share. -/
structure Pool (World : Type) where
  options : ServerOptions
  /-- The clients, in the order of their arrival. -/
  seats : List Seat := []
  /-- The number of clients accepted so far. -/
  accepted : Nat := 0
  /-- The connections closed so far, by serial number, in order. -/
  closed : List (Nat × Peer) := []
  shared : Shared World

namespace Pool

variable {World : Type}

/-- Whether there is room for another client. -/
def hasRoom (pool : Pool World) : Bool := pool.seats.length < pool.options.capacity

/-- What the next wait is for, in order: the listener while there is room, and every client. -/
def watch (pool : Pool World) : List Polled :=
  (if pool.hasRoom then [.listener] else []) ++ pool.seats.map Seat.polled

/-- Tells the flag of the listener, which is the first one if it was polled, from the others. -/
def sortOut (accepting : Bool) (flags : List Flags) : Bool × List Flags :=
  if accepting then (flags.head?.any Flags.readable, flags.drop 1) else (false, flags)

/-- Takes a client in. -/
def welcome (pool : Pool World) (now : Nat) (peer : Peer) : Pool World :=
  { pool with
    seats := pool.seats ++
      [⟨pool.accepted, peer, Session.fresh pool.options.allowEmptyRecords, now⟩]
    accepted := pool.accepted + 1 }

/-- Takes clients in while there is room and another one arrives. -/
def welcomeAll (pool : Pool World) (now : Nat) : List Arrival → Pool World
  | .peer peer :: rest =>
    if pool.hasRoom then welcomeAll (pool.welcome now peer) now rest else pool
  | .nobody :: _ | .failure _ :: _ | [] => pool

/-- Attends to clients in order, each with its own flags; those without flags wait. -/
def attendAll (environment : Environment World) (now : Nat) :
    List Seat → List Flags → Shared World → List Seat × Shared World
  | seat :: seats, flags :: others, shared =>
    let (served, after) := seat.attend environment now flags shared
    let (rest, last) := attendAll environment now seats others after
    (served :: rest, last)
  | seats, _, shared => (seats, shared)

/-- Attends to the clients of the pool. -/
def service (pool : Pool World) (environment : Environment World) (now : Nat)
    (flags : List Flags) : Pool World :=
  let (seats, shared) := attendAll environment now pool.seats flags pool.shared
  { pool with seats, shared }

/-- Lets go of clients whose session has ended and of those that are silent for too long. -/
def reap (pool : Pool World) (now : Nat) : Pool World :=
  let stays := Seat.stays pool.options.idleTimeout now
  { pool with
    seats := pool.seats.filter stays
    closed := pool.closed ++
      (pool.seats.filter (fun seat => !stays seat)).map fun seat => (seat.serial, seat.farewell) }

/-- What a round does once the wait is over. -/
def work (pool : Pool World) (environment : Environment World) (moment : Moment)
    (report : Polled → Flags) : Pool World :=
  let (knocked, flags) := sortOut pool.hasRoom (pool.watch.map report)
  let invited := if knocked then pool.welcomeAll moment.now moment.arrivals else pool
  (invited.service environment moment.now flags).reap moment.now

def step (pool : Pool World) (environment : Environment World) (moment : Moment) :
    Verdict × Pool World :=
  if moment.shutdown then
    (.stops .shutdown, pool)
  else
    match moment.waited with
    | .interrupted => (.goesOn, pool)
    | .failed cause => (.fails cause, pool)
    | .woken ready report =>
      let next := pool.work environment moment report
      if ready = 0 ∧ next.seats.isEmpty ∧ next.options.idleTimeout.isSome then
        (.stops .idle, next)
      else
        (.goesOn, next)

/-- A number of rounds, each at the moment that a schedule gives for it. -/
def run (environment : Environment World) (schedule : Nat → Pool World → Moment) :
    (rounds : Nat) → (index : Nat) → Pool World → Verdict × Pool World
  | 0, _, pool => (.goesOn, pool)
  | rounds + 1, index, pool =>
    match pool.step environment (schedule index pool) with
    | (.goesOn, next) => run environment schedule rounds (index + 1) next
    | (verdict, last) => (verdict, last)

/-- Closes every connection. -/
def dismiss (pool : Pool World) : Pool World :=
  { pool with
    seats := []
    closed := pool.closed ++ pool.seats.map fun seat => (seat.serial, seat.peer) }

end Pool

end Confinement
