import Confinement.Server.Pool

/-!
# Serving guests

A run of a server for clients of which everything is known beforehand: all of them wait when the
server starts, and each has already sent what it will send.  The run ends when nothing is left to be
done, by the idle time when there is one and by being told to stop otherwise.
-/

namespace Confinement

open Host Policy

/-- A client that waits to be served. -/
structure Guest where
  /-- Everything that it sends. -/
  data : Bytes
  /-- Whether it keeps its sending side open. -/
  lingers : Bool := false
  /-- Whether it has gone, so that no reply reaches it. -/
  gone : Bool := false
  deriving DecidableEq, Repr

namespace Guest

/-- The guest's end of the connection. -/
def peer (guest : Guest) : Peer where
  source := .ofBytes guest.data
  sink := { script := if guest.gone then [.failure .brokenPipe] else [] }

/-- A guest that sends nothing. -/
def silent : Guest := { data := [] }

/-- Whether something can be read from a guest's connection. -/
def isReadable (guest : Option Guest) (source : Source) : Bool :=
  source.left ≠ 0 || !guest.any lingers

/-- The guests that still wait to be accepted. -/
def waiting {World : Type} (guests : List Guest) (pool : Pool World) : List Guest :=
  guests.drop pool.accepted

/-- What a wait reports. -/
def report {World : Type} (guests : List Guest) (pool : Pool World) : Polled → Flags
  | .listener => { readable := !(waiting guests pool).isEmpty }
  | .client serial _ =>
    { readable := (pool.seats.find? (·.serial == serial)).any fun seat =>
        isReadable guests[serial]? seat.peer.source }

/-- The moment of a round in which nothing is left to be done. -/
def quietMoment (timeout : Option Nat) (report : Polled → Flags) : Moment :=
  match timeout with
  | some limit => { waited := .woken 0 report, now := limit }
  | none => { shutdown := true, waited := .interrupted }

/-- The moment of the next round. -/
def moment {World : Type} (guests : List Guest) (pool : Pool World) : Moment :=
  let told := report guests pool
  let ready := (pool.watch.filter fun polled => (told polled).readable).length
  if ready = 0 then
    quietMoment pool.options.idleTimeout told
  else
    { waited := .woken ready told
      arrivals := (waiting guests pool).map fun guest => .peer guest.peer }

/-- A bound on the number of rounds: each one accepts, reads or lets go of somebody. -/
def roundLimit (guests : List Guest) : Nat :=
  guests.foldl (fun total guest => total + (guest.data.length + 2)) 2

/-- Serves guests to the end, and closes every connection. -/
def serveAll {World : Type} (environment : Environment World) (guests : List Guest)
    (pool : Pool World) : Verdict × Pool World :=
  let (verdict, last) := pool.run environment (fun _ => moment guests) (roundLimit guests) 0
  (verdict, last.dismiss)

/-- What a guest was sent. -/
def received {World : Type} (pool : Pool World) (serial : Nat) : Bytes :=
  ((pool.closed.lookup serial).map fun peer => peer.sink.accepted).getD []

/-- What each guest was sent, as far as it was there to take it. -/
def outputs {World : Type} (guests : List Guest) (pool : Pool World) : List (Option Bytes) :=
  guests.mapIdx fun serial guest => if guest.gone then none else some (received pool serial)

end Guest

end Confinement
