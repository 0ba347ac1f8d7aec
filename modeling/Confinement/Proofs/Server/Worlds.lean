import Confinement.Proofs.Session.Worlds
import Confinement.Server.Pool

/-!
# The world of a server

A server touches the world of the backends only in the sessions of its clients.  So what every call
of an environment moves along leads from the world at the start of a server to the world after any
number of rounds, whatever happens in them (`Environment.Moves.run`).
-/

namespace Confinement

open Host Policy Wire

variable {World : Type} {leads : World → World → Prop} {environment : Environment World}

namespace Pool

theorem shared_welcomeAll (pool : Pool World) (now : Nat) (arrivals : List Arrival) :
    (pool.welcomeAll now arrivals).shared = pool.shared := by
  induction arrivals generalizing pool with
  | nil => rfl
  | cons arrival rest hypothesis =>
      cases arrival with
      | nobody => rfl
      | failure cause => rfl
      | peer peer =>
          rw [welcomeAll]
          split
          · exact hypothesis _
          · rfl

end Pool

namespace Policy.Environment.Moves

variable (moves : environment.Moves leads)

include moves

theorem exchange (now : Nat) (seat : Seat) (shared : Shared World) :
    leads shared.world (seat.exchange environment now shared).2.2.world := by
  rw [Seat.exchange]
  dsimp only
  split
  · exact moves.refl _
  · exact moves.processFrom _ ⟨_, _, shared⟩

theorem attend (now : Nat) (flags : Flags) (seat : Seat) (shared : Shared World) :
    leads shared.world (seat.attend environment now flags shared).2.world := by
  have served : leads shared.world (if flags.callsForRead then
      seat.exchange environment now shared else (.ok (), seat, shared)).2.2.world := by
    split
    · exact moves.exchange now seat shared
    · exact moves.refl _
  rw [Seat.attend]
  generalize (if flags.callsForRead then seat.exchange environment now shared
    else (.ok (), seat, shared)) = came at served
  obtain ⟨error | done, seat, after⟩ := came
  · exact served
  · exact served

theorem attendAll (now : Nat) (seats : List Seat) (flags : List Flags) (shared : Shared World) :
    leads shared.world (Pool.attendAll environment now seats flags shared).2.world := by
  induction seats generalizing flags shared with
  | nil => exact moves.refl _
  | cons seat rest hypothesis =>
      cases flags with
      | nil => exact moves.refl _
      | cons first others =>
          exact moves.trans _ _ _ (moves.attend now first seat shared) (hypothesis others _)

theorem work (pool : Pool World) (moment : Moment) (report : Polled → Flags) :
    leads pool.shared.world (pool.work environment moment report).shared.world := by
  have invited (knocked : Bool) :
      (if knocked then pool.welcomeAll moment.now moment.arrivals else pool).shared =
        pool.shared := by
    split
    · exact Pool.shared_welcomeAll pool _ _
    · rfl
  rw [Pool.work, ← invited (Pool.sortOut pool.hasRoom (pool.watch.map report)).1]
  exact moves.attendAll moment.now _ _ _

theorem step (pool : Pool World) (moment : Moment) :
    leads pool.shared.world (pool.step environment moment).2.shared.world := by
  rw [Pool.step]
  split
  · exact moves.refl _
  · split
    · exact moves.refl _
    · exact moves.refl _
    · dsimp only
      split
      · exact moves.work pool moment _
      · exact moves.work pool moment _

/-- Whatever happens in its rounds, the world of a server moves where every call moves. -/
theorem run (schedule : Nat → Pool World → Moment) (rounds index : Nat) (pool : Pool World) :
    leads pool.shared.world
      (Pool.run environment schedule rounds index pool).2.shared.world := by
  induction rounds generalizing index pool with
  | zero => exact moves.refl _
  | succ rounds hypothesis =>
      have once := moves.step pool (schedule index pool)
      rw [Pool.run]
      split
      · rename_i next stepped
        rw [stepped] at once
        exact moves.trans _ _ _ once (hypothesis (index + 1) next)
      · rename_i verdict last _ stepped
        rw [stepped] at once
        exact once

end Policy.Environment.Moves

end Confinement
