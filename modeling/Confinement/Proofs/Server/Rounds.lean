import Confinement.Policy.Machine
import Confinement.Server.Pool

/-!
# Rounds of a server

A round matches what a wait reports with the clients by their places in two lists, while clients
come and go.  Still each client is attended to with what was reported about itself, and one that has
just arrived waits (`Pool.work_eq`).

A round keeps a pool `Sound`: it is not overfull, its clients are in session, and every connection
that was ever accepted is either open or was closed, once (`Pool.Sound.step`).  So does any number
of rounds, whatever the world does in them (`Pool.Sound.run`).
-/

namespace Confinement

open Host Policy

variable {World : Type} {environment : Environment World} {pool : Pool World}

/-! ## What is reported about a client -/

/-- What was reported about a client, if it was waited for. -/
def Pool.told (pool : Pool World) (report : Polled → Flags) (seat : Seat) : Option Flags :=
  if seat.polled ∈ pool.watch then some (report seat.polled) else none

/-- Attends to clients, each with what was reported about it; the others wait. -/
def Pool.attendEach (environment : Environment World) (now : Nat) (told : Seat → Option Flags) :
    List Seat → Shared World → List Seat × Shared World
  | [], shared => ([], shared)
  | seat :: seats, shared =>
    let (served, after) :=
      match told seat with
      | some flags => seat.attend environment now flags shared
      | none => (seat, shared)
    let (rest, last) := attendEach environment now told seats after
    (served :: rest, last)

/-- Attends to the clients of a pool, each with what was reported about it. -/
def Pool.attended (pool : Pool World) (environment : Environment World) (now : Nat)
    (told : Seat → Option Flags) : Pool World :=
  let (seats, shared) := attendEach environment now told pool.seats pool.shared
  { pool with seats, shared }

/-- The pool after a wait: others were taken in if there was room and the listener was ready. -/
def Pool.invited (pool : Pool World) (moment : Moment) (report : Polled → Flags) : Pool World :=
  if pool.hasRoom && (report .listener).readable then pool.welcomeAll moment.now moment.arrivals
  else pool

namespace Pool

theorem sortOut_watch (pool : Pool World) (report : Polled → Flags) :
    sortOut pool.hasRoom (pool.watch.map report) =
      (pool.hasRoom && (report .listener).readable,
        pool.seats.map fun seat => report seat.polled) := by
  rw [watch, sortOut, List.map_append, List.map_map]
  cases pool.hasRoom with
  | true => rfl
  | false => rfl

theorem mem_watch_polled {seat : Seat} :
    seat.polled ∈ pool.watch ↔ seat.polled ∈ pool.seats.map Seat.polled := by
  rw [watch, List.mem_append]
  refine or_iff_right ?_
  split
  · intro member
    cases List.mem_singleton.1 member
  · exact List.not_mem_nil

theorem attendEach_of_not_told
    {told : Seat → Option Flags} {seats : List Seat}
    (fresh : ∀ seat ∈ seats, told seat = none)
    (environment : Environment World) (now : Nat) (shared : Shared World) :
    attendEach environment now told seats shared = (seats, shared) := by
  induction seats with
  | nil => rfl
  | cons seat rest hypothesis =>
      obtain ⟨first, others⟩ := List.forall_mem_cons.1 fresh
      rw [attendEach, first]
      dsimp only
      rw [hypothesis others]

/-- To attend by places is to attend by what was reported, as long as newcomers stand behind. -/
theorem attendAll_eq_attendEach
    {told : Seat → Option Flags} {flags : Seat → Flags} {seats newcomers : List Seat}
    (waited : ∀ seat ∈ seats, told seat = some (flags seat))
    (fresh : ∀ seat ∈ newcomers, told seat = none)
    (environment : Environment World) (now : Nat) (shared : Shared World) :
    attendAll environment now (seats ++ newcomers) (seats.map flags) shared =
      attendEach environment now told (seats ++ newcomers) shared := by
  induction seats generalizing shared with
  | nil =>
      -- The flags end here, and with them the attention: only newcomers are left.
      rw [List.nil_append, attendEach_of_not_told fresh]
      cases newcomers with
      | nil => rfl
      | cons seat rest => rfl
  | cons seat rest hypothesis =>
      obtain ⟨first, others⟩ := List.forall_mem_cons.1 waited
      rw [List.cons_append, List.map_cons, attendAll, attendEach, first]
      dsimp only
      rw [hypothesis others]

/-! ## What a round keeps -/

/-- Whether every connection that was accepted is open or was closed, and only once. -/
def Counted (pool : Pool World) : Prop :=
  (pool.seats.map Seat.serial ++ pool.closed.map Prod.fst).Perm (List.range pool.accepted)

/-- Clients of a pool were accepted before the next one. -/
theorem Counted.serial_lt
    (counted : pool.Counted)
    {seat : Seat}
    (member : seat ∈ pool.seats) :
    seat.serial < pool.accepted :=
  List.mem_range.1 (counted.subset (List.mem_append_left _ (List.mem_map_of_mem member)))

/-- What taking clients in makes of a pool. -/
structure Grown (pool next : Pool World) : Prop where
  options : next.options = pool.options
  closed : next.closed = pool.closed
  accepted : pool.accepted ≤ next.accepted
  seats : ∃ newcomers, next.seats = pool.seats ++ newcomers ∧
    ∀ seat ∈ newcomers, pool.accepted ≤ seat.serial
  bounded : pool.seats.length ≤ pool.options.capacity → next.seats.length ≤ next.options.capacity
  counted : pool.Counted → next.Counted

theorem Grown.refl (pool : Pool World) : Grown pool pool :=
  ⟨rfl, rfl, Nat.le_refl _, ⟨[], (List.append_nil _).symm, by simp⟩, id, id⟩

theorem Grown.trans
    {next last : Pool World}
    (first : Grown pool next)
    (second : Grown next last) :
    Grown pool last := by
  obtain ⟨arrived, next_seats, after⟩ := first.seats
  obtain ⟨others, last_seats, later⟩ := second.seats
  refine ⟨second.options.trans first.options, second.closed.trans first.closed,
    Nat.le_trans first.accepted second.accepted, ⟨arrived ++ others, ?_, ?_⟩,
    second.bounded ∘ first.bounded, second.counted ∘ first.counted⟩
  · rw [last_seats, next_seats, List.append_assoc]
  · exact List.forall_mem_append.2
      ⟨after, fun seat member => Nat.le_trans first.accepted (later seat member)⟩

theorem grown_welcome
    (room : pool.hasRoom = true)
    (now : Nat) (peer : Peer) :
    Grown pool (pool.welcome now peer) := by
  refine ⟨rfl, rfl, Nat.le_succ _, ⟨_, rfl, ?_⟩, fun _ => ?_, fun counted => ?_⟩
  · intro seat member
    obtain rfl := List.mem_singleton.1 member
    exact Nat.le_refl _
  · rw [welcome, List.length_append]
    exact of_decide_eq_true room
  · rw [Counted, welcome]
    dsimp only
    rw [List.map_append, List.range_succ, List.append_assoc]
    refine (List.perm_append_comm.append_left _).trans ?_
    rw [← List.append_assoc]
    exact counted.append_right _

theorem grown_welcomeAll (pool : Pool World) (now : Nat) (arrivals : List Arrival) :
    Grown pool (pool.welcomeAll now arrivals) := by
  induction arrivals generalizing pool with
  | nil => exact Grown.refl pool
  | cons arrival rest hypothesis =>
      cases arrival with
      | nobody => exact Grown.refl pool
      | failure cause => exact Grown.refl pool
      | peer peer =>
          rw [welcomeAll]
          split
          · rename_i room
            exact (grown_welcome room now peer).trans (hypothesis _)
          · exact Grown.refl pool

theorem grown_invited (pool : Pool World) (moment : Moment) (report : Polled → Flags) :
    Grown pool (pool.invited moment report) := by
  rw [invited]
  split
  · exact grown_welcomeAll pool _ _
  · exact Grown.refl pool

/-- A round attends to each client with what was reported about that client. -/
theorem work_eq
    (counted : pool.Counted)
    (environment : Environment World) (moment : Moment) (report : Polled → Flags) :
    pool.work environment moment report =
      ((pool.invited moment report).attended environment moment.now (pool.told report)).reap
        moment.now := by
  obtain ⟨newcomers, seats, later⟩ := (grown_invited pool moment report).seats
  have waited : ∀ seat ∈ pool.seats, pool.told report seat = some (report seat.polled) := by
    intro seat member
    rw [told, if_pos (mem_watch_polled.2 (List.mem_map_of_mem member))]
  -- A newcomer has a serial number that no client had when the wait began.
  have fresh : ∀ seat ∈ newcomers, pool.told report seat = none := by
    intro seat member
    rw [told, if_neg]
    intro polled
    obtain ⟨other, present, same⟩ := List.mem_map.1 (mem_watch_polled.1 polled)
    have serial : other.serial = seat.serial := (Polled.client.inj same).1
    have before := counted.serial_lt present
    have after := later seat member
    omega
  have attends := attendAll_eq_attendEach waited fresh environment moment.now
    (pool.invited moment report).shared
  rw [work, sortOut_watch]
  dsimp only
  rw [← invited, service, attended, seats, attends]

end Pool

/-! ## Attending and letting go -/

namespace Seat

theorem serial_exchange (environment : Environment World) (now : Nat) (seat : Seat)
    (shared : Shared World) :
    (seat.exchange environment now shared).2.1.serial = seat.serial := by
  rw [exchange]
  generalize seat.session.receive seat.peer.source = came
  obtain ⟨error | done, session, rest⟩ := came
  · rfl
  · rfl

theorem serial_flushOrShut (seat : Seat) : seat.flushOrShut.serial = seat.serial := by
  rw [flushOrShut, flush]
  generalize seat.session.flush seat.peer.sink = came
  obtain ⟨error | done, session, sink⟩ := came
  · rfl
  · rfl

theorem serial_attend (environment : Environment World) (now : Nat) (flags : Flags) (seat : Seat)
    (shared : Shared World) :
    (seat.attend environment now flags shared).1.serial = seat.serial := by
  have exchanged : (if flags.callsForRead then seat.exchange environment now shared
      else (.ok (), seat, shared)).2.1.serial = seat.serial := by
    split
    · exact serial_exchange environment now seat shared
    · rfl
  rw [attend]
  generalize (if flags.callsForRead then seat.exchange environment now shared
    else (.ok (), seat, shared)) = came at exchanged
  obtain ⟨error | done, served, after⟩ := came
  · exact exchanged
  · dsimp only
    split
    · rw [serial_flushOrShut]
      exact exchanged
    · exact exchanged

end Seat

namespace Pool

theorem serials_attendEach (environment : Environment World) (now : Nat)
    (told : Seat → Option Flags) (seats : List Seat) (shared : Shared World) :
    (attendEach environment now told seats shared).1.map Seat.serial = seats.map Seat.serial := by
  induction seats generalizing shared with
  | nil => rfl
  | cons seat rest hypothesis =>
      rw [attendEach]
      dsimp only
      rw [List.map_cons, List.map_cons, hypothesis]
      cases told seat with
      | none => rfl
      | some flags => rw [Seat.serial_attend]

theorem counted_attended
    (counted : pool.Counted)
    (environment : Environment World) (now : Nat) (told : Seat → Option Flags) :
    (pool.attended environment now told).Counted := by
  rw [Counted, attended]
  dsimp only
  rw [serials_attendEach]
  exact counted

theorem length_attended (environment : Environment World) (now : Nat)
    (told : Seat → Option Flags) (pool : Pool World) :
    (pool.attended environment now told).seats.length = pool.seats.length := by
  have serials := congrArg List.length
    (serials_attendEach environment now told pool.seats pool.shared)
  rwa [List.length_map, List.length_map] at serials

/-- Letting go of clients closes their connections and no others. -/
theorem counted_reap
    (counted : pool.Counted)
    (now : Nat) :
    (pool.reap now).Counted := by
  let stays := Seat.stays pool.options.idleTimeout now
  have parted : ((pool.seats.filter stays).map Seat.serial ++
      (pool.seats.filter fun seat => !stays seat).map Seat.serial).Perm
        (pool.seats.map Seat.serial) := by
    rw [← List.map_append]
    exact (List.filter_append_perm stays pool.seats).map Seat.serial
  rw [Counted, reap]
  dsimp only
  rw [List.map_append, List.map_map]
  refine (List.perm_append_comm.append_left _).trans ?_
  rw [← List.append_assoc]
  exact (parted.append_right _).trans counted

/-! ## Rounds -/

/-- What holds of a pool between two rounds. -/
structure Sound (pool : Pool World) : Prop where
  bounded : pool.seats.length ≤ pool.options.capacity
  inSession : ∀ seat ∈ pool.seats, seat.session.isOpen = true
  counted : pool.Counted

theorem sound_fresh (options : ServerOptions) (shared : Shared World) :
    Sound ({ options, shared } : Pool World) :=
  ⟨Nat.zero_le _, by simp, List.Perm.refl _⟩

/-- A round keeps a pool sound, and closes connections without touching those closed before. -/
theorem Sound.work
    (sound : pool.Sound)
    (environment : Environment World) (moment : Moment) (report : Polled → Flags) :
    (pool.work environment moment report).Sound ∧
      (pool.work environment moment report).options = pool.options ∧
      pool.closed <+: (pool.work environment moment report).closed := by
  have grown := grown_invited pool moment report
  have counted := grown.counted sound.counted
  rw [work_eq sound.counted]
  let attended := (pool.invited moment report).attended environment moment.now (pool.told report)
  have same : attended.options = pool.options := grown.options
  refine ⟨⟨?_, ?_, counted_reap (counted_attended counted _ _ _) _⟩, same, ?_⟩
  · refine Nat.le_trans (List.length_filter_le _ _) ?_
    rw [length_attended]
    exact grown.bounded sound.bounded
  · intro seat member
    have stays := (List.mem_filter.1 member).2
    exact (Bool.and_eq_true_iff.1 stays).1
  · rw [← grown.closed]
    exact List.prefix_append _ _

/-- A round that the wait wakes up is the work that the wait calls for. -/
theorem step_of_woken
    {moment : Moment} {ready : Nat} {report : Polled → Flags}
    (told : moment.shutdown = false)
    (woken : moment.waited = .woken ready report)
    (environment : Environment World) (pool : Pool World) :
    (pool.step environment moment).2 = pool.work environment moment report := by
  rw [step, if_neg (by rw [told]; exact Bool.false_ne_true), woken]
  dsimp only
  split
  · rfl
  · rfl

/-- A round that is not woken up changes nothing. -/
theorem step_of_not_woken
    {moment : Moment}
    (idle : moment.shutdown = true ∨ ∀ ready report, moment.waited ≠ .woken ready report)
    (environment : Environment World) (pool : Pool World) :
    (pool.step environment moment).2 = pool := by
  rw [step]
  split
  · rfl
  · rename_i onward
    cases waited : moment.waited with
    | interrupted => rfl
    | failed cause => rfl
    | woken ready report => exact absurd waited (idle.resolve_left onward ready report)

/-- What a round comes to: nothing, or the work that the wait calls for. -/
theorem step_cases (environment : Environment World) (moment : Moment) (pool : Pool World) :
    (pool.step environment moment).2 = pool ∧
        (pool.step environment moment).1 ≠ .stops .idle ∨
      ∃ ready report, moment.waited = .woken ready report ∧
        (pool.step environment moment).2 = pool.work environment moment report ∧
        ((pool.step environment moment).1 = .stops .idle ↔
          ready = 0 ∧ (pool.step environment moment).2.seats = [] ∧
            (pool.step environment moment).2.options.idleTimeout.isSome = true) := by
  rw [step]
  split
  · exact .inl ⟨rfl, nofun⟩
  · cases waited : moment.waited with
    | interrupted => exact .inl ⟨rfl, nofun⟩
    | failed cause => exact .inl ⟨rfl, nofun⟩
    | woken ready report =>
        refine .inr ⟨ready, report, rfl, ?_⟩
        dsimp only
        split
        · rename_i ended
          rw [List.isEmpty_iff] at ended
          exact ⟨rfl, iff_of_true rfl ended⟩
        · rename_i onward
          rw [List.isEmpty_iff] at onward
          exact ⟨rfl, iff_of_false nofun onward⟩

theorem Sound.step
    (sound : pool.Sound)
    (environment : Environment World) (moment : Moment) :
    (pool.step environment moment).2.Sound ∧
      (pool.step environment moment).2.options = pool.options ∧
      pool.closed <+: (pool.step environment moment).2.closed := by
  rcases step_cases environment moment pool with ⟨same, _⟩ | ⟨ready, report, _, works, _⟩
  · rw [same]
    exact ⟨sound, rfl, List.prefix_refl _⟩
  · rw [works]
    exact sound.work environment moment report

theorem Sound.run
    (sound : pool.Sound)
    (environment : Environment World) (schedule : Nat → Pool World → Moment) (rounds index : Nat) :
    (run environment schedule rounds index pool).2.Sound ∧
      (run environment schedule rounds index pool).2.options = pool.options ∧
      pool.closed <+: (run environment schedule rounds index pool).2.closed := by
  induction rounds generalizing index pool with
  | zero => exact ⟨sound, rfl, List.prefix_refl _⟩
  | succ rounds hypothesis =>
      have once := sound.step environment (schedule index pool)
      rw [Pool.run]
      split
      · rename_i next stepped
        rw [stepped] at once
        obtain ⟨onward, options, closed⟩ := hypothesis once.1 (index + 1)
        exact ⟨onward, options.trans once.2.1, once.2.2.trans closed⟩
      · rename_i verdict last _ stepped
        rw [stepped] at once
        exact once

/-- More rounds go on where fewer have ended, if those did not stop. -/
theorem run_add (environment : Environment World) (schedule : Nat → Pool World → Moment)
    (rounds more index : Nat) (pool : Pool World) :
    run environment schedule (rounds + more) index pool =
      match run environment schedule rounds index pool with
      | (.goesOn, next) => run environment schedule more (index + rounds) next
      | (verdict, last) => (verdict, last) := by
  induction rounds generalizing index pool with
  | zero =>
      rw [Nat.zero_add]
      rfl
  | succ rounds hypothesis =>
      rw [Nat.add_right_comm, run, run]
      split
      · rw [hypothesis, Nat.add_right_comm, Nat.add_assoc]
      · rename_i verdict last ended stepped
        split
        · rename_i same
          exact absurd (Prod.ext_iff.1 same).1 ended
        · rename_i same
          exact same

theorem run_one (environment : Environment World) (schedule : Nat → Pool World → Moment)
    (index : Nat) (pool : Pool World) :
    (run environment schedule 1 index pool).2 =
      (pool.step environment (schedule index pool)).2 := by
  rw [run]
  split
  · rename_i next stepped
    rw [stepped]
    rfl
  · rename_i verdict last _ stepped
    rw [stepped]

/-- A server that stops because it is idle does so in a round. -/
theorem run_stops_idle
    {schedule : Nat → Pool World → Moment} {rounds index : Nat} {last : Pool World}
    (stopped : run environment schedule rounds index pool = (.stops .idle, last)) :
    ∃ earlier before, run environment schedule earlier index pool = (.goesOn, before) ∧
      before.step environment (schedule (index + earlier) before) = (.stops .idle, last) := by
  induction rounds generalizing index pool with
  | zero => cases stopped
  | succ rounds hypothesis =>
      rw [run] at stopped
      split at stopped
      · rename_i next stepped
        obtain ⟨earlier, before, ran, stops⟩ := hypothesis stopped
        refine ⟨earlier + 1, before, ?_, ?_⟩
        · rw [run, stepped]
          exact ran
        · rwa [Nat.add_assoc, Nat.add_comm 1] at stops
      · rename_i verdict other _ stepped
        cases stopped
        exact ⟨0, pool, rfl, stepped⟩

/-! ## Every run -/

theorem listener_mem_watch : Polled.listener ∈ pool.watch ↔ pool.hasRoom = true := by
  have clients : Polled.listener ∉ pool.seats.map Seat.polled := by
    intro member
    obtain ⟨seat, _, same⟩ := List.mem_map.1 member
    cases same
  rw [watch, List.mem_append, or_iff_left clients]
  split
  · rename_i room
    exact iff_of_true (List.mem_singleton_self _) room
  · rename_i full
    exact iff_of_false List.not_mem_nil full

/-- Closing every connection closes each of those that are left once. -/
theorem perm_dismiss
    (counted : pool.Counted) :
    (pool.dismiss.closed.map Prod.fst).Perm (List.range pool.accepted) := by
  rw [dismiss]
  dsimp only
  rw [List.map_append, List.map_map]
  exact List.perm_append_comm.trans counted

/--
After any number of rounds, whatever the world does in them: there are never more clients than the
options allow, also while others are taken in, and the listener is waited for exactly while there
are fewer.  In the next round, if its wait wakes up, each client is attended to with what was
reported about itself, and those that have just arrived wait; otherwise nothing changes.  All
clients left are in session.  Every connection accepted so far is either open or was closed, once,
and nothing that is closed changes any more.  The server only stops for being idle when it has an
idle time, the last wait reported nothing and no client is left.
-/
theorem sound_on_every_run
    (environment : Environment World) (schedule : Nat → Pool World → Moment)
    (options : ServerOptions) (shared : Shared World) (rounds : Nat) :
    let start : Pool World := { options, shared }
    let verdict := (run environment schedule rounds 0 start).1
    let pool := (run environment schedule rounds 0 start).2
    pool.seats.length ≤ max 1 options.maxClients ∧
      (∀ moment report, (pool.invited moment report).seats.length ≤ max 1 options.maxClients) ∧
      (Polled.listener ∈ pool.watch ↔ pool.seats.length < max 1 options.maxClients) ∧
      (∀ moment ready report, moment.shutdown = false → moment.waited = .woken ready report →
        (pool.step environment moment).2 =
          ((pool.invited moment report).attended environment moment.now (pool.told report)).reap
            moment.now) ∧
      (∀ moment, (moment.shutdown = true ∨ ∀ ready report, moment.waited ≠ .woken ready report) →
        (pool.step environment moment).2 = pool) ∧
      (∀ seat ∈ pool.seats, seat.session.isOpen = true) ∧
      (pool.seats.map Seat.serial ++ pool.closed.map Prod.fst).Perm (List.range pool.accepted) ∧
      (∀ more, pool.closed <+: (run environment schedule (rounds + more) 0 start).2.closed) ∧
      pool.closed <+: pool.dismiss.closed ∧
      (pool.dismiss.closed.map Prod.fst).Perm (List.range pool.accepted) ∧
      (verdict = .stops .idle →
        options.idleTimeout.isSome = true ∧ pool.seats = [] ∧
          ∃ earlier before report, run environment schedule earlier 0 start = (.goesOn, before) ∧
            (schedule earlier before).waited = .woken 0 report ∧
            before.step environment (schedule earlier before) = (verdict, pool)) := by
  intro start verdict pool
  obtain ⟨sound, same, _⟩ : pool.Sound ∧ pool.options = options ∧ start.closed <+: pool.closed :=
    (sound_fresh options shared).run environment schedule rounds 0
  have capacity : pool.options.capacity = max 1 options.maxClients :=
    congrArg ServerOptions.capacity same
  refine ⟨capacity ▸ sound.bounded, fun moment report => ?_, ?_,
    fun moment ready report told woken => ?_, fun moment idle => ?_, sound.inSession,
    sound.counted, fun more => ?_, List.prefix_append _ _, perm_dismiss sound.counted,
    fun idle => ?_⟩
  · have grown := grown_invited pool moment report
    rw [← capacity, ← grown.options]
    exact grown.bounded sound.bounded
  · rw [listener_mem_watch, hasRoom, decide_eq_true_iff, capacity]
  · rw [step_of_woken told woken, work_eq sound.counted]
  · exact step_of_not_woken idle environment pool
  · rw [run_add]
    split
    · rename_i next ran
      have here : pool = next := congrArg Prod.snd ran
      rw [← here]
      exact (sound.run environment schedule more _).2.2
    · rename_i other last _ ran
      have here : pool = last := congrArg Prod.snd ran
      exact here ▸ List.prefix_refl _
  · obtain ⟨earlier, before, ran, stops⟩ := run_stops_idle (Prod.ext idle rfl)
    rw [Nat.zero_add] at stops
    rcases step_cases environment (schedule earlier before) before with
      ⟨_, onward⟩ | ⟨ready, report, waited, _, stopped⟩
    · rw [stops] at onward
      exact absurd rfl onward
    · rw [stops] at stopped
      obtain ⟨rfl, empty, timeout⟩ := stopped.1 rfl
      have limited : pool.options.idleTimeout.isSome = true := timeout
      rw [same] at limited
      exact ⟨limited, empty, earlier, before, report, ran, waited, idle ▸ stops⟩

/-- In each round somebody arrives, and whoever is waited for has something to be read. -/
def arriving (peer : Peer) : Moment where
  waited := .woken 1 fun _ => { readable := true }
  arrivals := [.peer peer, .nobody]

/-- One client comes and goes; another one comes in the round in which the first one goes. -/
def succession : Nat → Pool Machine → Moment
  | 0, _ => arriving ⟨[], {}⟩
  | _, _ => arriving ⟨.ofBytes (Text.bytes "log\n"), {}⟩

/--
In the second round one client arrives and another one departs.  That one is attended to with what
was reported about it, and the newcomer waits: it has been sent nothing yet.
-/
theorem sound_on_every_run_in_succession :
    let environment := machineEnvironment .memory .simulated
    let start : Pool Machine :=
      { options := {}, shared := { world := { files := FileTree.empty } } }
    let pool := (run environment succession 1 0 start).2
    let next := (run environment succession 2 0 start).2
    let report : Polled → Flags := fun _ => { readable := true }
    (pool.seats.map Seat.serial, pool.closed.map Prod.fst) = ([0], []) ∧
      (next.seats.map Seat.serial, next.closed.map Prod.fst) = ([1], [0]) ∧
      next = ((pool.invited (succession 1 pool) report).attended environment 0
        (pool.told report)).reap 0 ∧
      (next.seats.map Seat.serial ++ next.closed.map Prod.fst).Perm (List.range 2) ∧
      next.seats.map (fun seat => seat.peer.sink.accepted) = [[]] := by
  intro environment start pool next report
  have once : run environment succession 1 0 start = (.goesOn, pool) :=
    Prod.ext (by decide +kernel) rfl
  have twice := run_add environment succession 1 1 0 start
  rw [once] at twice
  have last : next = (pool.step environment (succession 1 pool)).2 :=
    (congrArg Prod.snd twice).trans (run_one environment succession 1 pool)
  obtain ⟨_, _, _, flags, _⟩ := sound_on_every_run environment succession {} start.shared 1
  obtain ⟨_, _, _, _, _, _, counted, _⟩ :=
    sound_on_every_run environment succession {} start.shared 2
  refine ⟨by decide +kernel, by decide +kernel, ?_, counted, by decide +kernel⟩
  exact last.trans (flags (succession 1 pool) 1 report rfl rfl)

end Pool

end Confinement
