import Confinement.Proofs.Policy.Meeting

/-!
# A permission service keeps permissions as memory does

`Serves` are calls of the store that talks to a service, with the service itself on the other end,
and the results of all calls as their history.  `replay` makes the calls of a history that succeeded
on permissions in memory.  The next call, if it succeeds, gives the answer that memory gives and
leaves every label the permissions that memory does; if it fails, every label keeps those it has
(`refines_memory`).  It only fails when one of its requests cannot be sent or the service refuses
one.
-/

namespace Confinement.Policy

open Host Wire Cynagora

/-! ## Calls of a store -/

/-- A world as the only part of itself. -/
def Part.whole (World : Type) : Part World World := ⟨fun world => world, fun world _ => world⟩

/-- Permissions in memory, and nothing else. -/
abbrev memory : PermissionStore Grants := memoryStore (Part.whole Grants)

/-- An agent of a permission service, and nothing else. -/
abbrev remote : PermissionStore Agent := cynagoraStore (Part.whole Agent)

/-- A call of a permission store. -/
inductive StoreCall where
  | check (label permission : String)
  | add (label : String) (permissions : TextSet) (replace : Bool)
  | drop (label : String)
  deriving DecidableEq

namespace StoreCall

/-- The call on a store; only a check has an answer. -/
def on {World : Type} (store : PermissionStore World) : StoreCall → Call World (Option Bool)
  | check label permission => store.check label permission >>= fun answer => pure (some answer)
  | add label permissions replace => store.add label permissions replace >>= fun _ => pure none
  | drop label => store.drop label >>= fun _ => pure none

/-- The changes that a call asks a service for. -/
def changes : StoreCall → List Request
  | check _ _ => []
  | add label permissions replace =>
    (if replace then [.drop label] else []) ++ permissions.items.map (.set label)
  | drop label => [.drop label]

/-- The requests with which a call succeeds; a check has a serial number. -/
def requests (serial : UInt64) : StoreCall → List Request
  | check label permission => [.check (toString serial.toNat) label permission]
  | call@(add _ _ _) | call@(drop _) => .enter :: call.changes ++ [.commit]

/-- The answer of a call when these grants are in force. -/
def answer (grants : Grants) : StoreCall → Option Bool
  | check label permission => some (decide (permission ∈ grants.of label))
  | add _ _ _ | drop _ => none

/-- The grants that a call leaves when its changes are made one after another. -/
def effect (grants : Grants) (call : StoreCall) : Grants := call.changes.foldl Request.apply grants

/-- The work of a call on a connection. -/
def work (serial : UInt64) : StoreCall → Call Connection (Option Bool)
  | check label permission =>
    Cynagora.verdict serial label permission >>= fun answer => pure (some answer)
  | call@(add _ _ _) | call@(drop _) =>
    transaction (Action.forEach expectDone (call.changes.map Request.fields)) >>= fun _ => pure none

/-- An agent that counts a call, if it is a check. -/
def counted (agent : Agent) : StoreCall → Agent
  | check _ _ => { agent with nextCheck := agent.nextCheck + 1 }
  | add _ _ _ | drop _ => agent

end StoreCall

/-! ## Calls in memory -/

/-- Whether every label holds the same permissions in both. -/
def Grants.Alike (left right : Grants) : Prop := ∀ label, left.of label = right.of label

theorem Grants.Alike.erase
    {left right : Grants}
    (alike : left.Alike right)
    (label : String) :
    (left.erase label).Alike (right.erase label) := by
  intro other
  rw [Grants.of_erase, Grants.of_erase, alike other]

/-- Permissions given to a label one by one are given all at once. -/
theorem Grants.of_foldl_set (grants : Grants) (label other : String) (permissions : List String) :
    ((permissions.map (Request.set label)).foldl Request.apply grants).of other =
      if other = label then (grants.of label).insertAll permissions else grants.of other := by
  induction permissions generalizing grants with
  | nil =>
      rw [List.map_nil, List.foldl_nil, TextSet.insertAll, List.foldl_nil]
      split
      · rename_i same
        rw [same]
      · rfl
  | cons permission rest hypothesis =>
      have one : ((Request.set label permission).apply grants).of label =
          (grants.of label).insert permission := by
        rw [Request.apply, Grants.add, Grants.of_set, if_pos rfl]
        rfl
      rw [List.map_cons, List.foldl_cons, hypothesis, one]
      split
      · rfl
      · rename_i different
        rw [Request.apply, Grants.add, Grants.of_set, if_neg different]

/-- Memory answers a call and never fails, and makes its changes. -/
theorem StoreCall.on_memory
    {left right : Grants}
    (alike : left.Alike right)
    (call : StoreCall) :
    (call.on memory right).1 = .ok (call.answer left) ∧
      (call.effect left).Alike (call.on memory right).2 := by
  cases call with
  | check label permission =>
      refine ⟨?_, alike⟩
      rw [answer, alike label]
      rfl
  | drop label => exact ⟨rfl, alike.erase label⟩
  | add label permissions replace =>
      refine ⟨rfl, fun other => ?_⟩
      have given : (StoreCall.on memory (add label permissions replace) right).2 =
          right.add label permissions replace := rfl
      rw [given, Grants.add, Grants.of_set, effect, changes, List.foldl_append,
        Grants.of_foldl_set]
      cases replace with
      | true =>
          have erased : [Request.drop label].foldl Request.apply left = left.erase label := rfl
          rw [if_pos rfl, if_pos rfl, erased, Grants.of_erase, if_pos rfl, Grants.of_erase,
            alike other]
          split <;> rfl
      | false =>
          rw [if_neg Bool.false_ne_true, if_neg Bool.false_ne_true, List.foldl_nil, alike label,
            alike other]
          rfl

/-! ## Calls at a service -/

theorem forEach_singleton {Error State Item : Type}
    (action : Item → Action Error State Unit) (item : Item) :
    Action.forEach action [item] = action item := by
  funext state
  rw [Action.forEach, Action.andThen]
  generalize action item state = ended
  obtain ⟨error | done, next⟩ := ended
  · rfl
  · rfl

theorem withConnection_bind_pure {Result Next : Type}
    (work : Call Connection Result) (map : Result → Next) :
    (withConnection work >>= fun result => pure (map result)) =
      withConnection (work >>= fun result => pure (map result)) := by
  funext agent
  rw [Action.bind_apply, withConnection, withConnection]
  generalize acquire agent = acquired
  obtain ⟨error | connection, next⟩ := acquired
  · rfl
  · dsimp only
    rw [Action.bind_apply]
    generalize work connection = ended
    obtain ⟨error | result, last⟩ := ended
    · rfl
    · rfl

theorem map_fields_changes_add (label : String) (permissions : TextSet) (replace : Bool) :
    (StoreCall.add label permissions replace).changes.map Request.fields =
      addRequests label permissions replace := by
  rw [StoreCall.changes, addRequests, List.map_append, List.map_map]
  cases replace with
  | true => rfl
  | false => rfl

namespace StoreCall

/-- A call of an agent is work on a connection. -/
theorem on_remote (call : StoreCall) (agent : Agent) :
    call.on remote agent = withConnection (call.work agent.nextCheck) (call.counted agent) := by
  cases call with
  | check label permission =>
      rw [work, ← withConnection_bind_pure]
      rfl
  | add label permissions replace =>
      rw [work, ← withConnection_bind_pure, map_fields_changes_add]
      rfl
  | drop label =>
      rw [work, ← withConnection_bind_pure, changes, List.map_singleton, forEach_singleton]
      rfl

theorem counted_facing (call : StoreCall) (agent : Agent) (script : List WriteOutcome)
    (source : Source) :
    call.counted (agent.facing script source) = (call.counted agent).facing script source := by
  obtain ⟨endpoint, unreachable, attempts, peers, current, past, serial⟩ := agent
  cases call with
  | check => cases current <;> rfl
  | add | drop => rfl

section

variable {moods : Nat → Mood} {service after : Service} {agent next : Agent} {committed : Grants}

theorem meets_on_remote
    {result : Except BackendError (Option Bool)}
    (call : StoreCall) :
    Meets moods (call.on remote) agent service result next after ↔
      Meets moods (withConnection (call.work agent.nextCheck)) (call.counted agent) service
        result next after := by
  have same (script : List WriteOutcome) (source : Source) :
      call.on remote (agent.facing script source) =
        withConnection (call.work agent.nextCheck)
          ((call.counted agent).facing script source) := by
    rw [on_remote, counted_facing, Agent.nextCheck_facing]
  constructor
  · rintro ⟨willing, steady, called, heard⟩
    exact .intro willing steady ((same _ _).symm.trans called) heard
  · rintro ⟨willing, steady, called, heard⟩
    exact .intro willing steady ((same _ _).trans called) heard

theorem grows_work (serial : UInt64) (call : StoreCall) : Grows (call.work serial) := by
  cases call with
  | check label permission => exact (grows_verdict _ _ _).bind fun _ => grows_pure _
  | add | drop =>
      exact (grows_transaction (grows_forEach grows_expectDone _)).bind fun _ => grows_pure _

theorem changes_of_mem_changes (call : StoreCall) :
    ∀ request ∈ call.changes, request.Changes := by
  intro request member
  cases call with
  | check => cases member
  | drop label =>
      rw [List.mem_singleton.1 member]
      trivial
  | add label permissions replace =>
      rcases List.mem_append.1 member with dropped | set
      · cases replace with
        | true =>
            rw [List.mem_singleton.1 dropped]
            trivial
        | false => cases dropped
      · obtain ⟨permission, _, rfl⟩ := List.mem_map.1 set
        trivial

/-- What the work of a call leads to: all of its effect with the right answer, or none of it. -/
def Done (moods : Nat → Mood) (serial : UInt64) (call : StoreCall) (committed : Grants)
    (turn : Nat) : Option (Option Bool) → Service → Prop
  | some answer, next => answer = call.answer committed ∧ Idle (call.effect committed) next
  | none, next => Idle committed next ∧ Obstructed moods turn next.turn (call.requests serial)

theorem leads_work
    (idle : Idle committed service)
    (serial : UInt64) (call : StoreCall) :
    Leads moods (call.work serial) service (call.Done moods serial committed service.turn) := by
  cases call with
  | check label permission =>
      refine (leads_verdict idle serial label permission).bind (fun _ => grows_pure _) ?_ ?_
      · rintro answer next _ ⟨idle, rfl⟩
        exact leads_pure ⟨rfl, idle⟩
      · rintro next came
        exact came
  | add | drop =>
      refine (leads_transaction (changes_of_mem_changes _) idle).bind (fun _ => grows_pure _) ?_ ?_
      · rintro _ next _ idle
        exact leads_pure ⟨rfl, idle⟩
      · rintro next came
        exact came

theorem Done.mono
    {serial : UInt64} {call : StoreCall} {turn later : Nat} {value : Option (Option Bool)}
    (done : call.Done moods serial committed later value after)
    (before : turn ≤ later) :
    call.Done moods serial committed turn value after := by
  cases value with
  | some answer => exact done
  | none => exact ⟨done.1, done.2.mono before (Nat.le_refl _) fun _ member => member⟩

theorem leads_entire_work
    (idle : Idle committed service)
    (serial : UInt64) (call : StoreCall) (agent : Agent) :
    Leads moods (agent.entire (call.work serial)) service
      (call.Done moods serial committed service.turn) := by
  apply leads_entire idle (call.grows_work serial)
  intro later before idle
  exact (leads_work idle serial call).weaken fun _ _ _ done => done.mono before

theorem ready_counted
    (ready : agent.Ready)
    (call : StoreCall) :
    (call.counted agent).Ready := by
  cases call with
  | check => exact ⟨ready.reachable, ready.rests⟩
  | add | drop => exact ready

/-- A call at an idle service is done, and leaves the agent ready for the next one. -/
theorem done_of_meets
    {result : Except BackendError (Option Bool)} {call : StoreCall}
    (meets : Meets moods (call.on remote) agent service result next after)
    (ready : agent.Ready)
    (idle : Idle committed service) :
    next.Ready ∧
      call.Done moods agent.nextCheck committed service.turn result.toOption after :=
  ((meets_on_remote call).1 meets).comes_to (ready_counted ready call)
    (leads_entire_work idle agent.nextCheck call _)

theorem exists_meets_on_remote
    (ready : agent.Ready)
    (idle : Idle committed service)
    (call : StoreCall) :
    ∃ result next after, Meets moods (call.on remote) agent service result next after := by
  obtain ⟨result, next, after, meets⟩ := exists_meets (ready_counted ready call)
    (leads_entire_work idle agent.nextCheck call _)
  exact ⟨result, next, after, (meets_on_remote call).2 meets⟩

end

end StoreCall

/-! ## Many calls -/

/-- A call and what came of it. -/
structure Served where
  call : StoreCall
  result : Except BackendError (Option Bool)

/-- What a call that succeeded makes of permissions in memory. -/
def Served.replay (grants : Grants) : Served → Grants
  | ⟨call, .ok _⟩ => (call.on memory grants).2
  | ⟨_, .error _⟩ => grants

/-- What the calls that succeeded make of permissions in memory. -/
def replay (grants : Grants) (history : List Served) : Grants :=
  history.foldl Served.replay grants

theorem replay_concat (grants : Grants) (history : List Served) (served : Served) :
    replay grants (history ++ [served]) = served.replay (replay grants history) := by
  rw [replay, List.foldl_append]
  rfl

/-- Calls of a store from its first one on, with the service that it talks to. -/
inductive Serves (moods : Nat → Mood) (endpoint : String) (grants : Grants) :
    List Served → Agent → Service → Prop
  | fresh : Serves moods endpoint grants [] (Agent.ofPeers endpoint []) (Service.fresh grants)
  | call {history : List Served} {agent next : Agent} {service after : Service}
      {result : Except BackendError (Option Bool)}
      (earlier : Serves moods endpoint grants history agent service)
      (call : StoreCall)
      (meets : Meets moods (call.on remote) agent service result next after) :
      Serves moods endpoint grants (history ++ [⟨call, result⟩]) next after

/-- Whether an agent is ready for a call, and its service has the permissions of these grants. -/
structure Mirrors (agent : Agent) (service : Service) (grants : Grants) : Prop where
  ready : agent.Ready
  unstaged : service.staged = none
  alike : service.committed.Alike grants

section

variable {moods : Nat → Mood} {endpoint : String} {grants : Grants} {agent next : Agent}
  {service after : Service}

theorem Mirrors.fresh (endpoint : String) (grants : Grants) :
    Mirrors (Agent.ofPeers endpoint []) (Service.fresh grants) grants := by
  refine ⟨⟨Agent.reachable_ofPeers endpoint [], ?_⟩, rfl, fun _ => rfl⟩
  rintro _ ⟨⟩

theorem Mirrors.call
    {call : StoreCall} {result : Except BackendError (Option Bool)}
    (mirrors : Mirrors agent service grants)
    (meets : Meets moods (call.on remote) agent service result next after) :
    Mirrors next after (Served.replay grants ⟨call, result⟩) := by
  obtain ⟨ready, done⟩ := StoreCall.done_of_meets meets mirrors.ready ⟨rfl, mirrors.unstaged⟩
  cases result with
  | ok answer =>
      obtain ⟨_, committed, unstaged⟩ := done
      refine ⟨ready, unstaged, ?_⟩
      rw [committed]
      exact (StoreCall.on_memory mirrors.alike call).2
  | error error =>
      obtain ⟨⟨committed, unstaged⟩, _⟩ := done
      refine ⟨ready, unstaged, ?_⟩
      rw [committed]
      exact mirrors.alike

theorem Serves.mirrors
    {history : List Served}
    (serves : Serves moods endpoint grants history agent service) :
    Mirrors agent service (replay grants history) := by
  induction serves with
  | fresh => exact Mirrors.fresh endpoint grants
  | call _ call meets hypothesis =>
      rw [replay_concat]
      exact hypothesis.call meets

/--
After any calls, the service has the permissions that memory has after those of them that
succeeded, and any call can be made.  If it succeeds, memory gives the same answer, and every label
then has the same permissions in both.  If it fails, the grants in force stay as they are, and one
of the requests of the call cannot be sent or the service refuses one.
-/
theorem refines_memory
    {history : List Served}
    (serves : Serves moods endpoint grants history agent service)
    (call : StoreCall) :
    service.committed.Alike (replay grants history) ∧
      (∃ result next after, Meets moods (call.on remote) agent service result next after) ∧
      ∀ result next after, Meets moods (call.on remote) agent service result next after →
        match result with
        | .ok answer =>
          (call.on memory (replay grants history)).1 = .ok answer ∧
            after.committed.Alike (call.on memory (replay grants history)).2
        | .error _ =>
          after.committed = service.committed ∧
            Obstructed moods service.turn after.turn (call.requests agent.nextCheck) := by
  have mirrors := serves.mirrors
  have idle : Idle service.committed service := ⟨rfl, mirrors.unstaged⟩
  obtain ⟨answered, changed⟩ := StoreCall.on_memory mirrors.alike call
  refine ⟨mirrors.alike, StoreCall.exists_meets_on_remote mirrors.ready idle call, ?_⟩
  intro result next after meets
  obtain ⟨_, done⟩ := StoreCall.done_of_meets meets mirrors.ready idle
  cases result with
  | ok answer =>
      obtain ⟨right, committed, _⟩ := done
      refine ⟨answered.trans (congrArg Except.ok right.symm), ?_⟩
      rw [committed]
      exact changed
  | error error =>
      obtain ⟨⟨committed, _⟩, obstructed⟩ := done
      exact ⟨committed, obstructed⟩

end

/-! ## A call that fails and is tried again -/

/-- A service that tells of outdated answers and then refuses, at its fourth request. -/
def reluctant (turn : Nat) : Mood :=
  if turn = 3 then
    { Mood.plain with
      before := [Record.ofTexts ["clear", ""]]
      refusal := some (Record.ofTexts ["nak"])
      before_notices := by decide +kernel
      refusal_answers := by
        rintro _ ⟨⟩
        exact ⟨"nak", by decide +kernel⟩ }
  else
    Mood.plain

def held : Grants := Grants.empty.set "a" (TextSet.ofList ["x"])

def swap : StoreCall := .add "a" (TextSet.ofList ["p", "q"]) true

def swapped : Grants := Grants.empty.set "a" (TextSet.ofList ["p", "q"])

/-- The agent after a first try, which is refused once the label has been dropped. -/
def rebuffed : Agent :=
  (swap.on remote ((Agent.ofPeers "/run/cynagora" []).facing []
    [.bytes (([["done"], ["done"], ["done"], ["clear", ""], ["nak"], ["done"]].map
      Record.ofTexts).flatMap Record.wire)])).2

/-- The agent after a second try. -/
def obliged : Agent :=
  (swap.on remote (rebuffed.facing []
    [.bytes (([["done"], ["done"], ["done"], ["done"], ["done"]].map
      Record.ofTexts).flatMap Record.wire)])).2

theorem serves_swap_twice :
    Serves reluctant "/run/cynagora" held
      [⟨swap, .error (.unexpectedReply "set" "nak")⟩, ⟨swap, .ok none⟩] obliged
      ⟨swapped, none, 10⟩ := by
  have called : swap.on remote ((Agent.ofPeers "/run/cynagora" []).facing []
      [.bytes (([["done"], ["done"], ["done"], ["clear", ""], ["nak"], ["done"]].map
        Record.ofTexts).flatMap Record.wire)]) =
      (.error (.unexpectedReply "set" "nak"), rebuffed) :=
    Prod.ext (by decide +kernel) rfl
  have first : Meets reluctant (swap.on remote) (Agent.ofPeers "/run/cynagora" [])
      (Service.fresh held) (.error (.unexpectedReply "set" "nak")) rebuffed ⟨held, none, 5⟩ :=
    Meets.of_records ([Request.greet, .enter, .drop "a", .set "a" "p", .abort].map
        fun request => Record.ofTexts request.fields)
      (by decide +kernel) called (by decide +kernel) (by decide +kernel)
  have second : Meets reluctant (swap.on remote) rebuffed ⟨held, none, 5⟩ (.ok none) obliged
      ⟨swapped, none, 10⟩ :=
    Meets.of_records ([Request.enter, .drop "a", .set "a" "p", .set "a" "q", .commit].map
        fun request => Record.ofTexts request.fields)
      (by decide +kernel) (Prod.ext (by decide +kernel) rfl) (by decide +kernel)
      (by decide +kernel)
  exact (Serves.fresh.call swap first).call swap second

/-- The second try has replaced what the first one left, and a check tells so. -/
theorem refines_memory_after_refusal :
    let history : List Served :=
      [⟨swap, .error (.unexpectedReply "set" "nak")⟩, ⟨swap, .ok none⟩]
    Serves reluctant "/run/cynagora" held history obliged ⟨swapped, none, 10⟩ ∧
      (replay held history).of "a" = TextSet.ofList ["p", "q"] ∧
      ∃ next after, Meets reluctant ((StoreCall.check "a" "x").on remote) obliged
        ⟨swapped, none, 10⟩ (.ok (some false)) next after := by
  intro history
  obtain ⟨alike, ⟨result, next, after, meets⟩, each⟩ :=
    refines_memory serves_swap_twice (.check "a" "x")
  refine ⟨serves_swap_twice, ?_, next, after, ?_⟩
  · rw [← alike "a"]
    decide +kernel
  · have came := each result next after meets
    cases result with
    | ok answer =>
        have told : (StoreCall.on memory (.check "a" "x") (replay held history)).1 =
            .ok (some false) := by decide +kernel
        rw [← told, came.1]
        exact meets
    | error error =>
        rcases came.2 with ⟨request, member, unfit⟩ | ⟨turn, later, _, refuses⟩
        · have fits : ∀ request ∈ (StoreCall.check "a" "x").requests obliged.nextCheck,
              Fits request.fields := by decide +kernel
          exact absurd (fits request member) unfit
        · have past : turn ≠ 3 := fun early => absurd later (by rw [early]; decide)
          rw [reluctant, if_neg past] at refuses
          exact absurd rfl refuses

end Confinement.Policy
