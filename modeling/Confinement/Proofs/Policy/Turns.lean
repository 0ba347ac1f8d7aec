import Confinement.Proofs.Policy.Asking

/-!
# Calls of an agent, one after another

The work of a call is the run of its plan (`StoreCall.run_plan`), on the connection that is open or,
after a greeting, on a new one (`Agent.whole`).  `Turned` tells what such a call asks, what it
results in, and whether its connection is kept for the next one (`StoreCall.concluded_on_remote`).

A `History` is an agent after some calls, with all that was asked on its latest connection since
that was opened.  The peer of that connection stays the same as long as it is used, and the whole is
one conversation with it (`History.Whole.afterAll`).
-/

namespace Confinement.Policy

open Host Wire Cynagora

variable {Result : Type}

/-! ## The plan of a call -/

/-- What a reply to a check says. -/
def Cynagora.judged : Except BackendError (List String) → Except BackendError Bool
  | .ok reply =>
    match reply.head? with
    | some "yes" => .ok true
    | some "no" => .ok false
    | _ => .error (unexpected "check" reply)
  | .error error => .error error

theorem Cynagora.verdict_apply (serial : UInt64) (label permission : String)
    (connection : Connection) :
    verdict serial label permission connection =
      (judged (request (checkRequest serial label permission) connection).1,
        (request (checkRequest serial label permission) connection).2) := by
  rw [verdict, Action.bind_apply]
  generalize request (checkRequest serial label permission) connection = came
  obtain ⟨error | reply, next⟩ := came
  · rfl
  · by_cases yes : reply.head? = some "yes"
    · simp [judged, yes]
    · by_cases no : reply.head? = some "no"
      · simp [judged, no]
      · simp [judged, Action.fail]

namespace StoreCall

/-- What a call asks on a connection; a check has a serial number. -/
def plan (serial : UInt64) : StoreCall → Plan (Option Bool)
  | check label permission =>
    .ask (checkRequest serial label permission) fun outcome => .ended ((judged outcome).map some)
  | call@(add _ _ _) | call@(drop _) =>
    (transactionPlan (call.changes.map Request.fields)).andThen fun _ => .ended (.ok none)

theorem run_plan (serial : UInt64) (call : StoreCall) :
    (call.plan serial).run = call.work serial := by
  cases call with
  | check label permission =>
      funext connection
      rw [work, Action.bind_apply, verdict_apply, plan, Plan.run.eq_def]
      dsimp only [Plan.run]
      generalize judged _ = answer
      obtain error | granted := answer
      · rfl
      · rfl
  | add | drop =>
      rw [plan, Plan.run_andThen, run_transactionPlan]
      rfl

end StoreCall

/-! ## The connection of a call -/

namespace Cynagora

/-- The greeting on a new connection. -/
abbrev greeting : List String := ["cynagora", "1"]

/-- The connection to a peer before anything is asked. -/
def opening (peer : Peer) : Connection := Connection.fresh peer.source peer.sink

/-- Whether a call gets a connection: one is open, or the next attempt to connect does not fail. -/
def Agent.Reaches (agent : Agent) : Prop := agent.current = none → agent.unreachable = none

/-- The connection that a call is made on: the one that is open, or a new one. -/
def Agent.line (agent : Agent) : Connection :=
  match agent.current with
  | some connection => connection
  | none => opening agent.nextPeer

/-- All that is asked when a plan is carried out: on a new connection, a greeting comes first. -/
def Agent.whole (agent : Agent) (plan : Plan Result) : Plan Result :=
  match agent.current with
  | some _ => plan
  | none => (expectPlan greeting).andThen fun _ => plan

/-- The connection that is held over for the next call once a plan has been carried out on it. -/
def heldOver : Except BackendError Result × Connection → Option Connection
  | (.ok _, connection) => some connection
  | (.error error, connection) => if error.breaksConnection then none else some connection

/--
What is asked when a plan is carried out, what it results in, and the connection that is open
afterwards, by the one that is open before.
-/
inductive Turned (plan : Plan Result) :
    Option Connection → List Asked → Except BackendError Result → Option Connection → Prop
  /-- A new connection is given up when the greeting is not answered `done`. -/
  | rebuffed (greet : Asked) (error : BackendError)
      (fields : greet.fields = greeting)
      (refused : greet.isDone = false)
      (settled : greet.settled = .error error) :
      Turned plan none [greet] (.error error) none
  | opened (greet : Asked) (line : Connection)
      (fields : greet.fields = greeting)
      (done : greet.isDone = true) :
      Turned plan none (greet :: plan.asked line) (plan.run line).1 (heldOver (plan.run line))
  | resumed (line : Connection) :
      Turned plan (some line) (plan.asked line) (plan.run line).1 (heldOver (plan.run line))

/-- On a new connection, the greeting is asked first. -/
theorem Turned.greeted
    {plan : Plan Result} {before after : Option Connection} {asked : List Asked}
    {result : Except BackendError Result}
    (turned : Turned plan before asked result after)
    (closed : before = none) :
    ∃ greet rest, asked = greet :: rest ∧ greet.fields = greeting := by
  cases turned with
  | rebuffed greet error fields => exact ⟨greet, [], rfl, fields⟩
  | opened greet line fields => exact ⟨greet, _, rfl, fields⟩
  | resumed => cases closed

/-- What a plan that is carried out makes of an agent. -/
structure Concluded (agent : Agent) (plan : Plan Result)
    (called : Except BackendError Result × Agent) : Prop where
  turned : Turned plan agent.current ((agent.whole plan).asked agent.line) called.1
    called.2.current
  last : ∀ connection, called.2.current = some connection →
    connection = ((agent.whole plan).run agent.line).2
  sent : called.2.sent = agent.past ++ [((agent.whole plan).run agent.line).2.sink.accepted]
  reachable : agent.Reachable → called.2.Reachable
  peers : ∀ peer ∈ called.2.peers, peer ∈ agent.peers

theorem eq_of_heldOver
    {ended : Except BackendError Result × Connection} {connection : Connection}
    (final : heldOver ended = some connection) :
    connection = ended.2 := by
  obtain ⟨error | result, last⟩ := ended
  · rw [heldOver] at final
    split at final
    · cases final
    · exact (Option.some.inj final).symm
  · exact (Option.some.inj final).symm

theorem settle_eq (agent : Agent) (connection : Connection) (result : Except BackendError Result) :
    agent.settle connection result =
      match heldOver (result, connection) with
      | some connection => { agent with current := some connection }
      | none => { agent with
        current := none
        past := agent.past ++ [connection.sink.accepted] } := by
  obtain error | result := result
  · rw [Agent.settle, heldOver]
    split
    · rfl
    · rfl
  · rfl

/-- What is concluded when the connection is kept or given up at the end. -/
theorem concluded_settle
    {agent unsettled : Agent} {plan : Plan Result} {made : List Asked}
    {ended : Except BackendError Result × Connection}
    (reachable : agent.Reachable → unsettled.Reachable)
    (turned : Turned plan agent.current made ended.1 (heldOver ended))
    (asked : (agent.whole plan).asked agent.line = made)
    (runs : (agent.whole plan).run agent.line = ended)
    (past : unsettled.past = agent.past)
    (peers : ∀ peer ∈ unsettled.peers, peer ∈ agent.peers) :
    Concluded agent plan (ended.1, unsettled.settle ended.2 ended.1) := by
  obtain rfl := runs
  obtain rfl := asked
  rw [settle_eq, Prod.mk.eta]
  cases final : heldOver ((agent.whole plan).run agent.line) with
  | none =>
      rw [final] at turned
      refine ⟨turned, by rintro _ ⟨⟩, ?_, reachable, peers⟩
      rw [← past]
      exact List.append_nil _
  | some connection =>
      rw [final] at turned
      obtain rfl := eq_of_heldOver final
      refine ⟨turned, fun _ same => (Option.some.inj same).symm, ?_, reachable, peers⟩
      rw [← past]
      rfl

theorem concluded_withConnection
    {agent : Agent}
    (reaches : agent.Reaches)
    (plan : Plan Result) :
    Concluded agent plan (withConnection plan.run agent) := by
  have attempted : agent.Reachable → agent.attempted.Reachable := Agent.Reachable.attempted
  obtain ⟨endpoint, unreachable, attempts, peers, current, past, serial⟩ := agent
  cases current with
  | some line =>
      let agent : Agent := ⟨endpoint, unreachable, attempts, peers, some line, past, serial⟩
      have turned : Turned plan agent.current (plan.asked line) (plan.run line).1
          (heldOver (plan.run line)) := .resumed line
      have settled := @concluded_settle _ agent agent plan _ _ id turned rfl rfl rfl
        fun _ member => member
      exact settled
  | none =>
      obtain rfl : unreachable = none := reaches rfl
      let agent : Agent := ⟨endpoint, none, attempts, peers, none, past, serial⟩
      cases came : request greeting (opening agent.nextPeer) with
      | mk outcome line =>
          have greeted : Cynagora.greet (Connection.fresh agent.nextPeer.source
              agent.nextPeer.sink) = (Asked.settled ⟨greeting, outcome⟩, line) := by
            rw [Cynagora.greet, expectDone_apply, ← opening, came]
          rw [withConnection, acquire]
          dsimp only
          rw [connect]
          dsimp only
          rw [greeted]
          have others : ∀ peer ∈ agent.peers.drop 1, peer ∈ agent.peers :=
            fun peer member => List.mem_of_mem_drop member
          rcases Asked.settled_cases ⟨greeting, outcome⟩ with
            ⟨done, _, settled⟩ | ⟨error, refused, _, settled⟩
          · obtain ⟨asks, runs⟩ := expectPlan_andThen_of_done came done fun _ => plan
            rw [settled]
            dsimp only
            have turned : Turned plan agent.current (⟨greeting, outcome⟩ :: plan.asked line)
                (plan.run line).1 (heldOver (plan.run line)) := .opened _ line rfl done
            exact concluded_settle attempted turned asks runs rfl others
          · obtain ⟨asks, runs⟩ := expectPlan_andThen_of_refused came settled fun _ => plan
            rw [settled]
            refine ⟨?_, by rintro _ ⟨⟩, ?_, attempted, others⟩
            · rw [show (agent.whole plan).asked agent.line = _ from asks]
              exact .rebuffed _ error rfl refused settled
            · rw [show (agent.whole plan).run agent.line = _ from runs]
              exact List.append_nil _

end Cynagora

namespace StoreCall

/-- All that a call asks, and what comes of each request. -/
def asked (call : StoreCall) (agent : Agent) : List Asked :=
  (agent.whole (call.plan agent.nextCheck)).asked agent.line

/-- The connection as a call leaves it. -/
def closing (call : StoreCall) (agent : Agent) : Connection :=
  ((agent.whole (call.plan agent.nextCheck)).run agent.line).2

theorem conversed_asked (call : StoreCall) (agent : Agent) :
    Conversed agent.line (call.asked agent) (call.closing agent) :=
  Plan.conversed_run _ _

theorem concluded_on_remote
    {agent : Agent}
    (reaches : agent.Reaches)
    (call : StoreCall) :
    Concluded agent (call.plan agent.nextCheck) (call.on remote agent) := by
  rw [on_remote, ← run_plan]
  cases call with
  | check label permission =>
      obtain ⟨turned, last, sent, still, peers⟩ :=
        @concluded_withConnection _ ((check label permission).counted agent) reaches
          ((check label permission).plan agent.nextCheck)
      exact ⟨turned, last, sent, still, peers⟩
  | add | drop => exact concluded_withConnection reaches _

/--
A call for which no connection can be opened fails with the cause and does nothing else.  The next
call tries again, with whatever comes of that attempt.
-/
theorem on_remote_of_refused
    {agent : Agent} {cause : Failure}
    (closed : agent.current = none)
    (refused : agent.unreachable = some cause)
    (call : StoreCall) :
    call.on remote agent =
      (.error (.connect agent.endpoint cause), (call.counted agent).attempted) := by
  obtain ⟨endpoint, unreachable, attempts, peers, current, past, serial⟩ := agent
  obtain rfl : current = none := closed
  obtain rfl : unreachable = some cause := refused
  rw [on_remote]
  cases call with
  | check | add | drop => rfl

/-- A service that is not there at first answers the next call. -/
example :
    let replies := [["done"], ["yes"]]
    let peer : Peer := ⟨.ofBytes ((replies.map Record.ofTexts).flatMap Record.wire), {}⟩
    let agent : Agent := { Agent.ofPeers "/run/cynagora" [peer] with
      unreachable := some (.os .connectionRefused)
      attempts := [none] }
    let next := ((StoreCall.check "a" "p").on remote agent).2
    next.sent = [] ∧ ((StoreCall.check "a" "p").on remote next).1 = .ok (some true) := by
  decide +kernel

end StoreCall

/-! ## Calls one after another -/

/-- An agent after some calls, with all that was asked on its latest connection. -/
structure History where
  agent : Agent
  /-- The peer of the latest connection. -/
  peer : Peer
  /-- All that was asked on it since it was opened. -/
  made : List Asked
  /-- The connection as it was left. -/
  last : Connection

namespace History

/-- An agent that has made no call. -/
def fresh (endpoint : String) (peers : List Peer) : History :=
  let agent := Agent.ofPeers endpoint peers
  ⟨agent, agent.nextPeer, [], opening agent.nextPeer⟩

/-- The peer of the connection that the next call is made on. -/
def counterpart (history : History) : Peer :=
  history.agent.current.elim history.agent.nextPeer fun _ => history.peer

/-- All that was asked on that connection before. -/
def earlier (history : History) : List Asked :=
  history.agent.current.elim [] fun _ => history.made

def after (history : History) (call : StoreCall) : History where
  agent := (call.on remote history.agent).2
  peer := history.counterpart
  made := history.earlier ++ call.asked history.agent
  last := call.closing history.agent

def afterAll (history : History) (calls : List StoreCall) : History := calls.foldl after history

/-- What every call keeps is kept by any calls. -/
theorem afterAll_of_after
    {Kept : History → Prop}
    (step : ∀ history call, Kept history → Kept (history.after call))
    {history : History}
    (start : Kept history)
    (calls : List StoreCall) :
    Kept (history.afterAll calls) := by
  induction calls generalizing history with
  | nil => exact start
  | cons call rest hypothesis => exact hypothesis (step history call start)

/-- What was sent on the latest connection. -/
def taken (history : History) : Bytes := history.agent.sent.getLastD history.peer.sink.accepted

/-- Whether all that was asked is one conversation, on the connection that is open if one is. -/
structure Whole (history : History) : Prop where
  reachable : history.agent.Reachable
  current : ∀ connection, history.agent.current = some connection → connection = history.last
  conversed : Conversed (opening history.peer) history.made history.last
  greeted : history.made = [] ∧ history.agent.current = none ∨
    ∃ greet rest, history.made = greet :: rest ∧ greet.fields = greeting
  taken : history.taken = history.last.sink.accepted

theorem whole_fresh (endpoint : String) (peers : List Peer) : (fresh endpoint peers).Whole :=
  ⟨Agent.reachable_ofPeers endpoint peers, nofun, Conversed.refl _, .inl ⟨rfl, rfl⟩, rfl⟩

theorem Whole.reaches
    {history : History}
    (whole : history.Whole) :
    history.agent.Reaches :=
  fun _ => whole.reachable.1

theorem Whole.first
    {history : History}
    (whole : history.Whole) :
    ∀ asked ∈ history.made.head?, asked.fields = greeting := by
  rcases whole.greeted with ⟨made, _⟩ | ⟨greet, rest, made, fields⟩
  · rw [made]
    exact nofun
  · rw [made]
    rintro asked ⟨⟩
    exact fields

/-- What is asked next goes on where the conversation stands. -/
theorem Whole.line
    {history : History}
    (whole : history.Whole) :
    Conversed (opening history.counterpart) history.earlier history.agent.line := by
  rw [counterpart, earlier, Agent.line]
  cases state : history.agent.current with
  | some connection =>
      obtain rfl := whole.current connection state
      exact whole.conversed
  | none => exact Conversed.refl _

theorem Whole.after
    {history : History}
    (whole : history.Whole)
    (call : StoreCall) :
    (history.after call).Whole := by
  have concluded := StoreCall.concluded_on_remote whole.reaches call
  refine ⟨concluded.reachable whole.reachable, concluded.last,
    whole.line.trans (call.conversed_asked _), .inr ?_, ?_⟩
  · rw [History.after, earlier]
    cases state : history.agent.current with
    | some connection =>
        rcases whole.greeted with ⟨_, closed⟩ | ⟨greet, rest, made, fields⟩
        · rw [state] at closed
          cases closed
        · exact ⟨greet, rest ++ call.asked history.agent, congrArg (· ++ _) made, fields⟩
    | none => exact concluded.turned.greeted state
  · rw [History.taken, History.after]
    dsimp only
    rw [concluded.sent, List.getLastD_concat]
    rfl

theorem Whole.afterAll
    {history : History}
    (whole : history.Whole)
    (calls : List StoreCall) :
    (history.afterAll calls).Whole :=
  @afterAll_of_after History.Whole (fun _ call whole => whole.after call) history whole calls

/-! ## Calls whose peers take every write and break off no read -/

/-- Whether no peer makes a stream fail. -/
structure Calm (history : History) : Prop where
  whole : history.Whole
  peers : ∀ peer ∈ history.agent.peers, peer.source.Steady ∧ peer.sink.Willing
  clear : Clear history.last
  steady : history.last.source.Steady
  made : ∀ asked ∈ history.made, (asked.isSent = true ↔ Fits asked.fields) ∧ ¬asked.BreaksDown

theorem clear_opening
    {peer : Peer}
    (willing : peer.sink.Willing) :
    Clear (opening peer) :=
  ⟨rfl, willing⟩

theorem nextPeer_calm
    {agent : Agent}
    (peers : ∀ peer ∈ agent.peers, peer.source.Steady ∧ peer.sink.Willing) :
    agent.nextPeer.source.Steady ∧ agent.nextPeer.sink.Willing := by
  rw [Agent.nextPeer]
  cases found : agent.peers with
  | nil => exact ⟨nofun, nofun⟩
  | cons peer rest => exact peers peer (found ▸ List.mem_cons_self)

theorem calm_fresh
    {peers : List Peer}
    (calm : ∀ peer ∈ peers, peer.source.Steady ∧ peer.sink.Willing)
    (endpoint : String) :
    (fresh endpoint peers).Calm := by
  obtain ⟨steady, willing⟩ := @nextPeer_calm (Agent.ofPeers endpoint peers) calm
  exact ⟨whole_fresh endpoint peers, calm, clear_opening willing, steady, nofun⟩

theorem Calm.line
    {history : History}
    (calm : history.Calm) :
    Clear history.agent.line ∧ history.agent.line.source.Steady ∧
      ∀ asked ∈ history.earlier, (asked.isSent = true ↔ Fits asked.fields) ∧ ¬asked.BreaksDown := by
  rw [earlier, Agent.line]
  cases state : history.agent.current with
  | some connection =>
      obtain rfl := calm.whole.current connection state
      exact ⟨calm.clear, calm.steady, calm.made⟩
  | none =>
      obtain ⟨steady, willing⟩ := nextPeer_calm calm.peers
      exact ⟨clear_opening willing, steady, nofun⟩

theorem Calm.after
    {history : History}
    (calm : history.Calm)
    (call : StoreCall) :
    (history.after call).Calm := by
  have concluded := StoreCall.concluded_on_remote calm.whole.reaches call
  obtain ⟨clear, steady, earlier⟩ := calm.line
  obtain ⟨onward, asks⟩ := Plan.clear_run clear (history.agent.whole (call.plan _))
  have asked : ∀ asked ∈ call.asked history.agent,
      (asked.isSent = true ↔ Fits asked.fields) ∧ ¬asked.BreaksDown :=
    fun asked member => ⟨(asks asked member).1, (asks asked member).2 steady⟩
  refine ⟨calm.whole.after call, ?_, onward, ?_, List.forall_mem_append.2 ⟨earlier, asked⟩⟩
  · exact fun peer member => calm.peers peer (concluded.peers peer member)
  · exact fun cause member =>
      steady cause ((call.conversed_asked history.agent).failures cause member)

theorem Calm.afterAll
    {history : History}
    (calm : history.Calm)
    (calls : List StoreCall) :
    (history.afterAll calls).Calm :=
  @afterAll_of_after History.Calm (fun _ call calm => calm.after call) history calm calls

end History

end Confinement.Policy
