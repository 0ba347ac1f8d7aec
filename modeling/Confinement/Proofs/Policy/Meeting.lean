import Confinement.Proofs.Policy.Dialogue

/-!
# Calls at a permission service

Work on a connection becomes a call of an agent by `withConnection`: the agent works on the
connection that is open, or on a new one after a greeting (`withConnection_facing`).  Such a call
`Meets` a service when the service is on the other end, that is when what the agent is sent is what
the service says to what the agent sends.  There is always such a call (`exists_meets`), and every
such call comes to what its work leads to (`Meets.comes_to`).
-/

namespace Confinement.Policy

open Host Wire

namespace Cynagora

variable {Result Next : Type} {moods : Nat → Mood} {service after : Service} {agent next : Agent}
  {committed : Grants} {work : Call Connection Result}

/-! ## Connections of an agent -/

/--
An agent before a call: what becomes of its writes, and what it is sent meanwhile, on the connection
that is open or on the next one.  What it has sent is counted from here on.
-/
def Agent.facing (agent : Agent) (script : List WriteOutcome) (source : Source) : Agent :=
  match agent.current with
  | some connection =>
    { agent with
      current := some { connection with
        source := connection.source ++ source
        sink := { script } }
      past := [] }
  | none => { agent with peers := [⟨source, { script }⟩], past := [] }

/-- The connection on which an agent then works. -/
def Agent.start (agent : Agent) (script : List WriteOutcome) (source : Source) : Connection :=
  match agent.current with
  | some connection => { connection with source := connection.source ++ source, sink := { script } }
  | none => Connection.fresh source { script }

/-- All that an agent does on it: on a new connection, it greets first. -/
def Agent.entire (agent : Agent) (work : Call Connection Result) : Call Connection Result :=
  match agent.current with
  | some _ => work
  | none => greet >>= fun _ => work

/-- Whether nothing but notices is left to be read on a connection, and nothing to be sent. -/
structure Rests (connection : Connection) : Prop where
  quiet : connection.encoder.sealedBytes = []
  steady : connection.source.Steady
  ahead : ∃ notices : List Record, (∀ notice ∈ notices, Notice notice) ∧
    connection.ahead = notices.flatMap Record.wire

/-- Whether no attempt to connect fails. -/
def Agent.Reachable (agent : Agent) : Prop :=
  agent.unreachable = none ∧ ∀ refusal ∈ agent.attempts, refusal = none

theorem Agent.reachable_ofPeers (endpoint : String) (peers : List Peer) :
    (Agent.ofPeers endpoint peers).Reachable :=
  ⟨rfl, nofun⟩

theorem Agent.Reachable.attempted
    (reachable : agent.Reachable) :
    agent.attempted.Reachable := by
  obtain ⟨first, later⟩ := reachable
  refine ⟨?_, fun refusal member => later refusal (List.mem_of_mem_drop member)⟩
  rw [Agent.attempted]
  cases found : agent.attempts with
  | nil => exact first
  | cons refusal rest => exact later refusal (found ▸ List.mem_cons_self)

/-- Whether an agent can reach its service, and its connection rests. -/
structure Agent.Ready (agent : Agent) : Prop where
  reachable : agent.Reachable
  rests : ∀ connection, agent.current = some connection → Rests connection

theorem Stands.rests
    {connection : Connection}
    (stands : Stands moods service [] connection) :
    Rests connection := by
  obtain ⟨notices, all, ahead⟩ := stands.ahead
  rw [Service.hears_nil, List.append_nil] at ahead
  exact ⟨stands.quiet, stands.steady, notices, all, ahead⟩

variable {script : List WriteOutcome} {source : Source}

/-- A ready agent that is sent what the service is to say stands at the service. -/
theorem Agent.Ready.stands
    {later : Bytes}
    (ready : agent.Ready)
    (willing : ∀ outcome ∈ script, outcome.Willing)
    (steady : source.Steady)
    (contents : source.contents = (service.hears moods later).1) :
    Stands moods service later (agent.start script source) := by
  rw [start]
  cases current : agent.current with
  | none => exact ⟨rfl, willing, steady, [], by simp, contents⟩
  | some connection =>
      obtain ⟨quiet, calm, notices, all, ahead⟩ := ready.rests connection current
      refine ⟨quiet, willing, calm.append steady, notices, all, ?_⟩
      rw [Connection.ahead, Source.contents_append, ← List.append_assoc, contents]
      exact congrArg (· ++ _) ahead

theorem Agent.nextCheck_facing (agent : Agent) (script : List WriteOutcome) (source : Source) :
    (agent.facing script source).nextCheck = agent.nextCheck := by
  rw [facing]
  cases agent.current with
  | none => rfl
  | some connection => rfl

theorem accepted_start (agent : Agent) (script : List WriteOutcome) (source : Source) :
    (agent.start script source).sink.accepted = [] := by
  rw [Agent.start]
  cases agent.current with
  | none => rfl
  | some connection => rfl

theorem settle_spec (agent : Agent) (connection : Connection)
    (result : Except BackendError Result) :
    (agent.settle connection result).sent = agent.past ++ [connection.sink.accepted] ∧
      ((agent.settle connection result).Reachable ↔ agent.Reachable) ∧
      (agent.settle connection result).nextCheck = agent.nextCheck ∧
      ∀ kept, (agent.settle connection result).current = some kept → kept = connection := by
  obtain error | result := result
  · rw [Agent.settle]
    split
    · exact ⟨List.append_nil _, Iff.rfl, rfl, fun _ none => by cases none⟩
    · exact ⟨rfl, Iff.rfl, rfl, fun _ same => (Option.some.inj same).symm⟩
  · exact ⟨rfl, Iff.rfl, rfl, fun _ same => (Option.some.inj same).symm⟩

/-- Whether a call of an agent has come to what work on its connection has come to. -/
structure Ends (serial : UInt64) (called : Except BackendError Result × Agent)
    (ended : Except BackendError Result × Connection) : Prop where
  result : called.1 = ended.1
  sent : called.2.sent.flatten = ended.2.sink.accepted
  reachable : called.2.Reachable
  counted : called.2.nextCheck = serial
  kept : ∀ connection, called.2.current = some connection → connection = ended.2

theorem ends_settle
    (unsent : Agent)
    (nothing : unsent.past = [])
    (reachable : unsent.Reachable)
    (ended : Except BackendError Result × Connection) :
    Ends unsent.nextCheck (ended.1, unsent.settle ended.2 ended.1) ended := by
  obtain ⟨sent, still, counted, kept⟩ := settle_spec unsent ended.2 ended.1
  refine ⟨rfl, ?_, still.2 reachable, counted, kept⟩
  rw [sent, nothing]
  exact List.append_nil _

/-- Work on an agent is the entire work on its connection. -/
theorem withConnection_facing
    (reachable : agent.Reachable)
    (work : Call Connection Result) (script : List WriteOutcome) (source : Source) :
    Ends agent.nextCheck (withConnection work (agent.facing script source))
      (agent.entire work (agent.start script source)) := by
  have onward := reachable.attempted
  obtain ⟨endpoint, unreachable, attempts, peers, current, past, serial⟩ := agent
  obtain rfl : unreachable = none := reachable.1
  cases current with
  | some connection =>
      let busy : Connection := { connection with
        source := connection.source ++ source
        sink := { script } }
      exact ends_settle ⟨endpoint, none, attempts, peers, some busy, [], serial⟩ rfl reachable
        (work busy)
  | none =>
      show Ends serial (withConnection work
        ⟨endpoint, none, attempts, [⟨source, { script }⟩], none, [], serial⟩)
        ((greet >>= fun _ => work) (Connection.fresh source { script }))
      rw [Action.bind_apply, withConnection, acquire]
      dsimp only
      rw [connect]
      dsimp only [Agent.nextPeer, List.headD_cons]
      generalize greet (Connection.fresh source { script }) = greeted
      obtain ⟨error | done, connection⟩ := greeted
      · exact ⟨rfl, List.append_nil _, onward, rfl, fun _ none => by cases none⟩
      · exact ends_settle ⟨endpoint, attempts.headD none, attempts.drop 1, [], some connection, [],
          serial⟩ rfl onward (work connection)

/-! ## Calls at a service -/

/--
A call of an agent whose service is on the other end: every write is taken, if only in parts, every
read gives something in the end, and what is delivered is what the service says when it hears what
is sent.
-/
inductive Meets (moods : Nat → Mood) (call : Call Agent Result) (agent : Agent)
    (service : Service) : Except BackendError Result → Agent → Service → Prop
  | intro {script : List WriteOutcome} {source : Source} {result : Except BackendError Result}
      {next : Agent} {after : Service}
      (willing : ∀ outcome ∈ script, outcome.Willing)
      (steady : source.Steady)
      (called : call (agent.facing script source) = (result, next))
      (heard : service.hears moods next.sent.flatten = (source.contents, after)) :
      Meets moods call agent service result next after

/-- A service that is sent records, and whose replies are delivered at once. -/
theorem Meets.of_records
    {call : Call Agent Result} {result : Except BackendError Result} {replies : List Record}
    (sent : List Record)
    (arrive : ∀ record ∈ sent, record.Sendable)
    (called : call (agent.facing [] [.bytes (replies.flatMap Record.wire)]) = (result, next))
    (writes : next.sent.flatten = sent.flatMap Record.wire)
    (heard : service.hearAll moods sent = (replies.flatMap Record.wire, after)) :
    Meets moods call agent service result next after := by
  have steady : Source.Steady [.bytes (replies.flatMap Record.wire)] := by
    intro cause member
    cases List.mem_singleton.1 member
  refine .intro (by rintro _ ⟨⟩) steady called ?_
  rw [writes, Service.hears_wires arrive, heard, Source.contents, Source.contents, List.append_nil]

theorem leads_entire
    {outcome : Option Result → Service → Prop}
    (idle : Idle committed service)
    (grows : Grows work)
    (leads : ∀ later, service.turn ≤ later.turn → Idle committed later →
      Leads moods work later outcome)
    (agent : Agent) :
    Leads moods (agent.entire work) service outcome := by
  rw [Agent.entire]
  cases agent.current with
  | some _ => exact leads service (Nat.le_refl _) idle
  | none =>
      refine (leads_greet idle).bind (fun _ => grows) ?_ ?_
      · rintro _ next before ⟨_, idle⟩
        exact leads next before idle
      · rintro next ⟨impossible, _⟩
        cases impossible

section

variable {outcome : Option Result → Service → Prop}

/-- A call comes to what its work leads to, and leaves the agent ready for the next one. -/
theorem Meets.comes_to
    {result : Except BackendError Result}
    (meets : Meets moods (withConnection work) agent service result next after)
    (ready : agent.Ready)
    (leads : Leads moods (agent.entire work) service outcome) :
    next.Ready ∧ outcome result.toOption after := by
  obtain ⟨sent, last, value, course, came⟩ := leads
  cases meets with
  | @intro script source _ _ _ willing steady called heard =>
      have ends := withConnection_facing ready.reachable work script source
      rw [called] at ends
      rw [ends.sent] at heard
      have contents : source.contents = (service.hears moods
          (agent.entire work (agent.start script source)).2.sink.accepted).1 := by
        rw [heard]
      obtain ⟨known, final, stands⟩ := course.concludes (accepted_start agent script source)
        (ready.stands willing steady contents)
      have same : result.toOption = value := by
        rw [← known, ← ends.result]
      have last : after = last := by
        rw [← final, heard]
      refine ⟨⟨ends.reachable, ?_⟩, ?_⟩
      · intro connection kept
        rw [ends.kept connection kept]
        exact stands.rests
      · rw [same, last]
        exact came

/-- At every service there is such a call: all that it says can be delivered at once. -/
theorem exists_meets
    (ready : agent.Ready)
    (leads : Leads moods (agent.entire work) service outcome) :
    ∃ result next after, Meets moods (withConnection work) agent service result next after := by
  obtain ⟨sent, last, value, course, _⟩ := leads
  let source : Source := [.bytes (service.hears moods sent).1]
  have willing : ∀ outcome ∈ ([] : List WriteOutcome), outcome.Willing := by rintro _ ⟨⟩
  have steady : source.Steady := by
    intro cause member
    cases List.mem_singleton.1 member
  have contents : source.contents = (service.hears moods sent).1 := List.append_nil _
  have ends := withConnection_facing ready.reachable work [] source
  have accepted := course.carried (accepted_start agent [] source)
    (ready.stands willing steady contents)
  have heard : service.hears moods
      (withConnection work (agent.facing [] source)).2.sent.flatten =
        (source.contents, (service.hears moods sent).2) := by
    rw [ends.sent, accepted, contents]
  exact ⟨_, _, _, .intro willing steady rfl heard⟩

end

end Cynagora

end Confinement.Policy
