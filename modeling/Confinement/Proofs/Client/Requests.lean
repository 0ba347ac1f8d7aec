import Confinement.Proofs.Client.Exchange
import Confinement.Proofs.Wire.Outcomes

/-!
# What a request puts on a connection

Nothing is assumed here of the daemon: its reads and writes may fail in any way.  A client with
nothing left to send either puts the whole of a request on the connection, or the request fails.
One that does not fit is not sent at all, and of another one a first part has been sent, all of it
unless the sending itself failed (`ask_outcomes`).
-/

namespace Confinement.Client

open Host Wire

/-- What the daemon has taken of all that was sent. -/
def sent (client : Client) : Bytes := client.connection.sink.accepted

/-- Whether nothing waits to be sent. -/
def Idle (client : Client) : Prop := client.connection.encoder.sealedBytes = []

variable {client next : Client} {fields : List String}

/-! ## Sending -/

/-- What sending a request can come to. -/
theorem send_outcomes
    (idle : client.Idle)
    (fields : List String) :
    (¬Fits fields ∧ ∃ error next, send fields client = (.error (.send error), next) ∧
      next.sent = client.sent) ∨
    (Fits fields ∧ ∃ cause next part, send fields client = (.error (.send (.stream cause)), next) ∧
      part <+: (Record.ofTexts fields).wire ∧ next.sent = client.sent ++ part) ∨
    (Fits fields ∧ ∃ next, send fields client = (.ok (), next) ∧ next.Idle ∧
      next.sent = client.sent ++ (Record.ofTexts fields).wire) := by
  have count : (Record.ofTexts fields).length = fields.length := by
    rw [Record.ofTexts, List.length_map]
  rw [send]
  rcases client.connection.encoder.writeRecord_cases (Record.ofTexts fields) with
    ⟨allowed, room, encoder, written, bytes⟩ | ⟨reason, error, encoder, refused, _⟩
  · rw [idle, List.length_nil, Nat.zero_add] at room
    rw [idle, List.nil_append] at bytes
    have fits : Fits fields := ⟨count ▸ allowed, room⟩
    obtain ⟨result, last, after, part, handed, taken, split, outcome⟩ :=
      flushFrom_outcomes encoder (Nat.lt_succ_self client.connection.sink.script.length)
    rw [bytes] at split
    rw [written]
    dsimp only
    rw [handed]
    rcases outcome with ⟨rfl, nothing⟩ | ⟨⟨cause, rfl⟩, _⟩
    · rw [nothing, List.append_nil] at split
      rw [split] at taken
      exact .inr (.inr ⟨fits, _, rfl, nothing, taken⟩)
    · exact .inr (.inl ⟨fits, cause, _, part, rfl, split ▸ List.prefix_append _ _, taken⟩)
  · rw [refused]
    refine .inl ⟨?_, error, _, rfl, rfl⟩
    rw [idle, List.length_nil, Nat.zero_add, count] at reason
    rintro ⟨allowed, room⟩
    omega

/-! ## Asking -/

/-- Collecting an answer sends nothing. -/
theorem readsOn_collect (gathered : List (List String)) (connection : Connection) :
    connection.ReadsOn (collect gathered connection).2 := by
  fun_induction collect gathered connection with
  | case1 gathered connection after awaited => exact Connection.readsOn_of_await awaited
  | case2 gathered connection error after awaited => exact Connection.readsOn_of_await awaited
  | case3 gathered connection record after awaited row told hypothesis =>
      exact (Connection.readsOn_of_await awaited).trans hypothesis
  | case4 gathered connection record after awaited fields told =>
      exact Connection.readsOn_of_await awaited
  | case5 gathered connection record after awaited fields told =>
      exact Connection.readsOn_of_await awaited
  | case6 gathered connection record after awaited => exact Connection.readsOn_of_await awaited

/-- What becomes of a request, and what of it the daemon has taken. -/
theorem ask_outcomes
    (idle : client.Idle)
    (fields : List String) :
    (∃ answer next, ask fields client = (.ok answer, next) ∧ Fits fields ∧ next.Idle ∧
      next.sent = client.sent ++ (Record.ofTexts fields).wire) ∨
    (∃ error next part, ask fields client = (.error error, next) ∧
      part <+: (Record.ofTexts fields).wire ∧ (¬Fits fields → part = []) ∧
      (part = (Record.ofTexts fields).wire ∨ ∃ cause, error = .send cause) ∧
      next.sent = client.sent ++ part) := by
  rw [ask, Action.bind_apply]
  rcases send_outcomes idle fields with
    ⟨unfit, error, next, outcome, same⟩ | ⟨fits, cause, next, part, outcome, first, taken⟩ |
    ⟨fits, next, outcome, empty, taken⟩
  · rw [outcome]
    exact .inr ⟨_, next, [], rfl, List.nil_prefix, fun _ => rfl, .inr ⟨error, rfl⟩,
      by rw [same, List.append_nil]⟩
  · rw [outcome]
    exact .inr ⟨_, next, part, rfl, first, fun unfit => absurd fits unfit, .inr ⟨_, rfl⟩, taken⟩
  · rw [outcome]
    dsimp only
    rw [receive]
    have kept := readsOn_collect [] next.connection
    generalize collect [] next.connection = collected at kept
    obtain ⟨error | answer, connection⟩ := collected
    · refine .inr ⟨error, _, _, rfl, List.prefix_rfl, fun unfit => absurd fits unfit, .inl rfl, ?_⟩
      rw [← taken]
      exact congrArg Sink.accepted kept.sink
    · refine .inl ⟨answer, _, rfl, fits, ?_, ?_⟩
      · exact (congrArg Encoder.sealedBytes kept.encoder).trans empty
      · rw [← taken]
        exact congrArg Sink.accepted kept.sink

/-- A client that has been greeted has nothing left to send. -/
theorem idle_of_handshake
    {peer : Peer}
    (greeted : handshake (fresh peer) = (.ok (), client)) :
    client.Idle := by
  rw [handshake, Action.bind_apply] at greeted
  have idle : (fresh peer).Idle := Encoder.sealedBytes_empty
  rcases ask_outcomes idle [Command.magic, toString Command.defaultVersion] with
    ⟨answer, next, asked, _, idle, _⟩ | ⟨error, next, _, asked, _⟩
  · rw [asked] at greeted
    dsimp only at greeted
    rw [Action.bind_apply, accepted] at greeted
    -- Only a welcome is left, and taking note of its version sends nothing.
    cases status : answer.status with
    | refused token =>
        rw [status] at greeted
        cases greeted
    | done fields =>
        rw [status] at greeted
        dsimp only [Action.answer] at greeted
        cases told : fields.head?.bind (Text.unsigned? Text.wordBound) with
        | none =>
            rw [told] at greeted
            cases greeted
        | some version =>
            rw [told] at greeted
            cases greeted
            exact idle
  · rw [asked] at greeted
    cases greeted

end Confinement.Client
