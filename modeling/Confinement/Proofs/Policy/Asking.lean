import Confinement.Proofs.Policy.Plan
import Confinement.Proofs.Wire.Outcomes

/-!
# What comes of requests to a permission service

The peer may send and do anything.  `Conversed` says what a conversation has made of a connection:
the k-th request that was sent is decided by the k-th record that comes and is no notice, as long as
the stream itself does not fail, and the wire forms of the requests were to be sent one after
another.  It holds of a request (`Came.conversed`), of one conversation after another
(`Conversed.trans`), and so of every plan (`Plan.conversed_run`).

On a connection that is `Clear`, the requests that are sent are those that fit the buffer
(`Plan.clear_run`).
-/

namespace Confinement.Policy.Cynagora

open Host Wire

variable {Result : Type}

namespace Asked

/-- What a request puts on the wire. -/
def wire (asked : Asked) : Bytes :=
  if asked.isSent then (Record.ofTexts asked.fields).wire else []

/-- Whether the stream itself failed, in sending the request or in waiting for its reply. -/
def BreaksDown (asked : Asked) : Prop :=
  ∃ error : FramingError, error.IsBreakdown ∧ asked.outcome = .error (.framing error)

/-- Whether a record is the reply to a request; without a record it has none. -/
def DecidedBy (asked : Asked) : Option Record → Prop
  | some record => asked.outcome = .ok record.lossyTexts
  | none => asked.outcome = .error .closed ∨ asked.outcome = .error (.framing .messageTooBig)

/-- A request that does not fit is not sent. -/
theorem not_isSent
    {error : FramingError}
    (kind : error = .bufferFull ∨ error = .tooManyFields)
    (fields : List String) :
    ¬isSent ⟨fields, .error (.framing error)⟩ = true := by
  rcases kind with rfl | rfl
  · exact Bool.false_ne_true
  · exact Bool.false_ne_true

theorem BreaksDown.isSent
    {asked : Asked}
    (broken : asked.BreaksDown) :
    asked.isSent = true := by
  obtain ⟨error, kind, outcome⟩ := broken
  rw [Asked.isSent, outcome]
  rcases kind with rfl | ⟨cause, rfl⟩
  · rfl
  · rfl

theorem BreaksDown.not_decidedBy
    {asked : Asked} {record : Option Record}
    (broken : asked.BreaksDown) :
    ¬asked.DecidedBy record := by
  obtain ⟨error, kind, outcome⟩ := broken
  cases record with
  | some record =>
      intro decided
      cases outcome.symm.trans decided
  | none =>
      rintro (closed | tooBig)
      · cases outcome.symm.trans closed
      · cases outcome.symm.trans tooBig
        rcases kind with impossible | ⟨_, impossible⟩
        · cases impossible
        · cases impossible

theorem DecidedBy.isSent
    {asked : Asked} {record : Option Record}
    (decided : asked.DecidedBy record) :
    asked.isSent = true := by
  rw [Asked.isSent]
  cases record with
  | some record => rw [show asked.outcome = _ from decided]
  | none =>
      rcases decided with outcome | outcome
      · rw [outcome]
      · rw [outcome]

end Asked

/-! ## One request -/

/-- What a request can come to on a connection. -/
inductive Came (fields : List String) (connection : Connection) :
    Except BackendError (List String) → Connection → Prop
  /-- It does not fit, and nothing happens on the connection. -/
  | unfit (error : FramingError) (next : Connection)
      (kind : error = .bufferFull ∨ error = .tooManyFields)
      (dispatched : next.dispatched = connection.dispatched)
      (failures : ∀ cause, Delivery.failure cause ∈ next.source →
        Delivery.failure cause ∈ connection.source)
      (coming : next.coming isNotice = connection.coming isNotice) :
      Came fields connection (.error (.framing error)) next
  /-- The stream fails. -/
  | brokenDown (error : FramingError) (next : Connection)
      (kind : error.IsBreakdown)
      (dispatched : next.dispatched = connection.dispatched ++ (Record.ofTexts fields).wire)
      (failures : ∀ cause, Delivery.failure cause ∈ next.source →
        Delivery.failure cause ∈ connection.source) :
      Came fields connection (.error (.framing error)) next
  /-- It is decided by the next record that comes, or by there being none. -/
  | decided (outcome : Except BackendError (List String)) (next : Connection)
      (dispatched : next.dispatched = connection.dispatched ++ (Record.ofTexts fields).wire)
      (failures : ∀ cause, Delivery.failure cause ∈ next.source →
        Delivery.failure cause ∈ connection.source)
      (reply : Asked.DecidedBy ⟨fields, outcome⟩ (connection.coming isNotice).head?)
      (coming : next.coming isNotice = (connection.coming isNotice).tail) :
      Came fields connection outcome next

theorem came_request (fields : List String) (connection : Connection) :
    Came fields connection (request fields connection).1 (request fields connection).2 := by
  have posted := connection.post_outcomes (Record.ofTexts fields)
  rw [request]
  generalize connection.post (Record.ofTexts fields) = sent at posted
  obtain ⟨result, middle⟩ := sent
  cases posted with
  | unfit error encoder kind same =>
      refine .unfit error _ kind ?_ (fun _ member => member) rfl
      rw [Connection.dispatched, Connection.dispatched, same]
  | stuck error encoder sink kind moved =>
      exact .brokenDown error _ kind moved fun _ member => member
  | sent encoder sink moved =>
      let middle : Connection := { connection with encoder, sink }
      have awaited := middle.await_outcomes isNotice
      dsimp only
      generalize middle.await isNotice = came at awaited
      obtain ⟨result, last⟩ := came
      have dispatched
          (onward : Connection.ReadsOn middle last) :
          last.dispatched = connection.dispatched ++ (Record.ofTexts fields).wire := by
        rw [Connection.dispatched, onward.encoder, onward.sink]
        exact moved
      cases awaited with
      | arrived record _ onward first =>
          have next : connection.coming isNotice = record :: last.coming isNotice := first
          refine .decided _ _ (dispatched onward) onward.failures ?_ ?_
          · rw [next]
            rfl
          · rw [next]
            rfl
      | exhausted error _ onward kind nothing still =>
          have ended : connection.coming isNotice = [] := nothing
          rcases kind with rfl | rfl
          · refine .decided _ _ (dispatched onward) onward.failures ?_ ?_
            · rw [ended]
              exact .inl rfl
            · rw [ended]
              exact still
          · refine .decided _ _ (dispatched onward) onward.failures ?_ ?_
            · rw [ended]
              exact .inr rfl
            · rw [ended]
              exact still
      | brokenDown cause error _ onward kind final member same =>
          exact .brokenDown error _ kind (dispatched onward) onward.failures

namespace Came

variable {fields : List String} {connection next : Connection}
  {outcome : Except BackendError (List String)}

/-- A request without a reply has met an error that breaks the connection. -/
theorem breaksConnection
    {error : BackendError}
    (came : Came fields connection (.error error) next) :
    error.breaksConnection = true := by
  cases came with
  | unfit => rfl
  | brokenDown => rfl
  | decided _ _ _ _ reply =>
      cases coming : (connection.coming isNotice).head? with
      | some record =>
          rw [coming] at reply
          cases reply
      | none =>
          rw [coming] at reply
          rcases reply with same | same
          · cases same
            rfl
          · cases same
            rfl

end Came

/-! ## Requests and the records that decide them -/

/--
Whether the k-th of the requests that were sent is decided by the k-th of some records, up to the
first request on which the stream failed.
-/
def Paired (replies : List Record) (sent : List Asked) : Prop :=
  ∀ index asked, sent[index]? = some asked →
    (∀ earlier ∈ sent.take index, ¬earlier.BreaksDown) →
    asked.BreaksDown ∨ asked.DecidedBy replies[index]?

theorem paired_nil (replies : List Record) : Paired replies [] := by
  rintro index asked ⟨⟩

theorem paired_singleton
    {replies : List Record} {asked : Asked}
    (decided : asked.BreaksDown ∨ asked.DecidedBy replies.head?) :
    Paired replies [asked] := by
  intro index other found _
  obtain ⟨inside, same⟩ := List.getElem?_eq_some_iff.1 found
  obtain rfl : index = 0 := Nat.lt_one_iff.1 inside
  obtain rfl : asked = other := same
  rwa [← List.head?_eq_getElem?]

/-- Requests that go on where others ended are paired with what those left. -/
theorem Paired.append
    {replies : List Record} {first second : List Asked}
    (paired : Paired replies first)
    (onward : (∀ asked ∈ first, ¬asked.BreaksDown) →
      Paired (replies.drop first.length) second) :
    Paired replies (first ++ second) := by
  intro index asked found calm
  -- Behind the first part, places are counted from its end in both lists.
  by_cases early : index < first.length
  · rw [List.getElem?_append_left early] at found
    rw [List.take_append_of_le_length (Nat.le_of_lt early)] at calm
    exact paired index asked found calm
  · obtain ⟨further, rfl⟩ := Nat.exists_eq_add_of_le (Nat.le_of_not_lt early)
    rw [List.getElem?_append_right (Nat.le_add_right _ _), Nat.add_sub_cancel_left] at found
    rw [List.take_length_add_append] at calm
    have before : ∀ asked ∈ first, ¬asked.BreaksDown :=
      fun asked member => calm asked (List.mem_append_left _ member)
    have now := onward before further asked found
      fun asked member => calm asked (List.mem_append_right _ member)
    rwa [List.getElem?_drop] at now

/-- What a conversation has made of a connection. -/
structure Conversed (connection : Connection) (made : List Asked) (next : Connection) : Prop where
  paired : Paired (connection.coming isNotice) (made.filter Asked.isSent)
  coming : (∀ asked ∈ made, ¬asked.BreaksDown) →
    next.coming isNotice = (connection.coming isNotice).drop (made.filter Asked.isSent).length
  dispatched : next.dispatched = connection.dispatched ++ made.flatMap Asked.wire
  failures : ∀ cause, Delivery.failure cause ∈ next.source →
    Delivery.failure cause ∈ connection.source

theorem Conversed.refl (connection : Connection) : Conversed connection [] connection :=
  ⟨paired_nil _, fun _ => rfl, (List.append_nil _).symm, fun _ member => member⟩

theorem Conversed.trans
    {connection next last : Connection} {first second : List Asked}
    (before : Conversed connection first next)
    (after : Conversed next second last) :
    Conversed connection (first ++ second) last := by
  refine ⟨?_, ?_, ?_, fun cause member => before.failures cause (after.failures cause member)⟩
  · rw [List.filter_append]
    apply before.paired.append
    intro calm
    have whole : ∀ asked ∈ first, ¬asked.BreaksDown := by
      intro asked member broken
      exact calm asked (List.mem_filter.2 ⟨member, broken.isSent⟩) broken
    rw [← before.coming whole]
    exact after.paired
  · intro calm
    rw [after.coming fun asked member => calm asked (List.mem_append_right _ member),
      before.coming fun asked member => calm asked (List.mem_append_left _ member),
      List.drop_drop, List.filter_append, List.length_append]
  · rw [after.dispatched, before.dispatched, List.flatMap_append, List.append_assoc]

/-- What a single request makes of a connection. -/
theorem Came.conversed
    {fields : List String} {connection next : Connection}
    {outcome : Except BackendError (List String)}
    (came : Came fields connection outcome next) :
    Conversed connection [⟨fields, outcome⟩] next := by
  have wire_of_sent (sent : Asked.isSent ⟨fields, outcome⟩ = true) :
      [(⟨fields, outcome⟩ : Asked)].flatMap Asked.wire = (Record.ofTexts fields).wire := by
    rw [List.flatMap_singleton, Asked.wire, if_pos sent]
  cases came with
  | unfit error _ kind dispatched failures coming =>
      have unsent := Asked.not_isSent kind fields
      refine ⟨?_, fun _ => ?_, ?_, failures⟩
      · rw [List.filter_cons_of_neg unsent]
        exact paired_nil _
      · rw [List.filter_cons_of_neg unsent]
        exact coming
      · rw [List.flatMap_singleton, Asked.wire, if_neg unsent, dispatched, List.append_nil]
  | brokenDown error _ kind dispatched failures =>
      have broken : Asked.BreaksDown ⟨fields, .error (.framing error)⟩ := ⟨error, kind, rfl⟩
      refine ⟨?_, fun calm => ?_, ?_, failures⟩
      · rw [List.filter_cons_of_pos broken.isSent]
        exact paired_singleton (.inl broken)
      · exact absurd broken (calm _ (List.mem_singleton_self _))
      · rw [wire_of_sent broken.isSent, dispatched]
  | decided _ _ dispatched failures reply coming =>
      refine ⟨?_, fun _ => ?_, ?_, failures⟩
      · rw [List.filter_cons_of_pos reply.isSent]
        exact paired_singleton (.inr reply)
      · rw [List.filter_cons_of_pos reply.isSent, coming]
        exact List.drop_one.symm
      · rw [wire_of_sent reply.isSent, dispatched]

/-- What the run of a plan makes of a connection. -/
theorem Plan.conversed_run (plan : Plan Result) (connection : Connection) :
    Conversed connection (plan.asked connection) (plan.run connection).2 := by
  induction plan generalizing connection with
  | ended result => exact Conversed.refl connection
  | ask fields onward hypothesis =>
      exact (came_request fields connection).conversed.trans (hypothesis _ _)

/-! ## Clear connections -/

/-- Whether nothing waits to be sent on a connection, and its peer takes every write. -/
structure Clear (connection : Connection) : Prop where
  quiet : connection.encoder.sealedBytes = []
  willing : connection.sink.Willing

/-- A request on a clear connection is sent if it fits, and fails only where reads do. -/
theorem Clear.request
    {connection : Connection}
    (clear : Clear connection)
    (fields : List String) :
    Clear (request fields connection).2 ∧
      (Asked.isSent ⟨fields, (request fields connection).1⟩ = true ↔ Fits fields) ∧
      (connection.source.Steady → ¬Asked.BreaksDown ⟨fields, (request fields connection).1⟩) := by
  by_cases fits : Fits fields
  · obtain ⟨encoder, sink, posted, quiet, willing, _⟩ :=
      post_of_fits clear.quiet clear.willing fits
    have awaited := Connection.await_outcomes isNotice { connection with encoder, sink }
    rw [Cynagora.request, posted]
    dsimp only
    generalize Connection.await isNotice { connection with encoder, sink } = came at awaited
    obtain ⟨result, last⟩ := came
    have still
        (onward : Connection.ReadsOn { connection with encoder, sink } last) :
        Clear last := by
      refine ⟨?_, ?_⟩
      · rw [onward.encoder]
        exact quiet
      · rw [onward.sink]
        exact willing
    cases awaited with
    | arrived record _ onward first =>
        have decided : Asked.DecidedBy ⟨fields, .ok record.lossyTexts⟩ (some record) := rfl
        exact ⟨still onward, iff_of_true rfl fits, fun _ broken => broken.not_decidedBy decided⟩
    | exhausted error _ onward kind nothing _ =>
        rcases kind with rfl | rfl
        · have decided : Asked.DecidedBy ⟨fields, .error .closed⟩ none := .inl rfl
          exact ⟨still onward, iff_of_true rfl fits, fun _ broken => broken.not_decidedBy decided⟩
        · have decided : Asked.DecidedBy ⟨fields, .error (.framing .messageTooBig)⟩ none := .inr rfl
          exact ⟨still onward, iff_of_true rfl fits, fun _ broken => broken.not_decidedBy decided⟩
    | brokenDown cause error _ onward kind final member same =>
        have broken : Asked.BreaksDown ⟨fields, .error (.framing error)⟩ := ⟨error, kind, rfl⟩
        refine ⟨still onward, iff_of_true broken.isSent fits, fun steady => ?_⟩
        exact absurd (steady cause member) final
  · rcases connection.encoder.writeRecord_cases (Record.ofTexts fields) with
      ⟨allowed, room, _⟩ | ⟨_, error, encoder, refused, same⟩
    · rw [Record.ofTexts, List.length_map] at allowed
      exact absurd ⟨allowed, by omega⟩ fits
    · have unsent := Asked.not_isSent (Encoder.error_writeRecord refused) fields
      rw [Cynagora.request, Connection.post, refused]
      exact ⟨⟨same.trans clear.quiet, clear.willing⟩, iff_of_false unsent fits,
        fun _ broken => unsent broken.isSent⟩

/-- What a plan asks on a clear connection. -/
theorem Plan.clear_run
    {connection : Connection}
    (clear : Clear connection)
    (plan : Plan Result) :
    Clear (plan.run connection).2 ∧
      ∀ asked ∈ plan.asked connection, (asked.isSent = true ↔ Fits asked.fields) ∧
        (connection.source.Steady → ¬asked.BreaksDown) := by
  induction plan generalizing connection with
  | ended result => exact ⟨clear, by simp [asked]⟩
  | ask fields onward hypothesis =>
      obtain ⟨onwardClear, sent, calm⟩ := clear.request fields
      obtain ⟨last, rest⟩ := hypothesis (request fields connection).1 onwardClear
      refine ⟨last, ?_⟩
      rw [asked]
      refine List.forall_mem_cons.2 ⟨⟨sent, calm⟩, fun asked member => ?_⟩
      refine ⟨(rest asked member).1, fun steady => (rest asked member).2 ?_⟩
      intro cause present
      exact steady cause ((came_request fields connection).conversed.failures cause present)

end Confinement.Policy.Cynagora
