import Confinement.Proofs.Policy.Service

/-!
# Courses of work at a permission service

A connection `Stands` at a service when nothing but notices lies ahead of it and, behind them, all
that the service says to the bytes that are still to be sent.  A `Course` of work is what it sends,
what that makes of the service and the result, the same wherever the connection stands.  Work
`Leads` a service to an outcome if its course has that outcome, and work that is put together leads
where its parts lead (`Leads.bind`).
-/

namespace Confinement.Policy.Cynagora

open Host Wire

variable {Result Next : Type} {moods : Nat → Mood} {service : Service}

/-! ## What a service hears -/

namespace Service

theorem hears_wire_append
    {record : Record}
    (sendable : record.Sendable)
    (moods : Nat → Mood) (service : Service) (rest : Bytes) :
    service.hears moods (record.wire ++ rest) =
      ((service.hear moods record).1 ++ ((service.hear moods record).2.hears moods rest).1,
        ((service.hear moods record).2.hears moods rest).2) := by
  rw [hears, sendable.readStream_wire_append]
  rfl

theorem hears_nil (moods : Nat → Mood) (service : Service) :
    service.hears moods [] = ([], service) := by
  rw [hears, readStream_nil]
  rfl

theorem hears_wires
    {records : List Record}
    (sendable : ∀ record ∈ records, record.Sendable)
    (moods : Nat → Mood) (service : Service) :
    service.hears moods (records.flatMap Record.wire) = service.hearAll moods records := by
  induction records generalizing service with
  | nil => exact hears_nil moods service
  | cons record rest hypothesis =>
      have later : ∀ other ∈ rest, other.Sendable :=
        fun other member => sendable other (List.mem_cons_of_mem record member)
      rw [List.flatMap_cons, hears_wire_append (sendable record List.mem_cons_self),
        hypothesis later]
      rfl

end Service

/-! ## Work that only sends -/

/-- Whether work takes back nothing of what was sent before. -/
def Grows (work : Call Connection Result) : Prop :=
  ∀ connection, connection.sink.accepted <+: (work connection).2.sink.accepted

theorem grows_of_still
    {work : Call Connection Result}
    (still : ∀ connection, (work connection).2 = connection) :
    Grows work :=
  fun connection => ⟨[], by rw [still, List.append_nil]⟩

theorem grows_pure (result : Result) : Grows (pure result : Call Connection Result) :=
  grows_of_still fun _ => rfl

theorem grows_fail (error : BackendError) : Grows (Action.fail error : Call Connection Result) :=
  grows_of_still fun _ => rfl

/-- Work that goes on after other work, however that ended. -/
def sequel (work : Call Connection Result)
    (further : Except BackendError Result → Call Connection Next) : Call Connection Next :=
  fun connection => further (work connection).1 (work connection).2

theorem bind_eq_sequel
    (work : Call Connection Result) (further : Result → Call Connection Next) :
    (work >>= further) = sequel work fun
      | .ok result => further result
      | .error error => Action.fail error := by
  funext connection
  rw [Action.bind_apply, sequel]
  generalize work connection = ended
  obtain ⟨error | result, next⟩ := ended
  · rfl
  · rfl

theorem Grows.sequel
    {work : Call Connection Result} {further : Except BackendError Result → Call Connection Next}
    (first : Grows work)
    (second : ∀ result, Grows (further result)) :
    Grows (sequel work further) :=
  fun connection => (first connection).trans (second _ _)

theorem Grows.bind
    {work : Call Connection Result} {further : Result → Call Connection Next}
    (first : Grows work)
    (second : ∀ result, Grows (further result)) :
    Grows (work >>= further) := by
  rw [bind_eq_sequel]
  refine first.sequel fun result => ?_
  cases result with
  | ok result => exact second result
  | error error => exact grows_fail error

theorem grows_forEach
    {Item : Type} {work : Item → Call Connection Unit}
    (each : ∀ item, Grows (work item))
    (items : List Item) :
    Grows (Action.forEach work items) := by
  induction items with
  | nil => exact grows_pure ()
  | cons item rest hypothesis => exact (each item).bind fun _ => hypothesis

/-! ## Courses -/

/-- Where a connection stands at a service that is still to be sent some bytes. -/
structure Stands (moods : Nat → Mood) (service : Service) (later : Bytes)
    (connection : Connection) : Prop where
  quiet : connection.encoder.sealedBytes = []
  willing : connection.sink.Willing
  steady : connection.source.Steady
  ahead : ∃ notices : List Record, (∀ notice ∈ notices, Notice notice) ∧
    connection.ahead = notices.flatMap Record.wire ++ (service.hears moods later).1

/--
The course that work takes at a service: what it sends, the service after that, and the result, if
there is one.  Work takes it from wherever it stands, if what it sends is the beginning of what is
still to be sent; and also if that begins with what the course sends.
-/
structure Course (moods : Nat → Mood) (work : Call Connection Result) (service : Service)
    (sent : Bytes) (next : Service) (value : Option Result) : Prop where
  turn : service.turn ≤ next.turn
  heard : ∀ rest, (service.hears moods (sent ++ rest)).2 = (next.hears moods rest).2
  taken : ∀ connection later, Stands moods service later connection →
    (work connection).2.sink.accepted <+: connection.sink.accepted ++ later ∨ sent <+: later →
    ∃ rest, later = sent ++ rest ∧
      (work connection).2.sink.accepted = connection.sink.accepted ++ sent ∧
      Stands moods next rest (work connection).2 ∧ (work connection).1.toOption = value

section

variable {work : Call Connection Result} {sent : Bytes} {next : Service} {value : Option Result}
  {connection : Connection}

/-- A connection on which exactly what was to be sent has been sent has taken the whole course. -/
theorem Course.concludes
    (course : Course moods work service sent next value)
    (nothing : connection.sink.accepted = [])
    (stands : Stands moods service (work connection).2.sink.accepted connection) :
    (work connection).1.toOption = value ∧
      (service.hears moods (work connection).2.sink.accepted).2 = next ∧
      Stands moods next [] (work connection).2 := by
  have whole : (work connection).2.sink.accepted <+:
      connection.sink.accepted ++ (work connection).2.sink.accepted := by
    rw [nothing]
    exact List.prefix_refl _
  obtain ⟨rest, split, accepted, stood, known⟩ := course.taken connection _ stands (.inl whole)
  rw [nothing, List.nil_append] at accepted
  have none : rest = [] := by
    rw [accepted] at split
    exact List.self_eq_append_right.1 split
  have heard := course.heard []
  rw [List.append_nil, Service.hears_nil] at heard
  rw [none] at stood
  exact ⟨known, by rw [accepted, heard], stood⟩

/-- A connection that stands where the course begins takes all of it. -/
theorem Course.carried
    (course : Course moods work service sent next value)
    (nothing : connection.sink.accepted = [])
    (stands : Stands moods service sent connection) :
    (work connection).2.sink.accepted = sent := by
  obtain ⟨_, _, accepted, _⟩ := course.taken connection sent stands (.inr (List.prefix_refl _))
  rw [accepted, nothing, List.nil_append]

end

theorem course_of_still
    {work : Call Connection Result} {result : Except BackendError Result}
    (still : ∀ connection, work connection = (result, connection))
    (moods : Nat → Mood) (service : Service) :
    Course moods work service [] service result.toOption := by
  refine ⟨Nat.le_refl _, fun _ => rfl, ?_⟩
  intro connection later stands _
  rw [still]
  exact ⟨later, rfl, (List.append_nil _).symm, stands, rfl⟩

/-- Work goes on from where the work before it came to. -/
theorem Course.sequel
    {work : Call Connection Result} {further : Except BackendError Result → Call Connection Next}
    {sent more : Bytes} {next last : Service} {value : Option Result} {final : Option Next}
    (course : Course moods work service sent next value)
    (grows : ∀ result, Grows (further result))
    (onward : ∀ result, result.toOption = value →
      Course moods (further result) next more last final)
    (turn : next.turn ≤ last.turn)
    (heard : ∀ rest, (next.hears moods (more ++ rest)).2 = (last.hears moods rest).2) :
    Course moods (sequel work further) service (sent ++ more) last final := by
  refine ⟨Nat.le_trans course.turn turn, ?_, ?_⟩
  · intro rest
    rw [List.append_assoc, course.heard, heard]
  · intro connection later stands begins
    obtain ⟨rest, rfl, accepted, stood, known⟩ := course.taken connection later stands
      (begins.imp (grows _ _).trans (List.prefix_append sent more).trans)
    rw [List.prefix_append_right_inj, ← List.append_assoc, ← accepted] at begins
    obtain ⟨left, rfl, grown, stands, value⟩ := (onward _ known).taken _ rest stood begins
    refine ⟨left, (List.append_assoc _ _ _).symm, ?_, stands, value⟩
    rw [Cynagora.sequel, grown, accepted, List.append_assoc]

/-! ## What work leads to -/

/-- Whether the course that work takes has this outcome. -/
def Leads (moods : Nat → Mood) (work : Call Connection Result) (service : Service)
    (outcome : Option Result → Service → Prop) : Prop :=
  ∃ sent next value, Course moods work service sent next value ∧ outcome value next

section

variable {outcome : Option Result → Service → Prop}

theorem Leads.weaken
    {work : Call Connection Result} {weaker : Option Result → Service → Prop}
    (leads : Leads moods work service outcome)
    (weaken : ∀ value next, service.turn ≤ next.turn → outcome value next → weaker value next) :
    Leads moods work service weaker := by
  obtain ⟨sent, next, value, course, came⟩ := leads
  exact ⟨sent, next, value, course, weaken value next course.turn came⟩

theorem leads_pure
    {result : Result}
    (came : outcome (some result) service) :
    Leads moods (pure result) service outcome :=
  ⟨[], service, some result, course_of_still (fun _ => rfl) moods service, came⟩

theorem leads_fail
    {error : BackendError}
    (came : outcome none service) :
    Leads moods (Action.fail error) service outcome :=
  ⟨[], service, none, course_of_still (fun _ => rfl) moods service, came⟩

theorem Leads.bind
    {work : Call Connection Result} {further : Result → Call Connection Next}
    {final : Option Next → Service → Prop}
    (leads : Leads moods work service outcome)
    (grows : ∀ result, Grows (further result))
    (onward : ∀ result next, service.turn ≤ next.turn → outcome (some result) next →
      Leads moods (further result) next final)
    (failed : ∀ next, outcome none next → final none next) :
    Leads moods (work >>= further) service final := by
  have growing : ∀ result : Except BackendError Result, Grows (match result with
      | .ok result => further result
      | .error error => Action.fail error) := by
    rintro (error | result)
    · exact grows_fail error
    · exact grows result
  obtain ⟨sent, next, value, course, came⟩ := leads
  rw [bind_eq_sequel]
  cases value with
  | none =>
      refine ⟨sent ++ [], next, none, course.sequel growing ?_ ?_ ?_, failed next came⟩
      · rintro (error | result) known
        · exact course_of_still (fun _ => rfl) moods next
        · cases known
      · exact Nat.le_refl _
      · exact fun _ => rfl
  | some result =>
      obtain ⟨more, last, value, second, final⟩ := onward result next course.turn came
      refine ⟨sent ++ more, last, value, course.sequel growing ?_ second.turn second.heard, final⟩
      rintro (error | other) known
      · cases known
      · cases known
        exact second

end

end Confinement.Policy.Cynagora
