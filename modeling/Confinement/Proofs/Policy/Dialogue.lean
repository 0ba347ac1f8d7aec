import Confinement.Proofs.Policy.Course

/-!
# Conversations with a permission service

What each step of a conversation leads to: a request (`leads_request`), one that must be answered
`done` (`leads_expectDone`), and each of the requests that are made.  Requests that can be refused
are an `Attempt`, and one attempt after another is an attempt again (`Leads.attempt`).  From these,
a check tells what is in force (`leads_verdict`), and a transaction puts its changes in force as a
whole or none of them (`leads_transaction`).
-/

namespace Confinement.Policy.Cynagora

open Host Wire

variable {moods : Nat → Mood} {service : Service}

/-! ## Requests -/

/-- A request that fits arrives. -/
theorem Request.sendable
    {request : Request}
    (fits : Fits request.fields) :
    (Record.ofTexts request.fields).Sendable := by
  cases request with
  | _ => exact Fits.sendable fits (by decide)

namespace Service

theorem hear_fields (moods : Nat → Mood) (service : Service) (request : Request) :
    service.hear moods (Record.ofTexts request.fields) =
      ((moods service.turn).around (service.meet moods request).1,
        (service.meet moods request).2) := by
  rw [hear, Record.lossyTexts_ofTexts, Request.ofFields?_fields]

/-- Every reply arrives and is no notice. -/
theorem meet_answers (moods : Nat → Mood) (service : Service) (request : Request) :
    ∃ word, Answers word (service.meet moods request).1 := by
  have done : Answers "done" ((moods service.turn).reply "done") :=
    (moods service.turn).reply_answers _ (by decide)
  have granted (first second : Service) :
      ∃ word, Answers word (grant (moods service.turn) first second).1 := by
    rw [grant]
    cases refusal : (moods service.turn).refusal with
    | none => exact ⟨_, done⟩
    | some record =>
        obtain ⟨word, _, answers⟩ := (moods service.turn).refusal_answers record refusal
        exact ⟨word, answers⟩
  cases request with
  | greet => exact ⟨_, done⟩
  | abort => exact ⟨_, done⟩
  | enter => exact granted _ _
  | drop label => exact granted _ _
  | set label permission => exact granted _ _
  | commit => exact granted _ _
  | check serial label permission =>
      refine ⟨_, (moods service.turn).reply_answers
        (if permission ∈ service.committed.of label then "yes" else "no") ?_⟩
      split <;> decide

end Service

/-- A connection with nothing to send sends a record that fits. -/
theorem post_of_fits
    {connection : Connection} {fields : List String}
    (quiet : connection.encoder.sealedBytes = [])
    (willing : connection.sink.Willing)
    (fits : Fits fields) :
    ∃ encoder sink,
      connection.post (Record.ofTexts fields) = (.ok (), { connection with encoder, sink }) ∧
      encoder.sealedBytes = [] ∧ sink.Willing ∧
      sink.accepted = connection.sink.accepted ++ (Record.ofTexts fields).wire := by
  have allowed : (Record.ofTexts fields).length ≤ fieldLimit := by
    rw [Record.ofTexts, List.length_map]
    exact fits.1
  have room : connection.encoder.sealedBytes.length + (Record.ofTexts fields).wire.length ≤
      bufferLimit := by
    rw [quiet, List.length_nil, Nat.zero_add]
    exact fits.2
  obtain ⟨encoder, written, bytes⟩ := Encoder.writeRecord_of_fits allowed room
  obtain ⟨told, next, after, flushed, still, nothing, accepted⟩ :=
    Encoder.flush_of_willing encoder willing
  refine ⟨next, after, ?_, nothing, still, ?_⟩
  · rw [Connection.post, written]
    dsimp only
    rw [flushed]
    rfl
  · rw [accepted, bytes, quiet, List.nil_append]

/-- A connection with nothing to send refuses a record that does not fit, and is as it was. -/
theorem post_of_unfit
    {connection : Connection} {fields : List String}
    (quiet : connection.encoder.sealedBytes = [])
    (unfit : ¬Fits fields) :
    ∃ error encoder,
      connection.post (Record.ofTexts fields) = (.error error, { connection with encoder }) ∧
      encoder.sealedBytes = [] := by
  rcases connection.encoder.writeRecord_cases (Record.ofTexts fields) with
    ⟨allowed, room, _⟩ | ⟨_, error, encoder, refused, same⟩
  · rw [Record.ofTexts, List.length_map] at allowed
    exact absurd ⟨allowed, by omega⟩ unfit
  · refine ⟨error, encoder, ?_, same.trans quiet⟩
    rw [Connection.post, refused]

/-- After a request that was sent, all that is done is to wait. -/
theorem request_of_posted
    {connection next : Connection} {fields : List String}
    (posted : connection.post (Record.ofTexts fields) = (.ok (), next)) :
    (request fields connection).2 = (next.await isNotice).2 := by
  rw [request, posted]
  dsimp only
  generalize next.await isNotice = awaited
  obtain ⟨(_ | error) | record, last⟩ := awaited
  · rfl
  · rfl
  · rfl

theorem accepted_post (connection : Connection) (record : Record) :
    connection.sink.accepted <+: (connection.post record).2.sink.accepted := by
  rw [Connection.post]
  generalize connection.encoder.writeRecord record = written
  obtain ⟨error | done, encoder⟩ := written
  · exact List.prefix_refl _
  · exact List.prefix_append _ _

theorem grows_request (fields : List String) : Grows (request fields) := by
  intro connection
  have grown := accepted_post connection (Record.ofTexts fields)
  cases posted : connection.post (Record.ofTexts fields) with
  | mk result next =>
      rw [posted] at grown
      cases result with
      | error error =>
          rw [request, posted]
          exact grown
      | ok _ =>
          rw [request_of_posted posted, Connection.sink_await]
          exact grown

/-- What comes of a request. -/
inductive Replied (moods : Nat → Mood) (service : Service) (request : Request) :
    Option (List String) → Service → Prop
  | told (fits : Fits request.fields) :
      Replied moods service request (some (service.meet moods request).1.lossyTexts)
        (service.meet moods request).2
  | unsent (unfit : ¬Fits request.fields) : Replied moods service request none service

/-- A connection passes over all notices before a reply, and leaves those behind it. -/
theorem await_of_around
    {connection : Connection} {notices : List Record} {word : String} {reply : Record}
    {rest : Bytes}
    (passed : ∀ notice ∈ notices, Notice notice)
    (mood : Mood)
    (answers : Answers word reply)
    (steady : connection.source.Steady)
    (whole : connection.ahead = notices.flatMap Record.wire ++ (mood.around reply ++ rest)) :
    ∃ last, connection.await isNotice = (.ok reply, last) ∧
      connection.ReadsUpTo (mood.after.flatMap Record.wire ++ rest) last := by
  have passedAll : ∀ notice ∈ notices ++ mood.before, Notice notice := by
    intro notice member
    rcases List.mem_append.1 member with earlier | before
    · exact passed notice earlier
    · exact mood.before_notices notice before
  apply Connection.await_of_notices passedAll answers.1 answers.2.1 steady
  rw [whole, Mood.around, List.flatMap_append, List.flatMap_append, List.flatMap_cons]
  simp only [List.append_assoc]

/-- A request that fits is sent and gets the reply of the service. -/
theorem course_of_fits
    {request : Request}
    (fits : Fits request.fields)
    (moods : Nat → Mood) (service : Service) :
    Course moods (Cynagora.request request.fields) service (Record.ofTexts request.fields).wire
      (service.meet moods request).2 (some (service.meet moods request).1.lossyTexts) := by
  have heard (rest : Bytes) :
      service.hears moods ((Record.ofTexts request.fields).wire ++ rest) =
        ((moods service.turn).around (service.meet moods request).1 ++
          ((service.meet moods request).2.hears moods rest).1,
          ((service.meet moods request).2.hears moods rest).2) := by
    rw [Service.hears_wire_append (Request.sendable fits), Service.hear_fields]
  refine ⟨Nat.le_succ _, fun rest => by rw [heard], ?_⟩
  intro connection later stands begins
  obtain ⟨notices, passed, ahead⟩ := stands.ahead
  obtain ⟨encoder, sink, posted, quiet, willing, accepted⟩ :=
    post_of_fits stands.quiet stands.willing fits
  obtain ⟨word, answers⟩ := service.meet_answers moods request
  rw [request_of_posted posted, Connection.sink_await, accepted, List.prefix_append_right_inj,
    or_self] at begins
  obtain ⟨rest, rfl⟩ := begins
  have steady : Source.Steady ({ connection with encoder, sink } : Connection).source :=
    stands.steady
  rw [heard] at ahead
  obtain ⟨last, awaited, reads⟩ := await_of_around passed (moods service.turn) answers steady ahead
  have told : Cynagora.request request.fields connection =
      (.ok (service.meet moods request).1.lossyTexts, last) := by
    rw [Cynagora.request, posted]
    dsimp only
    rw [awaited]
  rw [told]
  refine ⟨rest, rfl, by rw [reads.sink, accepted], ⟨?_, ?_, reads.steady, ?_⟩, rfl⟩
  · rw [reads.encoder]
    exact quiet
  · rw [reads.sink]
    exact willing
  · exact ⟨_, (moods service.turn).after_notices, reads.ahead⟩

/-- A request that does not fit is not sent. -/
theorem course_of_unfit
    {request : Request}
    (unfit : ¬Fits request.fields)
    (moods : Nat → Mood) (service : Service) :
    Course moods (Cynagora.request request.fields) service [] service none := by
  refine ⟨Nat.le_refl _, fun _ => rfl, ?_⟩
  intro connection later stands _
  obtain ⟨error, encoder, posted, quiet⟩ := post_of_unfit stands.quiet unfit
  rw [Cynagora.request, posted]
  exact ⟨later, rfl, (List.append_nil _).symm,
    ⟨quiet, stands.willing, stands.steady, stands.ahead⟩, rfl⟩

theorem leads_request (moods : Nat → Mood) (service : Service) (request : Request) :
    Leads moods (Cynagora.request request.fields) service (Replied moods service request) := by
  by_cases fits : Fits request.fields
  · exact ⟨_, _, _, course_of_fits fits moods service, .told fits⟩
  · exact ⟨_, _, _, course_of_unfit fits moods service, .unsent fits⟩

/-- What comes of a request that must be answered `done`. -/
inductive Settled (moods : Nat → Mood) (service : Service) (request : Request) :
    Option Unit → Service → Prop
  | done (fits : Fits request.fields)
      (told : (service.meet moods request).1.lossyTexts.head? = some "done") :
      Settled moods service request (some ()) (service.meet moods request).2
  | refused (fits : Fits request.fields)
      (other : (service.meet moods request).1.lossyTexts.head? ≠ some "done") :
      Settled moods service request none (service.meet moods request).2
  | unsent (unfit : ¬Fits request.fields) : Settled moods service request none service

theorem grows_expectDone (fields : List String) : Grows (expectDone fields) := by
  apply (grows_request fields).bind
  intro reply
  split
  · exact grows_pure ()
  · exact grows_fail _

theorem leads_expectDone (moods : Nat → Mood) (service : Service) (request : Request) :
    Leads moods (expectDone request.fields) service (Settled moods service request) := by
  refine (leads_request moods service request).bind ?_ ?_ ?_
  · intro reply
    split
    · exact grows_pure ()
    · exact grows_fail _
  · rintro reply next _ ⟨fits⟩
    split
    · rename_i told
      exact leads_pure (.done fits told)
    · rename_i other
      exact leads_fail (.refused fits other)
  · intro next replied
    cases replied with
    | unsent unfit => exact .unsent unfit

/-! ## Attempts -/

/-- Why requests fail: one does not fit, or the service refuses something within these turns. -/
def Obstructed (moods : Nat → Mood) (first last : Nat) (requests : List Request) : Prop :=
  (∃ request ∈ requests, ¬Fits request.fields) ∨
    ∃ turn, first ≤ turn ∧ turn < last ∧ (moods turn).refusal ≠ none

theorem Obstructed.mono
    {first last earlier later : Nat} {requests more : List Request}
    (obstructed : Obstructed moods first last requests)
    (before : earlier ≤ first)
    (after : last ≤ later)
    (subset : ∀ request ∈ requests, request ∈ more) :
    Obstructed moods earlier later more := by
  rcases obstructed with ⟨request, member, unfit⟩ | ⟨turn, least, most, refused⟩
  · exact .inl ⟨request, subset request member, unfit⟩
  · exact .inr ⟨turn, Nat.le_trans before least, Nat.lt_of_lt_of_le most after, refused⟩

/--
What comes of requests that are made one after another: all of them are answered `done`, or there
is a reason why they are not.
-/
def Attempt (moods : Nat → Mood) (turn : Nat) (requests : List Request)
    (made failed : Service → Prop) : Option Unit → Service → Prop
  | some _, next => made next
  | none, next => failed next ∧ Obstructed moods turn next.turn requests

section

variable {made middle failed : Service → Prop}

theorem Attempt.of_grant
    {request : Request} {granted refused next : Service} {value : Option Unit}
    (settled : Settled moods service request value next)
    (treated : service.treat (moods service.turn) request =
      Service.grant (moods service.turn) granted refused)
    (done : made { granted with turn := service.turn + 1 })
    (denied : failed { refused with turn := service.turn + 1 })
    (unsent : ¬Fits request.fields → failed service) :
    Attempt moods service.turn [request] made failed value next := by
  have met : service.meet moods request =
      ((Service.grant (moods service.turn) granted refused).1,
        { (Service.grant (moods service.turn) granted refused).2 with
          turn := service.turn + 1 }) := by
    rw [Service.meet, treated]
  rw [Service.grant] at met
  cases refusal : (moods service.turn).refusal with
  | none =>
      have answered := (moods service.turn).reply_answers "done" (by decide)
      rw [refusal] at met
      cases settled with
      | done fits told =>
          rw [met]
          exact done
      | refused fits other =>
          rw [met] at other
          exact absurd answered.2.2 other
      | unsent unfit => exact ⟨unsent unfit, .inl ⟨request, List.mem_singleton_self _, unfit⟩⟩
  | some record =>
      obtain ⟨word, other, answered⟩ := (moods service.turn).refusal_answers record refusal
      have refused : (moods service.turn).refusal ≠ none := by
        rw [refusal]
        exact Option.some_ne_none record
      rw [refusal] at met
      cases settled with
      | done fits told =>
          rw [met, answered.2.2] at told
          exact absurd (Option.some.inj told) other
      | refused fits _ =>
          rw [met]
          exact ⟨denied, .inr ⟨service.turn, Nat.le_refl _, Nat.lt_succ_self _, refused⟩⟩
      | unsent unfit => exact ⟨unsent unfit, .inl ⟨request, List.mem_singleton_self _, unfit⟩⟩

/-- A request that can be refused has its effect if it is answered `done`, and none otherwise. -/
theorem leads_granted
    (request : Request) {granted refused : Service}
    (treated : service.treat (moods service.turn) request =
      Service.grant (moods service.turn) granted refused)
    (done : made { granted with turn := service.turn + 1 })
    (denied : failed { refused with turn := service.turn + 1 })
    (unsent : ¬Fits request.fields → failed service) :
    Leads moods (expectDone request.fields) service
      (Attempt moods service.turn [request] made failed) :=
  (leads_expectDone moods service request).weaken fun _ _ _ settled =>
    .of_grant settled treated done denied unsent

/-- One attempt after another. -/
theorem Leads.attempt
    {work further : Call Connection Unit} {requests more : List Request}
    (first : Leads moods work service (Attempt moods service.turn requests middle failed))
    (grows : Grows further)
    (second : ∀ next, middle next →
      Leads moods further next (Attempt moods next.turn more made failed)) :
    Leads moods (work >>= fun _ => further) service
      (Attempt moods service.turn (requests ++ more) made failed) := by
  refine first.bind (fun _ => grows) ?_ ?_
  · intro _ next before came
    refine (second next came).weaken ?_
    intro value last _ ended
    cases value with
    | some _ => exact ended
    | none =>
        obtain ⟨spared, obstructed⟩ := ended
        exact ⟨spared, obstructed.mono before (Nat.le_refl _)
          fun _ => List.mem_append_right requests⟩
  · rintro next ⟨spared, obstructed⟩
    exact ⟨spared, obstructed.mono (Nat.le_refl _) (Nat.le_refl _)
      fun _ => List.mem_append_left more⟩

end

/-! ## Single requests -/

/-- Whether a service has these grants in force, and no transaction. -/
def Idle (committed : Grants) (service : Service) : Prop :=
  service.committed = committed ∧ service.staged = none

/-- Whether a service has these grants in force, and others staged. -/
def During (committed staged : Grants) (service : Service) : Prop :=
  service.committed = committed ∧ service.staged = some staged

/-- Whether a service has these grants in force, and a transaction. -/
def Entered (committed : Grants) (service : Service) : Prop :=
  ∃ staged, During committed staged service

section

variable {committed staged : Grants}

/-- Entering a transaction. -/
theorem leads_enter
    (idle : Idle committed service) :
    Leads moods (expectDone ["enter"]) service
      (Attempt moods service.turn [.enter] (During committed committed) (Idle committed)) :=
  leads_granted .enter rfl ⟨idle.1, congrArg some idle.1⟩ idle fun _ => idle

/-- Whether a request changes what is staged. -/
def Request.Changes : Request → Prop
  | .drop _ | .set _ _ => True
  | .greet | .enter | .commit | .abort | .check _ _ _ => False

/-- A change within a transaction. -/
theorem leads_change
    {request : Request}
    (changes : request.Changes)
    (during : During committed staged service) :
    Leads moods (expectDone request.fields) service
      (Attempt moods service.turn [request] (During committed (request.apply staged))
        (Entered committed)) := by
  have treated : service.treat (moods service.turn) request =
      Service.grant (moods service.turn)
        { service with staged := service.staged.map request.apply } service := by
    cases request with
    | drop label => rfl
    | set label permission => rfl
    | greet | enter | commit | abort | check => cases changes
  exact leads_granted request treated ⟨during.1, by rw [during.2]; rfl⟩ ⟨staged, during⟩
    fun _ => ⟨staged, during⟩

/-- Leaving a transaction with a commit. -/
theorem leads_commit
    (during : During committed staged service) :
    Leads moods (expectDone ["leave", "commit"]) service
      (Attempt moods service.turn [.commit] (Idle staged) (Idle committed)) :=
  leads_granted .commit rfl ⟨by rw [during.2]; rfl, rfl⟩ ⟨during.1, rfl⟩
    fun unfit => absurd (by decide) unfit

/-- Leaving a transaction without one. -/
theorem leads_abort
    (during : During committed staged service) :
    Leads moods (expectDone ["leave", "abort"]) service fun _ next => Idle committed next := by
  refine (leads_expectDone moods service .abort).weaken ?_
  intro value next _ settled
  cases settled with
  | done fits told => exact ⟨during.1, rfl⟩
  | refused fits other => exact ⟨during.1, rfl⟩
  | unsent unfit => exact absurd (by decide) unfit

/-- The greeting is never refused. -/
theorem leads_greet
    (idle : Idle committed service) :
    Leads moods greet service fun value next => value = some () ∧ Idle committed next := by
  refine (leads_expectDone moods service .greet).weaken ?_
  intro value next _ settled
  cases settled with
  | done fits told => exact ⟨rfl, idle.1, rfl⟩
  | refused fits other =>
      exact absurd ((moods service.turn).reply_answers "done" (by decide)).2.2 other
  | unsent unfit => exact absurd (by decide) unfit

theorem grows_verdict (serial : UInt64) (label permission : String) :
    Grows (verdict serial label permission) := by
  apply (grows_request _).bind
  intro reply
  split
  · exact grows_pure true
  · exact grows_pure false
  · exact grows_fail _

/-- A check tells what is in force. -/
theorem leads_verdict
    (idle : Idle committed service)
    (serial : UInt64) (label permission : String) :
    Leads moods (verdict serial label permission) service fun value next =>
      Idle committed next ∧
      match value with
      | some answer => answer = decide (permission ∈ committed.of label)
      | none =>
        Obstructed moods service.turn next.turn
          [.check (toString serial.toNat) label permission] := by
  let asked : Request := .check (toString serial.toNat) label permission
  have answers : Answers (if permission ∈ committed.of label then "yes" else "no")
      (service.meet moods asked).1 := by
    rw [← idle.1]
    apply (moods service.turn).reply_answers
    split <;> decide
  refine (leads_request moods service asked).bind ?_ ?_ ?_
  · intro reply
    split
    · exact grows_pure true
    · exact grows_pure false
    · exact grows_fail _
  · rintro reply next _ ⟨fits⟩
    rw [answers.2.2]
    by_cases holds : permission ∈ committed.of label
    · rw [if_pos holds]
      exact leads_pure ⟨idle, (decide_eq_true holds).symm⟩
    · rw [if_neg holds]
      exact leads_pure ⟨idle, (decide_eq_false holds).symm⟩
  · intro next replied
    cases replied with
    | unsent unfit => exact ⟨idle, .inl ⟨asked, List.mem_singleton_self _, unfit⟩⟩

/-! ## Transactions -/

/-- A run of changes within a transaction, up to the first that fails. -/
theorem leads_forEach
    {requests : List Request}
    (changes : ∀ request ∈ requests, request.Changes)
    (during : During committed staged service) :
    Leads moods (Action.forEach expectDone (requests.map Request.fields)) service
      (Attempt moods service.turn requests (During committed (requests.foldl Request.apply staged))
        (Entered committed)) := by
  induction requests generalizing service staged with
  | nil => exact leads_pure during
  | cons request rest hypothesis =>
      have later : ∀ other ∈ rest, other.Changes :=
        fun other member => changes other (List.mem_cons_of_mem request member)
      exact (leads_change (changes request List.mem_cons_self) during).attempt
        (grows_forEach grows_expectDone _) fun _ during => hypothesis later during

/-- The steps of a transaction that was entered, and its end. -/
def leaving (steps : Call Connection Unit) : Call Connection Unit := fun connection =>
  match steps connection with
  | (.ok (), next) => expectDone ["leave", "commit"] next
  | (.error error, next) => (.error error, (expectDone ["leave", "abort"] next).2)

theorem transaction_eq (steps : Call Connection Unit) :
    transaction steps = expectDone ["enter"] >>= fun _ => leaving steps := rfl

theorem leaving_eq_sequel (steps : Call Connection Unit) :
    leaving steps = sequel steps fun
      | .ok () => expectDone ["leave", "commit"]
      | .error error => fun connection =>
        (.error error, (expectDone ["leave", "abort"] connection).2) := by
  funext connection
  rw [leaving, sequel]
  generalize steps connection = ended
  obtain ⟨error | done, next⟩ := ended
  · rfl
  · rfl

theorem grows_leave (result : Except BackendError Unit) :
    Grows (match result with
      | .ok () => expectDone ["leave", "commit"]
      | .error error => fun connection =>
        (.error error, (expectDone ["leave", "abort"] connection).2)) := by
  obtain error | done := result
  · exact grows_expectDone ["leave", "abort"]
  · exact grows_expectDone ["leave", "commit"]

theorem grows_leaving
    {steps : Call Connection Unit}
    (grows : Grows steps) :
    Grows (leaving steps) := by
  rw [leaving_eq_sequel]
  exact grows.sequel grows_leave

theorem leads_leaving
    {steps : Call Connection Unit} {target : Grants} {requests : List Request}
    (leads : Leads moods steps service
      (Attempt moods service.turn requests (During committed target) (Entered committed))) :
    Leads moods (leaving steps) service
      (Attempt moods service.turn (requests ++ [.commit]) (Idle target) (Idle committed)) := by
  obtain ⟨sent, next, value, course, came⟩ := leads
  rw [leaving_eq_sequel]
  cases value with
  | none =>
      obtain ⟨⟨staged, during⟩, obstructed⟩ := came
      have aborts : Leads moods (expectDone ["leave", "abort"]) next
          fun _ last => Idle committed last := leads_abort during
      obtain ⟨more, last, _, abort, idle⟩ := aborts
      refine ⟨sent ++ more, last, none, course.sequel grows_leave ?_ abort.turn abort.heard, idle,
        obstructed.mono (Nat.le_refl _) abort.turn fun _ => List.mem_append_left _⟩
      rintro (error | done) known
      · refine ⟨abort.turn, abort.heard, ?_⟩
        intro connection later stands begins
        obtain ⟨rest, split, accepted, stood, _⟩ := abort.taken connection later stands begins
        exact ⟨rest, split, accepted, stood, rfl⟩
      · cases known
  | some done =>
      have commits : Leads moods (expectDone ["leave", "commit"]) next
          (Attempt moods next.turn [.commit] (Idle target) (Idle committed)) := leads_commit came
      obtain ⟨more, last, value, commit, final⟩ := commits
      refine ⟨sent ++ more, last, value, course.sequel grows_leave ?_ commit.turn commit.heard, ?_⟩
      · rintro (error | other) known
        · cases known
        · exact commit
      · cases value with
        | some _ => exact final
        | none =>
            obtain ⟨spared, obstructed⟩ := final
            exact ⟨spared, obstructed.mono course.turn (Nat.le_refl _)
              fun _ => List.mem_append_right requests⟩

theorem grows_transaction
    {steps : Call Connection Unit}
    (grows : Grows steps) :
    Grows (transaction steps) := by
  rw [transaction_eq]
  exact (grows_expectDone _).bind fun _ => grows_leaving grows

/-- A transaction puts its changes in force as a whole, or none of them. -/
theorem leads_transaction
    {changes : List Request}
    (each : ∀ request ∈ changes, request.Changes)
    (idle : Idle committed service) :
    Leads moods (transaction (Action.forEach expectDone (changes.map Request.fields))) service
      (Attempt moods service.turn (.enter :: changes ++ [.commit])
        (Idle (changes.foldl Request.apply committed)) (Idle committed)) := by
  rw [transaction_eq]
  exact (leads_enter idle).attempt (grows_leaving (grows_forEach grows_expectDone _))
    fun _ during => leads_leaving (leads_forEach each during)

end

end Confinement.Policy.Cynagora
