import Confinement.Proofs.Policy.Commitment

/-!
# When a connection is used again

An agent keeps its connection from one call to the next unless the error of a call breaks it.  So a
connection that is used again has had an answer to every request but aborts, and every transaction
on it was left (`reused_when_sound`).  A commit that is refused does not break the connection
(`reused_after_refused_commit`).
-/

namespace Confinement.Policy

open Host Wire Cynagora

variable {Result : Type} {requests : List (List String)} {made rest : List Asked}

/-! ## Transactions that are left -/

/-- Whether every transaction that was entered was left, with none entered in between. -/
def Left (leaves : Asked → Prop) (made : List Asked) : Prop :=
  ∀ before enter after, made = before ++ enter :: after → enter.fields = ["enter"] →
    enter.isDone = true →
    ∃ inside leave others, after = inside ++ leave :: others ∧ leaves leave ∧
      ∀ other ∈ inside, other.fields ≠ ["enter"]

/-- Whether a transaction is left by a commit that is answered, or by an abort. -/
def Cynagora.Asked.Leaves (leave : Asked) : Prop :=
  leave.fields = commit ∧ leave.isAnswered = true ∨ leave.fields = abort

variable {leaves : Asked → Prop}

theorem Left.of_not_entered
    (unentered : ∀ other ∈ made, other.fields = ["enter"] → other.isDone = false) :
    Left leaves made := by
  rintro before enter after rfl first done
  have refused := unentered enter (by simp) first
  rw [done] at refused
  cases refused

theorem Left.of_leave
    {enter leave : Asked}
    (plain : ∀ other ∈ made ++ [leave], other.fields ≠ ["enter"])
    (leaves_it : leaves leave) :
    Left leaves (enter :: (made ++ [leave])) := by
  intro before other after same first _
  cases before with
  | nil =>
      obtain ⟨_, rfl⟩ := List.cons.inj same
      exact ⟨made, leave, [], rfl, leaves_it, fun other member => plain other (by simp [member])⟩
  | cons head before =>
      obtain ⟨_, within⟩ := List.cons.inj same
      rw [within] at plain
      exact absurd first (plain other (by simp))

theorem Left.append
    (first : Left leaves made)
    (second : Left leaves rest) :
    Left leaves (made ++ rest) := by
  induction made with
  | nil => exact second
  | cons head others hypothesis =>
      have tail : Left leaves others := by
        intro before enter after same
        exact first (head :: before) enter after (congrArg (head :: ·) same)
      intro before enter after same enters done
      cases before with
      | nil =>
          obtain ⟨rfl, rfl⟩ := List.cons.inj same
          obtain ⟨inside, leave, behind, rfl, leaves_it, plain⟩ :=
            first [] head others rfl enters done
          exact ⟨inside, leave, behind ++ rest, by simp, leaves_it, plain⟩
      | cons _ before => exact hypothesis tail before enter after (List.cons.inj same).2 enters done

/-- A transaction of requests that enter none is left if its commit is answered. -/
theorem Cynagora.Transacted.left
    (inner : ∀ fields ∈ requests, fields ≠ ["enter"] ∧ fields ≠ commit ∧ fields ≠ abort)
    (transacted : Transacted requests made)
    (answered : ∀ other ∈ made, other.fields ≠ abort → other.isAnswered = true) :
    Left Asked.Leaves made := by
  cases transacted with
  | unentered enter first refused =>
      apply Left.of_not_entered
      intro other member _
      rwa [List.mem_singleton.1 member]
  | committed enter made leave first entered whole done last =>
      refine Left.of_leave ?_ (.inl ⟨last, answered leave (by simp) ?_⟩)
      · refine List.forall_mem_append.2 ⟨fun other member => ?_, fun other member => ?_⟩
        · exact (inner _ (whole ▸ List.mem_map_of_mem member)).1
        · rw [List.mem_singleton.1 member, last]
          decide
      · rw [last]
        decide
  | aborted enter made failed leave first entered part done refused last =>
      have apart : made ++ [failed, leave] = (made ++ [failed]) ++ [leave] := by
        rw [List.append_assoc]
        rfl
      rw [apart]
      refine Left.of_leave ?_ (.inr last)
      refine List.forall_mem_append.2 ⟨fun other member => ?_, fun other member => ?_⟩
      · exact (inner _ (part.subset (List.mem_map_of_mem member))).1
      · rw [List.mem_singleton.1 member, last]
        decide

/-! ## Errors that break a connection -/

/-- Whether every error that a request meets breaks the connection. -/
def Cynagora.Asked.Breaking (asked : Asked) : Prop :=
  ∀ error, asked.outcome = .error error → error.breaksConnection = true

/-- Every request of a plan has a reply or breaks the connection. -/
theorem Cynagora.Plan.breaking (plan : Plan Result) (connection : Connection) :
    ∀ asked ∈ plan.asked connection, asked.Breaking := by
  induction plan generalizing connection with
  | ended result => exact nofun
  | ask fields onward hypothesis =>
      refine List.forall_mem_cons.2 ⟨fun error met => ?_, hypothesis _ _⟩
      have came := came_request fields connection
      rw [show (request fields connection).1 = _ from met] at came
      exact came.breaksConnection

theorem Cynagora.Asked.isAnswered_of_done
    {asked : Asked}
    (done : asked.isDone = true) :
    asked.isAnswered = true := by
  rw [isAnswered]
  rw [isDone] at done
  cases outcome : asked.outcome with
  | error error =>
      rw [outcome] at done
      cases done
  | ok reply => rfl

/-- A request whose error breaks no connection has a reply. -/
theorem Cynagora.Asked.isAnswered_of_settled
    {asked : Asked}
    (breaking : asked.Breaking)
    (mild : ∀ error, asked.settled = .error error → error.breaksConnection = false) :
    asked.isAnswered = true := by
  rw [isAnswered]
  cases outcome : asked.outcome with
  | ok reply => rfl
  | error error =>
      have settled : asked.settled = .error error := by
        rw [settled, failure?, outcome]
      have impossible := mild error settled
      rw [breaking error outcome] at impossible
      cases impossible

/-- In a transaction whose error breaks no connection, every request but an abort has a reply. -/
theorem Cynagora.Transacted.answered
    (transacted : Transacted requests made)
    (breaking : ∀ other ∈ made, other.Breaking)
    (mild : ∀ error, firstFailure made = .error error → error.breaksConnection = false) :
    ∀ other ∈ made, other.fields ≠ abort → other.isAnswered = true := by
  cases transacted with
  | unentered enter first refused =>
      rintro other member _
      obtain rfl := List.mem_singleton.1 member
      rw [firstFailure_singleton] at mild
      exact Asked.isAnswered_of_settled (breaking other member) mild
  | committed enter made leave first entered whole done last =>
      have passed : ∀ other ∈ enter :: made, other.isDone = true :=
        List.forall_mem_cons.2 ⟨entered, done⟩
      rw [← List.cons_append, firstFailure_append_of_done passed, firstFailure_singleton] at mild
      rintro other member _
      rcases List.mem_append.1 (List.cons_append ▸ member) with before | leaving
      · exact Asked.isAnswered_of_done (passed other before)
      · obtain rfl := List.mem_singleton.1 leaving
        exact Asked.isAnswered_of_settled (breaking other member) mild
  | aborted enter made failed leave first entered part done refused last =>
      have passed : ∀ other ∈ enter :: made, other.isDone = true :=
        List.forall_mem_cons.2 ⟨entered, done⟩
      rw [← List.cons_append, firstFailure_append_of_done passed,
        firstFailure_cons_of_not_done refused] at mild
      rintro other member plain
      rcases List.mem_append.1 (List.cons_append ▸ member) with before | after
      · exact Asked.isAnswered_of_done (passed other before)
      · rcases List.mem_cons.1 after with rfl | leaving
        · exact Asked.isAnswered_of_settled (breaking other member) mild
        · rw [List.mem_singleton.1 leaving] at plain
          exact absurd last plain

/-- Work with an error that breaks no connection keeps its connection. -/
theorem Cynagora.mild_of_heldOver
    {ended : Except BackendError Result × Connection} {connection : Connection}
    (final : heldOver ended = some connection) :
    ∀ error, ended.1 = .error error → error.breaksConnection = false := by
  obtain ⟨_ | result, last⟩ := ended
  · rintro error ⟨⟩
    rw [heldOver] at final
    split at final
    · cases final
    · rename_i mild
      exact Bool.eq_false_iff.2 mild
  · rintro error ⟨⟩

theorem Cynagora.broken_of_not_heldOver
    {ended : Except BackendError Result × Connection}
    (final : heldOver ended = none) :
    ∃ error, ended.1 = .error error ∧ error.breaksConnection = true := by
  obtain ⟨error | result, last⟩ := ended
  · rw [heldOver] at final
    split at final
    · exact ⟨error, rfl, ‹_›⟩
    · cases final
  · cases final

/-- An error that breaks the connection comes of a request without a reply. -/
theorem Cynagora.Asked.isAnswered_of_failure
    {asked : Asked} {error : BackendError}
    (failed : asked.failure? = some error)
    (breaks : error.breaksConnection = true) :
    asked.isAnswered = false := by
  rw [isAnswered]
  rw [failure?] at failed
  cases outcome : asked.outcome with
  | error other => rfl
  | ok reply =>
      rw [outcome] at failed
      dsimp only at failed
      split at failed
      · cases failed
      · cases failed
        cases breaks

/-- A check whose error breaks no connection has a reply. -/
theorem Cynagora.Asked.isAnswered_of_judged
    {asked : Asked}
    (breaking : asked.Breaking)
    (mild : ∀ error, (judged asked.outcome).map some = .error error →
      error.breaksConnection = false) :
    asked.isAnswered = true := by
  rw [isAnswered]
  cases outcome : asked.outcome with
  | ok reply => rfl
  | error error =>
      rw [outcome] at mild
      have impossible := mild error rfl
      rw [breaking error outcome] at impossible
      cases impossible

/-- A check whose error breaks the connection has no reply. -/
theorem Cynagora.Asked.not_isAnswered_of_judged
    {asked : Asked} {error : BackendError}
    (failed : (judged asked.outcome).map some = .error error)
    (breaks : error.breaksConnection = true) :
    asked.isAnswered = false := by
  rw [isAnswered]
  cases outcome : asked.outcome with
  | error other => rfl
  | ok reply =>
      rw [outcome, judged] at failed
      split at failed
      · cases failed
      · cases failed
      · cases failed
        cases breaks

/-- What a call makes of a connection that is open: it is kept or given up. -/
structure StoreCall.Treats (serial : UInt64) (call : StoreCall) (line : Connection) : Prop where
  answered : ∀ connection, heldOver ((call.plan serial).run line) = some connection →
    ∀ other ∈ (call.plan serial).asked line, other.fields ≠ abort → other.isAnswered = true
  left : ∀ connection, heldOver ((call.plan serial).run line) = some connection →
    Left Asked.Leaves ((call.plan serial).asked line)
  broken : heldOver ((call.plan serial).run line) = none →
    ∃ other ∈ (call.plan serial).asked line, other.isAnswered = false

theorem StoreCall.Asks.treats
    {call : StoreCall}
    (asks : call.Asks requests)
    (serial : UInt64) (line : Connection) :
    call.Treats serial line := by
  obtain ⟨transacted, result⟩ := asks.transacted serial line
  have answered (connection : Connection)
      (final : heldOver ((call.plan serial).run line) = some connection) :
      ∀ other ∈ (call.plan serial).asked line, other.fields ≠ abort → other.isAnswered = true := by
    apply transacted.answered ((call.plan serial).breaking line)
    intro error failed
    apply mild_of_heldOver final
    rw [result, failed]
    rfl
  refine ⟨answered, fun connection final => ?_, fun final => ?_⟩
  · exact transacted.left asks.inner (answered connection final)
  · obtain ⟨error, failed, breaks⟩ := broken_of_not_heldOver final
    rw [result, firstFailure] at failed
    split at failed
    · cases failed
    · rename_i found
      obtain ⟨other, member, failure⟩ := List.exists_of_findSome?_eq_some found
      cases failed
      exact ⟨other, member, Asked.isAnswered_of_failure failure breaks⟩

theorem StoreCall.treats (call : StoreCall) (serial : UInt64) (line : Connection) :
    call.Treats serial line := by
  cases call with
  | add label permissions replace => exact (Asks.add label permissions replace).treats serial line
  | drop label => exact (Asks.drop label).treats serial line
  | check label permission =>
      have breaking := ((check label permission).plan serial).breaking line
      let asked : Asked := ⟨checkRequest serial label permission,
        (request (checkRequest serial label permission) line).1⟩
      have asks : ((check label permission).plan serial).asked line = [asked] := rfl
      have runs : (((check label permission).plan serial).run line).1 =
          (judged asked.outcome).map some := rfl
      rw [asks] at breaking
      refine ⟨fun connection final => ?_, fun connection _ => ?_, fun final => ?_⟩
      · rw [asks]
        rintro other member _
        obtain rfl := List.mem_singleton.1 member
        exact Asked.isAnswered_of_judged (breaking asked member) (runs ▸ mild_of_heldOver final)
      · rw [asks]
        apply Left.of_not_entered
        intro other member first
        rw [List.mem_singleton.1 member] at first
        exact absurd (List.cons.inj first).1 (by decide)
      · obtain ⟨error, failed, breaks⟩ := broken_of_not_heldOver final
        rw [runs] at failed
        exact ⟨asked, List.mem_singleton_self _, Asked.not_isAnswered_of_judged failed breaks⟩

/-! ## Connections over many calls -/

/--
What is known of all that was asked on a connection, by whether it is still open: all but aborts has
a reply and every transaction was left, or something has none.
-/
structure Sound (current : Option Connection) (made : List Asked) : Prop where
  greeted : ∀ connection, current = some connection →
    ∃ greet rest, made = greet :: rest ∧ greet.fields = greeting ∧ greet.isDone = true
  answered : ∀ connection, current = some connection →
    ∀ asked ∈ made, asked.fields ≠ abort → asked.isAnswered = true
  left : ∀ connection, current = some connection → Left Asked.Leaves made
  broken : current = none → ∀ greet rest, made = greet :: rest → greet.isDone = true →
    ∃ asked ∈ made, asked.isAnswered = false

theorem sound_fresh : Sound none [] := ⟨nofun, nofun, nofun, nofun⟩

/-- A call goes on from what is known of a connection. -/
theorem Cynagora.Turned.sound
    {call : StoreCall} {serial : UInt64} {before after : Option Connection} {asked : List Asked}
    {result : Except BackendError (Option Bool)}
    (turned : Turned (call.plan serial) before asked result after)
    (sound : Sound before made) :
    Sound after ((before.elim [] fun _ => made) ++ asked) := by
  cases turned with
  | rebuffed greet error fields refused settled =>
      refine ⟨nofun, nofun, nofun, ?_⟩
      rintro _ _ _ ⟨⟩ done
      rw [done] at refused
      cases refused
  | opened greet line fields done =>
      have treats := call.treats serial line
      refine ⟨fun _ _ => ⟨greet, _, rfl, fields, done⟩, fun connection final => ?_,
        fun connection final => ?_, fun final _ _ _ _ => ?_⟩
      · exact List.forall_mem_cons.2
          ⟨fun _ => Asked.isAnswered_of_done done, treats.answered connection final⟩
      · have greeting_left : Left Asked.Leaves [greet] := by
          apply Left.of_not_entered
          intro other member first
          rw [List.mem_singleton.1 member, fields] at first
          exact absurd first (by decide)
        exact greeting_left.append (treats.left connection final)
      · obtain ⟨other, member, silent⟩ := treats.broken final
        exact ⟨other, List.mem_cons_of_mem _ member, silent⟩
  | resumed line =>
      have treats := call.treats serial line
      refine ⟨fun _ _ => ?_, fun connection final => ?_, fun connection final => ?_,
        fun final _ _ _ _ => ?_⟩
      · obtain ⟨greet, rest, made_eq, greeted⟩ := sound.greeted line rfl
        exact ⟨greet, rest ++ _, congrArg (· ++ _) made_eq, greeted⟩
      · exact List.forall_mem_append.2
          ⟨sound.answered line rfl, treats.answered connection final⟩
      · exact (sound.left line rfl).append (treats.left connection final)
      · obtain ⟨other, member, silent⟩ := treats.broken final
        exact ⟨other, List.mem_append_right _ member, silent⟩

theorem History.Whole.sound_afterAll
    {history : History}
    (whole : history.Whole)
    (sound : Sound history.agent.current history.made)
    (calls : List StoreCall) :
    Sound (history.afterAll calls).agent.current (history.afterAll calls).made := by
  refine (@History.afterAll_of_after
    (fun history => history.Whole ∧ Sound history.agent.current history.made) ?_ history
    ⟨whole, sound⟩ calls).2
  rintro history call ⟨whole, sound⟩
  have turned := (StoreCall.concluded_on_remote whole.reaches call).turned
  exact ⟨whole.after call, turned.sound sound⟩

/-- A call is made on the connection that is open, or on one more. -/
theorem Cynagora.Concluded.length_sent
    {agent : Agent} {plan : Plan Result} {called : Except BackendError Result × Agent}
    (concluded : Concluded agent plan called) :
    called.2.sent.length = agent.sent.length + if agent.current.isSome then 0 else 1 := by
  rw [concluded.sent, Agent.sent, List.length_append, List.length_append]
  cases agent.current with
  | none => rfl
  | some connection => rfl

/--
A call is made on the connection that served the calls before it only if that was greeted, every
request on it but aborts was answered, and every transaction on it was left, by a commit that was
answered or by an abort.  Otherwise a new connection is opened and greeted first.  A connection that
was greeted and on which every request was answered is used again.
-/
theorem reused_when_sound
    (endpoint : String) (peers : List Peer) (calls : List StoreCall) (call : StoreCall) :
    let history := (History.fresh endpoint peers).afterAll calls
    let later := history.after call
    let reused := later.agent.sent.length = history.agent.sent.length
    (reused → later.made = history.made ++ call.asked history.agent ∧
      (∃ greet rest, history.made = greet :: rest ∧ greet.fields = greeting ∧
        greet.isDone = true) ∧
      (∀ asked ∈ history.made, asked.fields ≠ abort → asked.isAnswered = true) ∧
      Left Asked.Leaves history.made) ∧
    (¬reused → later.agent.sent.length = history.agent.sent.length + 1 ∧
      ∃ greet rest, later.made = greet :: rest ∧ greet.fields = greeting ∧
        call.asked history.agent = greet :: rest) ∧
    ((∃ greet rest, history.made = greet :: rest ∧ greet.isDone = true) →
      (∀ asked ∈ history.made, asked.isAnswered = true) → reused) := by
  intro history later reused
  have fresh := History.whole_fresh endpoint peers
  have whole : history.Whole := fresh.afterAll calls
  have sound : Sound history.agent.current history.made := fresh.sound_afterAll sound_fresh calls
  have concluded := StoreCall.concluded_on_remote whole.reaches call
  have lengths := concluded.length_sent
  have grown : later.agent.sent.length =
      history.agent.sent.length + if history.agent.current.isSome then 0 else 1 := lengths
  cases state : history.agent.current with
  | some connection =>
      rw [state] at grown
      have same : history.earlier ++ call.asked history.agent =
          history.made ++ call.asked history.agent := by
        rw [History.earlier, state]
        rfl
      exact ⟨fun _ => ⟨same, sound.greeted connection state, sound.answered connection state,
        sound.left connection state⟩, fun fresh => absurd grown fresh, fun _ _ => grown⟩
  | none =>
      rw [state] at grown
      have fresh : ¬reused := fun same => absurd (grown.symm.trans same) (Nat.succ_ne_self _)
      refine ⟨fun again => absurd again fresh, fun _ => ⟨grown, ?_⟩, fun greeted answered => ?_⟩
      · obtain ⟨greet, rest, asks, fields⟩ := concluded.turned.greeted state
        have made : history.earlier ++ call.asked history.agent = greet :: rest := by
          rw [History.earlier, state]
          exact asks
        exact ⟨greet, rest, made, fields, asks⟩
      · obtain ⟨greet, rest, made, done⟩ := greeted
        obtain ⟨asked, member, silent⟩ := sound.broken state greet rest made done
        rw [answered asked member] at silent
        cases silent

/-- A call at a service that refuses its commit. -/
def uncommitted : History :=
  let replies := [["done"], ["done"], ["done"], ["nak"], ["yes", "0"]]
  let peer : Peer := ⟨.ofBytes ((replies.map Record.ofTexts).flatMap Record.wire), {}⟩
  (History.fresh "/run/cynagora" [peer]).afterAll [.add "a" (TextSet.ofList ["p"]) false]

/-- A refused commit is the only leaving of its transaction, and the connection is used again. -/
theorem reused_after_refused_commit :
    let later := uncommitted.after (.check "a" "p")
    later.agent.sent.length = uncommitted.agent.sent.length ∧
      ¬((∀ asked ∈ uncommitted.made, asked.isAnswered = true) ∧
        Left (fun leave => leave.fields.head? = some "leave" ∧ leave.isDone = true)
          uncommitted.made) := by
  intro later
  let inside : List Asked := [⟨setRequest "a" "p", .ok ["done"]⟩, ⟨commit, .ok ["nak"]⟩]
  have made : uncommitted.made =
      [⟨greeting, .ok ["done"]⟩] ++ ⟨["enter"], .ok ["done"]⟩ :: inside := by decide +kernel
  refine ⟨by decide +kernel, ?_⟩
  rintro ⟨_, left⟩
  obtain ⟨earlier, leave, others, parts, leaves, _⟩ := left _ _ _ made rfl (by decide)
  have member : leave ∈ inside := by
    rw [parts]
    simp
  have none : ∀ other ∈ inside,
      ¬(other.fields.head? = some "leave" ∧ other.isDone = true) := by decide
  exact none leave member leaves

end Confinement.Policy
