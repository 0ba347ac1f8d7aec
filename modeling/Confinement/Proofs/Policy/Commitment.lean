import Confinement.Proofs.Policy.Turns

/-!
# Only complete changes are committed

A change of permissions is a transaction on the service, whatever its peer says (`Changed`).  A
commit comes last, after nothing but answers `done` (`CommitsLast`), and the change succeeds exactly
when the commit does.  Otherwise its error is that of the first step that failed
(`commits_only_complete_changes`).
-/

namespace Confinement.Policy

open Host Wire Cynagora

/-! ## What a change asks -/

/-- The requests that make up a change, in order. -/
inductive StoreCall.Asks : StoreCall → List (List String) → Prop
  | add (label : String) (permissions : TextSet) (replace : Bool) :
      Asks (.add label permissions replace) (addRequests label permissions replace)
  | drop (label : String) : Asks (.drop label) [dropRequest label]

/-- What is asked for a change, by the connection that is open before. -/
inductive Changed (requests : List (List String)) : Option Connection → List Asked → Prop
  /-- Nothing is asked when the greeting on a new connection is not answered `done`. -/
  | rebuffed (greet : Asked)
      (fields : greet.fields = greeting)
      (refused : greet.isDone = false) :
      Changed requests none [greet]
  | opened (greet : Asked) (made : List Asked)
      (fields : greet.fields = greeting)
      (done : greet.isDone = true)
      (transacted : Transacted requests made) :
      Changed requests none (greet :: made)
  | resumed (line : Connection) (made : List Asked)
      (transacted : Transacted requests made) :
      Changed requests (some line) made

variable {requests : List (List String)} {asked made rest : List Asked}

namespace StoreCall.Asks

variable {call : StoreCall}

theorem map_fields_changes
    (asks : call.Asks requests) :
    call.changes.map Request.fields = requests := by
  cases asks with
  | add label permissions replace => exact map_fields_changes_add label permissions replace
  | drop label => rfl

/-- None of the requests of a change enters a transaction or leaves it. -/
theorem inner
    (asks : call.Asks requests) :
    ∀ fields ∈ requests, fields ≠ ["enter"] ∧ fields ≠ commit ∧ fields ≠ abort := by
  have plain (word : String) (others : List String) (other : word = "drop" ∨ word = "set") :
      word :: others ≠ ["enter"] ∧ word :: others ≠ commit ∧ word :: others ≠ abort := by
    refine ⟨?_, ?_, ?_⟩
    · rintro ⟨⟩
      exact absurd other (by decide)
    · rintro ⟨⟩
      exact absurd other (by decide)
    · rintro ⟨⟩
      exact absurd other (by decide)
  rw [← asks.map_fields_changes]
  intro fields member
  obtain ⟨request, change, rfl⟩ := List.mem_map.1 member
  have changes := call.changes_of_mem_changes request change
  cases request with
  | drop label => exact plain _ _ (.inl rfl)
  | set label permission => exact plain _ _ (.inr rfl)
  | _ => cases changes

/-- What comes of the plan of a change. -/
theorem transacted
    (asks : call.Asks requests)
    (serial : UInt64) (connection : Connection) :
    Transacted requests ((call.plan serial).asked connection) ∧
      ((call.plan serial).run connection).1 =
        (firstFailure ((call.plan serial).asked connection)).map fun _ => none := by
  obtain ⟨transacted, result⟩ := transacted_transaction requests connection
  have plan : call.plan serial = (transactionPlan requests).andThen fun _ => .ended (.ok none) := by
    rw [← asks.map_fields_changes]
    cases asks with
    | add => rfl
    | drop => rfl
  have asked : (call.plan serial).asked connection =
      (transactionPlan requests).asked connection := by
    rw [plan, Plan.andThen, Plan.asked_sequel]
    split
    · exact List.append_nil _
    · exact List.append_nil _
  refine ⟨asked ▸ transacted, ?_⟩
  rw [asked, ← result, plan, Plan.run_andThen, Action.bind_apply]
  generalize (transactionPlan requests).run connection = ended
  obtain ⟨error | done, next⟩ := ended
  · rfl
  · rfl

end StoreCall.Asks

/-! ## Commits -/

/-- Whether nothing is asked after a commit, and nothing before it failed. -/
def CommitsLast (asked : List Asked) : Prop :=
  ∀ before leave after, asked = before ++ leave :: after → leave.fields = commit →
    after = [] ∧ ∀ earlier ∈ before, earlier.isDone = true

theorem CommitsLast.of_no_commit
    (none : ∀ other ∈ asked, other.fields ≠ commit) :
    CommitsLast asked := by
  rintro before leave after rfl fields
  exact absurd fields (none leave (by simp))

theorem CommitsLast.singleton (leave : Asked) : CommitsLast [leave] := by
  intro before other after same _
  cases before with
  | nil => exact ⟨(List.cons.inj same).2.symm, nofun⟩
  | cons first others =>
      have nothing := (List.cons.inj same).2
      exact absurd nothing.symm (by simp)

theorem CommitsLast.append
    (last : CommitsLast rest)
    (done : ∀ other ∈ made, other.isDone = true ∧ other.fields ≠ commit) :
    CommitsLast (made ++ rest) := by
  induction made with
  | nil => exact last
  | cons first others hypothesis =>
      obtain ⟨⟨first_done, plain⟩, remaining⟩ := List.forall_mem_cons.1 done
      intro before leave after same fields
      cases before with
      | nil =>
          obtain rfl := (List.cons.inj same).1
          exact absurd fields plain
      | cons head before =>
          obtain ⟨rfl, onward⟩ := List.cons.inj same
          obtain ⟨ended, earlier⟩ := hypothesis remaining before leave after onward fields
          exact ⟨ended, List.forall_mem_cons.2 ⟨first_done, earlier⟩⟩

theorem firstFailure_eq_ok_iff :
    firstFailure asked = .ok () ↔ ∀ other ∈ asked, other.isDone = true := by
  rw [firstFailure]
  constructor
  · intro result
    split at result
    · rename_i none
      intro other member
      exact (Asked.isDone_iff other).2 (List.findSome?_eq_none_iff.1 none other member)
    · cases result
  · intro done
    rw [findSome?_failure?_of_done done]

section

variable (inner : ∀ fields ∈ requests, fields ≠ ["enter"] ∧ fields ≠ commit ∧ fields ≠ abort)

include inner

theorem Cynagora.Transacted.commitsLast
    (transacted : Transacted requests asked) :
    CommitsLast asked := by
  have enter_plain (enter : Asked) (first : enter.fields = ["enter"]) : enter.fields ≠ commit := by
    rw [first]
    decide
  cases transacted with
  | unentered enter first refused =>
      apply CommitsLast.of_no_commit
      rintro other member
      rw [List.mem_singleton.1 member]
      exact enter_plain enter first
  | committed enter made leave first entered whole done last =>
      have passed : ∀ other ∈ enter :: made, other.isDone = true ∧ other.fields ≠ commit := by
        refine List.forall_mem_cons.2 ⟨⟨entered, enter_plain enter first⟩, fun other member => ?_⟩
        refine ⟨done other member, (inner _ ?_).2.1⟩
        exact whole ▸ List.mem_map_of_mem member
      exact (CommitsLast.singleton leave).append passed
  | aborted enter made failed leave first entered part done refused last =>
      apply CommitsLast.of_no_commit
      have requested (other : Asked) (member : other ∈ made ++ [failed]) :
          other.fields ≠ commit :=
        (inner _ (part.subset (List.mem_map_of_mem member))).2.1
      refine List.forall_mem_cons.2 ⟨enter_plain enter first, fun other member => ?_⟩
      rcases List.mem_append.1 member with before | after
      · exact requested other (List.mem_append_left _ before)
      · rcases List.mem_cons.1 after with rfl | leaves
        · exact requested other (by simp)
        · rw [List.mem_singleton.1 leaves, last]
          decide

theorem Changed.commitsLast
    {before : Option Connection}
    (changed : Changed requests before asked) :
    CommitsLast asked := by
  cases changed with
  | rebuffed greet fields refused => exact CommitsLast.singleton greet
  | opened greet made fields done transacted =>
      have passed : ∀ other ∈ [greet], other.isDone = true ∧ other.fields ≠ commit := by
        rintro other member
        rw [List.mem_singleton.1 member, fields]
        exact ⟨done, by decide⟩
      exact (transacted.commitsLast inner).append passed
  | resumed line made transacted => exact transacted.commitsLast inner

omit inner in
theorem Cynagora.Transacted.commit_of_done
    (transacted : Transacted requests asked)
    (done : ∀ other ∈ asked, other.isDone = true) :
    ∃ leave ∈ asked, leave.fields = commit := by
  cases transacted with
  | unentered enter first refused =>
      rw [done enter (by simp)] at refused
      cases refused
  | committed enter made leave first entered whole all last => exact ⟨leave, by simp, last⟩
  | aborted enter made failed leave first entered part all refused last =>
      rw [done failed (by simp)] at refused
      cases refused

/-- All steps of a change are answered `done` exactly when its commit is. -/
theorem Changed.all_done_iff
    {before : Option Connection}
    (changed : Changed requests before asked) :
    (∀ other ∈ asked, other.isDone = true) ↔
      ∃ leave ∈ asked, leave.fields = commit ∧ leave.isDone = true := by
  constructor
  · intro done
    suffices ∃ leave ∈ asked, leave.fields = commit by
      obtain ⟨leave, member, fields⟩ := this
      exact ⟨leave, member, fields, done leave member⟩
    cases changed with
    | rebuffed greet fields refused =>
        rw [done greet (by simp)] at refused
        cases refused
    | opened greet made fields greeted transacted =>
        obtain ⟨leave, member, fields⟩ :=
          transacted.commit_of_done fun other member => done other (List.mem_cons_of_mem _ member)
        exact ⟨leave, List.mem_cons_of_mem _ member, fields⟩
    | resumed line made transacted => exact transacted.commit_of_done done
  · rintro ⟨leave, member, fields, done⟩
    obtain ⟨before, after, rfl⟩ := List.append_of_mem member
    obtain ⟨rfl, earlier⟩ := changed.commitsLast inner before leave after rfl fields
    exact List.forall_mem_append.2 ⟨earlier, List.forall_mem_cons.2 ⟨done, nofun⟩⟩

end

/-! ## Changes as calls -/

/-- What a change asks, and its result. -/
theorem StoreCall.Asks.changed
    {call : StoreCall} {agent : Agent}
    (asks : call.Asks requests)
    (reaches : agent.Reaches) :
    Changed requests agent.current (call.asked agent) ∧
      (call.on remote agent).1 = (firstFailure (call.asked agent)).map fun _ => none := by
  have turned := (StoreCall.concluded_on_remote reaches call).turned
  rw [StoreCall.asked]
  generalize (agent.whole (call.plan agent.nextCheck)).asked agent.line = asked at turned
  generalize (call.on remote agent).1 = result at turned
  generalize (call.on remote agent).2.current = after at turned
  generalize agent.current = before at turned
  cases turned with
  | rebuffed greet error fields refused settled =>
      refine ⟨.rebuffed greet fields refused, ?_⟩
      rw [firstFailure_singleton, settled]
      rfl
  | opened greet line fields done =>
      obtain ⟨transacted, result⟩ := asks.transacted agent.nextCheck line
      have passed : ∀ other ∈ [greet], other.isDone = true := by
        simpa using done
      refine ⟨.opened greet _ fields done transacted, ?_⟩
      rw [result, ← List.singleton_append, firstFailure_append_of_done passed]
  | resumed line =>
      obtain ⟨transacted, result⟩ := asks.transacted agent.nextCheck line
      exact ⟨.resumed line _ transacted, result⟩

/--
A change asks what `Changed` says, whatever the peer of its connection says or does, and has the
error of the first step that failed.  It succeeds exactly when a commit is answered `done`; nothing
is asked after a commit, and all before it was answered `done`.  What is sent is the wire forms of
these requests one after another, and on a connection that takes every write, all of those that fit.
-/
theorem commits_only_complete_changes
    {call : StoreCall} {agent : Agent}
    (asks : call.Asks requests)
    (reaches : agent.Reaches) :
    let asked := call.asked agent
    let result := (call.on remote agent).1
    Changed requests agent.current asked ∧
      result = (firstFailure asked).map (fun _ => none) ∧
      (result = .ok none ↔ ∃ leave ∈ asked, leave.fields = commit ∧ leave.isDone = true) ∧
      CommitsLast asked ∧
      ∃ bytes, (call.on remote agent).2.sent = agent.past ++ [bytes] ∧
        bytes <+: agent.line.dispatched ++ asked.flatMap Asked.wire ∧
        (Clear agent.line →
          bytes = agent.line.dispatched ++ asked.flatMap Asked.wire ∧
            ∀ request ∈ asked, request.isSent = true ↔ Fits request.fields) := by
  intro asked result
  obtain ⟨changed, outcome⟩ := asks.changed reaches
  have conversed := call.conversed_asked agent
  refine ⟨changed, outcome, ?_, changed.commitsLast asks.inner, _,
    (StoreCall.concluded_on_remote reaches call).sent, ?_, fun clear => ?_⟩
  · rw [← changed.all_done_iff asks.inner, ← firstFailure_eq_ok_iff, show result = _ from outcome]
    cases firstFailure asked with
    | error error => exact iff_of_false nofun nofun
    | ok done => exact iff_of_true rfl rfl
  · rw [← conversed.dispatched]
    exact List.prefix_append _ _
  · obtain ⟨onward, sent⟩ := Plan.clear_run clear (agent.whole (call.plan agent.nextCheck))
    refine ⟨?_, fun request member => (sent request member).1⟩
    have nothing : (call.closing agent).encoder.sealedBytes = [] := onward.quiet
    rw [← conversed.dispatched, Connection.dispatched, nothing, List.append_nil]
    rfl

/-- A service that refuses to give the first of two permissions. -/
def refusing : Agent :=
  Agent.ofPeers "/run/cynagora"
    [⟨.ofBytes (([["done"], ["done"], ["done"], ["nak"], ["done"]].map
      Record.ofTexts).flatMap Record.wire), {}⟩]

theorem commits_only_complete_changes_refused :
    refusing.Reaches ∧
      swap.Asks (addRequests "a" (TextSet.ofList ["p", "q"]) true) ∧
      (swap.on remote refusing).1 = .error (.unexpectedReply "set" "nak") ∧
      ∀ leave ∈ swap.asked refusing, leave.fields = commit → leave.isDone = false := by
  have asks : swap.Asks (addRequests "a" (TextSet.ofList ["p", "q"]) true) := .add _ _ _
  have reaches : refusing.Reaches := fun _ => rfl
  obtain ⟨_, _, succeeds, _⟩ := commits_only_complete_changes asks reaches
  have refused : (swap.on remote refusing).1 = .error (.unexpectedReply "set" "nak") := by
    decide +kernel
  refine ⟨reaches, asks, refused, fun leave member fields => ?_⟩
  apply Bool.eq_false_iff.2
  intro done
  have impossible := succeeds.2 ⟨leave, member, fields, done⟩
  rw [refused] at impossible
  cases impossible

end Confinement.Policy
