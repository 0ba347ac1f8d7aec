import Confinement.Proofs.Policy.Refinement

/-!
# Plans of conversations

A `Plan` says what is asked of a permission service: one request after another, each depending on
what came of those before.  Work on a connection is the run of a plan (`StoreCall.run_plan`), and a
plan tells what the work asks on the way, which the work itself keeps to itself (`Plan.asked`).

A transaction follows a fixed pattern, whatever is answered (`Transacted`): it is entered, its
requests are made up to the first that is not answered `done`, and it is left with a commit if there
is none, and with an abort otherwise (`transacted_transaction`).
-/

namespace Confinement.Policy.Cynagora

open Host Wire

/-! ## Requests and what comes of them -/

/-- A request that was made, and what came of it. -/
structure Asked where
  fields : List String
  outcome : Except BackendError (List String)
  deriving DecidableEq

namespace Asked

/-- Whether there was a reply. -/
def isAnswered (asked : Asked) : Bool := asked.outcome.toBool

/-- Whether the reply was `done`. -/
def isDone (asked : Asked) : Bool :=
  match asked.outcome with
  | .ok reply => reply.head? == some "done"
  | .error _ => false

/-- Whether the record was sent; one that does not fit the buffer is not. -/
def isSent (asked : Asked) : Bool :=
  match asked.outcome with
  | .error (.framing .bufferFull) | .error (.framing .tooManyFields) => false
  | _ => true

/-- The error of a request that was not answered `done`. -/
def failure? (asked : Asked) : Option BackendError :=
  match asked.outcome with
  | .ok reply =>
    if reply.head? = some "done" then none
    else some (unexpected (asked.fields.headD "") reply)
  | .error error => some error

/-- What a request comes to that must be answered `done`. -/
def settled (asked : Asked) : Except BackendError Unit :=
  match asked.failure? with
  | none => .ok ()
  | some error => .error error

theorem isDone_iff (asked : Asked) : asked.isDone = true ↔ asked.failure? = none := by
  rw [isDone, failure?]
  cases asked.outcome with
  | error error => simp
  | ok reply => simp

theorem settled_of_done
    {asked : Asked}
    (done : asked.isDone = true) :
    asked.settled = .ok () := by
  rw [settled, (isDone_iff asked).1 done]

theorem settled_of_failure
    {asked : Asked} {error : BackendError}
    (failed : asked.failure? = some error) :
    asked.settled = .error error := by
  rw [settled, failed]

theorem settled_cases (asked : Asked) :
    (asked.isDone = true ∧ asked.failure? = none ∧ asked.settled = .ok ()) ∨
      ∃ error, asked.isDone = false ∧ asked.failure? = some error ∧
        asked.settled = .error error := by
  cases failed : asked.failure? with
  | none =>
      have done := (isDone_iff asked).2 failed
      exact .inl ⟨done, rfl, settled_of_done done⟩
  | some error =>
      refine .inr ⟨error, ?_, rfl, settled_of_failure failed⟩
      apply Bool.eq_false_iff.2
      intro done
      rw [(isDone_iff asked).1 done] at failed
      cases failed

end Asked

theorem expectDone_apply (fields : List String) (connection : Connection) :
    expectDone fields connection =
      (Asked.settled ⟨fields, (request fields connection).1⟩, (request fields connection).2) := by
  rw [expectDone, Action.bind_apply]
  generalize request fields connection = came
  obtain ⟨error | reply, next⟩ := came
  · rfl
  · dsimp only [Asked.settled, Asked.failure?]
    split
    · rfl
    · rfl

/-! ## Plans -/

/-- What is asked, one request after another, each with what follows upon what comes of it. -/
inductive Plan (Result : Type) where
  | ended (result : Except BackendError Result)
  | ask (fields : List String) (onward : Except BackendError (List String) → Plan Result)

namespace Plan

variable {Result Next : Type}

/-- The work that makes the requests of a plan. -/
def run : Plan Result → Call Connection Result
  | ended result => fun connection => (result, connection)
  | ask fields onward => fun connection =>
    (onward (request fields connection).1).run (request fields connection).2

/-- What the work asks, and what comes of each request. -/
def asked : Plan Result → Connection → List Asked
  | ended _, _ => []
  | ask fields onward, connection =>
    ⟨fields, (request fields connection).1⟩ ::
      (onward (request fields connection).1).asked (request fields connection).2

/-- A plan that goes on after another one, however that ended. -/
def sequel (plan : Plan Result) (further : Except BackendError Result → Plan Next) : Plan Next :=
  match plan with
  | ended result => further result
  | ask fields onward => ask fields fun outcome => (onward outcome).sequel further

/-- A plan that goes on after the success of another one. -/
def andThen (plan : Plan Result) (further : Result → Plan Next) : Plan Next :=
  plan.sequel fun
    | .ok result => further result
    | .error error => ended (.error error)

theorem run_sequel
    (plan : Plan Result) (further : Except BackendError Result → Plan Next)
    (connection : Connection) :
    (plan.sequel further).run connection =
      (further (plan.run connection).1).run (plan.run connection).2 := by
  induction plan generalizing connection with
  | ended result => rfl
  | ask fields onward hypothesis => exact hypothesis _ _

theorem asked_sequel
    (plan : Plan Result) (further : Except BackendError Result → Plan Next)
    (connection : Connection) :
    (plan.sequel further).asked connection =
      plan.asked connection ++ (further (plan.run connection).1).asked (plan.run connection).2 := by
  induction plan generalizing connection with
  | ended result => rfl
  | ask fields onward hypothesis => exact congrArg (_ :: ·) (hypothesis _ _)

theorem run_andThen (plan : Plan Result) (further : Result → Plan Next) :
    (plan.andThen further).run = plan.run >>= fun result => (further result).run := by
  funext connection
  rw [andThen, run_sequel, Action.bind_apply]
  generalize plan.run connection = ended
  obtain ⟨error | result, next⟩ := ended
  · rfl
  · rfl

end Plan

/-- A request that must be answered `done`. -/
def expectPlan (fields : List String) : Plan Unit :=
  .ask fields fun outcome => .ended (Asked.settled ⟨fields, outcome⟩)

theorem run_expectPlan (fields : List String) : (expectPlan fields).run = expectDone fields := by
  funext connection
  rw [expectDone_apply]
  rfl

theorem asked_expectPlan (fields : List String) (connection : Connection) :
    (expectPlan fields).asked connection = [⟨fields, (request fields connection).1⟩] := rfl

section

variable {Next : Type} {fields : List String} {connection next : Connection}
  {outcome : Except BackendError (List String)}

/-- A plan goes on after its first request was answered `done`. -/
theorem expectPlan_andThen_of_done
    (came : request fields connection = (outcome, next))
    (done : Asked.isDone ⟨fields, outcome⟩ = true)
    (further : Unit → Plan Next) :
    ((expectPlan fields).andThen further).asked connection =
        ⟨fields, outcome⟩ :: (further ()).asked next ∧
      ((expectPlan fields).andThen further).run connection = (further ()).run next := by
  have made : (expectPlan fields).run connection = (.ok (), next) := by
    rw [run_expectPlan, expectDone_apply, came, Asked.settled_of_done done]
  rw [Plan.andThen, Plan.asked_sequel, Plan.run_sequel, made, asked_expectPlan, came]
  exact ⟨rfl, rfl⟩

/-- A plan ends when its first request was not answered `done`. -/
theorem expectPlan_andThen_of_refused
    {error : BackendError}
    (came : request fields connection = (outcome, next))
    (refused : Asked.settled ⟨fields, outcome⟩ = .error error)
    (further : Unit → Plan Next) :
    ((expectPlan fields).andThen further).asked connection = [⟨fields, outcome⟩] ∧
      ((expectPlan fields).andThen further).run connection = (.error error, next) := by
  have made : (expectPlan fields).run connection = (.error error, next) := by
    rw [run_expectPlan, expectDone_apply, came, refused]
  rw [Plan.andThen, Plan.asked_sequel, Plan.run_sequel, made, asked_expectPlan, came]
  exact ⟨rfl, rfl⟩

end

/-- What a plan asks that begins with a request that must be answered `done`. -/
theorem expectPlan_andThen_cases
    {Next : Type}
    (fields : List String) (further : Unit → Plan Next) (connection : Connection) :
    ∃ first next, first.fields = fields ∧
      (first.isDone = true ∧
          ((expectPlan fields).andThen further).asked connection =
            first :: (further ()).asked next ∧
          ((expectPlan fields).andThen further).run connection = (further ()).run next ∨
        ∃ error, first.isDone = false ∧ first.settled = .error error ∧
          ((expectPlan fields).andThen further).asked connection = [first] ∧
          ((expectPlan fields).andThen further).run connection = (.error error, next)) := by
  cases came : request fields connection with
  | mk outcome next =>
      refine ⟨⟨fields, outcome⟩, next, rfl, ?_⟩
      rcases Asked.settled_cases ⟨fields, outcome⟩ with
        ⟨done, _, _⟩ | ⟨error, refused, _, settled⟩
      · exact .inl ⟨done, expectPlan_andThen_of_done came done further⟩
      · exact .inr ⟨error, refused, settled, expectPlan_andThen_of_refused came settled further⟩

/-- Requests that must be answered `done`, up to the first that is not. -/
def stepsPlan : List (List String) → Plan Unit
  | [] => .ended (.ok ())
  | fields :: rest => (expectPlan fields).andThen fun _ => stepsPlan rest

theorem run_stepsPlan (requests : List (List String)) :
    (stepsPlan requests).run = Action.forEach expectDone requests := by
  induction requests with
  | nil => rfl
  | cons fields rest hypothesis =>
      rw [stepsPlan, Plan.run_andThen, run_expectPlan, hypothesis]
      rfl

/-- The end of a transaction: a commit after a success, an abort after an error. -/
def leavePlan : Except BackendError Unit → Plan Unit
  | .ok () => expectPlan ["leave", "commit"]
  | .error error => .ask ["leave", "abort"] fun _ => .ended (.error error)

def transactionPlan (requests : List (List String)) : Plan Unit :=
  (expectPlan ["enter"]).andThen fun _ => (stepsPlan requests).sequel leavePlan

theorem run_leavePlan (result : Except BackendError Unit) (connection : Connection) :
    (leavePlan result).run connection =
      match result with
      | .ok () => expectDone ["leave", "commit"] connection
      | .error error => (.error error, (expectDone ["leave", "abort"] connection).2) := by
  obtain error | done := result
  · dsimp only
    rw [expectDone_apply]
    rfl
  · exact congrFun (run_expectPlan _) connection

theorem run_transactionPlan (requests : List (List String)) :
    (transactionPlan requests).run = transaction (Action.forEach expectDone requests) := by
  rw [transactionPlan, Plan.run_andThen, run_expectPlan, transaction_eq]
  congr 1
  funext _ connection
  rw [Plan.run_sequel, run_stepsPlan, run_leavePlan, leaving]
  generalize Action.forEach expectDone requests connection = ended
  obtain ⟨error | done, next⟩ := ended
  · rfl
  · rfl

/-! ## The pattern of a transaction -/

/-- The commit that a transaction is left with. -/
abbrev commit : List String := ["leave", "commit"]

/-- The abort that a transaction is left with. -/
abbrev abort : List String := ["leave", "abort"]

/-- What is asked in a transaction of some requests. -/
inductive Transacted (requests : List (List String)) : List Asked → Prop
  /-- Nothing is asked in a transaction that cannot be entered. -/
  | unentered (enter : Asked)
      (first : enter.fields = ["enter"])
      (refused : enter.isDone = false) :
      Transacted requests [enter]
  /-- Every request is made and answered `done`, and then a commit. -/
  | committed (enter : Asked) (made : List Asked) (leave : Asked)
      (first : enter.fields = ["enter"])
      (entered : enter.isDone = true)
      (whole : made.map Asked.fields = requests)
      (done : ∀ asked ∈ made, asked.isDone = true)
      (last : leave.fields = commit) :
      Transacted requests (enter :: (made ++ [leave]))
  /-- One request is not answered `done`: no other one is made, but an abort. -/
  | aborted (enter : Asked) (made : List Asked) (failed leave : Asked)
      (first : enter.fields = ["enter"])
      (entered : enter.isDone = true)
      (part : (made ++ [failed]).map Asked.fields <+: requests)
      (done : ∀ asked ∈ made, asked.isDone = true)
      (refused : failed.isDone = false)
      (last : leave.fields = abort) :
      Transacted requests (enter :: (made ++ [failed, leave]))

/-- The first error of requests that must be answered `done`. -/
def firstFailure (asked : List Asked) : Except BackendError Unit :=
  match asked.findSome? Asked.failure? with
  | none => .ok ()
  | some error => .error error

theorem findSome?_failure?_of_done
    {made : List Asked}
    (done : ∀ asked ∈ made, asked.isDone = true) :
    made.findSome? Asked.failure? = none := by
  rw [List.findSome?_eq_none_iff]
  exact fun asked member => (Asked.isDone_iff asked).1 (done asked member)

/-- Requests answered `done` are passed over in the search for the first error. -/
theorem firstFailure_append_of_done
    {made : List Asked}
    (done : ∀ asked ∈ made, asked.isDone = true)
    (rest : List Asked) :
    firstFailure (made ++ rest) = firstFailure rest := by
  rw [firstFailure, List.findSome?_append, findSome?_failure?_of_done done, Option.none_or]
  rfl

theorem firstFailure_cons_of_not_done
    {failed : Asked}
    (refused : failed.isDone = false)
    (rest : List Asked) :
    firstFailure (failed :: rest) = failed.settled := by
  rcases failed.settled_cases with ⟨done, _⟩ | ⟨error, _, failure, settled⟩
  · rw [done] at refused
    cases refused
  · rw [firstFailure, List.findSome?_cons, failure, settled]

theorem firstFailure_singleton (asked : Asked) : firstFailure [asked] = asked.settled := by
  rcases asked.settled_cases with ⟨_, failure, settled⟩ | ⟨error, _, failure, settled⟩
  · rw [firstFailure, List.findSome?_cons, failure, settled]
    rfl
  · rw [firstFailure, List.findSome?_cons, failure, settled]

/-- What the requests of a transaction are, up to its end. -/
theorem steps_cases (requests : List (List String)) (connection : Connection) :
    (∃ made, (stepsPlan requests).asked connection = made ∧
      made.map Asked.fields = requests ∧ (∀ asked ∈ made, asked.isDone = true) ∧
      ((stepsPlan requests).run connection).1 = .ok ()) ∨
    (∃ made failed error, (stepsPlan requests).asked connection = made ++ [failed] ∧
      (made ++ [failed]).map Asked.fields <+: requests ∧
      (∀ asked ∈ made, asked.isDone = true) ∧ failed.isDone = false ∧
      failed.settled = .error error ∧
      ((stepsPlan requests).run connection).1 = .error error) := by
  induction requests generalizing connection with
  | nil => exact .inl ⟨[], rfl, rfl, by simp, rfl⟩
  | cons fields rest hypothesis =>
      obtain ⟨first, next, rfl, ⟨done, asks, runs⟩ | ⟨error, refused, settled, asks, runs⟩⟩ :=
        expectPlan_andThen_cases fields (fun _ => stepsPlan rest) connection
      · rw [stepsPlan, asks, runs]
        rcases hypothesis next with
          ⟨made, made_eq, whole, all, result⟩ |
          ⟨made, failed, error, made_eq, part, all, refused, stopped, result⟩
        · refine .inl ⟨first :: made, by rw [made_eq], by rw [List.map_cons, whole], ?_, result⟩
          exact List.forall_mem_cons.2 ⟨done, all⟩
        · refine .inr ⟨first :: made, failed, error, by rw [made_eq]; rfl, ?_, ?_, refused, stopped,
            result⟩
          · exact List.cons_prefix_cons.2 ⟨rfl, part⟩
          · exact List.forall_mem_cons.2 ⟨done, all⟩
      · rw [stepsPlan, asks, runs]
        refine .inr ⟨[], first, error, rfl, ?_, by simp, refused, settled, rfl⟩
        exact List.cons_prefix_cons.2 ⟨rfl, List.nil_prefix⟩

/-- A transaction follows the pattern, and its result is the first error on the way. -/
theorem transacted_transaction (requests : List (List String)) (connection : Connection) :
    Transacted requests ((transactionPlan requests).asked connection) ∧
      ((transactionPlan requests).run connection).1 =
        firstFailure ((transactionPlan requests).asked connection) := by
  obtain ⟨enter, inside, first, ⟨entered, asks, runs⟩ | ⟨error, refused, settled, asks, runs⟩⟩ :=
    expectPlan_andThen_cases ["enter"] (fun _ => (stepsPlan requests).sequel leavePlan) connection
  · have passed : ∀ asked ∈ [enter], asked.isDone = true := by
      simpa using entered
    rw [transactionPlan, asks, runs, ← List.singleton_append, firstFailure_append_of_done passed,
      Plan.asked_sequel, Plan.run_sequel]
    rcases steps_cases requests inside with
      ⟨made, made_eq, whole, all, result⟩ |
      ⟨made, failed, error, made_eq, part, all, refused, stopped, result⟩
    · rw [made_eq, result, firstFailure_append_of_done all]
      refine ⟨.committed enter made _ first entered whole all rfl, ?_⟩
      exact (firstFailure_singleton _).symm
    · rw [made_eq, result, List.append_assoc, firstFailure_append_of_done all]
      refine ⟨.aborted enter made failed _ first entered part all refused rfl, ?_⟩
      exact stopped.symm.trans (firstFailure_cons_of_not_done refused _).symm
  · rw [transactionPlan, asks, runs]
    refine ⟨.unentered enter first refused, ?_⟩
    exact settled.symm.trans (firstFailure_singleton enter).symm

end Confinement.Policy.Cynagora
