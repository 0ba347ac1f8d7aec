import Confinement.Policy.Label
import Confinement.Policy.Memory
import Confinement.Policy.Transaction
import Confinement.Proofs.Policy.Recording
import Confinement.Proofs.Staging.Reachable

/-!
# The exchanges of a transaction

`Installs` and `Uninstalls` list the ways in which a transaction can go: the exchanges with the
backends, in order, and the outcome.  Every transaction with a context that can be reached goes one
of these ways, whatever the backends answer.  An identifier is missing only where there is nothing
to be checked or granted, which is why an install without one asks the labeller alone.  The backends
are asked at all exactly if the context is ready (`Installs.ne_nil_iff`, `Uninstalls.ne_nil_iff`).
-/

namespace Confinement.Policy

open Staging

variable {World : Type}

/-! ## The ways of a transaction -/

/-- The checks of plugs: one for each, in order, against the label of its importer. -/
def checks (label : String → String) (plugs : List Plug)
    (answers : List (Except BackendError Bool)) : List Exchange :=
  List.zipWith (fun plug answer => .check (label plug.importId) publicPlugs answer) plugs answers

/-- What stands against a plug after its check. -/
def objection? (context : Context) (id : String) (plug : Plug) :
    Except BackendError Bool → Option TransactionError
  | .error error => some (.permission error)
  | .ok isPublic =>
    if exportPermission id isPublic ∈ context.permissions then none
    else some (.plugForbidden id plug.importId (exportPermission id isPublic))

/-- What stands against the first plug against which something stands. -/
def firstObjection? (context : Context) (id : String) (plugs : List Plug)
    (answers : List (Except BackendError Bool)) : Option TransactionError :=
  (List.zipWith (objection? context id) plugs answers).findSome? fun objection => objection

/-- The ways in which a context is committed or not. -/
inductive Installs (label : String → String) (context : Context) :
    List Exchange → Except TransactionError Unit → Prop
  | latched (latched : context.latched = true) :
      Installs label context [] (.error .latched)
  | missingId (released : context.latched = false) (needed : context.needsId = true)
      (unnamed : context.id = none) :
      Installs label context [] (.error .missingId)
  | unnamed (released : context.latched = false) (needless : context.needsId = false)
      (unnamed : context.id = none) (plugs : context.plugs = [])
      (permissions : context.permissions = TextSet.empty)
      (answer : Except BackendError Unit) :
      Installs label context [.install context answer] (answer.mapError .labelling)
  | objected (released : context.latched = false) {id : String} (named : context.id = some id)
      (answers : List (Except BackendError Bool)) (all : answers.length = context.plugs.length)
      {error : TransactionError}
      (objection : firstObjection? context id context.plugs answers = some error) :
      Installs label context (checks label context.plugs answers) (.error error)
  | notGranted (released : context.latched = false) {id : String} (named : context.id = some id)
      (answers : List (Except BackendError Bool)) (all : answers.length = context.plugs.length)
      (clear : firstObjection? context id context.plugs answers = none) (error : BackendError) :
      Installs label context
        (checks label context.plugs answers ++
          [.add (label id) context.permissions true (.error error)])
        (.error (.permission error))
  | takenBack (released : context.latched = false) {id : String} (named : context.id = some id)
      (answers : List (Except BackendError Bool)) (all : answers.length = context.plugs.length)
      (clear : firstObjection? context id context.plugs answers = none) (error : BackendError)
      (answer : Except BackendError Unit) :
      Installs label context
        (checks label context.plugs answers ++
          [.add (label id) context.permissions true (.ok ()), .install context (.error error),
            .drop (label id) answer])
        (.error (.labelling error))
  | installed (released : context.latched = false) {id : String} (named : context.id = some id)
      (answers : List (Except BackendError Bool)) (all : answers.length = context.plugs.length)
      (clear : firstObjection? context id context.plugs answers = none) :
      Installs label context
        (checks label context.plugs answers ++
          [.add (label id) context.permissions true (.ok ()), .install context (.ok ())])
        (.ok ())

/-- The ways in which a context is retracted or not. -/
inductive Uninstalls (label : String → String) (context : Context) :
    List Exchange → Except TransactionError Unit → Prop
  | latched (latched : context.latched = true) :
      Uninstalls label context [] (.error .latched)
  | missingId (released : context.latched = false) (needed : context.needsId = true)
      (unnamed : context.id = none) :
      Uninstalls label context [] (.error .missingId)
  | unnamed (released : context.latched = false) (needless : context.needsId = false)
      (unnamed : context.id = none) (plugs : context.plugs = [])
      (permissions : context.permissions = TextSet.empty)
      (answer : Except BackendError Unit) :
      Uninstalls label context [.uninstall context answer] (answer.mapError .labelling)
  | notDropped (released : context.latched = false) {id : String} (named : context.id = some id)
      (error : BackendError) :
      Uninstalls label context [.drop (label id) (.error error)] (.error (.permission error))
  | dropped (released : context.latched = false) {id : String} (named : context.id = some id)
      (answer : Except BackendError Unit) :
      Uninstalls label context [.drop (label id) (.ok ()), .uninstall context answer]
        (answer.mapError .labelling)

/-! ## Readiness -/

/-- A context is latched, or lacks an identifier, or is ready. -/
theorem unready?_cases
    (context : Context) :
    (context.latched = true ∧ unready? context = some .latched) ∨
      (context.latched = false ∧ context.needsId = true ∧ context.id = none ∧
        unready? context = some .missingId) ∨
      (context.latched = false ∧ (context.id = none → context.needsId = false) ∧
        unready? context = none) := by
  rw [unready?]
  cases latched : context.latched with
  | true => exact .inl ⟨rfl, if_pos rfl⟩
  | false =>
      right
      rw [if_neg Bool.false_ne_true]
      cases needed : context.needsId with
      | false => exact .inr ⟨rfl, fun _ => rfl, rfl⟩
      | true =>
          cases named : context.id with
          | none => exact .inl ⟨rfl, rfl, rfl, rfl⟩
          | some id =>
              refine .inr ⟨rfl, ?_, rfl⟩
              intro unnamed
              cases unnamed

theorem unready?_of_ready
    {context : Context}
    (released : context.latched = false)
    (ready : context.id = none → context.needsId = false) :
    unready? context = none := by
  rcases unready?_cases context with
    ⟨latched, _⟩ | ⟨_, needed, unnamed, _⟩ | ⟨_, _, result⟩
  · rw [released] at latched
    cases latched
  · rw [ready unnamed] at needed
    cases needed
  · exact result

/-! ## Checks -/

/-- The outcome to which an objection leads. -/
def verdict : Option TransactionError → Except TransactionError Unit
  | none => .ok ()
  | some error => .error error

theorem firstObjection?_cons
    (context : Context) (id : String) (plug : Plug) (rest : List Plug)
    (answer : Except BackendError Bool) (answers : List (Except BackendError Bool)) :
    firstObjection? context id (plug :: rest) (answer :: answers) =
      (objection? context id plug answer).or (firstObjection? context id rest answers) := by
  rw [firstObjection?, List.zipWith_cons_cons, List.findSome?_cons]
  cases objection? context id plug answer with
  | none => rfl
  | some error => rfl

theorem checks_cons
    (label : String → String) (plug : Plug) (rest : List Plug)
    (answer : Except BackendError Bool) (answers : List (Except BackendError Bool)) :
    checks label (plug :: rest) (answer :: answers) =
      .check (label plug.importId) publicPlugs answer :: checks label rest answers := rfl

variable (environment : Environment World)

/-- One check is one exchange, and its answer decides on the plug. -/
theorem checkPlug_exchange
    (context : Context) (id : String) (plug : Plug) (world : World) (log : List Exchange) :
    ∃ answer next,
      checkPlug environment context id plug world =
        (verdict (objection? context id plug answer), next) ∧
      checkPlug environment.recorded context id plug (world, log) =
        (verdict (objection? context id plug answer), next,
          log ++ [.check (environment.labeller.label plug.importId) publicPlugs answer]) := by
  rw [checkPlug, checkPlug, recorded_label, recorded_check]
  rcases environment.store.check (environment.labeller.label plug.importId) publicPlugs world with
    ⟨error | isPublic, next⟩
  · exact ⟨.error error, next, rfl, rfl⟩
  · refine ⟨.ok isPublic, next, ?_⟩
    rw [objection?]
    dsimp only
    split <;> exact ⟨rfl, rfl⟩

/-- Every plug is checked once, in order, and the first objection decides. -/
theorem checkPlugs_exchanges
    (context : Context) (id : String) (plugs : List Plug) (world : World) (log : List Exchange) :
    ∃ answers next, answers.length = plugs.length ∧
      checkPlugs environment context id plugs world =
        (verdict (firstObjection? context id plugs answers), next) ∧
      checkPlugs environment.recorded context id plugs (world, log) =
        (verdict (firstObjection? context id plugs answers), next,
          log ++ checks environment.labeller.label plugs answers) := by
  induction plugs generalizing world log with
  | nil =>
      refine ⟨[], world, rfl, rfl, ?_⟩
      rw [checkPlugs, checks, List.zipWith_nil_left, List.append_nil]
      rfl
  | cons plug rest hypothesis =>
      obtain ⟨answer, next, plain, recorded⟩ :=
        checkPlug_exchange environment context id plug world log
      obtain ⟨answers, last, all, others, further⟩ := hypothesis next
        (log ++ [.check (environment.labeller.label plug.importId) publicPlugs answer])
      refine ⟨answer :: answers, last, congrArg Nat.succ all, ?_, ?_⟩
      · rw [checkPlugs, plain]
        dsimp only
        rw [others, firstObjection?_cons]
        cases objection? context id plug answer with
        | none => rfl
        | some error => rfl
      · rw [checkPlugs, recorded]
        dsimp only
        rw [further, firstObjection?_cons, checks_cons, List.append_assoc]
        cases objection? context id plug answer with
        | none => rfl
        | some error => rfl

/-! ## Transactions -/

/-- Setting up access control is one exchange, and a second one where it fails and is undone. -/
theorem installLabels_exchanges
    (context : Context) (label : String) (world : World) (log : List Exchange) :
    (∃ next,
      installLabels environment context (fun last => (environment.store.drop label last).2) world =
        (.ok (), next) ∧
      installLabels environment.recorded context
          (fun last => (environment.recorded.store.drop label last).2) (world, log) =
        (.ok (), next, log ++ [.install context (.ok ())])) ∨
    ∃ error answer next,
      installLabels environment context (fun last => (environment.store.drop label last).2) world =
        (.error (.labelling error), next) ∧
      installLabels environment.recorded context
          (fun last => (environment.recorded.store.drop label last).2) (world, log) =
        (.error (.labelling error), next,
          log ++ [.install context (.error error), .drop label answer]) := by
  rw [installLabels, installLabels, recorded_install]
  rcases environment.labeller.install context world with ⟨error | done, next⟩
  · right
    refine ⟨error, (environment.store.drop label next).1, (environment.store.drop label next).2,
      rfl, ?_⟩
    dsimp only
    rw [recorded_drop, List.append_assoc]
    rfl
  · exact .inl ⟨next, rfl, rfl⟩

/-- With an identifier, plugs are checked, permissions are granted and access control is set up. -/
theorem install_exchanges_of_named
    {context : Context} {id : String}
    (released : context.latched = false)
    (ready : unready? context = none)
    (named : context.id = some id)
    (world : World) (log : List Exchange) :
    ∃ exchanges outcome next,
      Installs environment.labeller.label context exchanges outcome ∧
      install environment context world = (outcome, next) ∧
      install environment.recorded context (world, log) = (outcome, next, log ++ exchanges) := by
  rw [install, install, ready, named]
  obtain ⟨answers, next, all, checked, recorded⟩ :=
    checkPlugs_exchanges environment context id context.plugs world log
  dsimp only
  rw [checked, recorded]
  cases objection : firstObjection? context id context.plugs answers with
  | some error =>
      exact ⟨_, _, next, .objected released named answers all objection, rfl, rfl⟩
  | none =>
      dsimp only [verdict]
      rw [recorded_label, recorded_add]
      rcases environment.store.add (environment.labeller.label id) context.permissions true
        next with ⟨error | done, after⟩
      · refine ⟨_, _, after, .notGranted released named answers all objection error, rfl, ?_⟩
        rw [← List.append_assoc]
      · rcases installLabels_exchanges environment context (environment.labeller.label id)
          after (log ++ checks environment.labeller.label context.plugs answers ++
            [.add (environment.labeller.label id) context.permissions true (.ok ())]) with
          ⟨last, done, logged⟩ | ⟨error, answer, last, failed, logged⟩
        · refine ⟨_, _, last, .installed released named answers all objection, done, ?_⟩
          dsimp only
          rw [logged, List.append_assoc, List.append_assoc]
          rfl
        · refine ⟨_, _, last, .takenBack released named answers all objection error answer,
            failed, ?_⟩
          dsimp only
          rw [logged, List.append_assoc, List.append_assoc]
          rfl

/-- An install goes one of the ways listed. -/
theorem install_exchanges
    {context : Context} (coherent : context.Coherent) (world : World) (log : List Exchange) :
    ∃ exchanges outcome next,
      Installs environment.labeller.label context exchanges outcome ∧
      install environment context world = (outcome, next) ∧
      install environment.recorded context (world, log) = (outcome, next, log ++ exchanges) := by
  rcases unready?_cases context with
    ⟨latched, unready⟩ | ⟨released, needed, unnamed, unready⟩ | ⟨released, needless, ready⟩
  · rw [install, install, unready]
    exact ⟨[], _, world, .latched latched, rfl, by rw [List.append_nil]⟩
  · rw [install, install, unready]
    exact ⟨[], _, world, .missingId released needed unnamed, rfl, by rw [List.append_nil]⟩
  · cases named : context.id with
    | none =>
        -- The checks are skipped, and nothing is lost: there is no plug and no permission.
        have unneeded := needless named
        have plugs := coherent.plugs unneeded
        have permissions := coherent.permissions unneeded
        rw [install, install, ready, named]
        dsimp only
        rw [installLabels, installLabels, recorded_install]
        rcases environment.labeller.install context world with ⟨error | done, next⟩
        · exact ⟨_, _, next, .unnamed released unneeded named plugs permissions (.error error),
            rfl, rfl⟩
        · exact ⟨_, _, next, .unnamed released unneeded named plugs permissions (.ok ()), rfl, rfl⟩
    | some id => exact install_exchanges_of_named environment released ready named world log

/-- An uninstall goes one of the ways listed. -/
theorem uninstall_exchanges
    {context : Context} (coherent : context.Coherent) (world : World) (log : List Exchange) :
    ∃ exchanges outcome next,
      Uninstalls environment.labeller.label context exchanges outcome ∧
      uninstall environment context world = (outcome, next) ∧
      uninstall environment.recorded context (world, log) = (outcome, next, log ++ exchanges) := by
  rw [uninstall, uninstall]
  rcases unready?_cases context with
    ⟨latched, unready⟩ | ⟨released, needed, unnamed, unready⟩ | ⟨released, needless, ready⟩
  · rw [unready]
    exact ⟨[], _, world, .latched latched, rfl, by rw [List.append_nil]⟩
  · rw [unready]
    exact ⟨[], _, world, .missingId released needed unnamed, rfl, by rw [List.append_nil]⟩
  · rw [ready]
    cases named : context.id with
    | none =>
        have unneeded := needless named
        have plugs := coherent.plugs unneeded
        have permissions := coherent.permissions unneeded
        dsimp only
        rw [uninstallLabels, uninstallLabels, recorded_uninstall]
        rcases environment.labeller.uninstall context world with ⟨error | done, next⟩
        · exact ⟨_, _, next, .unnamed released unneeded named plugs permissions (.error error),
            rfl, rfl⟩
        · exact ⟨_, _, next, .unnamed released unneeded named plugs permissions (.ok ()), rfl, rfl⟩
    | some id =>
        dsimp only
        rw [recorded_label, recorded_drop]
        rcases environment.store.drop (environment.labeller.label id) world with
          ⟨error | done, next⟩
        · exact ⟨_, _, next, .notDropped released named error, rfl, rfl⟩
        · dsimp only
          rw [uninstallLabels, uninstallLabels, recorded_uninstall]
          rcases environment.labeller.uninstall context next with ⟨error | done, last⟩
          · refine ⟨_, _, last, .dropped released named (.error error), rfl, ?_⟩
            dsimp only
            rw [List.append_assoc]
            rfl
          · refine ⟨_, _, last, .dropped released named (.ok ()), rfl, ?_⟩
            dsimp only
            rw [List.append_assoc]
            rfl

/-! ## The ways apart -/

section

variable {label : String → String} {context : Context} {exchanges : List Exchange}
  {outcome : Except TransactionError Unit}

theorem ready_of_named
    {id : String}
    (released : context.latched = false)
    (named : context.id = some id) :
    unready? context = none :=
  unready?_of_ready released fun unnamed => by
    rw [named] at unnamed
    cases unnamed

/-- Something stands against a plug only if a plug was checked. -/
theorem checks_ne_nil
    {id : String} {answers : List (Except BackendError Bool)} {error : TransactionError}
    (objection : firstObjection? context id context.plugs answers = some error) :
    checks label context.plugs answers ≠ [] := by
  intro none
  have unchecked := List.zipWith_eq_nil_iff.1 none
  rw [firstObjection?, List.zipWith_eq_nil_iff.2 unchecked] at objection
  cases objection

/-- An install asks the backends if the context is ready, and only then. -/
theorem Installs.ne_nil_iff
    (ways : Installs label context exchanges outcome) :
    exchanges ≠ [] ↔ unready? context = none := by
  cases ways with
  | latched latched =>
      rw [unready?, if_pos latched]
      exact iff_of_false (fun some => some rfl) nofun
  | missingId released needed unnamed =>
      rw [unready?, released, needed, unnamed]
      exact iff_of_false (fun some => some rfl) nofun
  | unnamed released needless unnamed =>
      exact iff_of_true (List.cons_ne_nil _ _) (unready?_of_ready released fun _ => needless)
  | objected released named answers all objection =>
      exact iff_of_true (checks_ne_nil objection) (ready_of_named released named)
  | notGranted released named | takenBack released named | installed released named =>
      exact iff_of_true (List.append_ne_nil_of_right_ne_nil _ (List.cons_ne_nil _ _))
        (ready_of_named released named)

/-- So does an uninstall. -/
theorem Uninstalls.ne_nil_iff
    (ways : Uninstalls label context exchanges outcome) :
    exchanges ≠ [] ↔ unready? context = none := by
  cases ways with
  | latched latched =>
      rw [unready?, if_pos latched]
      exact iff_of_false (fun some => some rfl) nofun
  | missingId released needed unnamed =>
      rw [unready?, released, needed, unnamed]
      exact iff_of_false (fun some => some rfl) nofun
  | unnamed released needless unnamed =>
      exact iff_of_true (List.cons_ne_nil _ _) (unready?_of_ready released fun _ => needless)
  | notDropped released named | dropped released named =>
      exact iff_of_true (List.cons_ne_nil _ _) (ready_of_named released named)

end

/--
The backends may answer every call in any way.  With a context that can be reached, both
transactions make exactly the exchanges of one of the ways listed, and end as it says.
-/
theorem exchanges_of_transactions
    (environment : Environment World) {context : Context} (reachable : Reachable context)
    (world : World) (log : List Exchange) :
    (∃ exchanges outcome next,
      Installs environment.labeller.label context exchanges outcome ∧
      install environment context world = (outcome, next) ∧
      install environment.recorded context (world, log) = (outcome, next, log ++ exchanges)) ∧
    ∃ exchanges outcome next,
      Uninstalls environment.labeller.label context exchanges outcome ∧
      uninstall environment context world = (outcome, next) ∧
      uninstall environment.recorded context (world, log) = (outcome, next, log ++ exchanges) := by
  have coherent := reachable.coherent
  constructor
  · exact install_exchanges environment coherent world log
  · exact uninstall_exchanges environment coherent world log

/-- Permissions are kept in memory, and access control can never be set up. -/
def unlabelling : Environment Grants where
  store := memoryStore ⟨fun grants => grants, fun grants _ => grants⟩
  labeller :=
    { name := "none"
      label := applicationLabel
      install := fun _ grants => (.error .closed, grants)
      uninstall := fun _ grants => (.error .closed, grants) }
  inspect := fun _ _ => .ok (.directory 0o755)

/-- An application that exports a directory to a partner. -/
def exporting : Context :=
  [Operation.setId "ab", .addPermission (exportPermission "ab" false),
    .addPlug (unlabelling.inspect Grants.empty) ⟨"/from", "cd", "/to"⟩].foldl
      Operation.leaves Context.empty

/-- Where access control cannot be set up, what was granted is taken back. -/
theorem exchanges_of_transactions_taken_back :
    Reachable exporting ∧
    (∃ outcome next,
      install unlabelling exporting Grants.empty = (outcome, next) ∧
      Installs applicationLabel exporting
        [.check "App:cd" publicPlugs (.ok false),
          .add "App:ab" exporting.permissions true (.ok ()),
          .install exporting (.error .closed), .drop "App:ab" (.ok ())] outcome) ∧
    ∃ outcome next,
      uninstall unlabelling exporting Grants.empty = (outcome, next) ∧
      Uninstalls applicationLabel exporting
        [.drop "App:ab" (.ok ()), .uninstall exporting (.error .closed)] outcome := by
  have reachable : Reachable exporting := Reachable.empty.steps _
  refine ⟨reachable, ?_⟩
  obtain ⟨⟨exchanges, outcome, next, ways, plain, recorded⟩, others, result, last, further,
    retracted, logged⟩ := exchanges_of_transactions unlabelling reachable Grants.empty []
  have made : [] ++ exchanges = [.check "App:cd" publicPlugs (.ok false),
      .add "App:ab" exporting.permissions true (.ok ()),
      .install exporting (.error .closed), .drop "App:ab" (.ok ())] :=
    (congrArg (fun outcome => outcome.2.2) recorded).symm
  have undone : [] ++ others =
      [.drop "App:ab" (.ok ()), .uninstall exporting (.error .closed)] :=
    (congrArg (fun outcome => outcome.2.2) logged).symm
  rw [List.nil_append] at made undone
  subst made undone
  exact ⟨⟨outcome, next, plain, ways⟩, result, last, retracted, further⟩

end Confinement.Policy
