import Confinement.Policy.Machine
import Confinement.Proofs.Policy.Exchanges

/-!
# Transactions in memory

With permissions in memory and simulated access control no backend ever fails.  A transaction then
depends on the context and, where plugs are checked, on what is granted; it does all of what it is
meant to do or changes nothing but the list of calls.
-/

namespace Confinement.Policy

open Staging Wire

/-- The environment with permissions in memory and simulated access control. -/
abbrev inMemory : Environment Machine := machineEnvironment .memory .simulated

/-! ## Effects -/

namespace Machine

variable (machine : Machine) (id : String)

def grant (permissions : TextSet) : Machine :=
  { machine with grants := machine.grants.set (applicationLabel id) permissions }

def revoke : Machine := { machine with grants := machine.grants.erase (applicationLabel id) }

def enlist : Machine := { machine with installed := machine.installed.insert id }

def strike : Machine := { machine with installed := machine.installed.erase id }

/-- What a commitment of a context makes of a machine. -/
def committed (context : Context) : Machine :=
  match context.id with
  | none => machine
  | some id => (machine.grant id context.permissions).enlist id

/-- What a retraction of a context makes of a machine. -/
def retracted (context : Context) : Machine :=
  match context.id with
  | none => machine
  | some id => (machine.revoke id).strike id

end Machine

/-- Machines that differ in the calls noted only agree in everything else. -/
theorem Machine.agree_of_forget
    {machine other : Machine}
    (same : other.forget = machine.forget) :
    other.grants = machine.grants ∧ other.installed = machine.installed ∧
      other.files = machine.files := by
  have grants : other.forget.grants = machine.forget.grants := by rw [same]
  have installed : other.forget.installed = machine.forget.installed := by rw [same]
  have files : other.forget.files = machine.forget.files := by rw [same]
  exact ⟨grants, installed, files⟩

theorem Machine.files_committed (machine : Machine) (context : Context) :
    (machine.committed context).files = machine.files := by
  rw [Machine.committed]
  split <;> rfl

theorem Machine.files_retracted (machine : Machine) (context : Context) :
    (machine.retracted context).files = machine.files := by
  rw [Machine.retracted]
  split <;> rfl

theorem Machine.forget_committed
    {machine other : Machine}
    (same : other.forget = machine.forget) (context : Context) :
    (other.committed context).forget = (machine.committed context).forget := by
  have moved (machine : Machine) :
      (machine.committed context).forget = machine.forget.committed context := by
    rw [committed, committed]
    split <;> rfl
  rw [moved, moved, same]

/-- Whether an application declares the permission to export to the importer of a plug. -/
def Declares (grants : Grants) (context : Context) (id : String) (plug : Plug) : Prop :=
  exportPermission id (decide (publicPlugs ∈ grants.of (applicationLabel plug.importId))) ∈
    context.permissions

instance (grants : Grants) (context : Context) (id : String) (plug : Plug) :
    Decidable (Declares grants context id plug) :=
  inferInstanceAs (Decidable (_ ∈ context.permissions))

/-- Whether a context is ready for a transaction: released, and named where it needs a name. -/
def Ready (context : Context) : Prop :=
  context.latched = false ∧ (context.id = none → context.needsId = false)

instance (context : Context) : Decidable (Ready context) := inferInstanceAs (Decidable (_ ∧ _))

/-- A context that operations lead to is ready when it is named or nothing in it needs a name. -/
theorem ready_iff
    {context : Context}
    (reachable : Reachable context) :
    Ready context ↔ context.latched = false ∧
      (context.id ≠ none ∨ context.plugs = [] ∧ context.permissions = TextSet.empty ∧
        ∀ path ∈ context.paths, path.kind = .plain) := by
  rw [Ready, reachable.needsId_eq_false_iff, Decidable.imp_iff_not_or]

/-- Whether every plug of a context is declared by the application that the context names. -/
def Cleared (grants : Grants) (context : Context) : Prop :=
  ∀ plug ∈ context.plugs, ∃ id, context.id = some id ∧ Declares grants context id plug

/-! ## Transactions -/

variable {context : Context}

theorem inMemory_check (label permission : String) (machine : Machine) :
    ∃ call, inMemory.store.check label permission machine =
      (.ok (decide (permission ∈ machine.grants.of label)), machine.note call) :=
  ⟨_, rfl⟩

theorem inMemory_add (id : String) (permissions : TextSet) (machine : Machine) :
    ∃ call, inMemory.store.add (inMemory.labeller.label id) permissions true machine =
      (.ok (), (machine.grant id permissions).note call) := by
  have set : machine.grants.add (applicationLabel id) permissions true =
      machine.grants.set (applicationLabel id) permissions :=
    congrArg (machine.grants.set (applicationLabel id)) (TextSet.empty_union permissions)
  rw [Machine.grant, ← set]
  exact ⟨_, rfl⟩

theorem inMemory_drop (id : String) (machine : Machine) :
    ∃ call, inMemory.store.drop (inMemory.labeller.label id) machine =
      (.ok (), (machine.revoke id).note call) :=
  ⟨_, rfl⟩

/-- Simulated access control is set up for a context that names an application. -/
theorem inMemory_install
    {id : String}
    (named : context.id = some id) (machine : Machine) :
    ∃ call, inMemory.labeller.install context machine =
      (.ok (), (machine.enlist id).note call) := by
  obtain ⟨_, _, _, _, _, _⟩ := context
  cases named
  exact ⟨_, rfl⟩

theorem inMemory_uninstall
    {id : String}
    (named : context.id = some id) (machine : Machine) :
    ∃ call, inMemory.labeller.uninstall context machine =
      (.ok (), (machine.strike id).note call) := by
  obtain ⟨_, _, _, _, _, _⟩ := context
  cases named
  exact ⟨_, rfl⟩

/-- Without a name there is nothing to set up or to take back. -/
theorem inMemory_unnamed
    (unnamed : context.id = none) (machine : Machine) :
    (∃ call, inMemory.labeller.install context machine = (.ok (), machine.note call)) ∧
      ∃ call, inMemory.labeller.uninstall context machine = (.ok (), machine.note call) := by
  obtain ⟨_, _, _, _, _, _⟩ := context
  cases unnamed
  exact ⟨⟨_, rfl⟩, _, rfl⟩

theorem unready_of_not_ready
    (unready : ¬Ready context) :
    ∃ error, unready? context = some error ∧
      (error = .latched ∨ error = .missingId) := by
  rcases unready?_cases context with
    ⟨_, result⟩ | ⟨_, _, _, result⟩ | ⟨released, needless, _⟩
  · exact ⟨_, result, .inl rfl⟩
  · exact ⟨_, result, .inr rfl⟩
  · exact absurd ⟨released, needless⟩ unready

/-- A plug is checked against what is granted, and nothing changes. -/
theorem checkPlug_inMemory (context : Context) (id : String) (plug : Plug) (machine : Machine) :
    ∃ next, next.forget = machine.forget ∧
      checkPlug inMemory context id plug machine =
        (if Declares machine.grants context id plug then .ok ()
          else .error (.plugForbidden id plug.importId (exportPermission id
            (decide (publicPlugs ∈ machine.grants.of (applicationLabel plug.importId))))),
          next) := by
  obtain ⟨call, checked⟩ :=
    inMemory_check (inMemory.labeller.label plug.importId) publicPlugs machine
  refine ⟨machine.note call, rfl, ?_⟩
  rw [checkPlug, checked]
  dsimp only
  by_cases declared : Declares machine.grants context id plug
  · rw [if_pos declared]
    exact if_pos declared
  · rw [if_neg declared]
    exact if_neg declared

/-- Plugs are checked without a change; they pass when all of them are declared. -/
theorem checkPlugs_inMemory (context : Context) (id : String) (plugs : List Plug)
    (machine : Machine) :
    ∃ next, next.forget = machine.forget ∧
      (((∀ plug ∈ plugs, Declares machine.grants context id plug) ∧
          checkPlugs inMemory context id plugs machine = (.ok (), next)) ∨
        (¬(∀ plug ∈ plugs, Declares machine.grants context id plug) ∧
          ∃ importId required, checkPlugs inMemory context id plugs machine =
            (.error (.plugForbidden id importId required), next))) := by
  induction plugs generalizing machine with
  | nil => exact ⟨machine, rfl, .inl ⟨fun _ member => (by cases member), rfl⟩⟩
  | cons plug rest hypothesis =>
      obtain ⟨middle, same, checked⟩ := checkPlug_inMemory context id plug machine
      obtain ⟨next, kept, others⟩ := hypothesis middle
      rw [(Machine.agree_of_forget same).1] at others
      refine ⟨next, kept.trans same, ?_⟩
      rw [checkPlugs, checked, List.forall_mem_cons]
      dsimp only
      by_cases declared : Declares machine.grants context id plug
      · rw [if_pos declared]
        rcases others with ⟨all, passed⟩ | ⟨missing, importId, required, failed⟩
        · rw [passed]
          exact .inl ⟨⟨declared, all⟩, rfl⟩
        · rw [failed]
          exact .inr ⟨fun both => missing both.2, importId, required, rfl⟩
      · rw [if_neg declared]
        rcases others with ⟨_, passed⟩ | ⟨_, _, _, failed⟩
        · rw [passed]
          exact .inr ⟨fun both => declared both.1, _, _, rfl⟩
        · rw [failed]
          exact .inr ⟨fun both => declared both.1, _, _, rfl⟩

/-- Why a transaction is refused: never for a failure of a backend, nor as malformed input. -/
def Refuses (error : TransactionError) : Prop :=
  error.refusal ≠ .internal ∧ error.refusal ≠ .protocol

/-- An unready context is refused on every machine, and nothing changes. -/
theorem refused_of_not_ready
    (unready : ¬Ready context) :
    ∃ error, Refuses error ∧ ∀ machine, install inMemory context machine = (.error error, machine) ∧
      uninstall inMemory context machine = (.error error, machine) := by
  obtain ⟨error, result, cause⟩ := unready_of_not_ready unready
  refine ⟨error, ?_, ?_⟩
  · rcases cause with rfl | rfl <;> exact ⟨Refusal.noConfusion, Refusal.noConfusion⟩
  · intro machine
    constructor
    · rw [install, result]
    · rw [uninstall, result]

/--
An install of a context that is ready and whose plugs are declared commits it, and any other one is
refused and changes nothing.
-/
theorem install_inMemory
    (coherent : context.Coherent) (machine : Machine) :
    (Ready context ∧ Cleared machine.grants context ∧
      ∃ next, install inMemory context machine = (.ok (), next) ∧
        next.forget = (machine.committed context).forget) ∨
    (¬(Ready context ∧ Cleared machine.grants context) ∧
      ∃ error next, Refuses error ∧ install inMemory context machine = (.error error, next) ∧
        next.forget = machine.forget) := by
  by_cases ready : Ready context
  · rw [install, unready?_of_ready ready.1 ready.2]
    cases named : context.id with
    | none =>
        have cleared : Cleared machine.grants context := by
          intro plug member
          rw [coherent.plugs (ready.2 named)] at member
          cases member
        obtain ⟨call, installed⟩ := (inMemory_unnamed named machine).1
        refine .inl ⟨ready, cleared, machine.note call, ?_, ?_⟩
        · dsimp only
          rw [installLabels, installed]
        · rw [Machine.committed, named]
          rfl
    | some id =>
        obtain ⟨middle, same, checked⟩ := checkPlugs_inMemory context id context.plugs machine
        rcases checked with ⟨declared, passed⟩ | ⟨missing, importId, required, failed⟩
        · have cleared : Cleared machine.grants context :=
            fun plug member => ⟨id, named, declared plug member⟩
          obtain ⟨first, added⟩ := inMemory_add id context.permissions middle
          obtain ⟨second, installed⟩ :=
            inMemory_install named ((middle.grant id context.permissions).note first)
          refine .inl ⟨ready, cleared,
            (((middle.grant id context.permissions).note first).enlist id).note second, ?_, ?_⟩
          · dsimp only
            rw [passed]
            dsimp only
            rw [added]
            dsimp only
            rw [installLabels, installed]
          · rw [← Machine.forget_committed same, Machine.committed, named]
            rfl
        · refine .inr ⟨?_, .plugForbidden id importId required, middle, ?_, ?_, same⟩
          · rintro ⟨_, cleared⟩
            apply missing
            intro plug member
            obtain ⟨other, also, declared⟩ := cleared plug member
            rw [named] at also
            cases also
            exact declared
          · exact ⟨Refusal.noConfusion, Refusal.noConfusion⟩
          · dsimp only
            rw [failed]
  · obtain ⟨error, refuses, result⟩ := refused_of_not_ready ready
    exact .inr ⟨fun both => ready both.1, error, machine, refuses, (result machine).1, rfl⟩

/-- An uninstall of a context that is ready retracts it. -/
theorem uninstall_inMemory
    (ready : Ready context) (machine : Machine) :
    ∃ next, uninstall inMemory context machine = (.ok (), next) ∧
      next.forget = (machine.retracted context).forget := by
  rw [uninstall, unready?_of_ready ready.1 ready.2]
  cases named : context.id with
  | none =>
      obtain ⟨call, uninstalled⟩ := (inMemory_unnamed named machine).2
      refine ⟨machine.note call, ?_, ?_⟩
      · dsimp only
        rw [uninstallLabels, uninstalled]
      · rw [Machine.retracted, named]
        rfl
  | some id =>
      obtain ⟨first, dropped⟩ := inMemory_drop id machine
      obtain ⟨second, uninstalled⟩ := inMemory_uninstall named ((machine.revoke id).note first)
      refine ⟨(((machine.revoke id).note first).strike id).note second, ?_, ?_⟩
      · dsimp only
        rw [dropped]
        dsimp only
        rw [uninstallLabels, uninstalled]
      · rw [Machine.retracted, named]
        rfl

end Confinement.Policy
