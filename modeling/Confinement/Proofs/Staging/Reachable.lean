import Confinement.Proofs.Staging.Checks

/-!
# Contexts that can be reached

A context starts empty and changes only by the operations below, each of which may meet another
file system.  For each of them it is said once what its success tells of the context and what it
changes; from that, a context that needs no identifier holds nothing that would need one
(`Reachable.coherent`).  Every identifier in a context is valid (`Reachable.validIds`).
-/

namespace Confinement.Staging

open Host

/-- An operation on a context, with the file system that it meets. -/
inductive Operation where
  | setId (id : String)
  | addPermission (permission : String)
  | addPath (inspect : Inspection) (path : String) (kind : Kind)
  | addPlug (inspect : Inspection) (plug : Plug)
  | raise
  | clear

namespace Operation

/-- How an operation on a context ends. -/
def outcome (context : Context) : Operation → Except StagingError Context
  | .setId id => context.setId id
  | .addPermission permission => context.addPermission permission
  | .addPath inspect path kind => context.addPath inspect path kind
  | .addPlug inspect plug => context.addPlug inspect plug
  | .raise => .ok context.raise
  | .clear => .ok Context.empty

/-- The context that an operation leaves: after a failure, the one it found. -/
def leaves (context : Context) (operation : Operation) : Context :=
  match operation.outcome context with
  | .ok next => next
  | .error _ => context

end Operation

/-- The contexts that operations lead to from the empty one. -/
inductive Reachable : Context → Prop
  | empty : Reachable Context.empty
  | step {context : Context} (reachable : Reachable context) (operation : Operation) :
      Reachable (operation.leaves context)

variable {context next : Context}

theorem Reachable.steps
    (reachable : Reachable context)
    (operations : List Operation) :
    Reachable (operations.foldl Operation.leaves context) := by
  induction operations generalizing context with
  | nil => exact reachable
  | cons operation rest hypothesis => exact hypothesis (reachable.step operation)

/-- What holds of the empty context and is kept by every operation that succeeds holds always. -/
theorem Reachable.invariant
    {holds : Context → Prop}
    (start : holds Context.empty)
    (kept : ∀ {context next : Context}, holds context →
      ∀ {operation : Operation}, operation.outcome context = .ok next → holds next)
    (reachable : Reachable context) :
    holds context := by
  induction reachable with
  | empty => exact start
  | step reachable operation hypothesis =>
      rw [Operation.leaves]
      cases result : operation.outcome _ with
      | ok next => exact kept hypothesis result
      | error error => exact hypothesis

/-! ## What a successful operation does -/

theorem setId_ok
    {id : String}
    (result : context.setId id = .ok next) :
    context.latched = false ∧ isValidId id = true ∧ context.id = none ∧
      next = { context with id := some id } := by
  obtain ⟨passing, rfl⟩ :=
    (Edit.stage_obeys (fun _ => .error .notText) context (.id id)).attempt_ok result
  simp only [Item.checks, Item.formChecks, Item.locations, List.forall_mem_append,
    List.forall_mem_cons, Check.passes_demand_iff] at passing
  obtain ⟨released, ⟨form, _⟩, new, _⟩ := passing
  refine ⟨released, isValidId_iff.2 form, ?_, by simp [Context.including, Item.needsId]⟩
  cases named : context.id with
  | none => rfl
  | some current => exact absurd ⟨current, named, rfl⟩ (new (.idAlreadySet current))

theorem addPermission_ok
    {permission : String}
    (result : context.addPermission permission = .ok next) :
    context.latched = false ∧ isValidPermission permission = true ∧
      permission ∉ context.permissions ∧
      next = { context with
        permissions := context.permissions.insert permission
        needsId := true } := by
  obtain ⟨passing, rfl⟩ :=
    (Edit.stage_obeys (fun _ => .error .notText) context (.permission permission)).attempt_ok result
  simp only [Item.checks, Item.formChecks, Item.newnessCheck, Item.locations,
    List.forall_mem_append, List.forall_mem_cons, Check.passes_demand_iff] at passing
  obtain ⟨released, ⟨form, _⟩, new, _⟩ := passing
  exact ⟨released, isValidPermission_iff.2 form, new,
    by simp [Context.including, Item.needsId]⟩

theorem addPath_ok
    {inspect : Inspection} {path : String} {kind : Kind}
    (result : context.addPath inspect path kind = .ok next) :
    context.latched = false ∧ isValidPath path = true ∧
      (∀ entry ∈ context.paths, ¬Path.Same entry.path path) ∧
      probe inspect kind.needsDirectory path = .ok () ∧
      next = { context with
        needsId := context.needsId || kind.needsId
        paths := context.paths ++ [⟨path, kind⟩] } := by
  obtain ⟨passing, rfl⟩ :=
    (Edit.stage_obeys inspect context (.path ⟨path, kind⟩)).attempt_ok result
  simp only [Item.checks, Item.formChecks, Item.newnessCheck, Item.locations, List.map_cons,
    List.forall_mem_append, List.forall_mem_cons, Check.passes_demand_iff,
    passes_misplaced_iff] at passing
  obtain ⟨released, ⟨form, _⟩, new, found, _⟩ := passing
  exact ⟨released, isValidPath_iff.2 form, new, found, rfl⟩

theorem addPlug_ok
    {inspect : Inspection} {plug : Plug}
    (result : context.addPlug inspect plug = .ok next) :
    context.latched = false ∧ isValidPath plug.exportDirectory = true ∧
      isValidPath plug.importDirectory = true ∧ isValidId plug.importId = true ∧
      (∀ other ∈ context.plugs, ¬Path.Same other.importDirectory plug.importDirectory) ∧
      probe inspect true plug.exportDirectory = .ok () ∧
      probe inspect true plug.importDirectory = .ok () ∧
      next = { context with plugs := context.plugs ++ [plug], needsId := true } := by
  obtain ⟨passing, rfl⟩ := (Edit.stage_obeys inspect context (.plug plug)).attempt_ok result
  simp only [Item.checks, Item.formChecks, Item.newnessCheck, Item.locations, List.map_cons,
    List.forall_mem_append, List.forall_mem_cons, Check.passes_demand_iff,
    passes_misplaced_iff] at passing
  obtain ⟨released, ⟨exported, imported, importer, _⟩, new, exporting, importing, _⟩ := passing
  exact ⟨released, isValidPath_iff.2 exported, isValidPath_iff.2 imported,
    isValidId_iff.2 importer, new, exporting, importing,
    by simp [Context.including, Item.needsId]⟩

/-! ## What needs an identifier -/

/-- Where no identifier is needed, nothing is staged but plain paths. -/
structure Context.Coherent (context : Context) : Prop where
  plugs : context.needsId = false → context.plugs = []
  permissions : context.needsId = false → context.permissions = TextSet.empty
  paths : context.needsId = false → ∀ entry ∈ context.paths, entry.kind = .plain

theorem Kind.needsId_eq_false_iff {kind : Kind} : kind.needsId = false ↔ kind = .plain := by
  cases kind <;> decide

theorem Context.coherent_empty : Context.empty.Coherent :=
  ⟨fun _ => rfl, fun _ => rfl, fun _ _ member => by cases member⟩

/-- What needs an identifier says so when it is staged. -/
theorem Operation.coherent_outcome
    (coherent : context.Coherent)
    {operation : Operation}
    (result : operation.outcome context = .ok next) :
    next.Coherent := by
  cases operation with
  | setId id =>
      obtain ⟨_, _, _, rfl⟩ := setId_ok result
      exact ⟨coherent.plugs, coherent.permissions, coherent.paths⟩
  | addPermission permission =>
      obtain ⟨_, _, _, rfl⟩ := addPermission_ok result
      constructor <;> (intro needless; cases needless)
  | addPath inspect path kind =>
      obtain ⟨_, _, _, _, rfl⟩ := addPath_ok result
      constructor
      · intro needless
        exact coherent.plugs (Bool.or_eq_false_iff.1 needless).1
      · intro needless
        exact coherent.permissions (Bool.or_eq_false_iff.1 needless).1
      · intro needless entry member
        rcases List.mem_append.1 member with earlier | last
        · exact coherent.paths (Bool.or_eq_false_iff.1 needless).1 entry earlier
        · rw [List.mem_singleton.1 last]
          exact Kind.needsId_eq_false_iff.1 (Bool.or_eq_false_iff.1 needless).2
  | addPlug inspect plug =>
      obtain ⟨_, _, _, _, _, _, _, rfl⟩ := addPlug_ok result
      constructor <;> (intro needless; cases needless)
  | raise =>
      cases result
      exact ⟨coherent.plugs, coherent.permissions, coherent.paths⟩
  | clear =>
      cases result
      exact Context.coherent_empty

/-- A context that needs no identifier holds nothing that would need one. -/
theorem Reachable.coherent (reachable : Reachable context) : context.Coherent :=
  reachable.invariant Context.coherent_empty Operation.coherent_outcome

/-- Where an identifier is needed, something is staged that needs one. -/
def Context.Justified (context : Context) : Prop :=
  context.needsId = true →
    context.plugs ≠ [] ∨ context.permissions ≠ TextSet.empty ∨
      ∃ entry ∈ context.paths, entry.kind ≠ .plain

theorem Context.justified_empty : Context.empty.Justified := by
  intro needed
  cases needed

/-- An identifier is needed only from when something is staged that needs one. -/
theorem Operation.justified_outcome
    (justified : context.Justified)
    {operation : Operation}
    (result : operation.outcome context = .ok next) :
    next.Justified := by
  intro needed
  cases operation with
  | setId id =>
      obtain ⟨_, _, _, rfl⟩ := setId_ok result
      exact justified needed
  | addPermission permission =>
      obtain ⟨_, _, _, rfl⟩ := addPermission_ok result
      refine .inr (.inl ?_)
      intro nothing
      have member : permission ∈ context.permissions.insert permission :=
        TextSet.mem_insert.2 (.inl rfl)
      rw [show context.permissions.insert permission = TextSet.empty from nothing] at member
      cases member
  | addPath inspect path kind =>
      obtain ⟨_, _, _, _, rfl⟩ := addPath_ok result
      cases particular : kind.needsId with
      | true =>
          refine .inr (.inr ⟨⟨path, kind⟩, List.mem_append_right _ List.mem_cons_self, ?_⟩)
          intro plain
          rw [Kind.needsId_eq_false_iff.2 plain] at particular
          cases particular
      | false =>
          have already : context.needsId = true := by
            rwa [show (_ || kind.needsId) = _ from by rw [particular, Bool.or_false]] at needed
          rcases justified already with plugs | permissions | ⟨entry, member, special⟩
          · exact .inl plugs
          · exact .inr (.inl permissions)
          · exact .inr (.inr ⟨entry, List.mem_append_left _ member, special⟩)
  | addPlug inspect plug =>
      obtain ⟨_, _, _, _, _, _, _, rfl⟩ := addPlug_ok result
      exact .inl (List.append_ne_nil_of_right_ne_nil _ (List.cons_ne_nil _ _))
  | raise =>
      cases result
      exact justified needed
  | clear =>
      cases result
      cases needed

theorem Reachable.justified (reachable : Reachable context) : context.Justified :=
  reachable.invariant Context.justified_empty Operation.justified_outcome

/-- The flag tells exactly whether nothing is staged but plain paths. -/
theorem Reachable.needsId_eq_false_iff
    (reachable : Reachable context) :
    context.needsId = false ↔
      context.plugs = [] ∧ context.permissions = TextSet.empty ∧
        ∀ entry ∈ context.paths, entry.kind = .plain := by
  constructor
  · intro needless
    have coherent := reachable.coherent
    exact ⟨coherent.plugs needless, coherent.permissions needless, coherent.paths needless⟩
  · rintro ⟨plugs, permissions, paths⟩
    cases needed : context.needsId with
    | false => rfl
    | true =>
        rcases reachable.justified needed with some | some | ⟨entry, member, special⟩
        · exact absurd plugs some
        · exact absurd permissions some
        · exact absurd (paths entry member) special

/-! ## Identifiers -/

/-- Every identifier in a context is valid, its own and those of importers. -/
structure Context.ValidIds (context : Context) : Prop where
  own : ∀ id, context.id = some id → isValidId id = true
  importers : ∀ plug ∈ context.plugs, isValidId plug.importId = true

theorem Context.validIds_empty : Context.empty.ValidIds where
  own id named := by cases named
  importers plug member := by cases member

theorem Operation.validIds_outcome
    (valid : context.ValidIds)
    {operation : Operation}
    (result : operation.outcome context = .ok next) :
    next.ValidIds := by
  cases operation with
  | setId id =>
      obtain ⟨_, validId, _, rfl⟩ := setId_ok result
      exact ⟨fun other named => Option.some.inj named ▸ validId, valid.importers⟩
  | addPermission permission =>
      obtain ⟨_, _, _, rfl⟩ := addPermission_ok result
      exact ⟨valid.own, valid.importers⟩
  | addPath inspect path kind =>
      obtain ⟨_, _, _, _, rfl⟩ := addPath_ok result
      exact ⟨valid.own, valid.importers⟩
  | addPlug inspect plug =>
      obtain ⟨_, _, _, validImporter, _, _, _, rfl⟩ := addPlug_ok result
      refine ⟨valid.own, ?_⟩
      intro other member
      rcases List.mem_append.1 member with earlier | added
      · exact valid.importers other earlier
      · rw [List.mem_singleton.1 added]
        exact validImporter
  | raise =>
      cases result
      exact ⟨valid.own, valid.importers⟩
  | clear =>
      cases result
      exact Context.validIds_empty

theorem Reachable.validIds (reachable : Reachable context) : context.ValidIds :=
  reachable.invariant Context.validIds_empty Operation.validIds_outcome

end Confinement.Staging
