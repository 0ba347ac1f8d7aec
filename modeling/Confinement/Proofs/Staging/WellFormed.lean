import Confinement.Proofs.Staging.Reachable

/-!
# What is true of every context

Whatever operations have made it, with whatever arguments and over whatever file systems, a context
is well formed (`Context.WellFormed`): everything in it has the form of its kind, no two of its
paths and no two import directories of its plugs are the same path, and it tells whether it needs an
identifier.  The identifier, once set, stays until the context is cleared (`Operation.id_leaves`).
-/

namespace Confinement.Staging

open Host

variable {context next : Context}

/-- What is staged besides identifiers: well-formed items, and no path twice. -/
structure Context.Tidy (context : Context) : Prop where
  permissions : ∀ permission ∈ context.permissions, IsPermission permission
  paths : ∀ entry ∈ context.paths, IsPath entry.path
  directories : ∀ plug ∈ context.plugs,
    IsPath plug.exportDirectory ∧ IsPath plug.importDirectory
  pathsDiffer : context.paths.Pairwise fun one other => ¬Path.Same one.path other.path
  importsDiffer : context.plugs.Pairwise fun one other =>
    ¬Path.Same one.importDirectory other.importDirectory

theorem Context.tidy_empty : Context.empty.Tidy where
  permissions _ member := by cases member
  paths _ member := by cases member
  directories _ member := by cases member
  pathsDiffer := .nil
  importsDiffer := .nil

/-- What differs from everything in a list may stand behind it. -/
theorem pairwise_concat
    {Entry : Type} {differ : Entry → Entry → Prop} {entries : List Entry} {last : Entry}
    (pairwise : entries.Pairwise differ)
    (new : ∀ entry ∈ entries, differ entry last) :
    (entries ++ [last]).Pairwise differ := by
  refine List.pairwise_append.2 ⟨pairwise, List.pairwise_singleton _ _, ?_⟩
  intro entry member other single
  rw [List.mem_singleton.1 single]
  exact new entry member

/-- Only what is well formed and new is staged. -/
theorem Operation.tidy_outcome
    (tidy : context.Tidy)
    {operation : Operation}
    (result : operation.outcome context = .ok next) :
    next.Tidy := by
  cases operation with
  | setId id =>
      obtain ⟨_, _, _, rfl⟩ := setId_ok result
      exact { tidy with }
  | addPermission permission =>
      obtain ⟨_, valid, _, rfl⟩ := addPermission_ok result
      refine { tidy with permissions := ?_ }
      intro other member
      rcases TextSet.mem_insert.1 member with rfl | earlier
      · exact isValidPermission_iff.1 valid
      · exact tidy.permissions other earlier
  | addPath inspect path kind =>
      obtain ⟨_, valid, new, _, rfl⟩ := addPath_ok result
      refine { tidy with paths := ?_, pathsDiffer := pairwise_concat tidy.pathsDiffer new }
      exact List.forall_mem_append.2
        ⟨tidy.paths, List.forall_mem_singleton.2 (isValidPath_iff.1 valid)⟩
  | addPlug inspect plug =>
      obtain ⟨_, exported, imported, _, new, _, _, rfl⟩ := addPlug_ok result
      refine { tidy with
        directories := ?_
        importsDiffer := pairwise_concat tidy.importsDiffer new }
      exact List.forall_mem_append.2 ⟨tidy.directories, List.forall_mem_singleton.2
        ⟨isValidPath_iff.1 exported, isValidPath_iff.1 imported⟩⟩
  | raise =>
      cases result
      exact { tidy with }
  | clear =>
      cases result
      exact Context.tidy_empty

theorem Reachable.tidy (reachable : Reachable context) : context.Tidy :=
  reachable.invariant Context.tidy_empty Operation.tidy_outcome

/-- What is true of a context, however it came about. -/
structure Context.WellFormed (context : Context) : Prop extends context.Tidy where
  ownId : ∀ id, context.id = some id → IsIdentifier id
  importIds : ∀ plug ∈ context.plugs, IsIdentifier plug.importId
  needsId_iff : context.needsId = true ↔
    (∃ permission, permission ∈ context.permissions) ∨ (∃ plug, plug ∈ context.plugs) ∨
      ∃ entry ∈ context.paths, entry.kind ≠ .plain

theorem Reachable.wellFormed (reachable : Reachable context) : context.WellFormed := by
  have valid := reachable.validIds
  refine { reachable.tidy with ownId := ?_, importIds := ?_, needsId_iff := ?_ }
  · intro id named
    exact isValidId_iff.1 (valid.own id named)
  · intro plug member
    exact isValidId_iff.1 (valid.importers plug member)
  · constructor
    · intro needed
      rcases reachable.justified needed with plugs | permissions | special
      · exact Or.inr (Or.inl (List.exists_mem_of_ne_nil _ plugs))
      · exact Or.inl (TextSet.exists_mem_of_ne_empty permissions)
      · exact Or.inr (Or.inr special)
    · intro some
      refine Bool.of_not_eq_false fun needless => ?_
      have coherent := reachable.coherent
      rcases some with ⟨permission, member⟩ | ⟨plug, member⟩ | ⟨entry, member, special⟩
      · rw [coherent.permissions needless] at member
        cases member
      · rw [coherent.plugs needless] at member
        cases member
      · exact special (coherent.paths needless entry member)

/-! ## The identifier over a run -/

/-- Only `clear` takes an identifier back. -/
theorem Operation.id_leaves
    {id : String} {operation : Operation}
    (named : context.id = some id)
    (kept : operation ≠ .clear) :
    (operation.leaves context).id = some id := by
  rw [leaves]
  cases result : operation.outcome context with
  | error error => exact named
  | ok next =>
      cases operation with
      | setId other =>
          obtain ⟨_, _, unnamed, _⟩ := setId_ok result
          rw [named] at unnamed
          cases unnamed
      | addPermission permission =>
          obtain ⟨_, _, _, rfl⟩ := addPermission_ok result
          exact named
      | addPath inspect path kind =>
          obtain ⟨_, _, _, _, rfl⟩ := addPath_ok result
          exact named
      | addPlug inspect plug =>
          obtain ⟨_, _, _, _, _, _, _, rfl⟩ := addPlug_ok result
          exact named
      | raise =>
          cases result
          exact named
      | clear => exact absurd rfl kept

theorem id_foldl_leaves
    {id : String} {operations : List Operation}
    (named : context.id = some id)
    (kept : .clear ∉ operations) :
    (operations.foldl Operation.leaves context).id = some id := by
  induction operations generalizing context with
  | nil => exact named
  | cons operation rest hypothesis =>
      rw [List.mem_cons, not_or] at kept
      exact hypothesis (Operation.id_leaves named (Ne.symm kept.1)) kept.2

/-! ## Runs -/

/--
After any operations, with any arguments and each over a file system of its own, the context is well
formed, and an identifier that it had at some time is still there unless it was cleared since.  Two
spellings that differ in a doubled slash or in a `.` between slashes are the same path.
-/
theorem wellFormed_after (operations : List Operation) :
    let context := operations.foldl Operation.leaves Context.empty
    context.WellFormed ∧
    (∀ earlier later id, operations = earlier ++ later → .clear ∉ later →
      (earlier.foldl Operation.leaves Context.empty).id = some id → context.id = some id) ∧
    ∀ left right, Path.Same (left ++ "//" ++ right) (left ++ "/" ++ right) ∧
      Path.Same (left ++ "/./" ++ right) (left ++ "/" ++ right) := by
  refine ⟨(Reachable.empty.steps operations).wellFormed, ?_, ?_⟩
  · rintro earlier later id rfl kept named
    rw [List.foldl_append]
    exact id_foldl_leaves named kept
  · intro left right
    exact ⟨Path.same_of_doubled_slash left right, Path.same_of_inner_dot left right⟩

/-- A second identifier, a second spelling of a path and a command behind the latch are refused. -/
def crowded : List Operation :=
  let inspect : Inspection := fun _ => .ok (.directory 0o755)
  [.setId "ab", .addPath inspect "a/b" .conf, .setId "cd", .addPath inspect "a/./b" .data, .raise,
    .addPermission "p"]

/-- What came first stays, and nothing is staged twice. -/
theorem wellFormed_after_refusals :
    (crowded.foldl Operation.leaves Context.empty).WellFormed ∧
      (crowded.foldl Operation.leaves Context.empty).id = some "ab" ∧
      (crowded.foldl Operation.leaves Context.empty).paths = [⟨"a/b", .conf⟩] := by
  obtain ⟨wellFormed, stays, _⟩ := wellFormed_after crowded
  refine ⟨wellFormed, ?_, by decide +kernel⟩
  exact stays [.setId "ab"] (crowded.drop 1) "ab" rfl (by simp [crowded]) (by decide +kernel)

end Confinement.Staging
