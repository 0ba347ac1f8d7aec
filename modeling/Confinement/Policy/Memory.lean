import Confinement.Policy.Backend

/-!
# Permissions kept in memory

`Grants` is a map from labels to permission sets.  `Grants.of` is its view: the permissions of a
label, none for a label never heard of.
-/

namespace Confinement.Policy

/-- The permissions of each label. -/
structure Grants where
  /-- The labels with their permissions; the first entry of a label counts. -/
  entries : List (String × TextSet)
  deriving DecidableEq

namespace Grants

/-- No label holds anything. -/
def empty : Grants := ⟨[]⟩

def of (grants : Grants) (label : String) : TextSet :=
  (grants.entries.lookup label).getD TextSet.empty

/-- Gives a label exactly these permissions. -/
def set (grants : Grants) (label : String) (permissions : TextSet) : Grants :=
  ⟨(label, permissions) :: grants.entries.filter (fun entry => entry.1 ≠ label)⟩

def erase (grants : Grants) (label : String) : Grants :=
  ⟨grants.entries.filter (fun entry => entry.1 ≠ label)⟩

theorem lookup_filter_ne (entries : List (String × TextSet)) {label other : String}
    (different : other ≠ label) :
    (entries.filter (fun entry => entry.1 ≠ label)).lookup other = entries.lookup other := by
  induction entries with
  | nil => rfl
  | cons entry rest hypothesis =>
    obtain ⟨key, permissions⟩ := entry
    by_cases removed : key = label
    · have apart : (other == key) = false :=
        beq_eq_false_iff_ne.2 (fun same => different (same.trans removed))
      rw [List.filter_cons_of_neg (by simp [removed]), List.lookup_cons, apart]
      exact hypothesis
    · rw [List.filter_cons_of_pos (by simp [removed]), List.lookup_cons, List.lookup_cons]
      split
      · rfl
      · exact hypothesis

theorem lookup_filter_self (entries : List (String × TextSet)) (label : String) :
    (entries.filter (fun entry => entry.1 ≠ label)).lookup label = none := by
  induction entries with
  | nil => rfl
  | cons entry rest hypothesis =>
    obtain ⟨key, permissions⟩ := entry
    by_cases removed : key = label
    · rw [List.filter_cons_of_neg (by simp [removed])]
      exact hypothesis
    · have apart : (label == key) = false :=
        beq_eq_false_iff_ne.2 (fun same => removed same.symm)
      rw [List.filter_cons_of_pos (by simp [removed]), List.lookup_cons, apart]
      exact hypothesis

@[simp]
theorem of_set (grants : Grants) (label other : String) (permissions : TextSet) :
    (grants.set label permissions).of other =
      if other = label then permissions else grants.of other := by
  by_cases same : other = label
  · simp [of, set, same]
  · have apart : (other == label) = false := beq_eq_false_iff_ne.2 same
    rw [if_neg same]
    unfold of set
    rw [List.lookup_cons, apart]
    exact congrArg (Option.getD · TextSet.empty) (lookup_filter_ne grants.entries same)

@[simp]
theorem of_erase (grants : Grants) (label other : String) :
    (grants.erase label).of other = if other = label then TextSet.empty else grants.of other := by
  by_cases same : other = label
  · subst same
    rw [if_pos rfl]
    unfold of erase
    rw [lookup_filter_self]
    rfl
  · rw [if_neg same]
    unfold of erase
    rw [lookup_filter_ne grants.entries same]

/-- Gives permissions to a label, in place of those it holds when `replace` is set. -/
def add (grants : Grants) (label : String) (permissions : TextSet) (replace : Bool) : Grants :=
  grants.set label
    ((if replace then TextSet.empty else grants.of label).union permissions)

end Grants

/-- The store that keeps permissions in a part of the world and never fails. -/
def memoryStore {World : Type} (grants : Part World Grants) : PermissionStore World where
  name := "memory"
  check label permission := fun world =>
    (.ok (decide (permission ∈ (grants.get world).of label)), world)
  add label permissions replace := fun world =>
    (.ok (), grants.put ((grants.get world).add label permissions replace) world)
  drop label := fun world => (.ok (), grants.put ((grants.get world).erase label) world)

end Confinement.Policy
