import Confinement.Text.Utf8

/-!
# Sets of texts

A `TextSet` is a finite set of texts listed in ascending order.  The list is strictly ascending by
its type, so two sets with the same members are equal (`ext`).
-/

namespace Confinement

/-- A finite set of texts in ascending order. -/
structure TextSet where
  items : List String
  ascending : items.Pairwise (· < ·)
  deriving DecidableEq

namespace TextSet

instance : Membership String TextSet := ⟨fun set item => item ∈ set.items⟩

theorem mem_iff {set : TextSet} {item : String} : item ∈ set ↔ item ∈ set.items := Iff.rfl

theorem nodup_items (set : TextSet) : set.items.Nodup :=
  set.ascending.imp fun less => Std.ne_of_lt less

@[ext]
theorem ext {left right : TextSet} (same : ∀ item, item ∈ left ↔ item ∈ right) : left = right := by
  have reordered := (List.perm_ext_iff_of_nodup left.nodup_items right.nodup_items).2 same
  have equal : left.items = right.items :=
    reordered.eq_of_pairwise (fun _ _ _ _ less more => absurd more (String.lt_asymm less))
      left.ascending right.ascending
  cases left
  cases right
  cases equal
  rfl

instance (item : String) (set : TextSet) : Decidable (item ∈ set) :=
  inferInstanceAs (Decidable (item ∈ set.items))

/-- The set without members. -/
def empty : TextSet := ⟨[], List.Pairwise.nil⟩

instance : Inhabited TextSet := ⟨empty⟩

theorem exists_mem_of_ne_empty {set : TextSet} (some : set ≠ empty) : ∃ item, item ∈ set := by
  apply List.exists_mem_of_ne_nil
  intro nothing
  apply some
  cases set
  cases nothing
  rfl

/-- Puts a text at its place in an ascending list, once. -/
def place (item : String) : List String → List String
  | [] => [item]
  | first :: rest =>
    if item < first then item :: first :: rest
    else if item = first then first :: rest
    else first :: place item rest

theorem mem_place {item other : String} {items : List String} :
    other ∈ place item items ↔ other = item ∨ other ∈ items := by
  induction items with
  | nil => simp [place]
  | cons first rest hypothesis =>
    unfold place
    split
    · simp
    · split
      · rename_i same
        subst same
        simp
      · simp only [List.mem_cons, hypothesis]
        constructor <;> (rintro (one | two | three) <;> simp_all)

theorem pairwise_place {item : String} {items : List String}
    (ascending : items.Pairwise (· < ·)) : (place item items).Pairwise (· < ·) := by
  induction items with
  | nil => simp [place]
  | cons first rest hypothesis =>
    have above := (List.pairwise_cons.1 ascending).1
    have tail := (List.pairwise_cons.1 ascending).2
    unfold place
    split
    · rename_i before
      refine List.pairwise_cons.2 ⟨fun other member => ?_, ascending⟩
      rcases List.mem_cons.1 member with rfl | later
      · exact before
      · exact String.lt_trans before (above other later)
    · split
      · exact ascending
      · rename_i notBefore different
        refine List.pairwise_cons.2 ⟨fun other member => ?_, hypothesis tail⟩
        rcases mem_place.1 member with rfl | later
        · exact Std.lt_of_le_of_ne (String.not_lt.1 notBefore) (fun same => different same.symm)
        · exact above other later

def insert (set : TextSet) (item : String) : TextSet :=
  ⟨place item set.items, pairwise_place set.ascending⟩

@[simp]
theorem mem_insert {set : TextSet} {item other : String} :
    other ∈ set.insert item ↔ other = item ∨ other ∈ set := mem_place

def erase (set : TextSet) (item : String) : TextSet :=
  ⟨set.items.filter (· ≠ item), set.ascending.filter _⟩

@[simp]
theorem mem_erase {set : TextSet} {item other : String} :
    other ∈ set.erase item ↔ other ∈ set ∧ other ≠ item := by
  simp [mem_iff, erase]

/-- Adds every text of a list. -/
def insertAll (set : TextSet) (items : List String) : TextSet := items.foldl insert set

@[simp]
theorem mem_insertAll {set : TextSet} {items : List String} {other : String} :
    other ∈ set.insertAll items ↔ other ∈ set ∨ other ∈ items := by
  unfold insertAll
  induction items generalizing set with
  | nil => simp
  | cons item rest hypothesis =>
    rw [List.foldl_cons, hypothesis, mem_insert, List.mem_cons, or_assoc]
    exact or_left_comm

def ofList (items : List String) : TextSet := empty.insertAll items

/-- The members of both sets. -/
def union (left right : TextSet) : TextSet := left.insertAll right.items

@[simp]
theorem empty_union (set : TextSet) : empty.union set = set := by
  ext item
  have nothing : item ∉ empty := List.not_mem_nil
  rw [union, mem_insertAll, or_iff_right nothing]
  rfl

end TextSet

end Confinement
