import Confinement.Proofs.Endpoint.References
import Confinement.Proofs.Text.Splitting

/-!
# Paths of references

Removing the dot segments of a path takes characters away and leaves no dot segment
(`rootedPath_sublist`, `isDot_of_mem_rootedPath`).  So the path of a reference is a part of what
follows the scheme, and it is all of that exactly if the path is `Verbatim`, without anything that
reading drops, cuts off or takes for an authority (`OwnScheme.path_of_parse`,
`OwnScheme.parse_of_verbatim`).
-/

namespace Confinement.Reference

open Text

/-! ## Dot segments -/

/-- Whether a segment is removed. -/
def isDot (segment : List Char) : Bool := isSingleDot segment || isDoubleDot segment

theorem dropSegment_sublist (done : List (List Char)) : (dropSegment done).Sublist done := by
  cases done with
  | nil => exact List.Sublist.refl _
  | cons segment rest =>
      rw [dropSegment]
      split
      · exact List.Sublist.refl _
      · exact (List.Sublist.refl rest).cons segment

/-- Segments that are no dot segments stay. -/
theorem removeDots_eq
    {done segments : List (List Char)}
    (plain : ∀ segment ∈ segments, isDot segment = false) :
    removeDots done segments = done.reverse ++ segments := by
  fun_induction removeDots done segments with
  | case1 done => exact (List.append_nil _).symm
  | case2 done segment double =>
      have none := (Bool.or_eq_false_iff.1 (plain segment List.mem_cons_self)).2
      exact absurd (double.symm.trans none) Bool.noConfusion
  | case3 done segment other single =>
      have none := (Bool.or_eq_false_iff.1 (plain segment List.mem_cons_self)).1
      exact absurd (single.symm.trans none) Bool.noConfusion
  | case4 done segment => exact List.reverse_cons
  | case5 done segment rest some double =>
      have none := (Bool.or_eq_false_iff.1 (plain segment List.mem_cons_self)).2
      exact absurd (double.symm.trans none) Bool.noConfusion
  | case6 done segment rest some other single =>
      have none := (Bool.or_eq_false_iff.1 (plain segment List.mem_cons_self)).1
      exact absurd (single.symm.trans none) Bool.noConfusion
  | case7 done segment rest some other another hypothesis =>
      rw [hypothesis fun other member => plain other (List.mem_cons_of_mem _ member),
        List.reverse_cons, List.append_assoc]
      rfl

/-- What is left is empty, was there before, or is no dot segment. -/
theorem mem_removeDots
    {done segments : List (List Char)} {segment : List Char}
    (member : segment ∈ removeDots done segments) :
    segment = [] ∨ segment ∈ done ∨ (segment ∈ segments ∧ isDot segment = false) := by
  fun_induction removeDots done segments with
  | case1 done => exact .inr (.inl (List.mem_reverse.1 member))
  | case2 done last double =>
      rcases List.mem_cons.1 (List.mem_reverse.1 member) with empty | before
      · exact .inl empty
      · exact .inr (.inl ((dropSegment_sublist done).subset before))
  | case3 done last other single =>
      rcases List.mem_cons.1 (List.mem_reverse.1 member) with empty | before
      · exact .inl empty
      · exact .inr (.inl before)
  | case4 done last other another =>
      rcases List.mem_cons.1 (List.mem_reverse.1 member) with rfl | before
      · refine .inr (.inr ⟨List.mem_cons_self, ?_⟩)
        exact Bool.or_eq_false_iff.2 ⟨Bool.not_eq_true _ ▸ another, Bool.not_eq_true _ ▸ other⟩
      · exact .inr (.inl before)
  | case5 done first rest some double hypothesis =>
      rcases hypothesis member with empty | before | ⟨later, plain⟩
      · exact .inl empty
      · exact .inr (.inl ((dropSegment_sublist done).subset before))
      · exact .inr (.inr ⟨List.mem_cons_of_mem _ later, plain⟩)
  | case6 done first rest some other single hypothesis =>
      rcases hypothesis member with empty | before | ⟨later, plain⟩
      · exact .inl empty
      · exact .inr (.inl before)
      · exact .inr (.inr ⟨List.mem_cons_of_mem _ later, plain⟩)
  | case7 done first rest some other another hypothesis =>
      rcases hypothesis member with empty | before | ⟨later, plain⟩
      · exact .inl empty
      · rcases List.mem_cons.1 before with rfl | before
        · refine .inr (.inr ⟨List.mem_cons_self, ?_⟩)
          exact Bool.or_eq_false_iff.2 ⟨Bool.not_eq_true _ ▸ another, Bool.not_eq_true _ ▸ other⟩
        · exact .inr (.inl before)
      · exact .inr (.inr ⟨List.mem_cons_of_mem _ later, plain⟩)

theorem removeDots_ne_nil
    {done segments : List (List Char)}
    (some : segments ≠ []) :
    removeDots done segments ≠ [] := by
  fun_induction removeDots done segments with
  | case1 => exact absurd rfl some
  | case2 => simp
  | case3 => simp
  | case4 => simp
  | case5 done segment rest more double hypothesis => exact hypothesis more
  | case6 done segment rest more other single hypothesis => exact hypothesis more
  | case7 done segment rest more other another hypothesis => exact hypothesis more

/-- Removing dot segments only takes characters away. -/
theorem joined_removeDots_sublist (done segments : List (List Char)) :
    (joined '/' (removeDots done segments)).Sublist (joined '/' (done.reverse ++ segments)) := by
  have emptied {done others : List (List Char)} (part : others.Sublist done)
      (segment : List Char) :
      (joined '/' ([] :: others).reverse).Sublist (joined '/' (done.reverse ++ [segment])) := by
    rw [List.reverse_cons, joined, joined, List.flatMap_append, List.flatMap_append]
    exact (joined_sublist part.reverse).append (by simp)
  fun_induction removeDots done segments with
  | case1 done => exact joined_sublist (List.sublist_append_left _ _)
  | case2 done segment double => exact emptied (dropSegment_sublist done) segment
  | case3 done segment other single => exact emptied (List.Sublist.refl done) segment
  | case4 done segment other another =>
      rw [List.reverse_cons]
  | case5 done segment rest some double hypothesis =>
      refine hypothesis.trans (joined_sublist ?_)
      exact (dropSegment_sublist done).reverse.append ((List.Sublist.refl rest).cons segment)
  | case6 done segment rest some other single hypothesis =>
      refine hypothesis.trans (joined_sublist ?_)
      exact (List.Sublist.refl done.reverse).append ((List.Sublist.refl rest).cons segment)
  | case7 done segment rest some other another hypothesis =>
      rw [List.reverse_cons, List.append_assoc] at hypothesis
      exact hypothesis

/-! ## Rooted paths -/

theorem toList_rootedPath (chars : List Char) :
    (rootedPath .plain chars).toList = joined '/' (removeDots [] (chars.splitOn '/')) := by
  rw [rootedPath, String.toList_ofList]
  rfl

theorem rootedPath_sublist (chars : List Char) :
    (rootedPath .plain chars).toList.Sublist ('/' :: chars) := by
  rw [toList_rootedPath, ← joined_splitOn]
  exact joined_removeDots_sublist [] _

theorem pathAfterAuthority_sublist (chars : List Char) :
    (pathAfterAuthority .plain chars).toList.Sublist ('/' :: chars) := by
  have cut := List.takeWhile_sublist (fun c => !endsPath c) (l := chars)
  rw [pathAfterAuthority]
  split
  · exact List.nil_sublist _
  · rename_i first rest taken
    rw [taken] at cut
    split
    · have behind : rest.Sublist chars := (List.sublist_cons_self first rest).trans cut
      exact (rootedPath_sublist rest).trans (behind.cons_cons '/')
    · exact (rootedPath_sublist _).trans (cut.cons_cons '/')

/-- A path without dot segments is kept. -/
theorem rootedPath_eq
    {chars : List Char}
    (plain : ∀ segment ∈ chars.splitOn '/', isDot segment = false) :
    rootedPath .plain chars = String.ofList ('/' :: chars) := by
  apply String.toList_injective
  rw [toList_rootedPath, removeDots_eq plain, String.toList_ofList]
  exact joined_splitOn '/' chars

/-- No dot segment is left in a path. -/
theorem isDot_of_mem_rootedPath
    {chars segment : List Char}
    (member : segment ∈ (rootedPath .plain chars).toList.splitOn '/') :
    isDot segment = false := by
  have inner : ∀ segment ∈ removeDots [] (chars.splitOn '/'), '/' ∉ segment := by
    intro segment member
    rcases mem_removeDots member with rfl | before | ⟨inside, _⟩
    · exact List.not_mem_nil
    · exact absurd before List.not_mem_nil
    · exact not_mem_of_mem_splitOn inside
  rw [toList_rootedPath, splitOn_joined (removeDots_ne_nil (List.splitOn_ne_nil '/' chars)) inner]
    at member
  rcases List.mem_cons.1 member with rfl | among
  · rfl
  · rcases mem_removeDots among with rfl | before | ⟨_, plain⟩
    · rfl
    · exact absurd before List.not_mem_nil
    · exact plain

/-! ## Paths that stand for themselves -/

/-- Whether the form of a path lets it be read as it is written, given that all of it counts. -/
structure Shaped (path : List Char) : Prop where
  /-- Neither a query nor a fragment begins in the path. -/
  whole : ∀ c ∈ path, endsPath c = false
  /-- The path does not begin as an authority does. -/
  single : ¬['/', '/'] <+: path
  dotless : path.head? = some '/' → ∀ segment ∈ path.splitOn '/', isDot segment = false

/-- Whether a path is read from behind a scheme as it is written. -/
structure Verbatim (path : List Char) : Prop extends Shaped path where
  unbroken : ∀ c ∈ path, isBreak c = false
  /-- The path does not end in a blank or control character. -/
  last : ∀ some : path ≠ [], isEdge (path.getLast some) = false

instance (path : List Char) : Decidable (Shaped path) :=
  decidable_of_iff
    ((path.all fun c => !endsPath c) = true ∧ ¬['/', '/'] <+: path ∧
      (path.head? = some '/' → ∀ segment ∈ path.splitOn '/', isDot segment = false))
    ⟨fun ⟨whole, single, dotless⟩ => ⟨by simpa using whole, single, dotless⟩,
      fun ⟨whole, single, dotless⟩ => ⟨by simpa using whole, single, dotless⟩⟩

instance (path : List Char) : Decidable (Verbatim path) :=
  decidable_of_iff
    (Shaped path ∧ (path.all fun c => !isBreak c) = true ∧
      ∀ some : path ≠ [], isEdge (path.getLast some) = false)
    ⟨fun ⟨shaped, unbroken, last⟩ => ⟨shaped, by simpa using unbroken, last⟩,
      fun ⟨shaped, unbroken, last⟩ => ⟨shaped, by simpa using unbroken, last⟩⟩

/-- Nothing is cut off from what is taken to its end. -/
theorem endsPath_of_takeWhile
    {chars : List Char}
    (all : chars.Sublist (chars.takeWhile fun c => !endsPath c)) :
    ∀ c ∈ chars, endsPath c = false := by
  intro c member
  have kept := List.mem_takeWhile_imp (all.subset member)
  rwa [Bool.not_eq_true'] at kept

theorem shaped_of_relative
    {chars : List Char}
    (relative : chars.head? ≠ some '/')
    (all : chars.takeWhile (fun c => !endsPath c) = chars) :
    Shaped chars := by
  refine ⟨endsPath_of_takeWhile ?_, ?_, fun rooted => absurd rooted relative⟩
  · rw [all]
  · rintro ⟨rest, rfl⟩
    exact relative rfl

theorem shaped_of_rooted
    {rest : List Char}
    (alone : rest.head? ≠ some '/')
    (all : (rootedPath .plain (rest.takeWhile fun c => !endsPath c)).toList = '/' :: rest) :
    Shaped ('/' :: rest) := by
  have inside := rootedPath_sublist (rest.takeWhile fun c => !endsPath c)
  rw [all] at inside
  have whole := endsPath_of_takeWhile (List.cons_sublist_cons.1 inside)
  refine ⟨?_, ?_, ?_⟩
  · intro c member
    rcases List.mem_cons.1 member with rfl | later
    · rfl
    · exact whole c later
  · rintro ⟨others, same⟩
    rw [← (List.cons.inj same).2] at alone
    exact alone rfl
  · intro _ segment member
    rw [← all] at member
    exact isDot_of_mem_rootedPath member

/-- The path of a reference is a part of what counts behind its scheme. -/
theorem path_of_split
    {text scheme : String} {chars : List Char} {reference : Reference}
    (split : splitScheme? (significant text) = some (scheme, chars))
    (plain : SchemeClass.of scheme = .plain)
    (read : parse text = .ok reference) :
    reference.scheme = scheme ∧ reference.path.toList.Sublist chars ∧
      (reference.path.toList = chars → Shaped chars) := by
  by_cases rooted : chars.head? = some '/'
  · obtain ⟨rest, rfl⟩ := List.head?_eq_some_iff.1 rooted
    by_cases double : rest.head? = some '/'
    · -- The path behind an authority is too short to be all of what follows the scheme.
      obtain ⟨others, rfl⟩ := List.head?_eq_some_iff.1 double
      rw [parse_of_authority split plain] at read
      obtain ⟨user, behind, part, read⟩ := ofAuthority_ok read
      obtain ⟨host, port, after, _, _, inner, rfl⟩ := ofHost_ok read
      have inside : (pathAfterAuthority .plain after).toList.Sublist ('/' :: others) :=
        (pathAfterAuthority_sublist after).trans ((inner.trans part).cons_cons '/')
      refine ⟨rfl, inside.cons '/', ?_⟩
      intro all
      have bound := inside.length_le
      rw [all] at bound
      simp only [List.length_cons] at bound
      omega
    · rw [parse_of_root split plain double] at read
      cases read
      have cut := List.takeWhile_sublist (fun c => !endsPath c) (l := rest)
      exact ⟨rfl, (rootedPath_sublist _).trans (cut.cons_cons '/'), shaped_of_rooted double⟩
  · rw [parse_of_relative split plain rooted] at read
    cases read
    rw [String.toList_ofList]
    exact ⟨rfl, List.takeWhile_sublist _, shaped_of_relative rooted⟩

/-- Whether letters are a scheme that is neither of the web nor `file`. -/
structure OwnScheme (front : List Char) : Prop where
  some : front ≠ []
  letters : ∀ c ∈ front, c.isAlpha = true
  plain : SchemeClass.of (String.ofList (front.map Char.toLower)) = .plain

namespace OwnScheme

variable {front path : List Char} {reference : Reference}

/-- A path that is read as it is written is verbatim, and what is read is always a part of it. -/
theorem path_of_parse
    (own : OwnScheme front)
    (read : parse (String.ofList (front ++ ':' :: path)) = .ok reference) :
    reference.scheme = String.ofList (front.map Char.toLower) ∧
      reference.path.toList.Sublist path ∧ (reference.path.toList = path → Verbatim path) := by
  obtain ⟨scheme, part, shape⟩ :=
    path_of_split (splitScheme?_significant own.some own.letters path) own.plain read
  refine ⟨scheme, part.trans (counted_sublist path), ?_⟩
  intro all
  rw [all] at part shape
  have counts : counted path = path := (counted_sublist path).antisymm part
  obtain ⟨unbroken, last⟩ := counted_eq_self_iff.1 counts
  rw [counts] at shape
  exact ⟨shape rfl, unbroken, last⟩

/-- A verbatim path is read as it is written. -/
theorem parse_of_verbatim
    (own : OwnScheme front)
    (verbatim : Verbatim path) :
    parse (String.ofList (front ++ ':' :: path)) =
      .ok ⟨String.ofList (front.map Char.toLower), none, none, decide (path.head? ≠ .some '/'),
        String.ofList path⟩ := by
  have split := splitScheme?_significant own.some own.letters path
  rw [counted_eq_self_iff.2 ⟨verbatim.unbroken, verbatim.last⟩] at split
  have uncut {chars : List Char} (within : ∀ c ∈ chars, endsPath c = false) :
      chars.takeWhile (fun c => !endsPath c) = chars := by
    rw [List.takeWhile_eq_self_iff]
    intro c member
    rw [within c member]
    rfl
  by_cases rooted : path.head? = .some '/'
  · obtain ⟨rest, rfl⟩ := List.head?_eq_some_iff.1 rooted
    have alone : rest.head? ≠ .some '/' := by
      intro double
      obtain ⟨others, rfl⟩ := List.head?_eq_some_iff.1 double
      exact verbatim.single ⟨others, rfl⟩
    have dotless : ∀ segment ∈ rest.splitOn '/', isDot segment = false := by
      intro segment member
      apply verbatim.dotless rfl
      rw [List.splitOn_cons_eq_if_modifyHead, if_pos (by decide)]
      exact List.mem_cons_of_mem _ member
    rw [parse_of_root split own.plain alone,
      uncut fun c member => verbatim.whole c (List.mem_cons_of_mem _ member), rootedPath_eq dotless]
    rfl
  · rw [parse_of_relative split own.plain rooted, uncut verbatim.whole, decide_eq_true rooted]

end OwnScheme

end Confinement.Reference
