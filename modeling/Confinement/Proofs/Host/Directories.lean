import Confinement.Proofs.Host.Places
import Confinement.Proofs.Text.Splitting

/-!
# Directories that are made

A path along which directories were made without a failure leads to a directory
(`isDirectory_of_makeDirectories`).  When the failure is that something exists, then one of the
ancestors of the path is obstructed: something stands there that leads to no directory
(`obstructed_of_makeDirectories`).
-/

namespace Confinement.Host

/-! ## Parents of paths -/

namespace Path

/-- Segments whose last one is not empty are joined without a slash at the end. -/
theorem getLast?_ofSegments_ne
    {parts : List String}
    (whole : ∀ part ∈ parts, '/' ∉ part.toList)
    (last : parts.getLast? ≠ some "") :
    (ofSegments parts).toList.getLast? ≠ some '/' := by
  by_cases nothing : parts = []
  · subst nothing
    decide
  · intro slash
    obtain ⟨front, ends⟩ := List.getLast?_eq_some_iff.1 slash
    have cut : (ofSegments parts).toList.splitOn '/' = parts.map String.toList := by
      rw [ofSegments, String.toList_intercalate]
      exact List.splitOn_intercalate '/' (by simpa using whole) (by simpa using nothing)
    rw [ends, List.splitOn_append_cons_self, List.splitOn_nil] at cut
    have empty := congrArg List.getLast? cut
    rw [List.getLast?_concat, List.getLast?_map] at empty
    obtain ⟨part, final, bare⟩ := Option.map_eq_some_iff.1 empty.symm
    rw [String.toList_eq_nil_iff.1 bare] at final
    exact last final

theorem getLast?_dropNull_ne (parts : List String) :
    (dropTrailing.dropNull parts).getLast? ≠ some "" := by
  rw [dropTrailing.dropNull, List.getLast?_reverse]
  intro empty
  have kept :=
    List.head?_dropWhile_not (fun segment => segment == "" || segment == ".") parts.reverse
  rw [empty] at kept
  cases kept

theorem getLast?_dropTrailing_ne (absolute : Bool) (parts : List String) :
    (dropTrailing absolute parts).getLast? ≠ some "" := by
  cases absolute with
  | true => exact getLast?_dropNull_ne parts
  | false =>
      cases parts with
      | nil => exact nofun
      | cons segment rest =>
          rw [dropTrailing]
          split
          · exact nofun
          · rename_i counts
            intro empty
            rw [List.getLast?_cons] at empty
            cases kept : (dropTrailing.dropNull rest).getLast? with
            | none =>
                rw [kept] at empty
                refine counts ⟨?_, Option.some.inj empty⟩
                rw [List.isEmpty_iff]
                exact List.getLast?_eq_none_iff.1 kept
            | some last =>
                rw [kept] at empty
                obtain rfl : last = "" := Option.some.inj empty
                exact getLast?_dropNull_ne rest kept

theorem mem_of_mem_dropTrailing
    {absolute : Bool} {parts : List String} {part : String}
    (member : part ∈ dropTrailing absolute parts) :
    part ∈ parts := by
  have inner {rest : List String} (member : part ∈ dropTrailing.dropNull rest) : part ∈ rest := by
    rw [dropTrailing.dropNull, List.mem_reverse] at member
    exact List.mem_reverse.1 ((List.dropWhile_suffix _).subset member)
  cases absolute with
  | true => exact inner member
  | false =>
      cases parts with
      | nil => exact member
      | cons segment rest =>
          rw [dropTrailing] at member
          split at member
          · cases member
          · rcases List.mem_cons.1 member with rfl | later
            · exact List.mem_cons_self
            · exact List.mem_cons_of_mem _ (inner later)

/-- A parent is put together from segments of the path, the last of which is not empty. -/
theorem exists_segments_of_parent
    {path parent : String}
    (found : parent? path = some parent) :
    ∃ parts : List String, (∀ part ∈ parts, part ∈ segments path) ∧ parts.getLast? ≠ some "" ∧
      parent = if isAbsolute path then "/" ++ ofSegments parts else ofSegments parts := by
  rw [parent?] at found
  split at found
  · cases found
  · cases found
    refine ⟨_, ?_, getLast?_dropTrailing_ne _ _, rfl⟩
    intro part member
    have kept := mem_of_mem_dropTrailing
      ((List.dropLast_sublist _).subset (mem_of_mem_dropTrailing member))
    split at kept
    · exact List.mem_of_mem_drop kept
    · exact kept

/-- A parent ends in a slash only if it is the root. -/
theorem getLast?_parent_ne
    {path parent : String}
    (found : parent? path = some parent)
    (below : parent ≠ "/") :
    parent.toList.getLast? ≠ some '/' := by
  obtain ⟨parts, inside, last, rfl⟩ := exists_segments_of_parent found
  have plain : (ofSegments parts).toList.getLast? ≠ some '/' := by
    apply getLast?_ofSegments_ne _ last
    intro part member
    obtain ⟨chars, cut, rfl⟩ := List.mem_map.1 (inside part member)
    rw [String.toList_ofList]
    exact Text.not_mem_of_mem_splitOn cut
  split
  · rename_i absolute
    rw [if_pos absolute] at below
    cases chars : (ofSegments parts).toList with
    | nil => exact absurd (by rw [String.toList_eq_nil_iff.1 chars]; rfl) below
    | cons first rest =>
        rw [chars] at plain
        rw [String.toList_append, chars, List.getLast?_append]
        rw [List.getLast?_cons] at plain ⊢
        exact plain
  · exact plain

/-- A path among the ancestors of another is that path itself or a parent. -/
theorem eq_or_parent_of_mem_ancestors
    {path ancestor : String}
    (member : ancestor ∈ ancestors path) :
    ancestor = path ∨ ∃ child, parent? child = some ancestor := by
  rw [ancestors] at member
  generalize path.length = fuel at member
  induction fuel generalizing path with
  | zero => exact .inl (List.mem_singleton.1 member)
  | succ fuel hypothesis =>
      rw [ancestorsFrom] at member
      split at member
      · rename_i parent found
        rcases List.mem_cons.1 member with rfl | later
        · exact .inl rfl
        · rcases hypothesis later with rfl | further
          · exact .inr ⟨path, found⟩
          · exact .inr further
      · exact .inl (List.mem_singleton.1 member)

theorem head?_ancestors (path : String) : (ancestors path).head? = some path := by
  rw [ancestors]
  cases path.length with
  | zero => rfl
  | succ fuel =>
      rw [ancestorsFrom]
      split <;> rfl

end Path

/-! ## Making directories -/

namespace FileTree

variable {tree next : FileTree} {mode : Nat} {path : String}

theorem isDirectory_iff :
    tree.isDirectory path = true ↔
      ∃ place mode, tree.locate true path = .ok (.present place (.directory mode)) := by
  rw [isDirectory, stat]
  constructor
  · intro directory
    cases located : tree.locate true path with
    | error cause =>
        rw [located] at directory
        cases directory
    | ok spot =>
        rw [located] at directory
        cases spot with
        | vacant parent name => cases directory
        | present place node =>
            cases node with
            | directory mode => exact ⟨place, mode, rfl⟩
            | file | link | socket => cases directory
  · rintro ⟨place, mode, located⟩
    rw [located]
    rfl

/-- A path that leads to a directory still does when nothing has gone. -/
theorem isDirectory_of_extends
    (extension : tree.Extends next)
    (directory : tree.isDirectory path = true) :
    next.isDirectory path = true := by
  obtain ⟨place, mode, located⟩ := isDirectory_iff.1 directory
  have stands : next.lookup (Spot.present place (.directory mode)).place = some (.directory mode) :=
    extension.kept _ _ (locate_shows located)
  exact isDirectory_iff.2 ⟨place, mode,
    locate_of_grows extension.grows stands (fun _ same => by cases same) located⟩

/-- A path that ends in no slash, unless it is the root. -/
def Trimmed (path : String) : Prop := withoutTrailingSlashes path = path

theorem trimmed_of_parent
    {child : String}
    (found : Path.parent? child = some path) :
    Trimmed path := by
  by_cases root : path = "/"
  · rw [root, Trimmed]
    decide
  · exact withoutTrailingSlashes_eq_self (Path.getLast?_parent_ne found root)

theorem isDirectory_of_makeDirectory
    (trimmed : Trimmed path)
    (made : tree.makeDirectory mode path = .ok next) :
    next.isDirectory path = true := by
  have extension := (furnished_makeDirectory made).extension
  rw [makeDirectory, trimmed] at made
  split at made
  · cases made
  · cases made
  · rename_i parent name located
    obtain ⟨_, rfl⟩ := create_eq_ok_iff.1 made
    have stands : (tree.add (parent ++ [name]) (.directory mode)).lookup
        (Spot.vacant parent name).place = some (.directory mode) := by
      rw [lookup_add]
      exact if_pos rfl
    exact isDirectory_iff.2 ⟨_, mode,
      locate_of_grows extension.grows stands (fun _ same => by cases same) located⟩

/-- Whether something that leads to no directory stands at a path. -/
structure Obstructed (tree : FileTree) (path : String) : Prop where
  stands : ∃ node, tree.linkStat path = .ok node
  leads : tree.isDirectory path = false

theorem walkWith_ne_exists
    {follow : Bool} {detour : Place → List String → Except Errno Spot}
    (onward : ∀ here names, detour here names ≠ .error .exists)
    (here : Place) (names : List String) :
    tree.walkWith follow detour here names ≠ .error .exists := by
  fun_induction walkWith tree follow detour here names with
  | case3 here rest allowed hypothesis => exact hypothesis
  | case4 here rest allowed notDot hypothesis => exact hypothesis
  | case8 here name rest allowed notDot notUp short place mode directory hypothesis =>
      exact hypothesis
  | case10 => exact onward _ _
  | case1 | case2 | case5 | case6 | case7 | case9 | case11 | case12 | case13 => rintro ⟨⟩

/-- That something exists is no failure of a walk. -/
theorem locate_ne_exists (tree : FileTree) (follow : Bool) (path : String) :
    tree.locate follow path ≠ .error (.os .exists) := by
  have walked (links : Nat) (here : Place) (names : List String) :
      tree.walk follow links here names ≠ .error .exists := by
    induction links generalizing here names with
    | zero =>
        rw [walk]
        exact walkWith_ne_exists (fun _ _ same => by cases same) here names
    | succ links hypothesis => exact walkWith_ne_exists hypothesis here names
  have fitting : checkPath path ≠ some (.os .exists) := by
    rw [checkPath]
    split
    · rintro ⟨⟩
    · split
      · rintro ⟨⟩
      · split <;> rintro ⟨⟩
  rw [locate]
  intro failed
  split at failed
  · rename_i unfit
    cases failed
    exact fitting unfit
  · have other := walked linkLimit (origin tree.start path) (steps path)
    generalize tree.walk follow linkLimit (origin tree.start path) (steps path) = outcome
      at other failed
    cases outcome with
    | ok spot => cases failed
    | error cause =>
        cases failed
        exact other rfl

theorem obstructed_of_makeDirectory
    (trimmed : Trimmed path)
    (failed : tree.makeDirectory mode path = .error (.os .exists))
    (leads : tree.isDirectory path = false) :
    tree.Obstructed path := by
  refine ⟨?_, leads⟩
  rw [makeDirectory, trimmed] at failed
  rw [linkStat]
  split at failed
  · rename_i located
    cases failed
    exact absurd located (locate_ne_exists tree false path)
  · exact ⟨_, rfl⟩
  · rw [create] at failed
    split at failed
    · cases failed
    · cases failed

/-- Ancestors are missing up to one that is there, or something obstructs one of them. -/
theorem missingAncestors_obstructed
    {paths : List String}
    (trimmed : ∀ path ∈ paths, Trimmed path)
    (failed : missingAncestors mode tree paths = .error (.os .exists)) :
    ∃ path ∈ paths, tree.Obstructed path := by
  induction paths with
  | nil => cases failed
  | cons path rest hypothesis =>
      rw [missingAncestors] at failed
      split at failed
      · cases failed
      · split at failed
        · cases failed
        · split at failed
          · cases failed
          · rename_i further
            cases failed
            obtain ⟨other, member, obstructed⟩ := hypothesis
              (fun other member => trimmed other (List.mem_cons_of_mem _ member)) further
            exact ⟨other, List.mem_cons_of_mem _ member, obstructed⟩
        · rename_i taken
          split at failed
          · cases failed
          · rename_i leads
            exact ⟨path, List.mem_cons_self, obstructed_of_makeDirectory
              (trimmed path List.mem_cons_self) taken (Bool.eq_false_iff.2 leads)⟩
        · rename_i other _
          cases failed
          exact absurd rfl other

theorem mem_of_mem_missing
    {paths missing : List String}
    (found : missingAncestors mode tree paths = .ok (missing, next))
    (member : path ∈ missing) :
    path ∈ paths := by
  induction paths generalizing missing with
  | nil =>
      cases found
      cases member
  | cons first rest hypothesis =>
      rw [missingAncestors] at found
      split at found
      · cases found
        cases member
      · split at found
        · cases found
          cases member
        · split at found
          · rename_i further
            cases found
            rcases List.mem_cons.1 member with rfl | later
            · exact List.mem_cons_self
            · exact List.mem_cons_of_mem _ (hypothesis further later)
          · cases found
        · split at found
          · cases found
            cases member
          · cases found
        · cases found

/-- The nearest of the ancestors is missing, or it is there as a directory. -/
theorem head_missing_or_isDirectory
    {rest missing : List String}
    (trimmed : Trimmed path)
    (some : path ≠ "")
    (found : missingAncestors mode tree (path :: rest) = .ok (missing, next)) :
    path ∈ missing ∨ next.isDirectory path = true := by
  rw [missingAncestors, if_neg some] at found
  split at found
  · rename_i made
    cases found
    exact .inr (isDirectory_of_makeDirectory trimmed made)
  · split at found
    · cases found
      exact .inl List.mem_cons_self
    · cases found
  · split at found
    · rename_i directory
      cases found
      exact .inr directory
    · cases found
  · cases found

/-- Paths along which directories were made all lead to directories. -/
theorem isDirectory_of_makeEach
    {paths : List String}
    (trimmed : ∀ path ∈ paths, Trimmed path)
    (made : makeEach mode tree paths = (none, next)) :
    ∀ path ∈ paths, next.isDirectory path = true := by
  induction paths generalizing tree with
  | nil => exact nofun
  | cons path rest hypothesis =>
      have later := fun other member => trimmed other (List.mem_cons_of_mem path member)
      have extension (tree : FileTree) (made : makeEach mode tree rest = (none, next)) :
          tree.Extends next := by
        have furnished : tree.Furnished mode _ := furnished_makeEach rest tree
        rw [made] at furnished
        exact furnished.extension
      rw [makeEach] at made
      split at made
      · rename_i middle first
        have directory := isDirectory_of_makeDirectory (trimmed path List.mem_cons_self) first
        exact List.forall_mem_cons.2
          ⟨isDirectory_of_extends (extension middle made) directory, hypothesis later made⟩
      · split at made
        · rename_i directory
          exact List.forall_mem_cons.2
            ⟨isDirectory_of_extends (extension tree made) directory, hypothesis later made⟩
        · cases made
      · cases made

theorem makeEach_obstructed
    {paths : List String}
    (trimmed : ∀ path ∈ paths, Trimmed path)
    (failed : makeEach mode tree paths = (some (.os .exists), next)) :
    ∃ path ∈ paths, next.Obstructed path := by
  induction paths generalizing tree with
  | nil => cases failed
  | cons path rest hypothesis =>
      have onward (tree : FileTree)
          (failed : makeEach mode tree rest = (some (.os .exists), next)) :
          ∃ other ∈ path :: rest, next.Obstructed other := by
        obtain ⟨other, member, obstructed⟩ := hypothesis
          (fun other member => trimmed other (List.mem_cons_of_mem _ member)) failed
        exact ⟨other, List.mem_cons_of_mem _ member, obstructed⟩
      rw [makeEach] at failed
      split at failed
      · exact onward _ failed
      · rename_i taken
        split at failed
        · exact onward _ failed
        · rename_i leads
          cases failed
          exact ⟨path, List.mem_cons_self, obstructed_of_makeDirectory
            (trimmed path List.mem_cons_self) taken (Bool.eq_false_iff.2 leads)⟩
      · rename_i other _
        cases failed
        exact absurd rfl other

theorem trimmed_of_mem_ancestors
    {ancestor : String}
    (trimmed : Trimmed path)
    (member : ancestor ∈ Path.ancestors path) :
    Trimmed ancestor := by
  rcases Path.eq_or_parent_of_mem_ancestors member with rfl | ⟨child, found⟩
  · exact trimmed
  · exact trimmed_of_parent found

/-- When nothing fails, the path leads to a directory. -/
theorem isDirectory_of_makeDirectories
    (trimmed : Trimmed path)
    (some : path ≠ "")
    (made : tree.makeDirectories mode path = (none, next)) :
    next.isDirectory path = true := by
  rw [makeDirectories, if_neg some] at made
  split at made
  · cases made
  · rename_i missing middle found
    have each := isDirectory_of_makeEach (fun other member => trimmed_of_mem_ancestors trimmed
      (mem_of_mem_missing found (List.mem_reverse.1 member))) made
    obtain ⟨rest, nearest⟩ := List.head?_eq_some_iff.1 (Path.head?_ancestors path)
    rw [nearest] at found
    rcases head_missing_or_isDirectory trimmed some found with absent | directory
    · exact each path (List.mem_reverse.2 absent)
    · have furnished : middle.Furnished mode _ := furnished_makeEach missing.reverse middle
      rw [made] at furnished
      exact isDirectory_of_extends furnished.extension directory

/-- When something is said to exist, it obstructs an ancestor of the path. -/
theorem obstructed_of_makeDirectories
    (trimmed : Trimmed path)
    (failed : tree.makeDirectories mode path = (some (.os .exists), next)) :
    ∃ ancestor ∈ Path.ancestors path, next.Obstructed ancestor := by
  have all (other : String) (member : other ∈ Path.ancestors path) : Trimmed other :=
    trimmed_of_mem_ancestors trimmed member
  rw [makeDirectories] at failed
  split at failed
  · cases failed
  · split at failed
    · rename_i found
      cases failed
      exact missingAncestors_obstructed all found
    · rename_i missing middle found
      obtain ⟨other, member, obstructed⟩ := makeEach_obstructed
        (fun other member => all other (mem_of_mem_missing found (List.mem_reverse.1 member)))
        failed
      exact ⟨other, mem_of_mem_missing found (List.mem_reverse.1 member), obstructed⟩

end FileTree

end Confinement.Host
