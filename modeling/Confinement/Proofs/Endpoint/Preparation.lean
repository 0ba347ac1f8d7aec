import Confinement.Endpoint.Basic
import Confinement.Proofs.Host.Directories

/-!
# The directory of a socket file

Preparing an endpoint only ever adds directories for their owner alone, whether it succeeds or not.
When it succeeds, the directory in which the socket file is to be made is there, unless one of its
ancestors is obstructed (`prepare_delivers_directory`): that something exists is taken for the
directory itself, and a file or a broken link exists as well (`file_taken_for_directory`).
-/

namespace Confinement.Endpoint

open Host

variable {path parent : String}

/-- A path without a parent that can be named is refused. -/
theorem prepare_of_no_parent
    (none : ∀ parent, Path.parent? path = some parent → parent = "")
    (tree : FileTree) :
    (Endpoint.unix path).prepare tree = (.error (.missingParent path), tree) := by
  rw [prepare]
  split
  · rfl
  · rfl
  · rename_i parent named found
    exact absurd (none parent found) named

/-- Otherwise that something exists is no error. -/
theorem prepare_of_parent
    (found : Path.parent? path = some parent)
    (named : parent ≠ "")
    (tree : FileTree) :
    (Endpoint.unix path).prepare tree =
      match tree.makeDirectories socketDirectoryMode parent with
      | (none, next) | (some (.os .exists), next) => (.ok (), next)
      | (some cause, next) => (.error (.createDirectory parent cause), next) := by
  rw [prepare]
  split
  · rename_i missing
    rw [found] at missing
    cases missing
  · rename_i empty
    rw [found] at empty
    exact absurd (Option.some.inj empty) named
  · rename_i other _ same
    rw [found] at same
    cases same
    rfl

/-- To prepare an endpoint is to make directories, at most. -/
theorem files_prepare (endpoint : Endpoint) (tree : FileTree) :
    (endpoint.prepare tree).2 = tree ∨
      ∃ parent,
        (endpoint.prepare tree).2 = (tree.makeDirectories socketDirectoryMode parent).2 := by
  cases endpoint with
  | tcp host port => exact .inl rfl
  | unix path =>
      rw [prepare]
      split
      · exact .inl rfl
      · exact .inl rfl
      · rename_i parent _ _
        refine .inr ⟨parent, ?_⟩
        generalize tree.makeDirectories socketDirectoryMode parent = made
        split
        · rfl
        · rfl
        · rfl

theorem furnished_prepare (endpoint : Endpoint) (tree : FileTree) :
    tree.Furnished socketDirectoryMode (endpoint.prepare tree).2 := by
  rcases endpoint.files_prepare tree with same | ⟨parent, made⟩
  · rw [same]
    exact FileTree.Furnished.refl _ tree
  · rw [made]
    exact FileTree.furnished_makeDirectories tree _ parent

/--
Whatever comes of preparing a socket file, nothing that stood in the tree has gone or changed, and
what has been added are directories with the mode for sockets.  If it succeeds, the path has a
parent, and this leads to a directory, unless something that leads to no directory stands at the
parent or at an ancestor of it.
-/
theorem prepare_delivers_directory (path : String) (tree : FileTree) :
    let outcome := (Endpoint.unix path).prepare tree
    tree.Furnished socketDirectoryMode outcome.2 ∧
      (outcome.1 = .ok () → ∃ parent, Path.parent? path = some parent ∧
        (outcome.2.isDirectory parent = true ∨
          ∃ ancestor ∈ Path.ancestors parent, outcome.2.Obstructed ancestor)) := by
  dsimp only
  by_cases none : ∀ parent, Path.parent? path = some parent → parent = ""
  · rw [prepare_of_no_parent none]
    exact ⟨FileTree.Furnished.refl _ tree, nofun⟩
  · simp only [Classical.not_forall] at none
    obtain ⟨parent, found, named⟩ := none
    have trimmed := FileTree.trimmed_of_parent found
    have furnished := FileTree.furnished_makeDirectories tree socketDirectoryMode parent
    rw [prepare_of_parent found named]
    generalize making : tree.makeDirectories socketDirectoryMode parent = made at furnished ⊢
    split
    · exact ⟨furnished, fun _ => ⟨parent, found,
        .inl (FileTree.isDirectory_of_makeDirectories trimmed named making)⟩⟩
    · exact ⟨furnished, fun _ => ⟨parent, found,
        .inr (FileTree.obstructed_of_makeDirectories trimmed making)⟩⟩
    · exact ⟨furnished, nofun⟩

/-- Below a link to a directory, two directories are made for their owner alone. -/
theorem prepare_delivers_directory_below_link :
    let tree := FileTree.planted [.directory "d", .link "l" "d"]
    let outcome := (Endpoint.unix "l/a/b/s").prepare tree
    outcome.1 = .ok () ∧ outcome.2.isDirectory "l/a/b" = true ∧
      tree.lookup ["tmp", "work", "d", "a"] = none ∧
      outcome.2.lookup ["tmp", "work", "d", "a"] = some (.directory 0o700) := by
  intro tree outcome
  have done : outcome.1 = .ok () := by decide +kernel
  have free : tree.lookup ["tmp", "work", "d", "a"] = none := by decide +kernel
  have leading : ∀ ancestor ∈ Path.ancestors "l/a/b",
      outcome.2.isDirectory ancestor = true ∨ ancestor = "" := by decide +kernel
  have nowhere : outcome.2.linkStat "" = .error (.os .noEntry) := by decide +kernel
  obtain ⟨node, made⟩ : ∃ node, outcome.2.lookup ["tmp", "work", "d", "a"] = some node :=
    Option.isSome_iff_exists.1 (by decide +kernel)
  obtain ⟨furnished, delivered⟩ := prepare_delivers_directory "l/a/b/s" tree
  rw [furnished.added _ _ free made] at made
  refine ⟨done, ?_, free, made⟩
  obtain ⟨parent, found, leads⟩ := delivered done
  obtain rfl : parent = "l/a/b" :=
    Option.some.inj (found.symm.trans (by decide +kernel : Path.parent? "l/a/b/s" = some "l/a/b"))
  rcases leads with directory | ⟨ancestor, member, obstructed⟩
  · exact directory
  · rcases leading ancestor member with directory | rfl
    · rw [obstructed.leads] at directory
      cases directory
    · obtain ⟨node, stands⟩ := obstructed.stands
      rw [nowhere] at stands
      cases stands

/-- A file in place of the directory is taken for it. -/
theorem file_taken_for_directory :
    ¬∀ path tree, let outcome := (Endpoint.unix path).prepare tree
      outcome.1 = .ok () → ∃ parent, Path.parent? path = some parent ∧
        outcome.2.isDirectory parent = true := by
  intro always
  obtain ⟨parent, found, directory⟩ :=
    always "f/s" (FileTree.planted [.file "f" []]) (by decide +kernel)
  cases found.symm.trans (by decide +kernel : Path.parent? "f/s" = some "f")
  revert directory
  decide +kernel

end Confinement.Endpoint
