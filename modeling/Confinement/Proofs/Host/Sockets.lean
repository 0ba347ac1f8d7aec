import Confinement.Host.Program
import Confinement.Proofs.Host.Removal

/-!
# What keeps sockets

A change of a file tree keeps sockets if it leaves a sound tree sound and the ways to its sockets as
they are (`KeepsSockets`).  Making directories, writing files and removing what
a path to a file names are such changes; a program that is not known changes nothing at all.
-/

namespace Confinement.Host.FileTree

variable {tree next : FileTree} {place : Place} {path : String} {content : Bytes}

/-- A tree that grows keeps its sockets. -/
theorem Grows.keepsSockets
    (grows : tree.Grows next)
    (sound : tree.Sound → next.Sound) :
    tree.KeepsSockets next :=
  fun before => socketsStay_of_lasts before (sound before) grows.lasts
    fun _ _ _ _ _ _ _ link _ _ => grows.link link

/-! ## What is put into a tree -/

/-- A free name to which a path leads is one in a directory. -/
theorem directory_of_locate
    {follow : Bool} {directory : Place} {name : String}
    (sound : tree.Sound)
    (found : tree.locate follow path = .ok (.vacant directory name)) :
    tree.HasDirectory directory :=
  walk_vacant sound (sound.origin sound.start path) (locate_eq_ok_iff.1 found).2

/-- What is put where a path led to a free name lies in a directory. -/
theorem Sound.create
    {follow : Bool} {directory : Place} {name : String} {node : Node}
    (sound : tree.Sound)
    (found : tree.locate follow path = .ok (.vacant directory name))
    (made : tree.create directory name node = .ok next) :
    next.Sound := by
  have free : tree.lookup (directory ++ [name]) = none := locate_shows found
  rw [(create_eq_ok_iff.1 made).2]
  refine sound.add (not_hasDirectory free fun _ same => by cases same) ?_ node
  rw [List.dropLast_concat]
  exact directory_of_locate sound found

theorem Sound.insert_file
    (sound : tree.Sound)
    (taken : tree.lookup place = some (.file content))
    (written : Bytes) :
    (tree.insert place (.file written)).Sound :=
  sound.insert (not_hasDirectory taken fun _ same => by cases same) (sound.parent place _ taken) _

theorem Sound.makeDirectory
    {mode : Nat}
    (sound : tree.Sound)
    (made : tree.makeDirectory mode path = .ok next) :
    next.Sound := by
  rw [FileTree.makeDirectory] at made
  split at made
  · cases made
  · cases made
  · rename_i located
    exact sound.create located made

theorem keepsSockets_makeDirectories (tree : FileTree) (mode : Nat) (path : String) :
    tree.KeepsSockets (tree.makeDirectories mode path).2 :=
  leads_makeDirectories KeepsSockets.refl (fun _ _ _ => KeepsSockets.trans)
    (fun _ _ _ made => (furnished_makeDirectory made).extension.grows.keepsSockets
      fun sound => sound.makeDirectory made) tree path

theorem keepsSockets_of_makeDirectories
    {mode : Nat} {cause? : Option Failure}
    (made : tree.makeDirectories mode path = (cause?, next)) :
    tree.KeepsSockets next := by
  have kept := keepsSockets_makeDirectories tree mode path
  rwa [made] at kept

theorem keepsSockets_insert_file
    (taken : tree.lookup place = some (.file content))
    (written : Bytes) :
    tree.KeepsSockets (tree.insert place (.file written)) :=
  (grows_insert taken written).keepsSockets fun sound => sound.insert_file taken written

theorem keepsSockets_writeFile
    (written : tree.writeFile path content = .ok next) :
    tree.KeepsSockets next := by
  rw [writeFile] at written
  split at written
  · cases written
  · cases written
  · cases written
  · cases written
  · rename_i located
    split at written
    · cases written
    · split at written
      · cases written
        exact keepsSockets_insert_file (locate_shows located) content
      · cases written
  · rename_i located
    split at written
    · cases written
    · refine Grows.keepsSockets ?_ fun sound => sound.create located written
      rw [(create_eq_ok_iff.1 written).2]
      exact (extends_add (locate_shows located) _).grows

theorem Sound.makeLink
    {target : String}
    (sound : tree.Sound)
    (made : tree.makeLink path target = .ok next) :
    next.Sound := by
  rw [FileTree.makeLink] at made
  split at made
  · cases made
  · cases made
  · rename_i located
    exact sound.create located made

theorem Sound.bindSocket
    {live : Bool}
    (sound : tree.Sound)
    (bound : tree.bindSocket live path = .ok next) :
    next.Sound := by
  rw [FileTree.bindSocket] at bound
  split at bound
  · cases bound
  · split at bound
    · cases bound
    · cases bound
    · rename_i located
      exact sound.create located bound

theorem sound_empty : empty.Sound := by
  refine ⟨⟨_, rfl⟩, ⟨_, rfl⟩, fun place node stands => ?_⟩
  obtain ⟨before, after, split, _⟩ := List.lookup_eq_some_iff.1 stands
  have member : (place, node) ∈ empty.entries := by
    rw [split]
    exact List.mem_append_right before List.mem_cons_self
  simp only [empty, List.mem_cons, Prod.mk.injEq, List.not_mem_nil, or_false] at member
  rcases member with ⟨rfl, _⟩ | ⟨rfl, _⟩ | ⟨rfl, _⟩
  · exact ⟨_, rfl⟩
  · exact ⟨_, rfl⟩
  · exact ⟨_, rfl⟩

/-- What can be put into a sound tree leaves it sound. -/
theorem Sound.plant
    (sound : tree.Sound)
    (thing : Planting) :
    (tree.plant thing).Sound := by
  have attempted (outcome : Except Failure FileTree)
      (kept : ∀ next, outcome = .ok next → next.Sound) :
      (outcome.toOption.getD tree).Sound := by
    cases outcome with
    | error cause => exact sound
    | ok next => exact kept next rfl
  cases thing with
  | directory path => exact (keepsSockets_makeDirectories tree 0o755 path sound).sound
  | file path content =>
      exact attempted _ fun next written => (keepsSockets_writeFile written sound).sound
  | link path target => exact attempted _ fun next made => sound.makeLink made
  | socket path live => exact attempted _ fun next bound => sound.bindSocket bound

theorem sound_planted (things : List Planting) : (planted things).Sound := by
  rw [planted]
  generalize start : empty = tree
  have sound : tree.Sound := start ▸ sound_empty
  clear start
  induction things generalizing tree with
  | nil => exact sound
  | cons thing rest hypothesis => exact hypothesis _ (sound.plant thing)

/-- A program that is not known changes nothing and fails. -/
theorem run_of_unknown
    {program : String} {arguments : List String}
    (noShell : ["sh", "dash", "bash"].contains (Shell.programName program) = false)
    (unknown : ∀ tree, Utility.run? tree [] (Shell.programName program) arguments = none)
    (tree : FileTree) (directory : String) :
    ∃ cause, Program.run tree program arguments directory = (.error cause, tree) := by
  rw [Program.run]
  split
  · exact ⟨_, rfl⟩
  · split
    · exact ⟨_, rfl⟩
    · exact ⟨_, rfl⟩
    · rename_i place mode located
      split
      · rw [Program.runHere]
        dsimp only
        rw [noShell, if_neg Bool.false_ne_true, unknown]
        exact ⟨_, rfl⟩
      · exact ⟨_, rfl⟩
    · exact ⟨_, rfl⟩

end Confinement.Host.FileTree
