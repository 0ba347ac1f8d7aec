import Confinement.Proofs.Host.Sockets
import Confinement.Server.Listener

/-!
# Claiming a socket file

To listen at a socket file, room is made by removing a dead socket and nothing else
(`clearPath_eq_ok`).  Either the socket file is made then, or nothing of it is left behind
(`claimed_bind`).  So whatever else stands at the path is kept and makes the claim fail
(`kept_bind`, `bind_refuses`), and after a claim that succeeds the path leads to the socket file
(`leads_of_bind`).
-/

namespace Confinement.Listener

open Host FileTree

/-- Whether a path leads to a socket file that refuses a connection. -/
structure IsDead (tree : FileTree) (path : String) (place : Place) : Prop where
  leads : tree.locate false path = .ok (.present place (.socket false))
  refuses : tree.connectSocket path = .error (.os .connectionRefused)

variable {tree cleared next : FileTree} {path : String} {place : Place} {node : Node} {live : Bool}
  {endpoint : Endpoint} {network : Network}

/-! ## Making room -/

/-- What comes of connecting to a socket file to which a path leads. -/
theorem connectSocket_cases
    (found : tree.locate false path = .ok (.present place (.socket live))) :
    (live = true ∧ tree.connectSocket path = .ok ()) ∨
      (live = false ∧ tree.connectSocket path = .error (.os .connectionRefused)) ∨
      ∃ cause, tree.connectSocket path = .error cause ∧
        cause ≠ .os .connectionRefused ∧ cause ≠ .os .noEntry := by
  rw [connectSocket, checkSocketPath]
  split
  · rename_i cause unfit
    refine .inr (.inr ⟨cause, rfl, ?_⟩)
    split at unfit
    · cases unfit
      exact ⟨nofun, nofun⟩
    · split at unfit
      · cases unfit
        exact ⟨nofun, nofun⟩
      · cases unfit
  · rw [locate_followed found fun _ same => by cases same]
    dsimp only
    split
    · exact .inr (.inr ⟨_, rfl, nofun, nofun⟩)
    · cases live with
      | true => exact .inl ⟨rfl, rfl⟩
      | false => exact .inr (.inl ⟨rfl, rfl⟩)

/-- Room is made by removing a dead socket, or it is there already. -/
theorem clearPath_eq_ok
    (made : clearPath tree path = .ok cleared) :
    (cleared = tree ∧ tree.linkStat path = .error (.os .noEntry)) ∨
      ∃ place, IsDead tree path place ∧ cleared = tree.erase place := by
  rw [clearPath] at made
  split at made
  · rename_i nothing
    cases made
    exact .inl ⟨rfl, nothing⟩
  · cases made
  · rename_i live stands
    obtain ⟨place, found⟩ : ∃ place,
        tree.locate false path = .ok (.present place (.socket live)) := by
      rw [linkStat] at stands
      split at stands
      · cases stands
      · rename_i place node found
        cases stands
        exact ⟨place, found⟩
      · cases stands
    rcases connectSocket_cases found with
      ⟨_, connected⟩ | ⟨rfl, refused⟩ | ⟨cause, failed, other⟩
    · rw [connected] at made
      cases made
    · rw [refused] at made
      dsimp only at made
      rw [removeStale] at made
      cases removed : tree.removeFile path with
      | error cause =>
          rw [removed] at made
          cases made
      | ok next =>
          rw [removed] at made
          cases made
          obtain ⟨spot, node, located, _, _, rfl⟩ := removeFile_eq_ok_iff.1 removed
          rw [found] at located
          cases located
          exact .inr ⟨place, ⟨found, refused⟩, rfl⟩
    · rw [failed] at made
      split at made
      · rename_i impossible
        cases impossible
      · rename_i same
        exact absurd (Except.error.inj same) other.1
      · rename_i same
        exact absurd (Except.error.inj same) other.2
      · cases made
  · cases made

/-- No room is made where something else stands. -/
theorem clearPath_refuses
    (found : tree.locate false path = .ok (.present place node))
    (other : node ≠ .socket false) :
    ∃ error, clearPath tree path = .error error := by
  cases made : clearPath tree path with
  | error error => exact ⟨error, rfl⟩
  | ok cleared =>
      rcases clearPath_eq_ok made with ⟨_, nothing⟩ | ⟨_, dead, _⟩
      · rw [linkStat, found] at nothing
        cases nothing
      · rw [dead.leads] at found
        cases found
        exact absurd rfl other

/-! ## Binding -/

/-- A tree that differs from another one at most by a dead socket that has been removed. -/
structure Cleared (path : String) (tree next : FileTree) : Prop where
  kept : ∀ place node, tree.lookup place = some node →
    next.lookup place = some node ∨ (node = .socket false ∧ IsDead tree path place)
  nothing : ∀ place node, next.lookup place = some node → tree.lookup place = some node

theorem Cleared.refl (path : String) (tree : FileTree) : Cleared path tree tree :=
  ⟨fun _ _ => .inl, fun _ _ => id⟩

theorem cleared_of_clearPath
    (made : clearPath tree path = .ok cleared) :
    Cleared path tree cleared := by
  rcases clearPath_eq_ok made with ⟨rfl, _⟩ | ⟨place, dead, rfl⟩
  · exact Cleared.refl path cleared
  · have stood : tree.lookup place = some (.socket false) := locate_shows dead.leads
    refine ⟨fun other node stands => ?_, fun other node stands => ?_⟩
    · rw [lookup_erase]
      split
      · rename_i same
        rw [same, stood] at stands
        cases stands
        exact .inr ⟨rfl, same ▸ dead⟩
      · exact .inl stands
    · rw [lookup_erase] at stands
      split at stands
      · cases stands
      · exact stands

theorem sound_of_clearPath
    (sound : tree.Sound)
    (made : clearPath tree path = .ok cleared) :
    cleared.Sound := by
  rcases clearPath_eq_ok made with ⟨rfl, _⟩ | ⟨place, dead, rfl⟩
  · exact sound
  · have stood : tree.lookup place = some (.socket false) := locate_shows dead.leads
    exact sound.erase (not_hasDirectory stood fun _ same => by cases same)

/-- A socket file that has been made stands where its path led to a free name. -/
theorem bindSocket_eq_ok
    (bound : tree.bindSocket live path = .ok next) :
    ∃ directory name, tree.locate false path = .ok (.vacant directory name) ∧
      next = tree.add (directory ++ [name]) (.socket live) ∧
      next.locate false path = .ok (.present (directory ++ [name]) (.socket live)) ∧
      next.removalBar? (directory ++ [name]) = none := by
  rw [FileTree.bindSocket] at bound
  split at bound
  · cases bound
  · split at bound
    · cases bound
    · cases bound
    · rename_i directory name free
      obtain ⟨allowed, rfl⟩ := create_eq_ok_iff.1 bound
      have vacant : tree.lookup (directory ++ [name]) = none := locate_shows free
      have grows := (extends_add vacant (.socket live)).grows
      exact ⟨directory, name, free, rfl,
        locate_unfollowed_of_grows grows (by rw [lookup_add]; exact if_pos rfl) free,
        removalBar?_add vacant allowed _⟩

/--
What claiming a socket file may come to: it fails and leaves nothing of its own behind, or the
socket file has been made where there is room for it.
-/
inductive Claimed (path : String) (tree : FileTree) : Except ListenerError Unit × FileTree → Prop
  | failed (error : ListenerError) (next : FileTree) (spared : Cleared path tree next) :
    Claimed path tree (.error error, next)
  | made (cleared next : FileTree) (room : clearPath tree path = .ok cleared)
    (bound : cleared.bindSocket true path = .ok next) :
    Claimed path tree (.ok (), next)

theorem claimed_bindSocket (path : String) (tree : FileTree) :
    Claimed path tree (bindSocket tree path) := by
  rw [bindSocket]
  cases room : clearPath tree path with
  | error error => exact .failed error tree (Cleared.refl path tree)
  | ok cleared =>
      dsimp only
      cases bound : cleared.bindSocket true path with
      | error cause => exact .failed _ cleared (cleared_of_clearPath room)
      | ok next => exact .made cleared next room bound

theorem cleanup_of_removeFile
    (removed : tree.removeFile path = .ok next) :
    cleanup (.unix path) tree = next := by
  rw [cleanup, removed]
  rfl

/-- A claim that is given up takes its socket file along. -/
theorem cleared_cleanup
    (room : clearPath tree path = .ok cleared)
    (bound : cleared.bindSocket true path = .ok next) :
    Cleared path tree (cleanup (.unix path) next) := by
  obtain ⟨directory, name, free, rfl, leads, bar⟩ := bindSocket_eq_ok bound
  have vacant : cleared.lookup (directory ++ [name]) = none := locate_shows free
  have spared := cleared_of_clearPath room
  have same (place : Place) :
      (cleanup (.unix path) (cleared.add (directory ++ [name]) (.socket true))).lookup place =
        cleared.lookup place := by
    rw [cleanup_of_removeFile (removeFile_eq_ok_iff.2 ⟨_, _, leads, bar, rfl, rfl⟩), lookup_erase]
    split
    · rename_i here
      rw [here, vacant]
    · rename_i elsewhere
      rw [lookup_add, if_neg elsewhere]
  refine ⟨fun place node => ?_, fun place node => ?_⟩
  · rw [same]
    exact spared.kept place node
  · rw [same]
    exact spared.nothing place node

theorem claimed_bind (path : String) (network : Network) (tree : FileTree) :
    Claimed path tree (bind (.unix path) network tree) := by
  have claimed := claimed_bindSocket path tree
  rw [bind, claim]
  generalize bindSocket tree path = ended at claimed ⊢
  cases claimed with
  | failed error next spared => exact .failed error next spared
  | made cleared next room bound =>
      cases network.unblock with
      | ok quiet => exact .made cleared next room bound
      | error cause => exact .failed _ _ (cleared_cleanup room bound)

/-- No file is touched to listen at an address of the network. -/
theorem files_bind_tcp (host : String) (port : Nat) (network : Network) (tree : FileTree) :
    (bind (.tcp host port) network tree).2 = tree := by
  rw [bind, claim]
  generalize bindAddress network host port = ended
  cases ended with
  | error error => rfl
  | ok done =>
      cases network.unblock with
      | ok quiet => rfl
      | error cause => rfl

/-- Listening takes nothing away but a dead socket, whatever comes of it. -/
theorem kept_bind
    (stands : tree.lookup place = some node)
    (endpoint : Endpoint) (network : Network) :
    (bind endpoint network tree).2.lookup place = some node ∨
      ∃ path, endpoint = .unix path ∧ node = .socket false ∧ IsDead tree path place := by
  cases endpoint with
  | tcp host port =>
      rw [files_bind_tcp]
      exact .inl stands
  | unix path =>
      have claimed := claimed_bind path network tree
      generalize bind (.unix path) network tree = outcome at claimed ⊢
      cases claimed with
      | failed error next spared =>
          rcases spared.kept place node stands with still | ⟨same, dead⟩
          · exact .inl still
          · exact .inr ⟨path, rfl, same, dead⟩
      | made cleared next room bound =>
          obtain ⟨directory, name, free, rfl, _⟩ := bindSocket_eq_ok bound
          rcases (cleared_of_clearPath room).kept place node stands with still | ⟨same, dead⟩
          · exact .inl ((extends_add (locate_shows free) _).kept place node still)
          · exact .inr ⟨path, rfl, same, dead⟩

/-- Listening that fails leaves nothing of its own behind. -/
theorem nothing_of_bind
    {error : ListenerError}
    (failed : bind endpoint network tree = (.error error, next))
    (stands : next.lookup place = some node) :
    tree.lookup place = some node := by
  cases endpoint with
  | tcp host port =>
      have same := files_bind_tcp host port network tree
      rw [failed] at same
      exact same ▸ stands
  | unix path =>
      have claimed := claimed_bind path network tree
      rw [failed] at claimed
      cases claimed with
      | failed error next spared => exact spared.nothing place node stands

/-- There is no listening where something else stands. -/
theorem bind_refuses
    (found : tree.locate false path = .ok (.present place node))
    (other : node ≠ .socket false)
    (network : Network) :
    ∃ error, (bind (.unix path) network tree).1 = .error error := by
  have claimed := claimed_bind path network tree
  generalize bind (.unix path) network tree = outcome at claimed ⊢
  cases claimed with
  | failed error next spared => exact ⟨error, rfl⟩
  | made cleared next room bound =>
      obtain ⟨error, refused⟩ := clearPath_refuses found other
      rw [refused] at room
      cases room

/--
A path at which a server listens leads to the socket file that was made, where there was nothing or
a dead socket before; who made it may take it away.
-/
theorem leads_of_bind
    (sound : tree.Sound)
    (bound : bind (.unix path) network tree = (.ok (), next)) :
    next.Sound ∧ ∃ place, next.locate false path = .ok (.present place (.socket true)) ∧
      next.removalBar? place = none ∧
      ∀ node, tree.lookup place = some node → node = .socket false := by
  have claimed := claimed_bind path network tree
  rw [bound] at claimed
  cases claimed with
  | made cleared next room bound =>
      have safe := (sound_of_clearPath sound room).bindSocket bound
      obtain ⟨directory, name, free, rfl, leads, bar⟩ := bindSocket_eq_ok bound
      refine ⟨safe, _, leads, bar, fun node stood => ?_⟩
      rcases (cleared_of_clearPath room).kept _ node stood with still | ⟨dead, _⟩
      · have vacant : cleared.lookup (directory ++ [name]) = none := locate_shows free
        rw [vacant] at still
        cases still
      · exact dead

end Confinement.Listener
