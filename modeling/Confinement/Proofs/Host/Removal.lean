import Confinement.Proofs.Host.Ways

/-!
# Removing files

In a sound tree a link that leads to a file leads no further, so that a path to something else never
passes it (`walk_beyond_file`).  Removing what a path to a file names, be it the file or such a
link, therefore keeps sockets (`keepsSockets_removeFile`).  Whether a socket itself may be removed
does not change as long as sockets stay (`SocketsStay.removeFile`).
-/

namespace Confinement.Host.FileTree

variable {tree next : FileTree} {place : Place} {node : Node}

/-! ## Walks in sound trees -/

section

variable {follow other : Bool} {detour later : Place → List String → Except Errno Spot}
  {here : Place} {names rest : List String} {spot : Spot} {links : Nat}

/-- A walk ends at a free name only in a directory. -/
theorem walkWith_vacant
    {directory : Place} {name : String}
    (sound : tree.Sound)
    (onward : ∀ here names, tree.HasDirectory here →
      detour here names = .ok (.vacant directory name) → tree.HasDirectory directory)
    (starts : tree.HasDirectory here)
    (found : tree.walkWith follow detour here names = .ok (.vacant directory name)) :
    tree.HasDirectory directory := by
  fun_induction walkWith tree follow detour here names with
  | case3 here rest allowed hypothesis => exact hypothesis starts found
  | case4 here rest allowed notDot hypothesis => exact hypothesis (starts.parent sound) found
  | case6 here name rest allowed notDot notUp short place free last =>
      cases found
      exact starts
  | case8 here name rest allowed notDot notUp short place mode stands hypothesis =>
      exact hypothesis ⟨mode, stands⟩ found
  | case10 here name rest allowed notDot notUp short place target link goes =>
      exact onward _ _ (sound.origin starts target) found
  | case1 | case2 | case5 | case7 | case9 | case11 | case12 | case13 => cases found

theorem walk_vacant
    {directory : Place} {name : String}
    (sound : tree.Sound)
    (starts : tree.HasDirectory here)
    (found : tree.walk follow links here names = .ok (.vacant directory name)) :
    tree.HasDirectory directory := by
  induction links generalizing here names with
  | zero => exact walkWith_vacant sound (fun _ _ _ impossible => by cases impossible) starts found
  | succ links hypothesis =>
      exact walkWith_vacant sound (fun _ _ starts found => hypothesis starts found) starts found

/-- No walk goes on beyond a file. -/
theorem walkWith_beyond_file
    {goal : Place} {content : Bytes}
    (sound : tree.Sound)
    (onward : ∀ here names, tree.HasDirectory here →
      detour here names = .ok (.present goal (.file content)) →
      later here (names ++ rest) ≠ .ok spot)
    (some : rest ≠ [])
    (starts : tree.HasDirectory here)
    (found : tree.walkWith true detour here names = .ok (.present goal (.file content))) :
    tree.walkWith other later here (names ++ rest) ≠ .ok spot := by
  fun_induction walkWith tree true detour here names with
  | case1 here node stands =>
      cases found
      obtain ⟨mode, directory⟩ := starts
      rw [stands] at directory
      cases directory
  | case3 here names allowed hypothesis =>
      rw [List.cons_append, walkWith_dot allowed]
      exact hypothesis starts found
  | case4 here names allowed notDot hypothesis =>
      rw [List.cons_append, walkWith_up allowed]
      exact hypothesis (starts.parent sound) found
  | case8 here name names allowed notDot notUp short place mode stands hypothesis =>
      rw [List.cons_append, walkWith_name allowed notDot notUp short, stands]
      exact hypothesis ⟨mode, stands⟩ found
  | case10 here name names allowed notDot notUp short place target link goes =>
      have more : (names ++ rest).isEmpty = false := by
        rw [List.isEmpty_eq_false_iff]
        exact List.append_ne_nil_of_right_ne_nil _ some
      rw [List.cons_append, walkWith_name allowed notDot notUp short, link]
      dsimp only
      rw [more, Bool.false_and, if_neg Bool.false_ne_true, ← List.append_assoc]
      exact onward _ _ (sound.origin starts target) found
  | case11 here name names allowed notDot notUp short place node _ _ stands last =>
      obtain rfl : node = .file content := (Spot.present.inj (Except.ok.inj found)).2
      rw [List.isEmpty_iff.1 last, List.cons_append, walkWith_name allowed notDot notUp short,
        stands]
      dsimp only
      rw [List.nil_append, if_neg (by simpa using some)]
      intro impossible
      cases impossible
  | case9 here name names allowed notDot notUp short place target link stays =>
      rw [Bool.and_eq_true] at stays
      cases stays.2
  | case2 | case5 | case6 | case7 | case12 | case13 => cases found

theorem walk_beyond_file
    {goal : Place} {content : Bytes} {more : Nat}
    (sound : tree.Sound)
    (some : rest ≠ [])
    (starts : tree.HasDirectory here)
    (found : tree.walk true links here names = .ok (.present goal (.file content))) :
    tree.walk other more here (names ++ rest) ≠ .ok spot := by
  induction links generalizing here names more with
  | zero =>
      cases more with
      | zero | succ more =>
          exact walkWith_beyond_file sound (fun _ _ _ impossible => by cases impossible) some starts
            found
  | succ links hypothesis =>
      cases more with
      | zero =>
          exact walkWith_beyond_file sound (fun _ _ _ _ impossible => by cases impossible) some
            starts found
      | succ more =>
          exact walkWith_beyond_file sound (fun _ _ starts found => hypothesis starts found) some
            starts found

/-- A walk that is to follow the link at which it could end goes on where that leads. -/
theorem walkWith_link
    {target : String}
    (sound : tree.Sound)
    (starts : tree.HasDirectory here)
    (ends : tree.walkWith false detour here names = .ok (.present place (.link target)))
    (followed : tree.walkWith true later here names = .ok spot) :
    (∃ directory name, place = directory ++ [name] ∧ tree.HasDirectory directory ∧
      later (origin directory target) (steps target) = .ok spot) ∨
    ∃ here names, tree.HasDirectory here ∧
      detour here names = .ok (.present place (.link target)) ∧ later here names = .ok spot := by
  fun_induction walkWith tree false detour here names with
  | case1 here node stands =>
      cases ends
      obtain ⟨mode, directory⟩ := starts
      rw [stands] at directory
      cases directory
  | case3 here names allowed hypothesis =>
      rw [walkWith_dot allowed] at followed
      exact hypothesis starts ends followed
  | case4 here names allowed notDot hypothesis =>
      rw [walkWith_up allowed] at followed
      exact hypothesis (starts.parent sound) ends followed
  | case8 here name names allowed notDot notUp short place mode stands hypothesis =>
      rw [walkWith_name allowed notDot notUp short, stands] at followed
      exact hypothesis ⟨mode, stands⟩ ends followed
  | case9 here name names allowed notDot notUp short within other link stays =>
      rw [Bool.and_eq_true] at stays
      obtain ⟨same, ending⟩ := Spot.present.inj (Except.ok.inj ends)
      cases ending
      rw [walkWith_name allowed notDot notUp short, link, List.isEmpty_iff.1 stays.1] at followed
      dsimp only at followed
      rw [if_neg (by decide), List.append_nil] at followed
      exact .inl ⟨here, name, same.symm, starts, followed⟩
  | case10 here name names allowed notDot notUp short within other link goes =>
      rw [walkWith_name allowed notDot notUp short, link] at followed
      dsimp only at followed
      rw [if_neg (by simp)] at followed
      exact .inr ⟨_, _, sound.origin starts other, ends, followed⟩
  | case11 here name names allowed notDot notUp short within node _ noLink stands last =>
      exact absurd (Spot.present.inj (Except.ok.inj ends)).2 (noLink target)
  | case2 | case5 | case6 | case7 | case12 | case13 => cases ends

theorem walk_link
    {target : String}
    (sound : tree.Sound)
    (starts : tree.HasDirectory here)
    (ends : tree.walk false links here names = .ok (.present place (.link target)))
    (followed : tree.walk true links here names = .ok spot) :
    ∃ directory name links, place = directory ++ [name] ∧ tree.HasDirectory directory ∧
      tree.walk true links (origin directory target) (steps target) = .ok spot := by
  induction links generalizing here names with
  | zero =>
      rcases walkWith_link sound starts ends followed with
        ⟨_, _, _, _, impossible⟩ | ⟨_, _, _, impossible, _⟩
      · cases impossible
      · cases impossible
  | succ links hypothesis =>
      rcases walkWith_link sound starts ends followed with
        ⟨directory, name, same, inside, onward⟩ | ⟨here, names, starts, ends, followed⟩
      · exact ⟨directory, name, links, same, inside, onward⟩
      · exact hypothesis starts ends followed

end

/-! ## Removing files -/

section

variable {path : String} {goal : Place} {content : Bytes}

theorem locate_followed
    (found : tree.locate false path = .ok (.present place node))
    (noLink : ∀ target, node ≠ .link target) :
    tree.locate true path = .ok (.present place node) := by
  have stands : tree.lookup (Spot.present place node).place = some node := locate_shows found
  exact locate_of_grows (Extends.refl tree).grows stands noLink found

/-- Whether no way to a socket passes a node: it is a file, or a link that leads to one. -/
def CanSpare (tree : FileTree) (place : Place) : Node → Prop
  | .file _ => True
  | .link target =>
    ∃ directory name links goal content, place = directory ++ [name] ∧
      tree.HasDirectory directory ∧
      (tree.as .superuser).walk true links (origin directory target) (steps target) =
        .ok (.present goal (.file content))
  | .directory _ | .socket _ => False

theorem removeFile_eq_ok_iff :
    tree.removeFile path = .ok next ↔
      ∃ place node, tree.locate false path = .ok (.present place node) ∧
        tree.removalBar? place = none ∧ node.isDirectory = false ∧ next = tree.erase place := by
  rw [removeFile]
  constructor
  · intro removed
    split at removed
    · cases removed
    · cases removed
    · rename_i place node located
      split at removed
      · cases removed
      · rename_i free
        split at removed
        · cases removed
        · rename_i bare
          cases removed
          exact ⟨place, node, located, free, Bool.eq_false_iff.2 bare, rfl⟩
  · rintro ⟨place, node, located, free, bare, rfl⟩
    rw [located]
    dsimp only
    rw [free, bare]
    rfl

/-- Whoever made something may take it away as long as it may change the directory. -/
theorem removalBar?_add
    {directory : Place} {name : String}
    (free : tree.lookup (directory ++ [name]) = none)
    (allowed : tree.may .change directory = true)
    (node : Node) :
    (tree.add (directory ++ [name]) node).removalBar? (directory ++ [name]) = none := by
  have own : (tree.add (directory ++ [name]) node).owns (directory ++ [name]) = true := by
    rw [owns, ownerOf_add, if_pos rfl, Bool.or_eq_true]
    exact .inr (beq_self_eq_true _)
  have still := (extends_add free node).grows.may allowed
  rw [removalBar?, List.dropLast_concat, still, own, Bool.not_true, Bool.and_false,
    Bool.false_and]
  rfl

theorem removalBar?_of_isSuper
    (super : tree.actor.isSuper = true)
    (place : Place) :
    tree.removalBar? place = none := by
  rw [removalBar?, may_of_isSuper super, owns, super, Bool.true_or, Bool.not_true, Bool.and_false,
    Bool.false_and]
  rfl

/-- What is removed under a path to a file can be spared. -/
theorem canSpare_of_removeFile
    (sound : tree.Sound)
    (file : tree.locate true path = .ok (.present goal (.file content)))
    (removed : tree.removeFile path = .ok next) :
    ∃ place node, next = tree.erase place ∧ tree.lookup place = some node ∧
      tree.CanSpare place node := by
  obtain ⟨place, node, located, _, _, rfl⟩ := removeFile_eq_ok_iff.1 removed
  refine ⟨place, node, rfl, locate_shows located, ?_⟩
  by_cases link : ∃ target, node = .link target
  · obtain ⟨target, rfl⟩ := link
    obtain ⟨directory, name, links, same, inside, onward⟩ :=
      walk_link sound (sound.origin sound.start path) (locate_eq_ok_iff.1 located).2
        (locate_eq_ok_iff.1 file).2
    exact ⟨directory, name, links, goal, content, same, inside, walk_as_of_isSuper rfl onward⟩
  · have same := locate_followed located fun target same => link ⟨target, same⟩
    rw [file] at same
    cases same
    trivial

theorem keepsSockets_erase
    (stood : tree.lookup place = some node)
    (spare : tree.CanSpare place node) :
    tree.KeepsSockets (tree.erase place) := by
  intro sound
  have passing : node.isLasting = false := by
    cases node with
    | file content => rfl
    | link target => rfl
    | directory mode => exact spare.elim
    | socket live => exact spare.elim
  have bare : ¬tree.HasDirectory place := by
    rintro ⟨mode, directory⟩
    rw [stood] at directory
    cases directory
    cases passing
  refine socketsStay_of_lasts sound (sound.erase bare) (lasts_erase stood passing) ?_
  intro socket live links here name target rest link goes onward
  rw [lookup_erase, if_neg]
  · exact link
  · -- The link that is gone led to a file, and no walk goes on from there.
    intro same
    rw [same, stood] at link
    cases link
    obtain ⟨directory, last, budget, goal, content, parts, inside, walked⟩ := spare
    obtain ⟨rfl, _⟩ := List.append_inj' (same.trans parts) rfl
    have more : rest ≠ [] := by
      rintro rfl
      cases goes
    have whole := sound.as .superuser
    exact walk_beyond_file whole more (whole.origin inside target) walked onward

/-- Whether a socket may be removed does not change as long as sockets stay. -/
theorem SocketsStay.removeFile
    {live : Bool}
    (stay : tree.SocketsStay next)
    (sound : tree.Sound)
    (leads : (tree.as .superuser).locate false path = .ok (.present place (.socket live))) :
    (tree.removeFile path = .ok (tree.erase place) ∧
      next.removeFile path = .ok (next.erase place)) ∨
      ∃ cause, tree.removeFile path = .error cause ∧ next.removeFile path = .error cause := by
  have stands : tree.lookup place = some (.socket live) := locate_shows leads
  have bar := stay.lasts.removalBar? (sound.parent place _ stands) stands
  rw [FileTree.removeFile, FileTree.removeFile, stay.ways path place live leads]
  have super : Credentials.superuser.isSuper = true := rfl
  rcases locate_or_denied super false path with denied | same
  · rw [denied]
    exact .inr ⟨_, rfl, rfl⟩
  · rw [same, leads]
    dsimp only
    rw [bar]
    cases tree.removalBar? place with
    | some cause => exact .inr ⟨_, rfl, rfl⟩
    | none => exact .inl ⟨rfl, rfl⟩

theorem keepsSockets_removeFile
    (file : tree.locate true path = .ok (.present goal (.file content)))
    (removed : tree.removeFile path = .ok next) :
    tree.KeepsSockets next := by
  intro sound
  obtain ⟨place, node, rfl, stood, spare⟩ := canSpare_of_removeFile sound file removed
  exact keepsSockets_erase stood spare sound

end

end Confinement.Host.FileTree
