import Confinement.Proofs.Host.Places

/-!
# Ways in file trees

In a sound tree everything lies in a directory.  Whoever must not search all directories on a way is
denied it, and everybody else gets where the superuser gets (`locate_or_denied`).

As long as directories and sockets last, with those to whom they belong, and the links on the way to
a socket are kept, everybody gets as far on that way as before (`locate_of_lasts`).  A change that
leaves a sound tree sound and the ways to its sockets as they are keeps sockets (`KeepsSockets`).
-/

namespace Confinement.Host

/-- Whether a node is one of those that are not to go away: a directory or a socket. -/
def Node.isLasting : Node → Bool
  | .directory _ | .socket _ => true
  | .file _ | .link _ => false

namespace FileTree

/-- Whether a directory stands at a place. -/
def HasDirectory (tree : FileTree) (place : Place) : Prop :=
  ∃ mode, tree.lookup place = some (.directory mode)

/-- Whether everything in a tree lies in a directory, and relative paths start at one. -/
structure Sound (tree : FileTree) : Prop where
  root : tree.HasDirectory []
  start : tree.HasDirectory tree.start
  parent : ∀ place node, tree.lookup place = some node → tree.HasDirectory place.dropLast

variable {tree next : FileTree} {place : Place} {node : Node}

theorem not_hasDirectory
    {found : Option Node}
    (stands : tree.lookup place = found)
    (other : ∀ mode, found ≠ some (.directory mode)) :
    ¬tree.HasDirectory place := by
  rintro ⟨mode, directory⟩
  exact other mode (stands.symm.trans directory)

theorem HasDirectory.parent
    (directory : tree.HasDirectory place)
    (sound : tree.Sound) :
    tree.HasDirectory place.dropLast := by
  obtain ⟨mode, stands⟩ := directory
  exact sound.parent place _ stands

theorem Sound.origin
    (sound : tree.Sound)
    (directory : tree.HasDirectory place)
    (path : String) :
    tree.HasDirectory (origin place path) := by
  rw [FileTree.origin]
  split
  · exact sound.root
  · exact directory

/-- A change at a place that is no directory leaves a sound tree sound. -/
theorem Sound.change
    (sound : tree.Sound)
    (start : next.start = tree.start)
    (bare : ¬tree.HasDirectory place)
    (others : ∀ other, other ≠ place → next.lookup other = tree.lookup other)
    (within : ∀ node, next.lookup place = some node → tree.HasDirectory place.dropLast) :
    next.Sound := by
  have kept {other : Place} (directory : tree.HasDirectory other) : next.HasDirectory other := by
    have apart : other ≠ place := by
      rintro rfl
      exact bare directory
    obtain ⟨mode, stands⟩ := directory
    exact ⟨mode, (others other apart).trans stands⟩
  refine ⟨kept sound.root, start ▸ kept sound.start, fun other node stands => kept ?_⟩
  by_cases same : other = place
  · subst same
    exact within node stands
  · rw [others other same] at stands
    exact sound.parent other node stands

theorem Sound.insert
    (sound : tree.Sound)
    (bare : ¬tree.HasDirectory place)
    (within : tree.HasDirectory place.dropLast)
    (node : Node) :
    (tree.insert place node).Sound :=
  sound.change rfl bare (fun other apart => by rw [lookup_insert, if_neg apart]) fun _ _ => within

theorem Sound.add
    (sound : tree.Sound)
    (bare : ¬tree.HasDirectory place)
    (within : tree.HasDirectory place.dropLast)
    (node : Node) :
    (tree.add place node).Sound :=
  sound.change rfl bare (fun other apart => by rw [lookup_add, if_neg apart]) fun _ _ => within

theorem Sound.as
    (sound : tree.Sound)
    (actor : Credentials) :
    (tree.as actor).Sound :=
  ⟨sound.root, sound.start, sound.parent⟩

theorem Sound.erase
    (sound : tree.Sound)
    (bare : ¬tree.HasDirectory place) :
    (tree.erase place).Sound := by
  refine sound.change rfl bare (fun other apart => by rw [lookup_erase, if_neg apart]) ?_
  intro node stands
  rw [lookup_erase, if_pos rfl] at stands
  cases stands

/-! ## Who gets where -/

section

variable {follow : Bool} {detour later : Place → List String → Except Errno Spot}
  {here : Place} {names : List String} {spot : Spot} {links : Nat}

/-- Everybody gets where the superuser gets, unless a directory on the way must not be searched. -/
theorem walkWith_or_denied
    {actor : Credentials}
    (super : actor.isSuper = true)
    (onward : ∀ here names,
      detour here names = .error .accessDenied ∨ detour here names = later here names)
    (here : Place) (names : List String) :
    tree.walkWith follow detour here names = .error .accessDenied ∨
      tree.walkWith follow detour here names =
        (tree.as actor).walkWith follow later here names := by
  induction names generalizing here with
  | nil => exact .inr rfl
  | cons name rest hypothesis =>
      by_cases allowed : tree.may .search here = true
      · have all : (tree.as actor).may .search here = true := may_of_isSuper super .search here
        by_cases dot : name = "."
        · rw [dot, walkWith_dot allowed, walkWith_dot all]
          exact hypothesis here
        by_cases up : name = ".."
        · rw [up, walkWith_up allowed, walkWith_up all]
          exact hypothesis here.dropLast
        by_cases long : name.utf8ByteSize > nameLimit
        · rw [walkWith, if_pos allowed, if_neg dot, if_neg up, if_pos long,
            walkWith, if_pos all, if_neg dot, if_neg up, if_pos long]
          exact .inr rfl
        rw [walkWith_name allowed dot up long, walkWith_name all dot up long, lookup_as]
        split
        · exact .inr rfl
        · exact hypothesis _
        · split
          · exact .inr rfl
          · exact onward _ _
        · exact .inr rfl
      · rw [walkWith, if_neg allowed]
        exact .inl rfl

theorem walk_or_denied
    {actor : Credentials}
    (super : actor.isSuper = true)
    (links : Nat) (here : Place) (names : List String) :
    tree.walk follow links here names = .error .accessDenied ∨
      tree.walk follow links here names = (tree.as actor).walk follow links here names := by
  induction links generalizing here names with
  | zero => exact walkWith_or_denied super (fun _ _ => .inr rfl) here names
  | succ links hypothesis => exact walkWith_or_denied super hypothesis here names

/-- A path leads everybody where it leads the superuser, or is denied. -/
theorem locate_or_denied
    {actor : Credentials}
    (super : actor.isSuper = true)
    (follow : Bool) (path : String) :
    tree.locate follow path = .error (.os .accessDenied) ∨
      tree.locate follow path = (tree.as actor).locate follow path := by
  rw [locate, locate]
  cases checkPath path with
  | some cause => exact .inr rfl
  | none =>
      rcases walk_or_denied super linkLimit (origin tree.start path) (steps path) with
        denied | same
      · exact .inl (congrArg (Except.mapError Failure.os) denied)
      · exact .inr (congrArg (Except.mapError Failure.os) same)

theorem walk_as_of_isSuper
    {actor : Credentials}
    (super : actor.isSuper = true)
    (found : tree.walk follow links here names = .ok spot) :
    (tree.as actor).walk follow links here names = .ok spot := by
  rcases walk_or_denied super links here names with denied | same
  · rw [denied] at found
    cases found
  · rw [← same]
    exact found

theorem locate_as_of_isSuper
    {actor : Credentials} {path : String}
    (super : actor.isSuper = true)
    (found : tree.locate follow path = .ok spot) :
    (tree.as actor).locate follow path = .ok spot := by
  rcases locate_or_denied super follow path with denied | same
  · rw [denied] at found
    cases found
  · rw [← same]
    exact found

end

/-! ## What lasts -/

/--
Whether where relative paths start and who acts stay as they are, and all directories and sockets
with those to whom they belong.
-/
structure Lasts (tree next : FileTree) : Prop where
  start : next.start = tree.start
  actor : next.actor = tree.actor
  kept : ∀ place node, tree.lookup place = some node → node.isLasting = true →
    next.lookup place = some node
  owner : ∀ place node, tree.lookup place = some node → node.isLasting = true →
    next.ownerOf place = tree.ownerOf place

namespace Lasts

theorem refl (tree : FileTree) : tree.Lasts tree :=
  ⟨rfl, rfl, fun _ _ stands _ => stands, fun _ _ _ _ => rfl⟩

theorem trans
    {middle : FileTree}
    (first : tree.Lasts middle)
    (second : middle.Lasts next) :
    tree.Lasts next where
  start := second.start.trans first.start
  actor := second.actor.trans first.actor
  kept place node stands lasting :=
    second.kept place node (first.kept place node stands lasting) lasting
  owner place node stands lasting :=
    (second.owner place node (first.kept place node stands lasting) lasting).trans
      (first.owner place node stands lasting)

theorem as
    (lasts : tree.Lasts next)
    (actor : Credentials) :
    (tree.as actor).Lasts (next.as actor) :=
  ⟨lasts.start, rfl, lasts.kept, lasts.owner⟩

/-- What may be done with a directory stays the same. -/
theorem may
    (lasts : tree.Lasts next)
    (directory : tree.HasDirectory place)
    (use : Use) :
    next.may use place = tree.may use place := by
  obtain ⟨mode, stands⟩ := directory
  refine may_congr lasts.actor (lasts.owner place _ stands rfl) ?_ use
  rw [modeOf?_of_lookup stands, modeOf?_of_lookup (lasts.kept place _ stands rfl)]

theorem removalBar?
    {live : Bool}
    (lasts : tree.Lasts next)
    (directory : tree.HasDirectory place.dropLast)
    (stands : tree.lookup place = some (.socket live)) :
    next.removalBar? place = tree.removalBar? place := by
  obtain ⟨mode, within⟩ := directory
  rw [FileTree.removalBar?, FileTree.removalBar?, lasts.may ⟨mode, within⟩, isSticky, isSticky,
    modeOf?_of_lookup within, modeOf?_of_lookup (lasts.kept _ _ within rfl), owns, owns, owns, owns,
    lasts.actor, lasts.owner _ _ within rfl, lasts.owner _ _ stands rfl]

end Lasts

theorem Grows.lasts (grows : tree.Grows next) : tree.Lasts next where
  start := grows.start
  actor := grows.actor
  kept place node stands lasting := by
    rcases grows.kept place node stands with still | ⟨⟨_, rfl⟩, _⟩
    · exact still
    · cases lasting
  owner place node stands _ := grows.owner place node stands

theorem lasts_erase
    (stood : tree.lookup place = some node)
    (passing : node.isLasting = false) :
    tree.Lasts (tree.erase place) := by
  have apart {other : Place} {old : Node} (stands : tree.lookup other = some old)
      (lasting : old.isLasting = true) : other ≠ place := by
    rintro rfl
    rw [stood] at stands
    cases stands
    rw [passing] at lasting
    cases lasting
  refine ⟨rfl, rfl, fun other old stands lasting => ?_, fun other old stands lasting => ?_⟩
  · rw [lookup_erase, if_neg (apart stands lasting)]
    exact stands
  · exact ownerOf_erase tree (apart stands lasting)

/-! ## Ways to what lasts -/

/--
Whether a link is kept if a way to a spot passes it, that is, if the way goes on to the spot from
where the link leads.
-/
def KeepsLinks (tree next : FileTree) (spot : Spot) : Prop :=
  ∀ links here name target rest, tree.lookup (here ++ [name]) = some (.link target) →
    rest.isEmpty = false →
    (tree.as .superuser).walk false links (origin here target) (steps target ++ rest) = .ok spot →
    next.lookup (here ++ [name]) = some (.link target)

section

variable {detour ahead later : Place → List String → Except Errno Spot}
  {here : Place} {names : List String}

/-- Walks that are denied at the same directories agree if they agree where they are not. -/
theorem walkWith_congr
    {name : String} {rest : List String}
    (same : next.may .search here = tree.may .search here)
    (inside : tree.may .search here = true → next.may .search here = true →
      next.walkWith false later here (name :: rest) =
        tree.walkWith false ahead here (name :: rest)) :
    next.walkWith false later here (name :: rest) =
      tree.walkWith false ahead here (name :: rest) := by
  cases allowed : tree.may .search here with
  | true => exact inside allowed (same.trans allowed)
  | false =>
      rw [allowed] at same
      rw [walkWith, walkWith, same, allowed]
      rfl

/--
The superuser's walk to a place passes whatever anybody can pass on the way there, so that every
walk goes on as before where all that is kept.
-/
theorem walkWith_of_lasts
    (lasts : tree.Lasts next)
    (sound : tree.Sound)
    (stands : next.lookup place = some node)
    (onward : ∀ here name target rest, tree.HasDirectory here →
      tree.lookup (here ++ [name]) = some (.link target) → rest.isEmpty = false →
      detour (origin here target) (steps target ++ rest) = .ok (.present place node) →
      next.lookup (here ++ [name]) = some (.link target) ∧
        later (origin here target) (steps target ++ rest) =
          ahead (origin here target) (steps target ++ rest))
    (starts : tree.HasDirectory here)
    (found : (tree.as .superuser).walkWith false detour here names =
      .ok (.present place node)) :
    next.walkWith false later here names = tree.walkWith false ahead here names := by
  have unfollowed (node : Node) : false = true → ∀ target, node ≠ .link target :=
    fun impossible => by cases impossible
  -- The induction follows the superuser, who is never denied; the others may be at each name.
  fun_induction walkWith (tree.as .superuser) false detour here names with
  | case1 here old standing =>
      cases found
      have stood : tree.lookup place = some node := standing
      rw [walkWith, walkWith, stands, stood]
  | case3 here rest _ hypothesis =>
      refine walkWith_congr (lasts.may starts .search) fun before after => ?_
      rw [walkWith_dot before, walkWith_dot after]
      exact hypothesis starts found
  | case4 here rest _ _ hypothesis =>
      refine walkWith_congr (lasts.may starts .search) fun before after => ?_
      rw [walkWith_up before, walkWith_up after]
      exact hypothesis (starts.parent sound) found
  | case8 here name rest _ notDot notUp short within mode directory hypothesis =>
      have inner : tree.lookup within = some (.directory mode) := directory
      refine walkWith_congr (lasts.may starts .search) fun before after => ?_
      rw [walkWith_name before notDot notUp short, walkWith_name after notDot notUp short,
        inner, lasts.kept _ _ inner rfl]
      exact hypothesis ⟨mode, inner⟩ found
  | case9 here name rest _ notDot notUp short within target link stays =>
      rw [Bool.and_eq_true] at stays
      obtain ⟨there, same⟩ := Spot.present.inj (Except.ok.inj found)
      rw [← there, ← same] at stands
      refine walkWith_congr (lasts.may starts .search) fun before after => ?_
      rw [walkWith_last after notDot notUp short stays.1 stands (unfollowed _),
        walkWith_last before notDot notUp short stays.1 link (unfollowed _)]
  | case10 here name rest _ notDot notUp short within target link goes =>
      rw [Bool.not_false, Bool.and_true, Bool.not_eq_true] at goes
      obtain ⟨still, same⟩ := onward here name target rest starts link goes found
      have stood : tree.lookup (here ++ [name]) = some (.link target) := link
      refine walkWith_congr (lasts.may starts .search) fun before after => ?_
      rw [walkWith_name before notDot notUp short, walkWith_name after notDot notUp short,
        still, stood]
      dsimp only
      rw [goes]
      exact same
  | case11 here name rest _ notDot notUp short within old _ _ standing last =>
      obtain ⟨there, same⟩ := Spot.present.inj (Except.ok.inj found)
      rw [← there, ← same] at stands
      refine walkWith_congr (lasts.may starts .search) fun before after => ?_
      rw [walkWith_last after notDot notUp short last stands (unfollowed _),
        walkWith_last before notDot notUp short last standing (unfollowed _)]
  | case2 | case5 | case6 | case7 | case12 | case13 => cases found

theorem walk_of_lasts
    {links : Nat}
    (lasts : tree.Lasts next)
    (keeps : tree.KeepsLinks next (.present place node))
    (sound : tree.Sound)
    (stands : next.lookup place = some node)
    (starts : tree.HasDirectory here)
    (found : (tree.as .superuser).walk false links here names = .ok (.present place node)) :
    next.walk false links here names = tree.walk false links here names := by
  induction links generalizing here names with
  | zero =>
      exact walkWith_of_lasts lasts sound stands
        (fun _ _ _ _ _ _ _ impossible => by cases impossible) starts found
  | succ links hypothesis =>
      refine walkWith_of_lasts lasts sound stands ?_ starts found
      intro here name target rest starts link goes onward
      exact ⟨keeps links here name target rest link goes onward,
        hypothesis (sound.origin starts target) onward⟩

/-- On a way on which nothing has changed everybody gets as far as before. -/
theorem locate_of_lasts
    {path : String}
    (lasts : tree.Lasts next)
    (keeps : tree.KeepsLinks next (.present place node))
    (sound : tree.Sound)
    (stands : next.lookup place = some node)
    (found : (tree.as .superuser).locate false path = .ok (.present place node)) :
    next.locate false path = tree.locate false path := by
  obtain ⟨fits, walked⟩ := locate_eq_ok_iff.1 found
  rw [locate, locate, fits, lasts.start]
  exact congrArg (Except.mapError Failure.os)
    (walk_of_lasts lasts keeps sound stands (sound.origin sound.start path) walked)

end

/-! ## Sockets that stay -/

/--
Whether what lasts in a tree stays, the tree is still sound, and the ways to its sockets are still
open to those to whom they were.
-/
structure SocketsStay (tree next : FileTree) : Prop where
  sound : next.Sound
  lasts : tree.Lasts next
  leads : ∀ path place live,
    (tree.as .superuser).locate false path = .ok (.present place (.socket live)) →
    (next.as .superuser).locate false path = .ok (.present place (.socket live))
  ways : ∀ path place live,
    (tree.as .superuser).locate false path = .ok (.present place (.socket live)) →
    next.locate false path = tree.locate false path

/-- Whether a change leaves a sound tree sound and the ways to its sockets as they are. -/
def KeepsSockets (tree next : FileTree) : Prop := tree.Sound → tree.SocketsStay next

theorem KeepsSockets.refl (tree : FileTree) : tree.KeepsSockets tree :=
  fun sound => ⟨sound, Lasts.refl tree, fun _ _ _ found => found, fun _ _ _ _ => rfl⟩

theorem KeepsSockets.trans
    {middle : FileTree}
    (first : tree.KeepsSockets middle)
    (second : middle.KeepsSockets next) :
    tree.KeepsSockets next := by
  intro sound
  have before := first sound
  have after := second before.sound
  refine ⟨after.sound, before.lasts.trans after.lasts, ?_, ?_⟩
  · intro path place live found
    exact after.leads path place live (before.leads path place live found)
  · intro path place live found
    exact (after.ways path place live (before.leads path place live found)).trans
      (before.ways path place live found)

/-- Sockets stay where nothing that lasts changes and the links on the ways to them are kept. -/
theorem socketsStay_of_lasts
    (sound : tree.Sound)
    (safe : next.Sound)
    (lasts : tree.Lasts next)
    (keeps : ∀ place live, tree.KeepsLinks next (.present place (.socket live))) :
    tree.SocketsStay next := by
  have stands {path : String} {place : Place} {live : Bool}
      (found : (tree.as .superuser).locate false path = .ok (.present place (.socket live))) :
      next.lookup place = some (.socket live) :=
    lasts.kept place _ (locate_shows found) rfl
  refine ⟨safe, lasts, fun path place live found => ?_, fun path place live found => ?_⟩
  · rw [← found]
    exact locate_of_lasts (lasts.as .superuser) (keeps place live) (sound.as .superuser)
      (stands found) found
  · exact locate_of_lasts lasts (keeps place live) sound (stands found) found

end FileTree

end Confinement.Host
