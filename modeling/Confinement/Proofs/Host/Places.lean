import Confinement.Host.FileTree

/-!
# Paths in growing file trees

A tree grows when nothing that stands in it goes away or changes hands: directories and links stay
as they are, and files may get another content.  A walk that ended where something other than a link
stands now, be it at a name that was free, ends there in every tree that has grown
(`locate_of_grows`), since it met nothing on its way that has changed.  So what is written to a file
can be read back under the same path, and making directories leaves all files readable.
-/

namespace Confinement.Host

/-- The place that a spot is about. -/
def Spot.place : Spot → Place
  | .present place _ => place
  | .vacant directory name => directory ++ [name]

namespace FileTree

/-- Whether a tree has everything that another one has, in the same hands. -/
structure Extends (tree next : FileTree) : Prop where
  start : next.start = tree.start
  actor : next.actor = tree.actor
  kept : ∀ place node, tree.lookup place = some node → next.lookup place = some node
  owner : ∀ place node, tree.lookup place = some node → next.ownerOf place = tree.ownerOf place

/-- Whether a tree has everything that another one has, but for the content of files. -/
structure Grows (tree next : FileTree) : Prop where
  start : next.start = tree.start
  actor : next.actor = tree.actor
  kept : ∀ place node, tree.lookup place = some node →
    next.lookup place = some node ∨
      (∃ content, node = .file content) ∧ ∃ content, next.lookup place = some (.file content)
  owner : ∀ place node, tree.lookup place = some node → next.ownerOf place = tree.ownerOf place

variable {tree middle next : FileTree}

theorem Extends.refl (tree : FileTree) : tree.Extends tree :=
  ⟨rfl, rfl, fun _ _ found => found, fun _ _ _ => rfl⟩

theorem Extends.trans
    (first : tree.Extends middle)
    (second : middle.Extends next) :
    tree.Extends next where
  start := second.start.trans first.start
  actor := second.actor.trans first.actor
  kept place node found := second.kept place node (first.kept place node found)
  owner place node found :=
    (second.owner place node (first.kept place node found)).trans (first.owner place node found)

theorem Extends.grows (extension : tree.Extends next) : tree.Grows next where
  start := extension.start
  actor := extension.actor
  kept place node found := .inl (extension.kept place node found)
  owner := extension.owner

theorem extends_add
    {place : Place}
    (free : tree.lookup place = none)
    (node : Node) :
    tree.Extends (tree.add place node) := by
  have apart {other : Place} {old : Node} (found : tree.lookup other = some old) :
      other ≠ place := by
    rintro rfl
    rw [free] at found
    cases found
  refine ⟨rfl, rfl, fun other old found => ?_, fun other old found => ?_⟩
  · rw [lookup_add, if_neg (apart found)]
    exact found
  · rw [ownerOf_add, if_neg (apart found)]

theorem grows_insert
    {place : Place} {content : Bytes}
    (taken : tree.lookup place = some (.file content))
    (written : Bytes) :
    tree.Grows (tree.insert place (.file written)) := by
  refine ⟨rfl, rfl, fun other node found => ?_, fun _ _ _ => rfl⟩
  rw [lookup_insert]
  by_cases same : other = place
  · rw [same, taken] at found
    cases found
    exact .inr ⟨⟨content, rfl⟩, written, if_pos same⟩
  · exact .inl ((if_neg same).trans found)

/-! ## What may be done -/

section

variable {place : Place} {node : Node} {use : Use}

/-- What may be done with something is a matter of who acts, whose it is and which mode it has. -/
theorem may_congr
    (actor : next.actor = tree.actor)
    (owner : next.ownerOf place = tree.ownerOf place)
    (mode : next.modeOf? place = tree.modeOf? place)
    (use : Use) :
    next.may use place = tree.may use place := by
  rw [may, may, actor, owner, mode]

theorem modeOf?_of_lookup (stands : tree.lookup place = some node) :
    tree.modeOf? place = some node.mode := by
  rw [modeOf?, stands, Option.map_some]

/-- Everything is allowed to the superuser, and to others nothing where nothing stands. -/
theorem isSuper_or_stands
    (allowed : tree.may use place = true) :
    tree.actor.isSuper = true ∨ ∃ node, tree.lookup place = some node := by
  cases stands : tree.lookup place with
  | some node => exact .inr ⟨node, rfl⟩
  | none =>
      rw [FileTree.may, modeOf?, stands, Option.map_none, Option.any_none, Bool.or_false] at allowed
      exact .inl allowed

theorem may_of_isSuper
    (super : tree.actor.isSuper = true)
    (use : Use) (place : Place) :
    tree.may use place = true := by
  rw [may, super, Bool.true_or]

/-- What could be used stays of use when a tree grows. -/
theorem Grows.may
    (grows : tree.Grows next)
    (allowed : tree.may use place = true) :
    next.may use place = true := by
  rcases isSuper_or_stands allowed with super | ⟨node, stands⟩
  · exact may_of_isSuper (grows.actor ▸ super) use place
  · rw [← allowed]
    refine may_congr grows.actor (grows.owner place node stands) ?_ use
    rw [modeOf?_of_lookup stands]
    rcases grows.kept place node stands with still | ⟨⟨_, rfl⟩, _, changed⟩
    · exact modeOf?_of_lookup still
    · rw [modeOf?_of_lookup changed]
      rfl

end

/-! ## Walks -/

/-- Whether a spot tells what a tree has at its place. -/
def Shows (tree : FileTree) : Spot → Prop
  | .present place node => tree.lookup place = some node
  | .vacant directory name => tree.lookup (directory ++ [name]) = none

section

variable {follow : Bool} {detour : Place → List String → Except Errno Spot} {here : Place}
  {names : List String} {spot : Spot}

theorem walkWith_dot
    {rest : List String}
    (allowed : tree.may .search here = true) :
    tree.walkWith follow detour here ("." :: rest) = tree.walkWith follow detour here rest := by
  rw [walkWith, if_pos allowed, if_pos rfl]

theorem walkWith_up
    {rest : List String}
    (allowed : tree.may .search here = true) :
    tree.walkWith follow detour here (".." :: rest) =
      tree.walkWith follow detour here.dropLast rest := by
  rw [walkWith, if_pos allowed, if_neg (by decide), if_pos rfl]

/-- What stands under an ordinary name decides how a walk goes on. -/
theorem walkWith_name
    {name : String} {rest : List String}
    (allowed : tree.may .search here = true)
    (notDot : ¬name = ".")
    (notUp : ¬name = "..")
    (short : ¬name.utf8ByteSize > nameLimit) :
    tree.walkWith follow detour here (name :: rest) =
      match tree.lookup (here ++ [name]) with
      | none => if rest.isEmpty then .ok (.vacant here name) else .error .noEntry
      | some (.directory _) => tree.walkWith follow detour (here ++ [name]) rest
      | some (.link target) =>
        if rest.isEmpty && !follow then .ok (.present (here ++ [name]) (.link target))
        else detour (origin here target) (steps target ++ rest)
      | some node =>
        if rest.isEmpty then .ok (.present (here ++ [name]) node) else .error .notADirectory := by
  rw [walkWith, if_pos allowed, if_neg notDot, if_neg notUp]
  exact if_neg short

theorem walkWith_shows
    (onward : ∀ here names spot, detour here names = .ok spot → tree.Shows spot)
    (found : tree.walkWith follow detour here names = .ok spot) :
    tree.Shows spot := by
  fun_induction walkWith tree follow detour here names with
  | case1 here node stands =>
      cases found
      exact stands
  | case3 here rest allowed hypothesis => exact hypothesis found
  | case4 here rest allowed notDot hypothesis => exact hypothesis found
  | case6 here name rest allowed notDot notUp short place free last =>
      cases found
      exact free
  | case8 here name rest allowed notDot notUp short place mode directory hypothesis =>
      exact hypothesis found
  | case9 here name rest allowed notDot notUp short place target link stays =>
      cases found
      exact link
  | case10 here name rest allowed notDot notUp short place target link goes =>
      exact onward _ _ _ found
  | case11 here name rest allowed notDot notUp short place node _ _ stands last =>
      cases found
      exact stands
  | case2 | case5 | case7 | case12 | case13 => cases found

theorem walk_shows
    {links : Nat}
    (found : tree.walk follow links here names = .ok spot) :
    tree.Shows spot := by
  induction links generalizing here names spot with
  | zero => exact walkWith_shows (fun _ _ _ impossible => by cases impossible) found
  | succ links hypothesis => exact walkWith_shows (fun _ _ _ found => hypothesis found) found

theorem locate_eq_ok_iff
    {path : String} :
    tree.locate follow path = .ok spot ↔
      checkPath path = none ∧
        tree.walk follow linkLimit (origin tree.start path) (steps path) = .ok spot := by
  rw [locate]
  split
  · rename_i cause unfit
    exact iff_of_false nofun fun both => by rw [both.1] at unfit; cases unfit
  · rename_i fits
    rw [and_iff_right fits]
    cases tree.walk follow linkLimit (origin tree.start path) (steps path) with
    | error cause => exact iff_of_false nofun nofun
    | ok reached =>
        constructor
        all_goals
          intro same
          cases same
          rfl

theorem locate_shows
    {path : String}
    (found : tree.locate follow path = .ok spot) :
    tree.Shows spot :=
  walk_shows (locate_eq_ok_iff.1 found).2

/-- What stands under the last name of a walk is where it ends, unless it is a link to follow. -/
theorem walkWith_last
    {name : String} {rest : List String} {node : Node}
    (allowed : tree.may .search here = true)
    (notDot : ¬name = ".")
    (notUp : ¬name = "..")
    (short : ¬name.utf8ByteSize > nameLimit)
    (last : rest.isEmpty = true)
    (stands : tree.lookup (here ++ [name]) = some node)
    (noLink : follow = true → ∀ target, node ≠ .link target) :
    tree.walkWith follow detour here (name :: rest) = .ok (.present (here ++ [name]) node) := by
  rw [walkWith_name allowed notDot notUp short, stands]
  cases node with
  | directory mode =>
      rw [List.isEmpty_iff.1 last]
      dsimp only
      rw [walkWith, stands]
  | link target =>
      cases follow with
      | true => exact absurd rfl (noLink rfl target)
      | false => exact if_pos (by rw [last]; rfl)
  | file content => exact if_pos last
  | socket live => exact if_pos last

variable {other : Bool} {node : Node}

theorem Grows.directory
    {place : Place} {mode : Nat}
    (grows : tree.Grows next)
    (stands : tree.lookup place = some (.directory mode)) :
    next.lookup place = some (.directory mode) := by
  rcases grows.kept _ _ stands with still | ⟨⟨_, impossible⟩, _⟩
  · exact still
  · cases impossible

theorem Grows.link
    {place : Place} {target : String}
    (grows : tree.Grows next)
    (stands : tree.lookup place = some (.link target)) :
    next.lookup place = some (.link target) := by
  rcases grows.kept _ _ stands with still | ⟨⟨_, impossible⟩, _⟩
  · exact still
  · cases impossible

theorem walkWith_of_grows
    {later : Place → List String → Except Errno Spot}
    (grows : tree.Grows next)
    (further : follow = true → other = true)
    (stands : next.lookup spot.place = some node)
    (noLink : other = true → ∀ target, node ≠ .link target)
    (onward : ∀ here names, detour here names = .ok spot →
      later here names = .ok (.present spot.place node))
    (found : tree.walkWith follow detour here names = .ok spot) :
    next.walkWith other later here names = .ok (.present spot.place node) := by
  fun_induction walkWith tree follow detour here names with
  | case1 here old standing =>
      cases found
      have stands : next.lookup here = some node := stands
      rw [walkWith, stands]
      rfl
  | case3 here rest allowed hypothesis =>
      rw [walkWith_dot (grows.may allowed)]
      exact hypothesis found
  | case4 here rest allowed notDot hypothesis =>
      rw [walkWith_up (grows.may allowed)]
      exact hypothesis found
  | case6 here name rest allowed notDot notUp short place free last =>
      -- The name was free, and something stands there now.
      cases found
      exact walkWith_last (grows.may allowed) notDot notUp short last stands noLink
  | case8 here name rest allowed notDot notUp short place mode directory hypothesis =>
      rw [walkWith_name (grows.may allowed) notDot notUp short, grows.directory directory]
      exact hypothesis found
  | case9 here name rest allowed notDot notUp short place target link stays =>
      cases found
      rw [Bool.and_eq_true] at stays
      exact walkWith_last (grows.may allowed) notDot notUp short stays.1 stands noLink
  | case10 here name rest allowed notDot notUp short place target link goes =>
      have passed : ¬(rest.isEmpty && !other) = true := by
        intro stays
        rw [Bool.and_eq_true] at stays
        cases follow with
        | false => exact goes (by rw [stays.1]; rfl)
        | true =>
            rw [further rfl] at stays
            cases stays.2
      rw [walkWith_name (grows.may allowed) notDot notUp short, grows.link link]
      dsimp only
      rw [if_neg passed]
      exact onward _ _ found
  | case11 here name rest allowed notDot notUp short place old _ _ standing last =>
      cases found
      exact walkWith_last (grows.may allowed) notDot notUp short last stands noLink
  | case2 | case5 | case7 | case12 | case13 => cases found

/-- A walk in a tree that has grown ends where it did, at what stands there now. -/
theorem walk_of_grows
    {links : Nat}
    (grows : tree.Grows next)
    (further : follow = true → other = true)
    (stands : next.lookup spot.place = some node)
    (noLink : other = true → ∀ target, node ≠ .link target)
    (found : tree.walk follow links here names = .ok spot) :
    next.walk other links here names = .ok (.present spot.place node) := by
  induction links generalizing here names with
  | zero =>
      exact walkWith_of_grows grows further stands noLink
        (fun _ _ impossible => by cases impossible) found
  | succ links hypothesis =>
      exact walkWith_of_grows grows further stands noLink (fun _ _ found => hypothesis found) found

/--
A path that led to a spot leads to what stands there now when the tree has grown; a link there is
not followed.
-/
theorem leads_of_grows
    {path : String}
    (grows : tree.Grows next)
    (further : follow = true → other = true)
    (stands : next.lookup spot.place = some node)
    (noLink : other = true → ∀ target, node ≠ .link target)
    (found : tree.locate follow path = .ok spot) :
    next.locate other path = .ok (.present spot.place node) := by
  obtain ⟨fits, walked⟩ := locate_eq_ok_iff.1 found
  refine locate_eq_ok_iff.2 ⟨fits, ?_⟩
  rw [grows.start]
  exact walk_of_grows grows further stands noLink walked

/-- A path that led to where something other than a link stands now leads there. -/
theorem locate_of_grows
    {path : String}
    (grows : tree.Grows next)
    (stands : next.lookup spot.place = some node)
    (noLink : ∀ target, node ≠ .link target)
    (found : tree.locate follow path = .ok spot) :
    next.locate true path = .ok (.present spot.place node) :=
  leads_of_grows grows (fun _ => rfl) stands (fun _ => noLink) found

/-- A path whose last link is not followed leads to whatever stands where it led. -/
theorem locate_unfollowed_of_grows
    {path : String}
    (grows : tree.Grows next)
    (stands : next.lookup spot.place = some node)
    (found : tree.locate false path = .ok spot) :
    next.locate false path = .ok (.present spot.place node) :=
  leads_of_grows grows (fun followed => followed) stands (fun followed => by cases followed) found

end

/-- What a path leads to stays where it is when nothing goes away. -/
theorem locate_of_extends
    {path : String} {place : Place} {node : Node}
    (extension : tree.Extends next)
    (found : tree.locate false path = .ok (.present place node)) :
    next.locate false path = .ok (.present place node) := by
  have stands : next.lookup (Spot.present place node).place = some node :=
    extension.kept place node (locate_shows found)
  exact locate_unfollowed_of_grows extension.grows stands found

/-! ## Files -/

section

variable {path : String} {place : Place} {content other : Bytes}

theorem openForWriting_eq_ok_iff :
    tree.openForWriting path = .ok (place, content) ↔
      tree.locate true path = .ok (.present place (.file content)) ∧
        tree.may .change place = true := by
  rw [openForWriting]
  constructor
  · intro opened
    split at opened
    · cases opened
    · rename_i located
      split at opened
      · rename_i allowed
        cases opened
        exact ⟨located, allowed⟩
      · cases opened
    all_goals cases opened
  · rintro ⟨located, allowed⟩
    rw [located]
    exact if_pos allowed

theorem lookup_of_openForWriting
    (opened : tree.openForWriting path = .ok (place, content)) :
    tree.lookup place = some (.file content) :=
  locate_shows (openForWriting_eq_ok_iff.1 opened).1

/-- A path that leads to a file still does when the tree has grown. -/
theorem openForWriting_of_grows
    (grows : tree.Grows next)
    (file : next.lookup place = some (.file other))
    (opened : tree.openForWriting path = .ok (place, content)) :
    next.openForWriting path = .ok (place, other) := by
  obtain ⟨located, allowed⟩ := openForWriting_eq_ok_iff.1 opened
  have stands : next.lookup (Spot.present place (.file content)).place = some (.file other) := file
  exact openForWriting_eq_ok_iff.2
    ⟨locate_of_grows grows stands (fun _ same => by cases same) located, grows.may allowed⟩

/-- A path that leads to a file leads to a file when the tree has grown. -/
theorem locate_file_of_grows
    (grows : tree.Grows next)
    (located : tree.locate true path = .ok (.present place (.file content))) :
    ∃ other, next.locate true path = .ok (.present place (.file other)) := by
  obtain ⟨other, stands⟩ : ∃ other, next.lookup place = some (.file other) := by
    rcases grows.kept _ _ (locate_shows located) with still | ⟨_, changed⟩
    · exact ⟨content, still⟩
    · exact changed
  have there : next.lookup (Spot.present place (.file content)).place = some (.file other) := stands
  exact ⟨other, locate_of_grows grows there (fun _ same => by cases same) located⟩

theorem openForWriting_of_extends
    (extension : tree.Extends next)
    (opened : tree.openForWriting path = .ok (place, content)) :
    next.openForWriting path = .ok (place, content) :=
  openForWriting_of_grows extension.grows
    (extension.kept _ _ (lookup_of_openForWriting opened)) opened

theorem isPresent_of_openForWriting
    (opened : tree.openForWriting path = .ok (place, content)) :
    tree.isPresent path = true := by
  rw [isPresent, stat, (openForWriting_eq_ok_iff.1 opened).1]

section

variable {text : String}

/-- A text can be read where a path leads to the file that holds it. -/
theorem readText_eq_ok_iff :
    tree.readText path = .ok text ↔
      ∃ place, tree.locate true path = .ok (.present place (.file (Text.bytes text))) := by
  rw [readText, readFile]
  constructor
  · intro read
    split at read
    · cases read
    · rename_i content found
      split at found
      · cases found
      · rename_i located
        cases found
        split at read
        · rename_i decoded
          cases read
          rw [← Text.ofBytes?_eq_some_iff.1 decoded] at located
          exact ⟨_, located⟩
        · cases read
      all_goals cases found
  · rintro ⟨place, located⟩
    rw [located]
    dsimp only
    rw [Text.ofBytes?_bytes]

theorem readText_of_openForWriting
    (opened : tree.openForWriting path = .ok (place, Text.bytes text)) :
    tree.readText path = .ok text :=
  readText_eq_ok_iff.2 ⟨place, (openForWriting_eq_ok_iff.1 opened).1⟩

theorem readText_of_extends
    (extension : tree.Extends next)
    (read : tree.readText path = .ok text) :
    next.readText path = .ok text := by
  obtain ⟨place, located⟩ := readText_eq_ok_iff.1 read
  have stands : next.lookup (Spot.present place (.file (Text.bytes text))).place =
      some (.file (Text.bytes text)) := extension.kept _ _ (locate_shows located)
  exact readText_eq_ok_iff.2
    ⟨place, locate_of_grows extension.grows stands (fun _ same => by cases same) located⟩

end

theorem withoutTrailingSlashes_eq_self
    (named : path.toList.getLast? ≠ some '/') :
    withoutTrailingSlashes path = path := by
  have kept : path.toList.reverse.dropWhile (· == '/') = path.toList.reverse := by
    rw [← List.head?_reverse] at named
    cases reversed : path.toList.reverse with
    | nil => rfl
    | cons last others =>
        rw [reversed, List.head?_cons] at named
        rw [List.dropWhile_cons, if_neg]
        rw [beq_iff_eq]
        exact fun slash => named (congrArg some slash)
  rw [withoutTrailingSlashes, kept, List.reverse_reverse, if_neg, String.ofList_toList]
  rintro ⟨empty, some⟩
  rw [List.isEmpty_iff, String.toList_eq_nil_iff] at empty
  exact some empty

/-- What the actor adds to a tree as a file it may write to. -/
theorem may_change_add_file (tree : FileTree) (place : Place) (content : Bytes) :
    (tree.add place (.file content)).may .change place = true := by
  have stands : (tree.add place (.file content)).lookup place = some (.file content) := by
    rw [lookup_add, if_pos rfl]
  have own : tree.actor.granted tree.actor (Node.file content).mode .change = true := by
    rw [Credentials.granted_own, Node.mode]
    decide
  rw [may, modeOf?_of_lookup stands, ownerOf_add, if_pos rfl, Option.any_some, Bool.or_eq_true]
  exact .inr own

/-- What is written to a file is found under its path, which led to that file or to a free name. -/
theorem writeFile_ok
    (named : path.toList.getLast? ≠ some '/')
    (written : tree.writeFile path content = .ok next) :
    ∃ place, (∀ other, next.lookup other =
        if other = place then some (.file content) else tree.lookup other) ∧
      tree.Grows next ∧ next.openForWriting path = .ok (place, content) ∧
      (tree.lookup place = none ∨ ∃ old, tree.openForWriting path = .ok (place, old)) := by
  rw [writeFile, withoutTrailingSlashes_eq_self named] at written
  split at written
  · cases written
  · cases written
  · cases written
  · cases written
  · rename_i place old located
    split at written
    · cases written
    · split at written
      · rename_i allowed
        cases written
        have grows := grows_insert (locate_shows located) content
        have opened := openForWriting_eq_ok_iff.2 ⟨located, allowed⟩
        refine ⟨place, fun other => lookup_insert .., grows, ?_, .inr ⟨old, opened⟩⟩
        exact openForWriting_of_grows grows (by rw [lookup_insert, if_pos rfl]) opened
      · cases written
  · rename_i parent name located
    split at written
    · cases written
    · obtain ⟨_, rfl⟩ := create_eq_ok_iff.1 written
      have grows := (extends_add (locate_shows located) (.file content)).grows
      refine ⟨parent ++ [name], fun other => lookup_add .., grows, ?_, .inl (locate_shows located)⟩
      refine openForWriting_eq_ok_iff.2 ⟨?_, may_change_add_file tree _ content⟩
      exact locate_of_grows grows (by rw [lookup_add]; exact if_pos rfl)
        (fun _ same => by cases same) located

/-! ## Directories -/

/--
Whether a tree has everything that another one has, and besides it only directories of the given
mode.
-/
structure Furnished (mode : Nat) (tree next : FileTree) : Prop where
  extension : tree.Extends next
  added : ∀ place node, tree.lookup place = none → next.lookup place = some node →
    node = .directory mode

variable {mode : Nat}

theorem Furnished.refl (mode : Nat) (tree : FileTree) : tree.Furnished mode tree := by
  refine ⟨Extends.refl tree, ?_⟩
  intro place node free stands
  rw [free] at stands
  cases stands

theorem Furnished.trans
    (first : tree.Furnished mode middle)
    (second : middle.Furnished mode next) :
    tree.Furnished mode next := by
  refine ⟨first.extension.trans second.extension, ?_⟩
  intro place node free stands
  cases between : middle.lookup place with
  | none => exact second.added place node between stands
  | some other =>
      rw [second.extension.kept place other between, Option.some.injEq] at stands
      rw [← stands]
      exact first.added place other free between

theorem furnished_makeDirectory
    (made : tree.makeDirectory mode path = .ok next) :
    tree.Furnished mode next := by
  rw [makeDirectory] at made
  split at made
  · cases made
  · cases made
  · rename_i located
    obtain ⟨_, rfl⟩ := create_eq_ok_iff.1 made
    refine ⟨extends_add (locate_shows located) _, ?_⟩
    intro place node free stands
    rw [lookup_add, free] at stands
    split at stands <;> cases stands
    rfl

section

variable {leads : FileTree → FileTree → Prop}

/-- To make what a path lacks leads wherever making single directories leads. -/
theorem leads_missingAncestors
    {paths missing : List String}
    (refl : ∀ tree, leads tree tree)
    (once : ∀ tree next path, tree.makeDirectory mode path = .ok next → leads tree next)
    (found : missingAncestors mode tree paths = .ok (missing, next)) :
    leads tree next := by
  induction paths generalizing missing with
  | nil =>
      cases found
      exact refl tree
  | cons path rest hypothesis =>
      rw [missingAncestors] at found
      split at found
      · cases found
        exact refl tree
      · split at found
        · rename_i made
          cases found
          exact once _ _ _ made
        · split at found
          · rename_i further
            cases found
            exact hypothesis further
          · cases found
        · split at found
          · cases found
            exact refl tree
          · cases found
        · cases found

theorem leads_makeEach
    (refl : ∀ tree, leads tree tree)
    (trans : ∀ tree middle next, leads tree middle → leads middle next → leads tree next)
    (once : ∀ tree next path, tree.makeDirectory mode path = .ok next → leads tree next)
    (paths : List String) (tree : FileTree) :
    leads tree (makeEach mode tree paths).2 := by
  induction paths generalizing tree with
  | nil => exact refl tree
  | cons path rest hypothesis =>
      rw [makeEach]
      split
      · rename_i made
        exact trans _ _ _ (once _ _ _ made) (hypothesis _)
      · split
        · exact hypothesis tree
        · exact refl tree
      · exact refl tree

theorem leads_makeDirectories
    (refl : ∀ tree, leads tree tree)
    (trans : ∀ tree middle next, leads tree middle → leads middle next → leads tree next)
    (once : ∀ tree next path, tree.makeDirectory mode path = .ok next → leads tree next)
    (tree : FileTree) (path : String) :
    leads tree (tree.makeDirectories mode path).2 := by
  rw [makeDirectories]
  split
  · exact refl tree
  · split
    · exact refl tree
    · rename_i found
      have missing := leads_missingAncestors refl once found
      exact trans _ _ _ missing (leads_makeEach refl trans once _ _)

end

theorem furnished_makeEach (paths : List String) (tree : FileTree) :
    tree.Furnished mode (makeEach mode tree paths).2 :=
  leads_makeEach (Furnished.refl mode) (fun _ _ _ => Furnished.trans)
    (fun _ _ _ => furnished_makeDirectory) paths tree

/-- Making directories takes nothing away and adds nothing else, however far it comes. -/
theorem furnished_makeDirectories (tree : FileTree) (mode : Nat) (path : String) :
    tree.Furnished mode (tree.makeDirectories mode path).2 :=
  leads_makeDirectories (Furnished.refl mode) (fun _ _ _ => Furnished.trans)
    (fun _ _ _ => furnished_makeDirectory) tree path

end

end FileTree

end Confinement.Host
