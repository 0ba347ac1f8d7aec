import Confinement.Proofs.Actions
import Confinement.Proofs.Host.Removal
import Confinement.Proofs.Policy.RuleText
import Confinement.Proofs.Staging.Reachable

/-!
# Loading rules into a kernel

A `Smackfs` is a file tree in which one file is the kernel's: what is written to it is taken as
rules, kept in order, and the file is empty again.  The access of a pair of labels is what the last
rule for that pair says (`access`).

For each step of the labeller by rules it is said once what it does to the rules loaded and to the
rule file of an application: `install_cases` for an installation; an uninstallation takes back what
the rule file states (`uninstall_of_read`) and loads it without access (`loaded_revoke`).
-/

namespace Confinement.Policy

open Host Staging

/-! ## Access -/

/-- The labels between which a rule decides. -/
def Rule.pair (rule : Rule) : String × String := (rule.subject, rule.object)

/-- The pairs for which rules are stated. -/
def pairs (rules : List Rule) : List (String × String) := rules.map Rule.pair

/-- The access of a pair after rules were loaded one after another: each sets that of its pair. -/
def access (loaded : List Rule) (pair : String × String) : String :=
  loaded.foldl (fun now rule => if rule.pair = pair then rule.access else now) noAccess

/-- Rules with their own access, or all with the access that is given. -/
def stated (rules : List Rule) (access : Option String) : List Rule :=
  rules.map fun rule => { rule with access := access.getD rule.access }

theorem stated_none (rules : List Rule) : stated rules none = rules := List.map_id rules

theorem pairs_stated (rules : List Rule) (access : Option String) :
    pairs (stated rules access) = pairs rules := by
  rw [pairs, stated, List.map_map]
  rfl

section

variable {loaded more : List Rule} {pair : String × String}

theorem access_append_cons (loaded : List Rule) (rule : Rule) (rest : List Rule)
    (pair : String × String) :
    access (loaded ++ rule :: rest) pair = access ((loaded ++ [rule]) ++ rest) pair := by
  rw [List.append_assoc]
  rfl

theorem access_concat (loaded : List Rule) (rule : Rule) (pair : String × String) :
    access (loaded ++ [rule]) pair =
      if rule.pair = pair then rule.access else access loaded pair := by
  rw [access, List.foldl_append]
  rfl

/-- Rules that grant something add their pairs to those with access. -/
theorem access_append_of_granting
    (granting : ∀ rule ∈ more, rule.access ≠ noAccess) :
    access (loaded ++ more) pair ≠ noAccess ↔
      pair ∈ pairs more ∨ access loaded pair ≠ noAccess := by
  induction more generalizing loaded with
  | nil => simp [pairs]
  | cons rule rest hypothesis =>
      have first := granting rule List.mem_cons_self
      rw [access_append_cons,
        hypothesis fun other member => granting other (List.mem_cons_of_mem rule member),
        access_concat, pairs, pairs, List.map_cons, List.mem_cons]
      by_cases same : rule.pair = pair
      · rw [if_pos same]
        exact iff_of_true (.inr first) (.inl (.inl same.symm))
      · have apart : ¬pair = rule.pair := fun equal => same equal.symm
        rw [if_neg same, or_iff_right apart]

/-- Rules without access take their pairs out of those with access. -/
theorem access_append_of_revoking
    (revoking : ∀ rule ∈ more, rule.access = noAccess) :
    access (loaded ++ more) pair ≠ noAccess ↔
      pair ∉ pairs more ∧ access loaded pair ≠ noAccess := by
  induction more generalizing loaded with
  | nil => simp [pairs]
  | cons rule rest hypothesis =>
      have first := revoking rule List.mem_cons_self
      rw [access_append_cons,
        hypothesis fun other member => revoking other (List.mem_cons_of_mem rule member),
        access_concat, pairs, pairs, List.map_cons, List.mem_cons, not_or]
      by_cases same : rule.pair = pair
      · rw [if_pos same]
        exact iff_of_false (fun both => both.2 first) (fun both => both.1.1 same.symm)
      · have apart : ¬pair = rule.pair := fun equal => same equal.symm
        rw [if_neg same, and_iff_right apart]

/-- Of what was loaded before a rule for a pair, nothing matters to it. -/
theorem access_append_of_mem
    (member : pair ∈ pairs more) :
    access (loaded ++ more) pair = access more pair := by
  rw [access, access, List.foldl_append]
  generalize loaded.foldl _ _ = before
  generalize noAccess = nothing
  induction more generalizing before nothing with
  | nil => cases member
  | cons rule rest hypothesis =>
      rw [List.foldl_cons, List.foldl_cons]
      by_cases same : rule.pair = pair
      · rw [if_pos same, if_pos same]
      · rw [if_neg same, if_neg same]
        apply hypothesis
        rcases List.mem_cons.1 member with here | later
        · exact absurd here.symm same
        · exact later

end

/-! ## The rule file -/

/-- The name of a rule file ends in that of its application. -/
theorem Smack.getLast?_ruleFile
    {World : Type} (smack : Smack World) {id : String}
    (valid : isValidId id = true) :
    (smack.ruleFile id).toList.getLast? ≠ some '/' := by
  have name : '/' ∉ ("app-" ++ id).toList := by
    rw [isValidId, Bool.and_eq_true, List.all_eq_true] at valid
    rw [String.toList_append, List.mem_append, not_or]
    exact ⟨by decide, fun inside => absurd (valid.2 _ inside) (by decide)⟩
  have relative : Path.isAbsolute ("app-" ++ id) = false := by
    rw [Path.isAbsolute, String.toList_append]
    rfl
  have last (directory : List Char) :
      (directory ++ ("app-" ++ id).toList).getLast? ≠ some '/' := by
    rw [List.getLast?_append]
    intro slash
    cases found : ("app-" ++ id).toList.getLast? with
    | none =>
        rw [List.getLast?_eq_none_iff, String.toList_append] at found
        exact absurd (List.append_eq_nil_iff.1 found).1 (by decide)
    | some c =>
        rw [found] at slash
        cases slash
        exact name (List.mem_of_getLast? found)
  rw [ruleFile, Path.join, relative, if_neg Bool.false_ne_true]
  split
  · rw [String.toList_append]
    exact last _
  · rw [String.toList_append]
    exact last _

/-! ## The kernel's file -/

/-- A file tree in which one file is the kernel's, and whatever else there is. -/
structure Smackfs (Rest : Type) where
  files : FileTree
  /-- The rules loaded so far, in order. -/
  loaded : List Rule
  rest : Rest

/-- What a labeller by rules works with, and the place of the kernel's file. -/
structure Mount (Rest : Type) where
  rulesDirectory : String
  mount : String
  gate : Place
  /-- Attributes can be set or not; they are no part of the files. -/
  setAttribute : (path name : String) → (value : Bytes) → Smackfs Rest → Except Failure Unit × Rest

namespace Mount

variable {Rest : Type} (mount : Mount Rest)

/-- The files of a kernel that takes what is written to its file as rules. -/
def files : Part (Smackfs Rest) FileTree where
  get := Smackfs.files
  put tree world :=
    match tree.lookup mount.gate with
    | some (.file (byte :: content)) =>
      { world with
        files := tree.insert mount.gate (.file [])
        loaded := world.loaded ++ ((Text.ofBytes? (byte :: content)).map readRules).getD [] }
    | _ => { world with files := tree }

/-- The labeller by rules on such a kernel. -/
def smack : Smack (Smackfs Rest) where
  rulesDirectory := mount.rulesDirectory
  mount := mount.mount
  files := mount.files
  setAttribute path name value world :=
    let (result, rest) := mount.setAttribute path name value world
    (result, { world with rest })

/-- The path under which the rules of an application are kept. -/
def ruleFile (id : String) : String := mount.smack.ruleFile id

/--
Whether the kernel's interface is mounted: the load file is the kernel's, and once its directory is
made, the rule file of an application is another one.
-/
structure Mounted (id : String) (world : Smackfs Rest) : Prop where
  gate : world.files.openForWriting mount.smack.loadFile = .ok (mount.gate, [])
  apart : ∀ content,
    (world.files.makeDirectories 0o755 mount.rulesDirectory).2.openForWriting (mount.ruleFile id) ≠
      .ok (mount.gate, content)

variable {mount} {id : String} {context : Context} {world : Smackfs Rest} {tree after : FileTree}

/-- As long as the kernel's file is empty, nothing is loaded. -/
theorem put_of_empty
    (world : Smackfs Rest)
    (empty : tree.lookup mount.gate = some (.file [])) :
    mount.files.put tree world = { world with files := tree } := by
  rw [files]
  dsimp only
  rw [empty]

/-- Nothing is loaded by removing a file, even the kernel's. -/
theorem put_of_removed
    {path : String}
    (empty : tree.lookup mount.gate = some (.file []))
    (removed : tree.removeFile path = .ok after) :
    mount.files.put after world = { world with files := after } := by
  obtain ⟨place, _, _, _, _, rfl⟩ := FileTree.removeFile_eq_ok_iff.1 removed
  rw [files]
  dsimp only
  rw [FileTree.lookup_erase, empty]
  by_cases same : mount.gate = place
  · rw [if_pos same]
  · rw [if_neg same]

/-- The rules that a text in the kernel's file states are loaded, and the file is empty again. -/
theorem put_of_written
    (world : Smackfs Rest) (text : String)
    (empty : tree.lookup mount.gate = some (.file [])) :
    ∃ files, tree.Extends files ∧
      mount.files.put (tree.insert mount.gate (.file (Text.bytes text))) world =
        { world with files, loaded := world.loaded ++ readRules text } := by
  have written : (tree.insert mount.gate (.file (Text.bytes text))).lookup mount.gate =
      some (.file (Text.bytes text)) := by
    rw [FileTree.lookup_insert, if_pos rfl]
  cases bytes : Text.bytes text with
  | nil =>
      have nothing : text = "" := Text.bytes_injective bytes
      rw [bytes] at written
      refine ⟨tree.insert mount.gate (.file []), ⟨rfl, rfl, ?_, fun _ _ _ => rfl⟩, ?_⟩
      · intro place node found
        rw [FileTree.lookup_insert]
        split
        · rename_i same
          rw [same, empty] at found
          exact found
        · exact found
      · rw [put_of_empty world written, nothing]
        show _ = { world with files := _, loaded := world.loaded ++ [] }
        rw [List.append_nil]
  | cons byte content =>
      rw [bytes] at written
      refine ⟨(tree.insert mount.gate (.file (byte :: content))).insert mount.gate (.file []),
        ⟨rfl, rfl, ?_, fun _ _ _ => rfl⟩, ?_⟩
      · intro place node found
        rw [FileTree.lookup_insert, FileTree.lookup_insert]
        split
        · rename_i same
          rw [same, empty] at found
          exact found
        · exact found
      · rw [files]
        dsimp only
        rw [written]
        dsimp only
        rw [← bytes, Text.ofBytes?_bytes]
        rfl

@[simp]
theorem get_smack (world : Smackfs Rest) : mount.smack.files.get world = world.files := rfl

@[simp]
theorem put_smack (tree : FileTree) (world : Smackfs Rest) :
    mount.smack.files.put tree world = mount.files.put tree world := rfl

@[simp]
theorem rulesDirectory_smack : mount.smack.rulesDirectory = mount.rulesDirectory := rfl

/-- A change is made in the files, or fails and changes nothing. -/
theorem change_cases
    (mount : Mount Rest) (action path : String) (operation : FileTree → Except Failure FileTree)
    (world : Smackfs Rest) :
    (∃ cause, operation world.files = .error cause ∧
      mount.smack.change action path operation world = (.error (.file action path cause), world)) ∨
    ∃ tree, operation world.files = .ok tree ∧
      mount.smack.change action path operation world = (.ok (), mount.files.put tree world) := by
  rw [Smack.change, get_smack]
  cases operation world.files with
  | error cause => exact .inl ⟨cause, rfl, rfl⟩
  | ok tree => exact .inr ⟨tree, rfl, rfl⟩

/-! ## Installing -/

theorem lookup_gate (mounted : mount.Mounted id world) :
    world.files.lookup mount.gate = some (.file []) :=
  FileTree.lookup_of_openForWriting mounted.gate

theorem makeDirectory_eq
    (mounted : mount.Mounted id world) :
    ∃ result, mount.smack.makeDirectory world =
      (result, { world with
        files := (world.files.makeDirectories 0o755 mount.rulesDirectory).2 }) := by
  have extension :=
    (FileTree.furnished_makeDirectories world.files 0o755 mount.rulesDirectory).extension
  have put := put_of_empty world (extension.kept _ _ (lookup_gate mounted))
  rw [Smack.makeDirectory, get_smack, rulesDirectory_smack]
  generalize world.files.makeDirectories 0o755 mount.rulesDirectory = made at put
  obtain ⟨none | cause, tree⟩ := made <;> exact ⟨_, Prod.ext rfl put⟩

/-- What can come of writing a rule file. -/
theorem writeRules_cases
    (mounted : mount.Mounted id world)
    (valid : isValidId id = true)
    (rules : List Rule) :
    (∃ error files,
      mount.smack.writeRules (mount.ruleFile id) rules world =
          (.error error, { world with files }) ∧
      world.files.Extends files) ∨
    ∃ files place,
      mount.smack.writeRules (mount.ruleFile id) rules world = (.ok (), { world with files }) ∧
      files.openForWriting (mount.ruleFile id) = .ok (place, Text.bytes (ruleText rules)) ∧
      place ≠ mount.gate ∧
      files.openForWriting mount.smack.loadFile = .ok (mount.gate, []) := by
  have extension :=
    (FileTree.furnished_makeDirectories world.files 0o755 mount.rulesDirectory).extension
  have gate := FileTree.openForWriting_of_extends extension mounted.gate
  have empty := FileTree.lookup_of_openForWriting gate
  have apart := mounted.apart
  obtain ⟨result, made⟩ := makeDirectory_eq mounted
  rw [Smack.writeRules, Action.bind_apply, made]
  generalize (world.files.makeDirectories 0o755 mount.rulesDirectory).2 = tree
    at extension gate empty apart
  obtain error | done := result
  · exact .inl ⟨error, tree, rfl, extension⟩
  · dsimp only
    rcases change_cases mount "write" (mount.ruleFile id)
      (fun tree => tree.writeFile (mount.ruleFile id) (Text.bytes (ruleText rules)))
      { world with files := tree } with ⟨cause, _, failed⟩ | ⟨next, written, changed⟩
    · exact .inl ⟨_, tree, failed, extension⟩
    · obtain ⟨place, places, grows, opened, before⟩ :=
        FileTree.writeFile_ok (mount.smack.getLast?_ruleFile valid) written
      have distinct : place ≠ mount.gate := by
        rintro rfl
        rcases before with free | ⟨old, leads⟩
        · rw [empty] at free
          cases free
        · exact apart old leads
      have still : next.lookup mount.gate = some (.file []) := by
        rw [places, if_neg distinct.symm]
        exact empty
      refine .inr ⟨_, place, changed.trans ?_, opened, distinct,
        FileTree.openForWriting_of_grows grows still gate⟩
      rw [put_of_empty _ still]

/-- Rules of words are loaded as they are, or all with the access that is given. -/
theorem pushRules_eq
    {rules : List Rule} (access : Option String)
    (opened : world.files.openForWriting mount.smack.loadFile = .ok (mount.gate, []))
    (plain : ∀ rule ∈ stated rules access, rule.IsPlain) :
    ∃ files, world.files.Extends files ∧
      mount.smack.pushRules rules access world =
        (.ok (), { world with files, loaded := world.loaded ++ stated rules access }) := by
  have written : (Smack.loadLines rules access).flatMap Text.bytes =
      Text.bytes (ruleText (stated rules access)) := by
    rw [ruleText, Text.bytes_join, stated, List.map_map]
    rfl
  obtain ⟨files, extension, put⟩ := put_of_written world
    (ruleText (stated rules access)) (FileTree.lookup_of_openForWriting opened)
  rw [readRules_ruleText plain] at put
  refine ⟨files, extension, ?_⟩
  rw [Smack.pushRules]
  dsimp only
  rw [get_smack, if_pos (FileTree.isPresent_of_openForWriting opened), opened]
  dsimp only
  rw [written, FileTree.overwritten, List.drop_nil, List.append_nil, put_smack, put]

/-- Whether a call leaves the files and the rules loaded as they are. -/
def Keeps (call : Call (Smackfs Rest) Unit) : Prop :=
  ∀ world, ∃ result rest, call world = (result, { world with rest })

/-- Whether files and loaded rules are the same in two worlds. -/
def SameLoad (world next : Smackfs Rest) : Prop := ∃ rest, next = { world with rest }

theorem SameLoad.refl (world : Smackfs Rest) : SameLoad world world := ⟨world.rest, rfl⟩

theorem SameLoad.trans
    (world middle last : Smackfs Rest)
    (first : SameLoad world middle)
    (second : SameLoad middle last) :
    SameLoad world last := by
  obtain ⟨_, rfl⟩ := first
  obtain ⟨rest, rfl⟩ := second
  exact ⟨rest, rfl⟩

theorem keeps_of_moves
    {call : Call (Smackfs Rest) Unit}
    (moves : call.Moves SameLoad) :
    Keeps call := by
  intro world
  obtain ⟨rest, same⟩ := moves world
  exact ⟨_, rest, Prod.ext rfl same⟩

theorem sameLoad_label (mount : Mount Rest) (path name value : String) :
    (mount.smack.label path name value).Moves SameLoad := by
  intro world
  rw [Smack.label]
  generalize set : mount.smack.setAttribute path name (Text.bytes value) world = outcome
  have after : outcome.2 =
      { world with rest := (mount.setAttribute path name (Text.bytes value) world).2 } := by
    rw [← set]
    rfl
  obtain ⟨error | done, next⟩ := outcome
  · exact ⟨_, after⟩
  · exact ⟨_, after⟩

theorem sameLoad_labelPath (mount : Mount Rest) (id : String) (entry : LabelledPath) :
    (mount.smack.labelPath id entry).Moves SameLoad :=
  (sameLoad_label mount _ _ _).bind SameLoad.trans fun _ =>
    ((sameLoad_label mount _ _ _).ite SameLoad.refl _).bind SameLoad.trans fun _ =>
      (sameLoad_label mount _ _ _).ite SameLoad.refl _

theorem sameLoad_labelPlug (mount : Mount Rest) (id : String) (plug : Plug) :
    (mount.smack.labelPlug id plug).Moves SameLoad :=
  (sameLoad_label mount _ _ _).bind SameLoad.trans fun _ => sameLoad_label mount _ _ _

/-- Setting the labels of all that is staged changes neither files nor loaded rules. -/
theorem keeps_labels (mount : Mount Rest) (id : String) (context : Context) :
    Keeps (do
      Action.forEach (mount.smack.labelPath id) context.paths
      Action.forEach (mount.smack.labelPlug id) context.plugs) := by
  apply keeps_of_moves
  apply (Action.Moves.forEach SameLoad.refl SameLoad.trans (sameLoad_labelPath mount id) _).bind
    SameLoad.trans
  intro _
  exact Action.Moves.forEach SameLoad.refl SameLoad.trans (sameLoad_labelPlug mount id) _

/--
What can come of an installation: it fails before anything is loaded, or it loads the rules of the
context and has them in the rule file, whether or not it fails afterwards.
-/
theorem install_cases
    (mounted : mount.Mounted id world)
    (own : context.id = some id)
    (plain : ∀ rule ∈ rulesOf id context, rule.IsPlain)
    (valid : isValidId id = true) :
    (∃ error files,
      mount.smack.install context world = (.error error, { world with files }) ∧
      world.files.Extends files) ∨
    ∃ result next,
      mount.smack.install context world = (result, next) ∧
      next.loaded = world.loaded ++ rulesOf id context ∧
      next.files.readText (mount.ruleFile id) = .ok (ruleText (rulesOf id context)) := by
  rw [Smack.install, own]
  dsimp only
  rw [Action.bind_apply]
  rcases writeRules_cases mounted valid (rulesOf id context) with
    ⟨error, files, failed, extension⟩ | ⟨files, place, written, opened, distinct, gate⟩
  · rw [ruleFile] at failed
    rw [failed]
    exact .inl ⟨error, files, rfl, extension⟩
  · have further : ∀ rule ∈ stated (rulesOf id context) none, rule.IsPlain := by
      rwa [stated_none]
    have opens : ({ world with files } : Smackfs Rest).files.openForWriting mount.smack.loadFile =
        .ok (mount.gate, []) := gate
    obtain ⟨loadedFiles, extension, pushed⟩ := pushRules_eq none opens further
    obtain ⟨result, rest, labelled⟩ := keeps_labels mount id context
      { world with files := loadedFiles, loaded := world.loaded ++ rulesOf id context }
    rw [ruleFile] at written
    rw [written]
    dsimp only
    rw [Action.bind_apply, pushed]
    dsimp only
    rw [stated_none]
    refine .inr ⟨result, _, labelled, rfl, ?_⟩
    exact FileTree.readText_of_openForWriting
      (FileTree.openForWriting_of_extends extension opened)

/-- An installation that succeeds has loaded the rules and has them in the rule file. -/
theorem install_ok
    (mounted : mount.Mounted id world)
    (own : context.id = some id)
    (plain : ∀ rule ∈ rulesOf id context, rule.IsPlain)
    (valid : isValidId id = true)
    (succeeded : (mount.smack.install context world).1 = .ok ()) :
    (mount.smack.install context world).2.loaded = world.loaded ++ rulesOf id context ∧
      (mount.smack.install context world).2.files.readText (mount.ruleFile id) =
        .ok (ruleText (rulesOf id context)) := by
  rcases install_cases mounted own plain valid with
    ⟨error, files, failed, _⟩ | ⟨result, next, installed, loaded, read⟩
  · rw [failed] at succeeded
    cases succeeded
  · rw [installed]
    exact ⟨loaded, read⟩

/-! ## Uninstalling -/

/-- Takes rules back: loads them without access and removes the rule file. -/
def revoke (mount : Mount Rest) (id : String) (rules : List Rule) : Call (Smackfs Rest) Unit := do
  mount.smack.pushRules rules (some noAccess)
  mount.smack.change "remove" (mount.ruleFile id) (fun tree => tree.removeFile (mount.ruleFile id))

/-- Rules that are taken back are loaded without access, whether or not the file can be removed. -/
theorem loaded_revoke
    {rules : List Rule}
    (mounted : mount.Mounted id world)
    (plain : ∀ rule ∈ rules, rule.IsPlain) :
    (mount.revoke id rules world).2.loaded = world.loaded ++ stated rules (some noAccess) := by
  have plainWithout : ∀ rule ∈ stated rules (some noAccess), rule.IsPlain := by
    intro rule member
    obtain ⟨granted, among, rfl⟩ := List.mem_map.1 member
    have words := plain granted among
    exact ⟨words.subject, words.object, (by decide : Text.IsWord noAccess)⟩
  obtain ⟨files, extension, pushed⟩ := pushRules_eq (some noAccess) mounted.gate plainWithout
  have still := extension.kept _ _ (lookup_gate mounted)
  rw [revoke, Action.bind_apply, pushed]
  dsimp only
  rcases change_cases mount "remove" (mount.ruleFile id)
    (fun tree => tree.removeFile (mount.ruleFile id))
    { world with files, loaded := world.loaded ++ stated rules (some noAccess) } with
    ⟨cause, _, failed⟩ | ⟨tree, removed, changed⟩
  · rw [failed]
  · rw [changed, put_of_removed still removed]

/-- An uninstallation takes back what the rule file states. -/
theorem uninstall_of_read
    {text : String}
    (own : context.id = some id)
    (read : world.files.readText (mount.ruleFile id) = .ok text) :
    mount.smack.uninstall context world = mount.revoke id (readRules text) world := by
  rw [ruleFile] at read
  rw [Smack.uninstall, own]
  dsimp only
  rw [Action.bind_apply, Smack.loadRules, get_smack, read]
  rfl

/-- Without a rule file that can be read, an uninstallation changes nothing. -/
theorem uninstall_of_error
    {cause : Failure}
    (own : context.id = some id)
    (unread : world.files.readText (mount.ruleFile id) = .error cause) :
    ∃ result, mount.smack.uninstall context world = (result, world) := by
  rw [ruleFile] at unread
  rw [Smack.uninstall, own]
  dsimp only
  by_cases missing : cause = .os .noEntry
  · rw [Action.bind_apply, Smack.loadRules, get_smack, unread, missing]
    exact ⟨.ok (), rfl⟩
  · have failed : mount.smack.loadRules (mount.smack.ruleFile id) world =
        (.error (.file "read" (mount.smack.ruleFile id) cause), world) := by
      rw [Smack.loadRules, get_smack, unread]
      split
      · rename_i impossible
        cases impossible
      · rename_i equal
        exact absurd (Except.error.inj equal) missing
      · rename_i equal
        cases equal
        rfl
    rw [Action.bind_apply, failed]
    exact ⟨_, rfl⟩

end Mount

end Confinement.Policy
