import Confinement.Proofs.Policy.Labels
import Confinement.Proofs.Policy.Revocation

/-!
# Labels and rules without ambiguity

The labeller by rules glues labels with colons and rules with blanks, and reads its rule file back
by taking lines of three words.  Identifiers have neither colons nor blanks, those of importers no
more than that of the application itself, so labels of different files are different and every rule
is read back as it was meant (`labels_and_rules_unambiguous`).

What the labeller works on may be any world in which files stay as they are put, but for some
special ones; a kernel's load file is such a one.  Between the writing of the rule file and its
reading, an installation loads the rules, which may even lead to the rule file itself, and sets
labels.
-/

namespace Confinement.Policy

open Host Staging

namespace Smack

variable {World : Type}

/--
Whether the files of a world stay as they are put, but for the content of special ones, and setting
attributes leaves them.  In a mere file tree none is special; under a kernel its load file is.
-/
structure Faithful (smack : Smack World) (special : Place → Prop) : Prop where
  grows : ∀ (tree : FileTree) (world : World),
    tree.Grows (smack.files.get (smack.files.put tree world))
  kept : ∀ (tree : FileTree) (world : World) (place : Place), ¬special place →
    (smack.files.get (smack.files.put tree world)).lookup place = tree.lookup place
  attributes : ∀ path name value world,
    smack.files.get (smack.setAttribute path name value world).2 = smack.files.get world

/-- Whether the rule file of an application, once it is written, is no special file. -/
def WritesApart (smack : Smack World) (special : Place → Prop) (id : String) (world : World) :
    Prop :=
  ∀ content tree place,
    (smack.files.get (smack.makeDirectory world).2).writeFile (smack.ruleFile id) content =
      .ok tree →
    tree.openForWriting (smack.ruleFile id) = .ok (place, content) → ¬special place

/-- Whether a path leads to a file that is not special and holds a text. -/
def Has (smack : Smack World) (special : Place → Prop) (path text : String) (world : World) :
    Prop :=
  ∃ place, ¬special place ∧
    (smack.files.get world).openForWriting path = .ok (place, Text.bytes text)

/-- Whether such a file is still there in another world. -/
def Stays (smack : Smack World) (special : Place → Prop) (path text : String)
    (world next : World) : Prop :=
  smack.Has special path text world → smack.Has special path text next

variable {smack : Smack World} {special : Place → Prop} {path text id : String}
  {context : Context} {rules : List Rule} {world next : World}

theorem Stays.refl (world : World) : smack.Stays special path text world world :=
  fun has => has

theorem Stays.trans
    (world middle last : World)
    (first : smack.Stays special path text world middle)
    (second : smack.Stays special path text middle last) :
    smack.Stays special path text world last :=
  fun has => second (first has)

/-- What a file holds in a tree it holds in the world into which the tree is put. -/
theorem Faithful.has_put
    (faithful : smack.Faithful special)
    {tree : FileTree} {place : Place}
    (ordinary : ¬special place)
    (opened : tree.openForWriting path = .ok (place, Text.bytes text))
    (world : World) :
    smack.Has special path text (smack.files.put tree world) := by
  have stands := FileTree.lookup_of_openForWriting opened
  rw [← faithful.kept tree world place ordinary] at stands
  exact ⟨place, ordinary,
    FileTree.openForWriting_of_grows (faithful.grows tree world) stands opened⟩

theorem Has.loadRules
    (has : smack.Has special path text world) :
    smack.loadRules path world = (.ok (some (readRules text)), world) := by
  obtain ⟨place, _, opened⟩ := has
  rw [Smack.loadRules, FileTree.readText_of_openForWriting opened]

/-- A rule file that was written has the text of the rules. -/
theorem Faithful.has_writeRules
    (faithful : smack.Faithful special)
    (valid : isValidId id = true)
    (apart : smack.WritesApart special id world)
    (written : (smack.writeRules (smack.ruleFile id) rules world).1 = .ok ()) :
    smack.Has special (smack.ruleFile id) (ruleText rules)
      (smack.writeRules (smack.ruleFile id) rules world).2 := by
  rw [WritesApart] at apart
  rw [writeRules, Action.bind_apply] at written ⊢
  generalize smack.makeDirectory world = made at written apart ⊢
  obtain ⟨error | ⟨⟩, between⟩ := made
  · cases written
  · dsimp only [change] at written apart ⊢
    cases result : (smack.files.get between).writeFile (smack.ruleFile id)
        (Text.bytes (ruleText rules)) with
    | error cause =>
        rw [result] at written
        cases written
    | ok tree =>
        obtain ⟨place, _, _, opened, _⟩ :=
          FileTree.writeFile_ok (smack.getLast?_ruleFile valid) result
        exact faithful.has_put (apart _ _ _ result opened) opened between

/-- Loading leaves the rule file as it is, also where it writes the same rules to it once more. -/
theorem Faithful.stays_pushRules
    (faithful : smack.Faithful special)
    (path : String) (rules : List Rule) :
    (smack.pushRules rules none).Moves (smack.Stays special path (ruleText rules)) := by
  intro world has
  rw [pushRules]
  dsimp only
  split
  · split
    · exact has
    · rename_i loadPlace content load
      obtain ⟨place, ordinary, opened⟩ := has
      have written : (loadLines rules none).flatMap Text.bytes = Text.bytes (ruleText rules) := by
        rw [ruleText, Text.bytes_join]
        rfl
      have taken := FileTree.lookup_of_openForWriting load
      have stands := FileTree.lookup_of_openForWriting opened
      rw [written]
      generalize result : FileTree.overwritten content (Text.bytes (ruleText rules)) = final
      have still : ((smack.files.get world).insert loadPlace (.file final)).lookup place =
          some (.file (Text.bytes (ruleText rules))) := by
        rw [FileTree.lookup_insert]
        split
        · rename_i same
          rw [← same, stands] at taken
          cases taken
          rw [← result, FileTree.overwritten, List.drop_length, List.append_nil]
        · exact stands
      exact faithful.has_put ordinary
        (FileTree.openForWriting_of_grows (FileTree.grows_insert taken final) still opened) world
  · exact has

/-- What a file holds depends on the files only. -/
theorem Has.of_files
    (has : smack.Has special path text world)
    (same : smack.files.get next = smack.files.get world) :
    smack.Has special path text next := by
  rw [Has, same]
  exact has

theorem Faithful.stays_label
    (faithful : smack.Faithful special)
    (target name value : String) :
    (smack.label target name value).Moves (smack.Stays special path text) := by
  intro world has
  have same := faithful.attributes target name (Text.bytes value) world
  rw [label]
  generalize smack.setAttribute target name (Text.bytes value) world = ended at same ⊢
  obtain ⟨cause | ⟨⟩, after⟩ := ended
  · exact has.of_files same
  · exact has.of_files same

theorem Faithful.stays_labelPath
    (faithful : smack.Faithful special)
    (id : String) (entry : LabelledPath) :
    (smack.labelPath id entry).Moves (smack.Stays special path text) :=
  (faithful.stays_label _ _ _).bind Stays.trans fun _ =>
    ((faithful.stays_label _ _ _).ite Stays.refl _).bind Stays.trans fun _ =>
      (faithful.stays_label _ _ _).ite Stays.refl _

theorem Faithful.stays_labelPlug
    (faithful : smack.Faithful special)
    (id : String) (plug : Plug) :
    (smack.labelPlug id plug).Moves (smack.Stays special path text) :=
  (faithful.stays_label _ _ _).bind Stays.trans fun _ => faithful.stays_label _ _ _

theorem Faithful.stays_labels
    (faithful : smack.Faithful special)
    (id : String) (context : Context) :
    Action.Moves (smack.Stays special path text) (do
      Action.forEach (smack.labelPath id) context.paths
      Action.forEach (smack.labelPlug id) context.plugs) :=
  (Action.Moves.forEach Stays.refl Stays.trans (faithful.stays_labelPath id) _).bind
    Stays.trans fun _ =>
      Action.Moves.forEach Stays.refl Stays.trans (faithful.stays_labelPlug id) _

/-- What an installation does after it wrote the rule file leaves the rule file as it is. -/
theorem Faithful.has_install
    (faithful : smack.Faithful special)
    (named : context.id = some id)
    (valid : isValidId id = true)
    (apart : smack.WritesApart special id world)
    (written : (smack.writeRules (smack.ruleFile id) (rulesOf id context) world).1 = .ok ()) :
    smack.Has special (smack.ruleFile id) (ruleText (rulesOf id context))
      (smack.install context world).2 := by
  have has := faithful.has_writeRules valid apart written
  rw [install, named]
  dsimp only
  rw [Action.bind_apply]
  generalize smack.writeRules (smack.ruleFile id) (rulesOf id context) world = ended
    at written has ⊢
  obtain ⟨error | ⟨⟩, after⟩ := ended
  · cases written
  · have rest := (faithful.stays_pushRules (smack.ruleFile id) (rulesOf id context)).bind
      Stays.trans fun _ => faithful.stays_labels id context
    exact rest after has

theorem writeRules_of_install
    (named : context.id = some id)
    (installed : (smack.install context world).1 = .ok ()) :
    (smack.writeRules (smack.ruleFile id) (rulesOf id context) world).1 = .ok () := by
  rw [install, named] at installed
  dsimp only at installed
  rw [Action.bind_apply] at installed
  generalize smack.writeRules (smack.ruleFile id) (rulesOf id context) world = ended
    at installed ⊢
  obtain ⟨error | ⟨⟩, after⟩ := ended
  · cases installed
  · rfl

end Smack

/-! ## On a kernel -/

namespace Mount

variable {Rest : Type} {mount : Mount Rest} {id : String} {world : Smackfs Rest}

/-- Of the files under a kernel only the load file does not stay as it is put. -/
theorem faithful_smack (mount : Mount Rest) : mount.smack.Faithful (· = mount.gate) where
  grows tree world := by
    rw [get_smack, put_smack, files]
    dsimp only
    split
    · rename_i taken
      exact FileTree.grows_insert taken []
    · exact (FileTree.Extends.refl tree).grows
  kept tree world place ordinary := by
    rw [get_smack, put_smack, files]
    dsimp only
    split
    · exact (FileTree.lookup_insert ..).trans (if_neg ordinary)
    · rfl
  attributes _ _ _ _ := rfl

theorem Mounted.writesApart
    (mounted : mount.Mounted id world)
    (valid : isValidId id = true) :
    mount.smack.WritesApart (· = mount.gate) id world := by
  obtain ⟨result, made⟩ := makeDirectory_eq mounted
  intro content tree place written opened load
  rw [made] at written
  obtain ⟨found, _, _, leads, before⟩ :=
    FileTree.writeFile_ok (mount.smack.getLast?_ruleFile valid) written
  rw [opened] at leads
  cases leads
  subst load
  rcases before with free | ⟨old, leads⟩
  · have extension :=
      (FileTree.furnished_makeDirectories world.files 0o755 mount.rulesDirectory).extension
    rw [get_smack, extension.kept _ _ (lookup_gate mounted)] at free
    cases free
  · exact mounted.apart old leads

end Mount

/--
Labels of files are the same for one application and one kind only, or where all applications may
read the files, and none is the label of the system.  In any world in which files stay as they are
put, an installation for a context that can be reached either fails to write the rule file, or the
rules that are read back from it afterwards are those of the context, part by part and in their
order.
-/
theorem labels_and_rules_unambiguous
    {World : Type} {smack : Smack World} {special : Place → Prop}
    (faithful : smack.Faithful special) :
    (∀ id other, isValidId id = true → isValidId other = true → ∀ kind otherKind,
      pathLabel id kind = pathLabel other otherKind ↔
        (id = other ∧ kind = otherKind) ∨ (kind = .shared ∧ otherKind = .shared)) ∧
    (∀ id kind, pathLabel id kind ≠ systemLabel) ∧
    ∀ context, Reachable context → ∀ id, context.id = some id →
      ∀ world, smack.WritesApart special id world →
        let written := (smack.writeRules (smack.ruleFile id) (rulesOf id context) world).1
        let next := (smack.install context world).2
        ((smack.install context world).1 = .ok () → written = .ok ()) ∧
        (written = .ok () →
          smack.loadRules (smack.ruleFile id) next = (.ok (some (rulesOf id context)), next)) := by
  refine ⟨?_, pathLabel_ne_systemLabel, ?_⟩
  · intro id other valid validOther kind otherKind
    exact pathLabel_eq_iff valid validOther
  · intro context reachable id named world apart written next
    refine ⟨Smack.writeRules_of_install named, ?_⟩
    intro wrote
    have has := faithful.has_install named (reachable.validIds.own id named) apart wrote
    have plain := Mount.isPlain_of_reachable reachable named
    rw [has.loadRules, readRules_ruleText plain]

/-- On a kernel, with two applications that import from a third. -/
theorem labels_and_rules_unambiguous_on_kernel :
    Mount.usual.smack.Faithful (· = Mount.usual.gate) ∧
      Reachable (Mount.exporting ["cd", "x-y"]) ∧
      (Mount.usual.smack.install (Mount.exporting ["cd", "x-y"]) Mount.unloaded).1 = .ok () ∧
      (Mount.usual.smack.loadRules (Mount.usual.smack.ruleFile "ab")
        (Mount.usual.smack.install (Mount.exporting ["cd", "x-y"]) Mount.unloaded).2).1 =
          .ok (some (rulesOf "ab" (Mount.exporting ["cd", "x-y"]))) := by
  have faithful := Mount.faithful_smack Mount.usual
  have reachable : Reachable (Mount.exporting ["cd", "x-y"]) :=
    Mount.reachable_exporting (by decide +kernel)
  have mounted : Mount.usual.Mounted "ab" Mount.unloaded := by
    rw [Mount.mounted_iff]
    decide +kernel
  have installed :
      (Mount.usual.smack.install (Mount.exporting ["cd", "x-y"]) Mount.unloaded).1 = .ok () := by
    decide +kernel
  have rules := (labels_and_rules_unambiguous faithful).2.2 _ reachable "ab" rfl _
    (mounted.writesApart (by decide))
  refine ⟨faithful, reachable, installed, ?_⟩
  rw [rules.2 (rules.1 installed)]

end Confinement.Policy
