import Confinement.Daemon.Backends
import Confinement.Proofs.Host.Sockets
import Confinement.Proofs.Session.Worlds

/-!
# What the backends of a daemon leave alone

The backends that settings can choose write files and make directories, and the labeller by rules
removes the rule file that it has read.  All this keeps sockets
(`keepsSockets_hostEnvironment`).
-/

namespace Confinement.Policy

open Host Staging

variable {Result : Type} {settings : Settings}

/-- Whether the file tree of a machine keeps its sockets. -/
def Machine.KeepsSockets (machine next : Machine) : Prop :=
  machine.files.KeepsSockets next.files

namespace Machine.KeepsSockets

theorem refl (machine : Machine) : machine.KeepsSockets machine := FileTree.KeepsSockets.refl _

theorem trans
    (before between after : Machine)
    (first : before.KeepsSockets between)
    (second : between.KeepsSockets after) :
    before.KeepsSockets after :=
  FileTree.KeepsSockets.trans first second

/-- A call that leaves the files alone keeps sockets. -/
theorem of_same
    {call : Call Machine Result}
    (same : ∀ machine, (call machine).2.files = machine.files) :
    call.Moves Machine.KeepsSockets := by
  intro machine
  rw [Machine.KeepsSockets, same]
  exact FileTree.KeepsSockets.refl _

theorem bind
    {Next : Type} {first : Call Machine Result} {next : Result → Call Machine Next}
    (head : first.Moves Machine.KeepsSockets)
    (tail : ∀ result, (next result).Moves Machine.KeepsSockets) :
    (first >>= next).Moves Machine.KeepsSockets :=
  head.bind trans tail

theorem forEach
    {Item : Type} {call : Item → Call Machine Unit}
    (each : ∀ item, (call item).Moves Machine.KeepsSockets)
    (items : List Item) :
    (Action.forEach call items).Moves Machine.KeepsSockets :=
  Action.Moves.forEach refl trans each items

end Machine.KeepsSockets

open Machine (KeepsSockets)

/-! ## The labeller by rules -/

section

variable (settings)

theorem keepsSockets_writeRules (path : String) (rules : List Rule) :
    ((hostSmack settings).writeRules path rules).Moves KeepsSockets := by
  refine KeepsSockets.bind (fun machine => ?_) fun _ machine => ?_
  · rw [Smack.makeDirectory]
    split
    · rename_i made
      exact FileTree.keepsSockets_of_makeDirectories made
    · rename_i made
      exact FileTree.keepsSockets_of_makeDirectories made
  · rw [Smack.change]
    split
    · rename_i written
      exact FileTree.keepsSockets_writeFile written
    · exact KeepsSockets.refl _

/-- Loading rules writes to a file that is there, or changes nothing. -/
theorem grows_pushRules (rules : List Rule) (access : Option String) (machine : Machine) :
    let next := ((hostSmack settings).pushRules rules access machine).2
    machine.files.Grows next.files ∧ machine.KeepsSockets next := by
  rw [Smack.pushRules]
  dsimp only
  split
  · split
    · exact ⟨(FileTree.Extends.refl _).grows, KeepsSockets.refl machine⟩
    · rename_i opened
      have taken := FileTree.lookup_of_openForWriting opened
      exact ⟨FileTree.grows_insert taken _, FileTree.keepsSockets_insert_file taken _⟩
  · exact ⟨(FileTree.Extends.refl _).grows, KeepsSockets.refl machine⟩

theorem keepsSockets_label (path name value : String) :
    ((hostSmack settings).label path name value).Moves KeepsSockets := by
  refine KeepsSockets.of_same fun machine => ?_
  rw [Smack.label]
  split
  · rename_i result
    exact (congrArg (·.2.files) result).symm
  · rename_i result
    exact (congrArg (·.2.files) result).symm

theorem keepsSockets_install_smack (context : Context) :
    ((hostSmack settings).install context).Moves KeepsSockets := by
  rw [Smack.install]
  split
  · exact KeepsSockets.refl
  · rename_i id _
    refine KeepsSockets.bind (keepsSockets_writeRules settings _ _) fun _ =>
      KeepsSockets.bind (fun machine => (grows_pushRules settings _ _ machine).2) fun _ =>
        KeepsSockets.bind (KeepsSockets.forEach (fun entry => ?_) _) fun _ =>
          KeepsSockets.forEach (fun plug => ?_) _
    · exact KeepsSockets.bind (keepsSockets_label settings _ _ _) fun _ =>
        KeepsSockets.bind ((keepsSockets_label settings _ _ _).ite KeepsSockets.refl _) fun _ =>
          (keepsSockets_label settings _ _ _).ite KeepsSockets.refl _
    · exact KeepsSockets.bind (keepsSockets_label settings _ _ _) fun _ =>
        keepsSockets_label settings _ _ _

/-- What comes of reading a rule file; the machine stays as it is. -/
theorem loadRules_cases (path : String) (machine : Machine) :
    (∃ text, machine.files.readText path = .ok text ∧
      (hostSmack settings).loadRules path machine = (.ok (some (readRules text)), machine)) ∨
    (hostSmack settings).loadRules path machine = (.ok none, machine) ∨
    ∃ error, (hostSmack settings).loadRules path machine = (.error error, machine) := by
  rw [Smack.loadRules]
  split
  · rename_i text read
    exact .inl ⟨text, read, rfl⟩
  · exact .inr (.inl rfl)
  · exact .inr (.inr ⟨_, rfl⟩)

/-- A file that could be read can be removed once rules have been loaded. -/
theorem keepsSockets_removeRules
    {path text : String} {machine : Machine}
    (read : machine.files.readText path = .ok text)
    (rules : List Rule) (access : Option String) :
    machine.KeepsSockets ((do
      (hostSmack settings).pushRules rules access
      (hostSmack settings).change "remove" path (fun tree => tree.removeFile path) :
        Call Machine Unit) machine).2 := by
  obtain ⟨grows, kept⟩ := grows_pushRules settings rules access machine
  rw [Action.bind_apply]
  generalize (hostSmack settings).pushRules rules access machine = ended at grows kept ⊢
  obtain ⟨error | done, next⟩ := ended
  · exact kept
  · refine KeepsSockets.trans _ _ _ kept ?_
    obtain ⟨goal, located⟩ := FileTree.readText_eq_ok_iff.1 read
    obtain ⟨content, file⟩ := FileTree.locate_file_of_grows grows located
    dsimp only
    rw [Smack.change]
    split
    · rename_i removed
      exact FileTree.keepsSockets_removeFile file removed
    · exact KeepsSockets.refl _

theorem keepsSockets_uninstall_smack (context : Context) :
    ((hostSmack settings).uninstall context).Moves KeepsSockets := by
  rw [Smack.uninstall]
  split
  · exact KeepsSockets.refl
  · rename_i id _
    intro machine
    rw [Action.bind_apply]
    rcases loadRules_cases settings ((hostSmack settings).ruleFile id) machine with
      ⟨text, read, loaded⟩ | loaded | ⟨error, loaded⟩
    · rw [loaded]
      exact keepsSockets_removeRules settings read _ _
    · rw [loaded]
      exact KeepsSockets.refl machine
    · rw [loaded]
      exact KeepsSockets.refl machine

end

/-! ## The labeller by modules -/

section

variable (settings)

theorem keepsSockets_writeSource (path content : String) :
    ((hostSelinux settings).writeSource path content).Moves KeepsSockets := by
  intro machine
  rw [Selinux.writeSource]
  split
  · rename_i written
    exact FileTree.keepsSockets_writeFile written
  · exact KeepsSockets.refl machine

theorem keepsSockets_writeSources (id : String) (context : Context) :
    ((hostSelinux settings).writeSources id context).Moves KeepsSockets := by
  refine KeepsSockets.bind (fun machine => ?_) fun _ =>
    KeepsSockets.bind (keepsSockets_writeSource settings _ _) fun _ =>
      KeepsSockets.bind (keepsSockets_writeSource settings _ _) fun _ =>
        keepsSockets_writeSource settings _ _
  rw [Selinux.makeDirectory]
  split
  · rename_i made
    exact FileTree.keepsSockets_of_makeDirectories made
  · rename_i made
    exact FileTree.keepsSockets_of_makeDirectories made

/-- The tools of a policy are not among the programs that are known, so they change nothing. -/
theorem run_fails
    {program : String}
    (tool : program ∈ ["make", "semodule", "restorecon"])
    (arguments : List String) (directory : String) (machine : Machine) :
    ∃ error, (hostSelinux settings).run program arguments directory machine =
      (.error error, machine) := by
  have noShell : ["sh", "dash", "bash"].contains (Shell.programName program) = false := by
    revert program
    decide +kernel
  have unknown (tree : FileTree) :
      Utility.run? tree [] (Shell.programName program) arguments = none := by
    have same : Shell.programName program = program := by
      revert program
      decide +kernel
    rw [same]
    simp only [List.mem_cons, List.not_mem_nil, or_false] at tool
    rcases tool with rfl | rfl | rfl
    · rfl
    · rfl
    · rfl
  obtain ⟨cause, ran⟩ :=
    FileTree.run_of_unknown noShell unknown (Machine.filesPart.get machine) directory
  refine ⟨.spawn program cause, ?_⟩
  change Machine.filesPart.call (Selinux.runProgram program arguments directory) machine = _
  rw [Part.call, Selinux.runProgram, ran]
  rfl

theorem keepsSockets_run
    {program : String}
    (tool : program ∈ ["make", "semodule", "restorecon"])
    (arguments : List String) (directory : String) :
    ((hostSelinux settings).run program arguments directory).Moves KeepsSockets := by
  intro machine
  obtain ⟨error, failed⟩ := run_fails settings tool arguments directory machine
  rw [failed]
  exact KeepsSockets.refl machine

theorem keepsSockets_install_selinux (context : Context) :
    ((hostSelinux settings).install context).Moves KeepsSockets := by
  rw [Selinux.install]
  split
  · exact KeepsSockets.refl
  · exact KeepsSockets.bind (keepsSockets_writeSources settings _ context) fun _ =>
      KeepsSockets.bind (keepsSockets_run settings (by decide) _ _) fun _ =>
        KeepsSockets.bind (keepsSockets_run settings (by decide) _ _) fun _ =>
          KeepsSockets.forEach (fun _ => keepsSockets_run settings (by decide) _ _) _

theorem keepsSockets_uninstall_selinux (context : Context) :
    ((hostSelinux settings).uninstall context).Moves KeepsSockets := by
  rw [Selinux.uninstall]
  split
  · exact KeepsSockets.refl
  · intro machine
    dsimp only
    split
    · -- The module cannot be unloaded, so its directory stays.
      have tool : "semodule" ∈ ["make", "semodule", "restorecon"] := by decide
      rw [Action.bind_apply]
      obtain ⟨error, failed⟩ := run_fails settings tool _ _ machine
      rw [failed]
      exact KeepsSockets.refl machine
    · exact KeepsSockets.refl machine

end

/-! ## Every backend -/

/-- Whether no call of a store touches the files. -/
structure PermissionStore.SparesFiles (store : PermissionStore Machine) : Prop where
  check : ∀ label permission machine,
    (store.check label permission machine).2.files = machine.files
  add : ∀ label permissions replace machine,
    (store.add label permissions replace machine).2.files = machine.files
  drop : ∀ label machine, (store.drop label machine).2.files = machine.files

theorem sparesFiles_hostStore (settings : Settings) : (hostStore settings).SparesFiles := by
  rw [hostStore]
  cases settings.store with
  | cynagora => exact ⟨fun _ _ _ => rfl, fun _ _ _ _ => rfl, fun _ _ => rfl⟩
  | memory => exact ⟨fun _ _ _ => rfl, fun _ _ _ _ => rfl, fun _ _ => rfl⟩

/-- Whether a labeller keeps sockets, whatever it is asked for. -/
structure Labeller.KeepsSockets (labeller : Labeller Machine) : Prop where
  install : ∀ context, (labeller.install context).Moves Machine.KeepsSockets
  uninstall : ∀ context, (labeller.uninstall context).Moves Machine.KeepsSockets

theorem keepsSockets_simulatedLabeller :
    (simulatedLabeller Machine.installedPart).KeepsSockets := by
  constructor
  all_goals
    refine fun context => KeepsSockets.of_same fun machine => ?_
    rw [simulatedLabeller]
    dsimp only
    split
    · rfl
    · rfl

theorem keepsSockets_hostLabeller (settings : Settings) : (hostLabeller settings).KeepsSockets := by
  rw [hostLabeller]
  cases settings.labeller with
  | smack => exact ⟨keepsSockets_install_smack settings, keepsSockets_uninstall_smack settings⟩
  | selinux =>
      exact ⟨keepsSockets_install_selinux settings, keepsSockets_uninstall_selinux settings⟩
  | simulate => exact keepsSockets_simulatedLabeller
  | auto => exact keepsSockets_simulatedLabeller

/-- Whatever the backends of a daemon are asked for, they keep sockets. -/
theorem keepsSockets_hostEnvironment (settings : Settings) :
    (hostEnvironment settings).Moves KeepsSockets where
  refl := KeepsSockets.refl
  trans := KeepsSockets.trans
  check label permission :=
    KeepsSockets.of_same ((sparesFiles_hostStore settings).check label permission)
  add label permissions replace :=
    KeepsSockets.of_same ((sparesFiles_hostStore settings).add label permissions replace)
  drop label := KeepsSockets.of_same ((sparesFiles_hostStore settings).drop label)
  install := (keepsSockets_hostLabeller settings).install
  uninstall := (keepsSockets_hostLabeller settings).uninstall

end Confinement.Policy
