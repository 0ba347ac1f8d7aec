import Confinement.Proofs.Policy.Locations

/-!
# Runs of the policy tool

To set up an application, its module is written and then a chain of errands is done: the module is
built and loaded, and the staged paths are relabelled.  The chain goes as far as the first run that
fails, and its failure is the outcome.

An exported directory gets its type by the module like a staged path does, but no errand is about
it.  So of the locations that get a type exactly the staged paths are relabelled (`install_runs`),
and an exported directory keeps the label that it had (`exported_directory_not_relabelled`).
-/

namespace Confinement.Policy.Selinux

open Host Staging

/-- What the policy tool is asked to run. -/
structure Errand where
  program : String
  arguments : List String
  directory : String
  deriving DecidableEq, Repr

/-- A run of the policy tool and how it ended. -/
structure Run where
  errand : Errand
  answer : Except BackendError Unit

/-- Whether runs do errands in their order up to the first that fails, and how that ends. -/
inductive Follows : List Errand → List Run → Except BackendError Unit → Prop
  | done : Follows [] [] (.ok ())
  | next {errand : Errand} {errands : List Errand} {runs : List Run}
      {outcome : Except BackendError Unit} (later : Follows errands runs outcome) :
      Follows (errand :: errands) (⟨errand, .ok ()⟩ :: runs) outcome
  | broken (errand : Errand) (errands : List Errand) (cause : BackendError) :
      Follows (errand :: errands) [⟨errand, .error cause⟩] (.error cause)

namespace Follows

variable {errands : List Errand} {runs : List Run} {outcome : Except BackendError Unit}

theorem isPrefix (follows : Follows errands runs outcome) : runs.map Run.errand <+: errands := by
  induction follows with
  | done => exact List.prefix_rfl
  | next later hypothesis => exact List.cons_prefix_cons.2 ⟨rfl, hypothesis⟩
  | broken errand errands cause => exact List.cons_prefix_cons.2 ⟨rfl, List.nil_prefix⟩

theorem of_ok
    (follows : Follows errands runs outcome)
    (succeeded : outcome = .ok ()) :
    runs = errands.map fun errand => ⟨errand, .ok ()⟩ := by
  induction follows with
  | done => rfl
  | next later hypothesis => rw [List.map_cons, hypothesis succeeded]
  | broken errand errands cause => cases succeeded

/-- Behind a run that fails there is no other, and it decides the outcome. -/
theorem of_failed
    (follows : Follows errands runs outcome)
    {earlier later : List Run} {run : Run} {cause : BackendError}
    (among : runs = earlier ++ run :: later)
    (failed : run.answer = .error cause) :
    later = [] ∧ outcome = .error cause := by
  induction follows generalizing earlier with
  | done => exact absurd among.symm (List.append_ne_nil_of_right_ne_nil _ (List.cons_ne_nil _ _))
  | next onward hypothesis =>
      cases earlier with
      | nil =>
          cases among
          cases failed
      | cons first rest => exact hypothesis (List.cons.inj among).2
  | broken errand errands broke =>
      cases earlier with
      | nil =>
          cases among
          cases failed
          exact ⟨rfl, rfl⟩
      | cons first rest =>
          exact absurd (List.cons.inj among).2.symm
            (List.append_ne_nil_of_right_ne_nil _ (List.cons_ne_nil _ _))

end Follows

variable {World : Type} (selinux : Selinux World)

def perform (errand : Errand) : Call World Unit :=
  selinux.run errand.program errand.arguments errand.directory

/-- To have a path relabelled with all that is below it. -/
def relabelling (directory path : String) : Errand := ⟨"restorecon", ["-R", path], directory⟩

/-- What is to be run for an application once its module is written. -/
def chain (id : String) (context : Context) : List Errand :=
  let directory := selinux.moduleDirectory id
  let package := id ++ ".pp"
  [⟨"make", ["-f", makefile, package], directory⟩, ⟨"semodule", ["-i", package], directory⟩] ++
    context.paths.map fun entry => relabelling directory entry.path

theorem forEach_map {Error State Item Other : Type}
    (action : Other → Action Error State Unit) (change : Item → Other) (items : List Item) :
    Action.forEach action (items.map change) =
      Action.forEach (fun item => action (change item)) items := by
  induction items with
  | nil => rfl
  | cons item rest hypothesis => rw [List.map_cons, Action.forEach, Action.forEach, hypothesis]

/-- To set up an application is to write its module and to do the errands of its chain. -/
theorem install_eq
    {id : String} {context : Context}
    (named : context.id = some id) :
    selinux.install context = (do
      selinux.writeSources id context
      Action.forEach selinux.perform (selinux.chain id context)) := by
  rw [install, named, chain, List.cons_append, List.cons_append, List.nil_append, Action.forEach,
    Action.forEach, forEach_map]
  rfl

/-! ## Recorded runs -/

/-- The same labeller, keeping the runs of the policy tool. -/
def recorded : Selinux (World × List Run) where
  modulesDirectory := selinux.modulesDirectory
  files :=
    { get := fun record => selinux.files.get record.1
      put := fun tree record => (selinux.files.put tree record.1, record.2) }
  run := fun program arguments directory record =>
    let (answer, next) := selinux.run program arguments directory record.1
    (answer, next, record.2 ++ [⟨⟨program, arguments, directory⟩, answer⟩])

/-- Whether a call acts as another one and makes no run. -/
def Silent {Result : Type} (call : Call World Result) (silent : Call (World × List Run) Result) :
    Prop :=
  ∀ world log, silent (world, log) = ((call world).1, (call world).2, log)

theorem Silent.bind {Result Next : Type}
    {first : Call World Result} {silentFirst : Call (World × List Run) Result}
    {next : Result → Call World Next} {silentNext : Result → Call (World × List Run) Next}
    (head : Silent first silentFirst)
    (tail : ∀ result, Silent (next result) (silentNext result)) :
    Silent (first >>= next) (silentFirst >>= silentNext) := by
  intro world log
  rw [Action.bind_apply, Action.bind_apply, head]
  rcases first world with ⟨result | result, after⟩
  · rfl
  · exact tail result after log

theorem silent_makeDirectory (directory : String) :
    Silent (selinux.makeDirectory directory) (selinux.recorded.makeDirectory directory) := by
  intro world log
  rw [makeDirectory, makeDirectory]
  dsimp only [recorded]
  rcases (selinux.files.get world).makeDirectories 0o755 directory with ⟨_ | cause, tree⟩ <;> rfl

theorem silent_writeSource (path content : String) :
    Silent (selinux.writeSource path content) (selinux.recorded.writeSource path content) := by
  intro world log
  rw [writeSource, writeSource]
  dsimp only [recorded]
  rcases (selinux.files.get world).writeFile path (Text.bytes content) with cause | tree <;> rfl

theorem silent_writeSources (id : String) (context : Context) :
    Silent (selinux.writeSources id context) (selinux.recorded.writeSources id context) := by
  apply (selinux.silent_makeDirectory _).bind
  intro _
  apply (selinux.silent_writeSource _ _).bind
  intro _
  apply (selinux.silent_writeSource _ _).bind
  intro _
  exact selinux.silent_writeSource _ _

theorem recorded_perform (errand : Errand) (world : World) (log : List Run) :
    selinux.recorded.perform errand (world, log) =
      ((selinux.perform errand world).1, (selinux.perform errand world).2,
        log ++ [⟨errand, (selinux.perform errand world).1⟩]) := rfl

/-- Errands one after another make runs that follow them. -/
theorem forEach_perform (errands : List Errand) (world : World) (log : List Run) :
    let ended := Action.forEach selinux.perform errands world
    ∃ runs, Follows errands runs ended.1 ∧
      Action.forEach selinux.recorded.perform errands (world, log) =
        (ended.1, ended.2, log ++ runs) := by
  induction errands generalizing world log with
  | nil => exact ⟨[], .done, by rw [List.append_nil]; rfl⟩
  | cons errand rest hypothesis =>
      rw [Action.forEach, Action.forEach, Action.andThen, Action.andThen, recorded_perform]
      rcases selinux.perform errand world with ⟨cause | ⟨⟩, next⟩
      · exact ⟨_, .broken errand rest cause, rfl⟩
      · obtain ⟨runs, follows, later⟩ := hypothesis next (log ++ [⟨errand, .ok ()⟩])
        refine ⟨_, .next follows, ?_⟩
        rw [List.append_assoc] at later
        exact later

/-- What is run to set up an application follows its chain, or nothing is run. -/
theorem follows_install
    {id : String} {context : Context}
    (named : context.id = some id)
    (world : World) (log : List Run) :
    let ended := selinux.install context world
    ∃ runs, selinux.recorded.install context (world, log) = (ended.1, ended.2, log ++ runs) ∧
      (Follows (selinux.chain id context) runs ended.1 ∨ runs = [] ∧ ended.1 ≠ .ok ()) := by
  rw [install_eq selinux named, install_eq selinux.recorded named, Action.bind_apply,
    Action.bind_apply, silent_writeSources]
  rcases selinux.writeSources id context world with ⟨cause | ⟨⟩, next⟩
  · exact ⟨[], by rw [List.append_nil], .inr ⟨rfl, fun impossible => nomatch impossible⟩⟩
  · obtain ⟨runs, follows, ended⟩ := selinux.forEach_perform (selinux.chain id context) next log
    exact ⟨runs, ended, .inl follows⟩

theorem relabelling_mem_chain_iff {id : String} {context : Context} {path : String} :
    relabelling (selinux.moduleDirectory id) path ∈ selinux.chain id context ↔
      ∃ entry ∈ context.paths, entry.path = path := by
  rw [chain, List.mem_append, List.mem_map]
  simp [relabelling]

/--
Any policy tool in any world and any context with an identifier.  The runs make up the beginning of
the chain: the module is built, then loaded, then the staged paths are relabelled in their order.
After a success the chain is complete, and of the locations that get a type exactly the staged paths
are relabelled.  After a run that fails there is no other, and its failure is returned.
-/
theorem install_runs
    {id : String} {context : Context}
    (named : context.id = some id)
    (world : World) (log : List Run) :
    let ended := selinux.install context world
    ∃ runs, selinux.recorded.install context (world, log) = (ended.1, ended.2, log ++ runs) ∧
      runs.map Run.errand <+: selinux.chain id context ∧
      (ended.1 = .ok () →
        runs = (selinux.chain id context).map (fun errand => ⟨errand, .ok ()⟩) ∧
        ∀ location ∈ locations context,
          relabelling (selinux.moduleDirectory id) location.1 ∈ runs.map Run.errand ↔
            ∃ entry ∈ context.paths, entry.path = location.1) ∧
      ∀ earlier run later cause, runs = earlier ++ run :: later → run.answer = .error cause →
        later = [] ∧ ended.1 = .error cause := by
  intro ended
  obtain ⟨runs, made, course⟩ := selinux.follows_install named world log
  refine ⟨runs, made, ?_⟩
  rcases course with follows | ⟨rfl, failed⟩
  · refine ⟨follows.isPrefix, ?_, ?_⟩
    · intro succeeded
      have all := follows.of_ok succeeded
      refine ⟨all, ?_⟩
      intro location _
      have errands : runs.map Run.errand = selinux.chain id context := by
        rw [all, List.map_map]
        exact List.map_id _
      rw [errands, relabelling_mem_chain_iff]
    · intro earlier run later cause among broke
      exact follows.of_failed among broke
  · refine ⟨List.nil_prefix, ?_, ?_⟩
    · intro succeeded
      exact absurd succeeded failed
    · intro earlier run later cause among _
      exact absurd among.symm (List.append_ne_nil_of_right_ne_nil _ (List.cons_ne_nil _ _))

/-- A policy tool that succeeds at everything, with a file tree as its world. -/
def obliging : Selinux FileTree where
  modulesDirectory := "modules"
  files := ⟨fun tree => tree, fun tree _ => tree⟩
  run _ _ _ := fun tree => (.ok (), tree)

/-- The operations that stage a path and a directory to export. -/
def stagingSteps : List Operation :=
  [.setId "ab", .addPath (fun _ => .ok (.directory 0o755)) "d1" .conf,
    .addPlug (fun _ => .ok (.directory 0o755)) ⟨"d2", "cd", "d3"⟩]

/-- What they lead to. -/
def staged : Context := stagingSteps.foldl Operation.leaves Context.empty

theorem id_staged : staged.id = some "ab" := by decide +kernel

theorem obliging_install : (obliging.install staged (FileTree.planted [])).1 = .ok () := by
  decide +kernel

theorem install_runs_relabels_staged_path :
    staged.id = some "ab" ∧ ∃ next runs,
      obliging.recorded.install staged (FileTree.planted [], []) = (.ok (), next, runs) ∧
      relabelling "modules/ab" "d1" ∈ runs.map Run.errand := by
  obtain ⟨runs, made, _, complete, _⟩ :=
    install_runs obliging id_staged (FileTree.planted []) []
  rw [obliging_install] at made
  refine ⟨id_staged, _, runs, made, ?_⟩
  have among : ("d1", Kind.conf) ∈ locations staged := by decide +kernel
  exact ((complete obliging_install).2 _ among).2 (by decide +kernel)

/-- A success does not tell that the exported directories were relabelled. -/
theorem exported_directory_not_relabelled :
    ¬∀ selinux : Selinux FileTree, ∀ context, Reachable context → ∀ id, context.id = some id →
      ∀ world next runs, selinux.recorded.install context (world, []) = (.ok (), next, runs) →
        ∀ location ∈ locations context,
          relabelling (selinux.moduleDirectory id) location.1 ∈ runs.map Run.errand := by
  intro always
  obtain ⟨runs, made, course⟩ := obliging.follows_install id_staged (FileTree.planted []) []
  rw [obliging_install] at made course
  have exported : ("d2", Kind.plug) ∈ locations staged := by decide +kernel
  have relabelled :=
    always obliging staged (Reachable.empty.steps _) "ab" id_staged _ _ _ made _ exported
  rcases course with follows | ⟨_, failed⟩
  · have errand := follows.isPrefix.subset relabelled
    rw [relabelling_mem_chain_iff] at errand
    revert errand
    decide +kernel
  · exact failed rfl

end Confinement.Policy.Selinux
