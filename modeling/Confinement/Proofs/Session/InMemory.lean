import Confinement.Proofs.Policy.InMemory
import Confinement.Proofs.Session.Responses

/-!
# Responses in memory

With permissions in memory and simulated access control, an install or an uninstall either does all
that it is meant to do or is refused without a change, and nothing else touches what is granted or
set up.  What a record leads to depends on the phase, the context and the file system alone, but
for the answers to an install and to the question for the log switch.
-/

namespace Confinement

open Host Policy Staging Wire

namespace Stance

variable {stance : Stance Machine}

/-! ## Transactions -/

/-- A refusal that is neither for malformed input nor for a backend's failure is only told. -/
theorem refused_of_refuses
    (stance : Stance Machine) {error : TransactionError}
    (refuses : Refuses error) :
    stance.refused error.refusal = ⟨(Status.refused error.refusal.token).alone, stance⟩ := by
  obtain ⟨notInternal, notProtocol⟩ := refuses
  generalize error.refusal = refusal at notInternal notProtocol ⊢
  cases refusal with
  | internal => exact absurd rfl notInternal
  | «protocol» => exact absurd rfl notProtocol
  | _ => rfl

/-- The response to an install. -/
theorem transacted_install
    (reachable : Reachable stance.context) :
    ∃ world, (Ready stance.context ∧ Cleared stance.world.grants stance.context ∧
        stance.transacted (install inMemory) = { stance with world }.done [] ∧
        world.forget = (stance.world.committed stance.context).forget) ∨
      (¬(Ready stance.context ∧ Cleared stance.world.grants stance.context) ∧
        (∃ refusal : Refusal, stance.transacted (install inMemory) =
          ⟨(Status.refused refusal.token).alone, { stance with world }⟩) ∧
        world.forget = stance.world.forget) := by
  rw [transacted]
  rcases install_inMemory reachable.coherent stance.world with
    ⟨ready, cleared, world, result, forgotten⟩ | ⟨unfit, error, world, refuses, result, forgotten⟩
  · rw [result]
    exact ⟨world, .inl ⟨ready, cleared, rfl, forgotten⟩⟩
  · rw [result]
    exact ⟨world, .inr ⟨unfit, ⟨error.refusal, refused_of_refuses _ refuses⟩, forgotten⟩⟩

/-- The response to an uninstall: whether it is refused depends on the context alone. -/
theorem transacted_uninstall (context : Context) :
    (Ready context ∧ ∀ stance : Stance Machine, stance.context = context →
      ∃ world, stance.transacted (uninstall inMemory) = { stance with world }.done [] ∧
        world.forget = (stance.world.retracted context).forget) ∨
    (¬Ready context ∧ ∃ refusal : Refusal, ∀ stance : Stance Machine, stance.context = context →
      stance.transacted (uninstall inMemory) =
        ⟨(Status.refused refusal.token).alone, stance⟩) := by
  by_cases ready : Ready context
  · refine .inl ⟨ready, ?_⟩
    rintro stance rfl
    obtain ⟨world, result, forgotten⟩ := uninstall_inMemory ready stance.world
    refine ⟨world, ?_, forgotten⟩
    rw [transacted, result]
  · obtain ⟨error, refuses, result⟩ := refused_of_not_ready ready
    refine .inr ⟨ready, error.refusal, ?_⟩
    rintro stance rfl
    rw [transacted, (result stance.world).2]
    exact refused_of_refuses stance refuses

end Stance

/-! ## Effects -/

/-- What an inquiry can do to a machine, by the command that it spells, and how it is answered. -/
inductive Effect (context : Context) (machine : Machine) :
    Option Command → Answer → Machine → Prop
  | committed {next : Machine} (ready : Ready context) (cleared : Cleared machine.grants context)
      (same : next.forget = (machine.committed context).forget) :
      Effect context machine (some .install) (Status.done []).alone next
  | notCommitted {next : Machine} (unfit : ¬(Ready context ∧ Cleared machine.grants context))
      (refusal : Refusal) (same : next.forget = machine.forget) :
      Effect context machine (some .install) (Status.refused refusal.token).alone next
  | retracted {next : Machine} (ready : Ready context)
      (same : next.forget = (machine.retracted context).forget) :
      Effect context machine (some .uninstall) (Status.done []).alone next
  | notRetracted (unready : ¬Ready context) (refusal : Refusal) :
      Effect context machine (some .uninstall) (Status.refused refusal.token).alone machine
  | idle {command : Option Command} (answer : Answer) (notInstall : command ≠ some .install)
      (notUninstall : command ≠ some .uninstall) :
      Effect context machine command answer machine

namespace Stance

variable {stance : Stance Machine}

theorem effect_dispatched
    (reachable : Reachable stance.context)
    (command : Command) :
    Effect stance.context stance.world (some command)
      (stance.dispatched inMemory command).answer
      (stance.dispatched inMemory command).stance.world := by
  have idle {response : Response Machine} (kept : response.stance.world = stance.world)
      (notInstall : command ≠ .install) (notUninstall : command ≠ .uninstall) :
      Effect stance.context stance.world (some command) response.answer response.stance.world := by
    rw [kept]
    exact .idle _ (fun equal => notInstall (Option.some.inj equal))
      (fun equal => notUninstall (Option.some.inj equal))
  cases command with
  | install =>
      obtain ⟨world, outcome⟩ := transacted_install reachable
      rcases outcome with ⟨ready, cleared, result, same⟩ | ⟨unfit, ⟨refusal, result⟩, same⟩
      · rw [dispatched, result]
        exact .committed ready cleared same
      · rw [dispatched, result]
        exact .notCommitted unfit refusal same
  | uninstall =>
      rcases transacted_uninstall stance.context with ⟨ready, done⟩ | ⟨unready, refusal, refused⟩
      · obtain ⟨world, result, same⟩ := done stance rfl
        rw [dispatched, result]
        exact .retracted ready same
      · rw [dispatched, refused stance rfl]
        exact .notRetracted unready refusal
  | display => exact idle rfl Command.noConfusion Command.noConfusion
  | log switch => exact idle rfl Command.noConfusion Command.noConfusion
  | _ => exact idle (world_staged stance _) Command.noConfusion Command.noConfusion

/-- Everything that an inquiry can do. -/
theorem effect_meet
    (reachable : Reachable stance.context)
    (inquiry : Inquiry) :
    Effect stance.context stance.world inquiry.command?
      (stance.meet inMemory inquiry).answer (stance.meet inMemory inquiry).stance.world := by
  rcases meet_cases inMemory stance.phase inquiry with
    ⟨command, spelled, same⟩ | ⟨nothing, answer, next, same⟩
  · rw [spelled, same stance rfl]
    have still : Reachable { stance with phase := stance.phase.settled }.context := reachable
    exact effect_dispatched still command
  · rw [nothing, same stance rfl]
    exact .idle _ (Option.some_ne_none _).symm (Option.some_ne_none _).symm

end Stance

/-- Nothing that is asked changes the file system. -/
theorem Effect.files
    {context : Context} {machine next : Machine} {command : Option Command} {answer : Answer}
    (effect : Effect context machine command answer next) :
    next.files = machine.files := by
  cases effect with
  | committed ready cleared same =>
      exact (Machine.agree_of_forget same).2.2.trans (Machine.files_committed machine context)
  | notCommitted unfit refusal same => exact (Machine.agree_of_forget same).2.2
  | retracted ready same =>
      exact (Machine.agree_of_forget same).2.2.trans (Machine.files_retracted machine context)
  | notRetracted unready refusal => rfl
  | idle answer notInstall notUninstall => rfl

/-! ## What depends on what is shared -/

/-- Whether stances agree in everything but what is granted, what is set up and the log switch. -/
structure Stance.Alike (left right : Stance Machine) : Prop where
  phase : left.phase = right.phase
  context : left.context = right.context
  files : left.world.files = right.world.files

/-- Whether responses leave alike stances, and say the same if `told`. -/
structure Response.Alike (told : Prop) (left right : Response Machine) : Prop where
  stance : left.stance.Alike right.stance
  answer : told → left.answer = right.answer

/-- Whether what an inquiry is told depends on no other session. -/
def Inquiry.IsOwn (inquiry : Inquiry) : Prop :=
  inquiry.command? ≠ some .install ∧ inquiry.command? ≠ some (.log none)

namespace Stance.Alike

variable {left right : Stance Machine} {told : Prop}

theorem withPhase
    (alike : left.Alike right)
    (phase : SessionPhase) :
    Alike { left with phase } { right with phase } :=
  ⟨rfl, alike.context, alike.files⟩

theorem done
    (alike : left.Alike right)
    (fields : List String) :
    Response.Alike told (left.done fields) (right.done fields) :=
  ⟨alike, fun _ => rfl⟩

theorem refused
    (alike : left.Alike right)
    (refusal : Refusal) :
    Response.Alike told (left.refused refusal) (right.refused refusal) := by
  refine ⟨?_, fun _ => rfl⟩
  cases refusal with
  | «protocol» => exact alike.withPhase .invalid
  | internal => exact ⟨alike.phase, congrArg Context.raise alike.context, alike.files⟩
  | _ => exact alike

theorem staged
    (alike : left.Alike right)
    (attempt : Except StagingError Context) :
    Response.Alike told (left.staged attempt) (right.staged attempt) := by
  cases attempt with
  | ok context => exact ⟨⟨alike.phase, rfl, alike.files⟩, fun _ => rfl⟩
  | error error => exact alike.refused error.refusal

/-- What an install changes is no part of what makes stances alike. -/
theorem transacted_install
    (alike : left.Alike right)
    (reachable : Reachable left.context) :
    Response.Alike False (left.transacted (install inMemory))
      (right.transacted (install inMemory)) := by
  have same (stance : Stance Machine) (reachable : Reachable stance.context) :
      (stance.transacted (install inMemory)).stance.Alike stance := by
    obtain ⟨world, outcome⟩ := Stance.transacted_install reachable
    rcases outcome with ⟨_, _, result, forgotten⟩ | ⟨_, ⟨refusal, result⟩, forgotten⟩
    · rw [result]
      refine ⟨rfl, rfl, ?_⟩
      exact (Machine.agree_of_forget forgotten).2.2.trans (Machine.files_committed _ _)
    · rw [result]
      exact ⟨rfl, rfl, (Machine.agree_of_forget forgotten).2.2⟩
  obtain ⟨phase, context, files⟩ := same left reachable
  obtain ⟨otherPhase, otherContext, otherFiles⟩ := same right (alike.context ▸ reachable)
  refine ⟨⟨?_, ?_, ?_⟩, False.elim⟩
  · rw [phase, otherPhase, alike.phase]
  · rw [context, otherContext, alike.context]
  · rw [files, otherFiles, alike.files]

theorem transacted_uninstall
    (alike : left.Alike right) :
    Response.Alike told (left.transacted (uninstall inMemory))
      (right.transacted (uninstall inMemory)) := by
  rcases Stance.transacted_uninstall left.context with ⟨_, done⟩ | ⟨_, refusal, refused⟩
  · obtain ⟨world, result, forgotten⟩ := done left rfl
    obtain ⟨other, otherResult, otherForgotten⟩ := done right alike.context.symm
    rw [result, otherResult]
    refine ⟨⟨alike.phase, alike.context, ?_⟩, fun _ => rfl⟩
    have files := (Machine.agree_of_forget forgotten).2.2.trans (Machine.files_retracted _ _)
    have otherFiles :=
      (Machine.agree_of_forget otherForgotten).2.2.trans (Machine.files_retracted _ _)
    exact files.trans (alike.files.trans otherFiles.symm)
  · rw [refused left rfl, refused right alike.context.symm]
    exact ⟨alike, fun _ => rfl⟩

/-- Commands meet alike stances in the same way. -/
theorem dispatched
    (alike : left.Alike right)
    (reachable : Reachable left.context)
    (command : Command) :
    Response.Alike (command ≠ .install ∧ command ≠ .log none)
      (left.dispatched inMemory command) (right.dispatched inMemory command) := by
  have inspect : inMemory.inspect left.world = inMemory.inspect right.world :=
    congrArg FileTree.stat alike.files
  cases command with
  | clear => exact alike.staged (.ok Context.empty)
  | display =>
      refine ⟨alike, fun _ => ?_⟩
      exact congrArg (fun context => shown (Reply.contextRows context)) alike.context
  | log switch =>
      refine ⟨⟨alike.phase, alike.context, alike.files⟩, ?_⟩
      rintro ⟨_, notQuery⟩
      cases switch with
      | none => exact absurd rfl notQuery
      | some on => rfl
  | install =>
      have installed := alike.transacted_install reachable
      exact ⟨installed.stance, fun own => absurd rfl own.1⟩
  | uninstall => exact alike.transacted_uninstall
  | id id =>
      rw [Stance.dispatched, Stance.dispatched, alike.context]
      exact alike.staged _
  | path path word =>
      rw [Stance.dispatched, Stance.dispatched, alike.context, inspect]
      exact alike.staged _
  | permission permission =>
      rw [Stance.dispatched, Stance.dispatched, alike.context]
      exact alike.staged _
  | plug exportDirectory importId importDirectory =>
      rw [Stance.dispatched, Stance.dispatched, alike.context, inspect]
      exact alike.staged _

/-- Whatever a decoder comes up with meets alike stances in the same way. -/
theorem meet
    (alike : left.Alike right)
    (reachable : Reachable left.context)
    (inquiry : Inquiry) :
    Response.Alike inquiry.IsOwn (left.meet inMemory inquiry) (right.meet inMemory inquiry) := by
  rcases meet_cases inMemory left.phase inquiry with
    ⟨command, spelled, same⟩ | ⟨_, answer, next, same⟩
  · rw [same left rfl, same right alike.phase.symm]
    have settled := alike.withPhase left.phase.settled
    obtain ⟨stance, answer⟩ := settled.dispatched reachable command
    refine ⟨stance, ?_⟩
    rintro ⟨notInstall, notQuery⟩
    rw [spelled] at notInstall notQuery
    exact answer ⟨fun equal => notInstall (congrArg some equal),
      fun equal => notQuery (congrArg some equal)⟩
  · rw [same left rfl, same right alike.phase.symm]
    exact ⟨alike.withPhase next, fun _ => rfl⟩

end Stance.Alike

end Confinement
