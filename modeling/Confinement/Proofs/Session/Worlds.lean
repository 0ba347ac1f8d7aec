import Confinement.Proofs.Actions
import Confinement.Session.Basic

/-!
# The world of a session

A session touches the world of the backends only through calls to them.  So a relation of worlds
along which every call of an environment moves leads from the world that a session meets to the one
that it leaves, whatever its client sends (`Environment.Moves.processFrom`).
-/

namespace Confinement

open Host Policy Staging Wire

variable {World Result : Type} {leads : World → World → Prop} {environment : Environment World}

/-- Whether all calls of an environment move along a relation that can be followed onwards. -/
structure Policy.Environment.Moves (environment : Environment World)
    (leads : World → World → Prop) : Prop where
  refl : ∀ world, leads world world
  trans : ∀ before between after, leads before between → leads between after → leads before after
  check : ∀ label permission, (environment.store.check label permission).Moves leads
  add : ∀ label permissions replace, (environment.store.add label permissions replace).Moves leads
  drop : ∀ label, (environment.store.drop label).Moves leads
  install : ∀ context, (environment.labeller.install context).Moves leads
  uninstall : ∀ context, (environment.labeller.uninstall context).Moves leads

namespace Policy.Environment.Moves

variable (moves : environment.Moves leads)

include moves

/-! ## Transactions -/

theorem checkPlug (context : Context) (id : String) (plug : Plug) (world : World) :
    leads world (checkPlug environment context id plug world).2 := by
  have checked := moves.check (environment.labeller.label plug.importId) publicPlugs world
  rw [Policy.checkPlug]
  generalize environment.store.check _ _ world = ended at checked ⊢
  obtain ⟨error | isPublic, next⟩ := ended
  · exact checked
  · dsimp only
    split
    · exact checked
    · exact checked

theorem checkPlugs (context : Context) (id : String) (plugs : List Plug) (world : World) :
    leads world (checkPlugs environment context id plugs world).2 := by
  induction plugs generalizing world with
  | nil => exact moves.refl world
  | cons plug rest hypothesis =>
      have first := moves.checkPlug context id plug world
      have onward := moves.trans _ _ _ first (hypothesis _)
      rw [Policy.checkPlugs]
      dsimp only
      split
      · exact onward
      · exact onward

theorem installLabels
    {undo : World → World}
    (undoes : ∀ world, leads world (undo world))
    (context : Context) (world : World) :
    leads world (installLabels environment context undo world).2 := by
  have installed := moves.install context world
  rw [Policy.installLabels]
  generalize environment.labeller.install context world = ended at installed ⊢
  obtain ⟨error | done, next⟩ := ended
  · exact moves.trans _ _ _ installed (undoes next)
  · exact installed

theorem uninstallLabels (context : Context) (world : World) :
    leads world (uninstallLabels environment context world).2 := by
  have uninstalled := moves.uninstall context world
  rw [Policy.uninstallLabels]
  generalize environment.labeller.uninstall context world = ended at uninstalled ⊢
  obtain ⟨error | done, next⟩ := ended
  · exact uninstalled
  · exact uninstalled

theorem transact_install (context : Context) (world : World) :
    leads world (Policy.install environment context world).2 := by
  rw [Policy.install]
  split
  · exact moves.refl world
  · split
    · exact moves.installLabels moves.refl context world
    · rename_i id _
      have checked := moves.checkPlugs context id context.plugs world
      generalize Policy.checkPlugs environment context id context.plugs world = ended at checked ⊢
      obtain ⟨error | done, next⟩ := ended
      · exact checked
      · have added := moves.trans _ _ _ checked
          (moves.add (environment.labeller.label id) context.permissions true next)
        dsimp only
        generalize environment.store.add _ _ _ next = given at added ⊢
        obtain ⟨error | done, after⟩ := given
        · exact added
        · exact moves.trans _ _ _ added (moves.installLabels (moves.drop _) context after)

theorem transact_uninstall (context : Context) (world : World) :
    leads world (Policy.uninstall environment context world).2 := by
  rw [Policy.uninstall]
  split
  · exact moves.refl world
  · split
    · exact moves.uninstallLabels context world
    · rename_i id _
      have dropped := moves.drop (environment.labeller.label id) world
      generalize environment.store.drop _ world = taken at dropped ⊢
      obtain ⟨error | done, next⟩ := taken
      · exact dropped
      · exact moves.trans _ _ _ dropped (moves.uninstallLabels context next)

end Policy.Environment.Moves

/-! ## Replies -/

/-- Whether a relation leads from the world of one turn to that of another. -/
def Turn.Leads (leads : World → World → Prop) (turn next : Turn World) : Prop :=
  leads turn.shared.world next.shared.world

theorem Shared.world_note (shared : Shared World) (direction : Direction) (fields : List String) :
    (shared.note direction fields).world = shared.world := by
  rw [note]
  split
  · rfl
  · rfl

/-- A reply that leaves the world moves along every relation. -/
theorem Reply.moves_of_same
    {reply : Reply World Result}
    (refl : ∀ world, leads world world)
    (same : ∀ turn, (reply turn).2.shared.world = turn.shared.world) :
    reply.Moves (Turn.Leads leads) := by
  intro turn
  rw [Turn.Leads, same]
  exact refl _

namespace Policy.Environment.Moves

variable (moves : environment.Moves leads)

include moves

theorem bind
    {Next : Type} {first : Reply World Result} {next : Result → Reply World Next}
    (head : first.Moves (Turn.Leads leads))
    (tail : ∀ result, (next result).Moves (Turn.Leads leads)) :
    (first >>= next).Moves (Turn.Leads leads) :=
  head.bind (fun _ _ _ => moves.trans _ _ _) tail

theorem pure (result : Result) :
    (Pure.pure result : Reply World Result).Moves (Turn.Leads leads) :=
  Reply.moves_of_same moves.refl fun _ => rfl

/-- Changing what is not the world moves along every relation. -/
theorem modify
    {change : Turn World → Turn World}
    (same : ∀ turn, (change turn).shared.world = turn.shared.world) :
    (Action.modify change : Reply World Unit).Moves (Turn.Leads leads) :=
  Reply.moves_of_same moves.refl same

theorem setPhase (phase : SessionPhase) :
    (Reply.setPhase phase : Reply World Unit).Moves (Turn.Leads leads) :=
  moves.modify fun _ => rfl

theorem flush : (Reply.flush : Reply World Unit).Moves (Turn.Leads leads) := by
  refine Reply.moves_of_same moves.refl fun turn => ?_
  rw [Reply.flush]
  dsimp only
  split
  · rfl
  · rfl
  · rfl

theorem encode (fields : List String) :
    (Reply.encode fields : Reply World Bool).Moves (Turn.Leads leads) := by
  refine Reply.moves_of_same moves.refl fun turn => ?_
  rw [Reply.encode]
  split
  · exact Shared.world_note _ _ _
  · rfl

theorem trySend (fields : List String) :
    (Reply.trySend fields : Reply World Bool).Moves (Turn.Leads leads) := by
  refine moves.bind (moves.encode fields) fun fitted => ?_
  cases fitted with
  | true => exact moves.pure true
  | false => exact moves.bind moves.flush fun _ => moves.encode fields

theorem send (fields : List String) :
    (Reply.send fields : Reply World Unit).Moves (Turn.Leads leads) := by
  refine moves.bind (moves.trySend fields) fun fitted => ?_
  cases fitted with
  | true => exact moves.pure ()
  | false => exact moves.setPhase .invalid

theorem reject (refusal : Refusal) :
    (Reply.reject refusal : Reply World Unit).Moves (Turn.Leads leads) := by
  cases refusal with
  | protocol => exact moves.bind (moves.send _) fun _ => moves.setPhase .invalid
  | internal => exact moves.bind (moves.modify fun _ => rfl) fun _ => moves.send _
  | _ => exact moves.send _

theorem negotiate (offer : List String) :
    (Reply.negotiate offer : Reply World Unit).Moves (Turn.Leads leads) := by
  rw [Reply.negotiate]
  split
  · exact moves.bind (moves.setPhase _) fun _ => moves.send _
  · exact moves.bind (moves.send _) fun _ => moves.setPhase .invalid

theorem sendRows (rows : List (List String)) :
    (Reply.sendRows rows : Reply World Unit).Moves (Turn.Leads leads) := by
  induction rows with
  | nil => exact moves.send _
  | cons row rest hypothesis =>
      refine moves.bind (moves.trySend _) fun fitted => ?_
      cases fitted with
      | true => exact hypothesis
      | false => exact moves.send _

theorem switchLog (switch : Option Bool) :
    (Reply.switchLog switch : Reply World Unit).Moves (Turn.Leads leads) := by
  have told : Action.Moves (Turn.Leads leads) fun turn : Turn World =>
      Reply.send ["done", Command.switchWord turn.shared.logging] turn :=
    fun turn => moves.send _ turn
  cases switch with
  | none => exact told
  | some on => exact moves.bind (moves.modify fun _ => rfl) fun _ => told

theorem staged (attempt : Except StagingError Context) :
    (Reply.staged attempt : Reply World Unit).Moves (Turn.Leads leads) := by
  cases attempt with
  | ok context => exact moves.bind (moves.modify fun _ => rfl) fun _ => moves.send _
  | error error => exact moves.reject _

theorem transact
    {transaction : Context → World → Outcome World}
    (each : ∀ context world, leads world (transaction context world).2) :
    (Reply.transact transaction).Moves (Turn.Leads leads) := by
  intro turn
  have met := each turn.dialogue.context turn.shared.world
  rw [Reply.transact]
  generalize transaction turn.dialogue.context turn.shared.world = ended at met ⊢
  obtain ⟨error | done, world⟩ := ended
  · have rejected := moves.reject error.refusal { turn with shared := { turn.shared with world } }
    exact moves.trans _ _ _ met rejected
  · have sent := moves.send ["done"] { turn with shared := { turn.shared with world } }
    exact moves.trans _ _ _ met sent

theorem dispatch (command : Command) :
    (Reply.dispatch environment command).Moves (Turn.Leads leads) := by
  intro turn
  cases command with
  | clear => exact moves.staged _ turn
  | display => exact moves.sendRows _ turn
  | log switch => exact moves.switchLog switch turn
  | id id => exact moves.staged _ turn
  | path path word => exact moves.staged _ turn
  | permission permission => exact moves.staged _ turn
  | plug exportDirectory importId importDirectory => exact moves.staged _ turn
  | install => exact moves.transact moves.transact_install turn
  | uninstall => exact moves.transact moves.transact_uninstall turn

theorem command (fields : List String) :
    (Reply.command environment fields).Moves (Turn.Leads leads) := by
  rw [Reply.command]
  split
  · exact moves.dispatch _
  · exact moves.send _
  · exact moves.reject _

theorem answerFields (fields : List String) :
    (Reply.answerFields environment fields).Moves (Turn.Leads leads) := by
  intro turn
  let noted := { turn with shared := turn.shared.note .received fields }
  suffices Turn.Leads leads noted (Reply.answerFields environment fields turn).2 by
    rwa [Turn.Leads, Shared.world_note] at this
  rw [Reply.answerFields]
  dsimp only
  split
  · split
    · exact moves.negotiate _ noted
    · exact moves.bind (moves.setPhase _) (fun _ => moves.command fields) noted
  · exact moves.command fields noted

theorem answerRecord (record : Record) :
    (Session.answerRecord environment record).Moves (Turn.Leads leads) := by
  refine moves.bind ?_ fun _ => moves.flush
  rw [Reply.answer]
  split
  · exact moves.answerFields _
  · exact moves.reject _

theorem refuseInput (error : FramingError) :
    (Session.refuseInput error : Reply World Unit).Moves (Turn.Leads leads) :=
  moves.bind (moves.send _) fun _ => moves.bind (moves.setPhase .invalid) fun _ => moves.flush

/-! ## Sessions -/

/-- Whatever a client has sent, answering it moves along what every call moves along. -/
theorem processFrom (decoder : Decoder) (turn : Turn World) :
    leads turn.shared.world (Session.processFrom environment decoder turn).2.2.shared.world := by
  fun_induction Session.processFrom environment decoder turn with
  | case1 decoder turn isOpen error next found result last refused =>
      have refusing := moves.refuseInput error turn
      rw [refused] at refusing
      exact refusing
  | case2 decoder turn isOpen next found => exact moves.refl _
  | case3 decoder turn isOpen record next found last answered hypothesis =>
      have answering := moves.answerRecord record turn
      rw [answered] at answering
      exact moves.trans _ _ _ answering hypothesis
  | case4 decoder turn isOpen record next found error last answered =>
      have answering := moves.answerRecord record turn
      rw [answered] at answering
      exact answering
  | case5 decoder turn closed => exact moves.refl _

end Policy.Environment.Moves

end Confinement
