import Confinement.Proofs.Policy.Identity
import Confinement.Proofs.Policy.Refinement

/-!
# A permission service as a keeper

An agent and the service on the other end of its connection keep permissions between them: a label
holds what is in force at the service.  Whatever the service refuses and however its replies are
delivered, no call changes what another label holds (`remoteKeeper`), and so no transaction with one
application changes what another one holds (`committed_of_others_stay`).
-/

namespace Confinement.Policy

open Host Staging Wire Cynagora

/-! ## Calls between partners -/

/-- An agent that is ready for a call, and its service between two calls. -/
structure Partners where
  agent : Agent
  service : Service
  ready : agent.Ready
  unstaged : service.staged = none

theorem Partners.idle (partners : Partners) :
    Idle partners.service.committed partners.service :=
  ⟨rfl, partners.unstaged⟩

/-- What comes of a call, with the service on the other end. -/
structure Encounter (moods : Nat → Mood) (partners : Partners) (call : StoreCall) where
  result : Except BackendError (Option Bool)
  next : Agent
  after : Service
  meets : Meets moods (call.on remote) partners.agent partners.service result next after

/-- The ways in which the replies to every call can be delivered. -/
abbrev Deliveries (moods : Nat → Mood) : Type :=
  (partners : Partners) → (call : StoreCall) → Encounter moods partners call

theorem nonempty_deliveries (moods : Nat → Mood) : Nonempty (Deliveries moods) := by
  refine ⟨fun partners call => Classical.choice ?_⟩
  obtain ⟨result, next, after, meets⟩ :=
    StoreCall.exists_meets_on_remote partners.ready partners.idle call
  exact ⟨⟨result, next, after, meets⟩⟩

namespace Encounter

variable {moods : Nat → Mood} {partners : Partners} {call : StoreCall}

theorem done (encounter : Encounter moods partners call) :
    encounter.next.Ready ∧
      call.Done moods partners.agent.nextCheck partners.service.committed partners.service.turn
        encounter.result.toOption encounter.after :=
  StoreCall.done_of_meets encounter.meets partners.ready partners.idle

theorem committed (encounter : Encounter moods partners call) :
    encounter.after.staged = none ∧
      (encounter.after.committed = partners.service.committed ∨
        encounter.after.committed = call.effect partners.service.committed) := by
  have done := encounter.done.2
  cases value : encounter.result.toOption with
  | none =>
      rw [value] at done
      exact ⟨done.1.2, .inl done.1.1⟩
  | some answer =>
      rw [value] at done
      exact ⟨done.2.2, .inr done.2.1⟩

theorem answer
    {given : Option Bool}
    (encounter : Encounter moods partners call)
    (answered : encounter.result = .ok given) :
    given = call.answer partners.service.committed := by
  have done := encounter.done.2
  rw [answered] at done
  exact done.1

/-- The partners after a call. -/
def later (encounter : Encounter moods partners call) : Partners where
  agent := encounter.next
  service := encounter.after
  ready := encounter.done.1
  unstaged := encounter.committed.1

/-- A call changes what a label holds only if its changes do. -/
theorem held_of_spared
    {label : String}
    (encounter : Encounter moods partners call)
    (spared : ∀ grants : Grants, (call.effect grants).of label = grants.of label) :
    encounter.after.committed.of label = partners.service.committed.of label := by
  rcases encounter.committed.2 with same | changed
  · rw [same]
  · rw [changed, spared]

end Encounter

/-! ## The keeper -/

/-- The changes of a call are those that memory makes, so they spare what memory spares. -/
theorem StoreCall.of_effect (call : StoreCall) (grants : Grants) (label : String) :
    (call.effect grants).of label = (call.on memory grants).2.of label :=
  (on_memory (fun _ => rfl) call).2 label

/-- Permissions that a service keeps for an agent. -/
def remoteKeeper {moods : Nat → Mood} (deliver : Deliveries moods) : Keeper Partners where
  store :=
    { name := remote.name
      check := fun label permission partners =>
        let encounter := deliver partners (.check label permission)
        (encounter.result.map (·.getD false), encounter.later)
      add := fun label permissions replace partners =>
        let encounter := deliver partners (.add label permissions replace)
        (encounter.result.map fun _ => (), encounter.later)
      drop := fun label partners =>
        let encounter := deliver partners (.drop label)
        (encounter.result.map fun _ => (), encounter.later) }
  held := fun partners => partners.service.committed.of
  held_check label permission partners :=
    funext fun _ => (deliver partners (.check label permission)).held_of_spared fun _ => rfl
  answer_check label permission partners answer answered := by
    let encounter := deliver partners (.check label permission)
    cases given : encounter.result with
    | error error =>
        dsimp only at answered
        rw [given] at answered
        cases answered
    | ok value =>
        dsimp only at answered
        rw [given, encounter.answer given] at answered
        exact (Except.ok.inj answered).symm
  held_add label permissions replace partners other apart :=
    (deliver partners (.add label permissions replace)).held_of_spared fun grants =>
      (StoreCall.of_effect _ grants other).trans
        (memoryKeeper.held_add label permissions replace grants other apart)
  held_drop label partners other apart :=
    (deliver partners (.drop label)).held_of_spared fun grants =>
      (StoreCall.of_effect _ grants other).trans (memoryKeeper.held_drop label grants other apart)

/--
A permission service, any of the labellers, two applications and any transactions with contexts of
one of them: what is in force at the service for the other one stays as it is, and every check that
is answered tells so, whatever the service refuses and however its replies are delivered.  Under
policy modules this is said of identifiers whose modules differ.
-/
theorem committed_of_others_stay
    {Outside : Type} {moods : Nat → Mood} {id other : String}
    (deliver : Deliveries moods)
    (selected : Selectable Outside)
    (inspect : Partners × Outside → Inspection)
    (distinct : other ≠ id)
    (apart : ∀ modules, selected = .selinux modules → moduleName other ≠ moduleName id)
    (transactions : List Transaction)
    (named : ∀ transaction ∈ transactions, transaction.context.id = some id)
    (world : Partners × Outside) :
    let environment := (remoteKeeper deliver).beside selected.labeller inspect
    let label := environment.labeller.label other
    let last := Transaction.performAll environment transactions world
    last.1.service.committed.of label = world.1.service.committed.of label ∧
      ∀ permission answer, (environment.store.check label permission last).1 = .ok answer →
        answer = decide (permission ∈ world.1.service.committed.of label) := by
  intro environment label last
  have stays : last.1.service.committed.of label = world.1.service.committed.of label :=
    Keeper.spares_performAll (remoteKeeper deliver) selected.labeller inspect named world label
      (Selectable.label_ne distinct apart)
  refine ⟨stays, fun permission answer answered => ?_⟩
  rw [← stays]
  exact (remoteKeeper deliver).answer_check label permission last.1 answer answered

end Confinement.Policy
