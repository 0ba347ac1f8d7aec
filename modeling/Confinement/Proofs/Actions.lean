import Confinement.Action

/-!
# What actions change

An action moves along a relation of states if, however it ends, the relation leads from the state
that it met to the one that it leaves.  Along a relation that is reflexive and transitive, actions
that are put together move as soon as their parts do.
-/

namespace Confinement

theorem toOption_eq_some_iff
    {Error Value : Type} {answer : Except Error Value} {value : Value} :
    answer.toOption = some value ↔ answer = .ok value := by
  cases answer with
  | error error => exact ⟨fun some => (by cases some), fun ok => (by cases ok)⟩
  | ok other => exact ⟨fun some => congrArg _ (Option.some.inj some), fun ok => by rw [ok]; rfl⟩

theorem ok_of_bind
    {Error First Result : Type} {first : Except Error First} {next : First → Except Error Result}
    {result : Result}
    (ended : (first >>= next) = .ok result) :
    ∃ middle, first = .ok middle ∧ next middle = .ok result := by
  cases first with
  | error error => cases ended
  | ok middle => exact ⟨middle, rfl, ended⟩

end Confinement

namespace Confinement.Action

variable {Error State Result Next : Type} {leads : State → State → Prop}

theorem forEach_singleton
    {Item : Type} (action : Item → Action Error State Unit) (item : Item) :
    Action.forEach action [item] = action item := by
  funext state
  rw [Action.forEach, andThen]
  generalize action item state = ended
  obtain ⟨error | _, after⟩ := ended <;> rfl

/-- Whether a relation leads from every state to the one that an action leaves. -/
def Moves (leads : State → State → Prop) (action : Action Error State Result) : Prop :=
  ∀ state, leads state (action state).2

namespace Moves

theorem bind
    {first : Action Error State Result} {next : Result → Action Error State Next}
    (trans : ∀ before between after, leads before between → leads between after →
      leads before after)
    (head : Moves leads first)
    (tail : ∀ result, Moves leads (next result)) :
    Moves leads (first >>= next) := by
  intro state
  have step := head state
  rw [bind_apply]
  generalize first state = ended at step ⊢
  obtain ⟨error | result, between⟩ := ended
  · exact step
  · exact trans _ _ _ step (tail result between)

theorem forEach
    {Item : Type} {action : Item → Action Error State Unit}
    (refl : ∀ state, leads state state)
    (trans : ∀ before between after, leads before between → leads between after →
      leads before after)
    (each : ∀ item, Moves leads (action item))
    (items : List Item) :
    Moves leads (Action.forEach action items) := by
  induction items with
  | nil => exact refl
  | cons item rest hypothesis => exact (each item).bind trans fun _ => hypothesis

/-- What is done in some states only. -/
theorem ite
    {action : Action Error State Unit}
    (refl : ∀ state, leads state state)
    (moves : Moves leads action)
    (condition : State → Prop) [DecidablePred condition] :
    Moves leads fun state => if condition state then action state else (.ok (), state) := by
  intro state
  dsimp only
  split
  · exact moves state
  · exact refl state

end Moves

end Confinement.Action
