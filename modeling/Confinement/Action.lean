/-!
# Actions

An `Action Error State Result` acts on a state and ends with a result or an error; either way it
leaves a state behind.  Actions are put one after another, and an error ends the sequence with the
state reached so far.
-/

namespace Confinement

/-- A step that changes a state and may fail. -/
def Action (Error State Result : Type) : Type := State → Except Error Result × State

namespace Action

variable {Error State Result Next : Type}

/-- Gives a result and changes nothing. -/
def answer (result : Result) : Action Error State Result := fun state => (.ok result, state)

/-- Fails and changes nothing. -/
def fail (error : Error) : Action Error State Result := fun state => (.error error, state)

/-- Does one action and then another that depends on its result. -/
def andThen (first : Action Error State Result) (next : Result → Action Error State Next) :
    Action Error State Next := fun state =>
  match first state with
  | (.ok result, after) => next result after
  | (.error error, after) => (.error error, after)

instance : Monad (Action Error State) where
  pure := answer
  bind := andThen

@[simp]
theorem pure_apply (result : Result) (state : State) :
    (pure result : Action Error State Result) state = (.ok result, state) := rfl

theorem bind_apply (first : Action Error State Result) (next : Result → Action Error State Next)
    (state : State) :
    (first >>= next) state =
      match first state with
      | (.ok result, after) => next result after
      | (.error error, after) => (.error error, after) := rfl

def get : Action Error State State := fun state => (.ok state, state)

/-- Changes the state and cannot fail. -/
def modify (change : State → State) : Action Error State Unit := fun state => (.ok (), change state)

/-- Does one action for each item, up to the first that fails. -/
def forEach {Item : Type} (action : Item → Action Error State Unit) :
    List Item → Action Error State Unit
  | [] => answer ()
  | item :: rest => andThen (action item) fun _ => forEach action rest

end Action

end Confinement
