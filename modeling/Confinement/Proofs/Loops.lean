/-!
# Loops

A loop is given by its body: a pass through the body ends the loop, or leads to the state of the
next pass.  A loop of which every further pass starts with less than the one before comes to its end
(`ends_of_shrinks`).
-/

namespace Confinement

/-- What one pass through the body of a loop comes to. -/
inductive Pass (State Result : Type) where
  /-- The body is entered again. -/
  | again (next : State)
  /-- The loop is left. -/
  | ended (result : Result)

namespace Pass

variable {State Result : Type} {body : State → Pass State Result}

/-- What a pass comes to if a function does all that follows it. -/
def followedBy (run : State → Result) : Pass State Result → Result
  | .again next => run next
  | .ended result => result

/-- Whether a loop that is entered with a state is left with a result, after so many passes. -/
inductive Ends (body : State → Pass State Result) : Nat → State → Result → Prop
  | last {state : State} {result : Result}
      (left : body state = .ended result) :
      Ends body 1 state result
  | again {passes : Nat} {state next : State} {result : Result}
      (entered : body state = .again next)
      (onward : Ends body passes next result) :
      Ends body (passes + 1) state result

/-- Whether every further pass starts with less than the one before. -/
def Shrinks (body : State → Pass State Result) (size : State → Nat) : Prop :=
  ∀ state next, body state = .again next → size next < size state

/-- A function that does what the body says is the loop, and the loop comes to its end. -/
theorem ends_of_shrinks
    {size : State → Nat} (run : State → Result)
    (shrinks : Shrinks body size)
    (unfolds : ∀ state, run state = (body state).followedBy run)
    (state : State) :
    ∃ passes, passes ≤ size state + 1 ∧ Ends body passes state (run state) := by
  rw [unfolds state]
  cases step : body state with
  | ended result => exact ⟨1, Nat.le_add_left 1 _, .last step⟩
  | again next =>
      have less := shrinks state next step
      obtain ⟨passes, bound, onward⟩ := ends_of_shrinks run shrinks unfolds next
      exact ⟨passes + 1, Nat.succ_le_succ (Nat.le_trans bound less), .again step onward⟩
termination_by size state

end Pass

end Confinement
