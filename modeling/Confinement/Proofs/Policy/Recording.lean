import Confinement.Policy.Backend

/-!
# Recorded environments

An `Exchange` is one call of a backend together with its answer.  `Environment.recorded` is an
environment that answers as another does and keeps every exchange, so the calls that a transaction
or a session makes are a value that can be spoken of.  The backends may act on any world in any
way: what they answer can depend on everything that they were asked before.
-/

namespace Confinement.Policy

open Staging

variable {World : Type}

/-- A call of a backend and its answer. -/
inductive Exchange where
  | check (label permission : String) (answer : Except BackendError Bool)
  | add (label : String) (permissions : TextSet) (replace : Bool)
      (answer : Except BackendError Unit)
  | drop (label : String) (answer : Except BackendError Unit)
  | install (context : Context) (answer : Except BackendError Unit)
  | uninstall (context : Context) (answer : Except BackendError Unit)

/-- A world with the exchanges that led to it. -/
abbrev Recorded (World : Type) := World × List Exchange

/-- A call whose answer is kept. -/
def kept {Result : Type} (exchange : Except BackendError Result → Exchange)
    (call : Call World Result) : Call (Recorded World) Result :=
  fun recorded =>
    let (answer, next) := call recorded.1
    (answer, next, recorded.2 ++ [exchange answer])

/-- The environment in which every exchange is kept. -/
def Environment.recorded (environment : Environment World) : Environment (Recorded World) where
  store :=
    { name := environment.store.name
      check := fun label permission =>
        kept (.check label permission) (environment.store.check label permission)
      add := fun label permissions replace =>
        kept (.add label permissions replace) (environment.store.add label permissions replace)
      drop := fun label => kept (.drop label) (environment.store.drop label) }
  labeller :=
    { name := environment.labeller.name
      label := environment.labeller.label
      install := fun context => kept (.install context) (environment.labeller.install context)
      uninstall := fun context =>
        kept (.uninstall context) (environment.labeller.uninstall context) }
  inspect := fun recorded => environment.inspect recorded.1

section

variable (environment : Environment World) (world : World) (log : List Exchange)

@[simp]
theorem recorded_label : environment.recorded.labeller.label = environment.labeller.label := rfl

theorem recorded_check (label permission : String) :
    environment.recorded.store.check label permission (world, log) =
      ((environment.store.check label permission world).1,
        (environment.store.check label permission world).2,
        log ++ [.check label permission (environment.store.check label permission world).1]) := rfl

theorem recorded_add (label : String) (permissions : TextSet) (replace : Bool) :
    environment.recorded.store.add label permissions replace (world, log) =
      ((environment.store.add label permissions replace world).1,
        (environment.store.add label permissions replace world).2,
        log ++ [.add label permissions replace
          (environment.store.add label permissions replace world).1]) := rfl

theorem recorded_drop (label : String) :
    environment.recorded.store.drop label (world, log) =
      ((environment.store.drop label world).1,
        (environment.store.drop label world).2,
        log ++ [.drop label (environment.store.drop label world).1]) := rfl

theorem recorded_install (context : Context) :
    environment.recorded.labeller.install context (world, log) =
      ((environment.labeller.install context world).1,
        (environment.labeller.install context world).2,
        log ++ [.install context (environment.labeller.install context world).1]) := rfl

theorem recorded_uninstall (context : Context) :
    environment.recorded.labeller.uninstall context (world, log) =
      ((environment.labeller.uninstall context world).1,
        (environment.labeller.uninstall context world).2,
        log ++ [.uninstall context (environment.labeller.uninstall context world).1]) := rfl

end

end Confinement.Policy
