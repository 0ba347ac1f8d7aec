import Confinement.Policy.Backend
import Confinement.Policy.Label

/-!
# Simulated access control

The labeller that only keeps a list of the applications it was asked to set up.
-/

namespace Confinement.Policy

/-- The labeller that remembers the installed applications in a part of the world. -/
def simulatedLabeller {World : Type} (installed : Part World TextSet) : Labeller World where
  name := "simulate"
  label := applicationLabel
  install context := fun world =>
    match context.id with
    | none => (.ok (), world)
    | some id => (.ok (), installed.put ((installed.get world).insert id) world)
  uninstall context := fun world =>
    match context.id with
    | none => (.ok (), world)
    | some id => (.ok (), installed.put ((installed.get world).erase id) world)

end Confinement.Policy
