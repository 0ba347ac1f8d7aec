import Confinement.Policy.Call
import Confinement.Staging.Context

/-!
# Policy backends

Two services carry out what a context asks for.  A `PermissionStore` keeps permissions per security
label, and a `Labeller` sets up mandatory access control for an application's files.  Both act on a
world of any type, so what is said about transactions and sessions holds for every pair of them.
-/

namespace Confinement.Policy

open Host Staging

/-- A service that keeps permissions per security label. -/
structure PermissionStore (World : Type) where
  /-- The name under which it is selected. -/
  name : String
  /-- Whether a label holds a permission. -/
  check : (label permission : String) → Call World Bool
  /-- Gives permissions to a label, in place of those it holds when `replace` is set. -/
  add : (label : String) → (permissions : TextSet) → (replace : Bool) → Call World Unit
  /-- Takes every permission from a label. -/
  drop : (label : String) → Call World Unit

/-- A service that sets up mandatory access control. -/
structure Labeller (World : Type) where
  /-- The name under which it is selected. -/
  name : String
  /-- The security label of an application. -/
  label : (id : String) → String
  /-- Sets up what a context asks for. -/
  install : Context → Call World Unit
  /-- Takes it back. -/
  uninstall : Context → Call World Unit

/-- Everything outside a session: the two services and the file system. -/
structure Environment (World : Type) where
  /-- Keeps permissions. -/
  store : PermissionStore World
  /-- Sets up access control. -/
  labeller : Labeller World
  /-- What paths lead to. -/
  inspect : World → Inspection

end Confinement.Policy
