/-!
# Path kinds

The part that a path plays in an application, with the word that names it.
-/

namespace Confinement.Staging

/-- The part a path plays. -/
inductive Kind where
  | plain
  | conf
  /-- Data that changes. -/
  | data
  | exec
  | http
  | icon
  | id
  | lib
  | plug
  /-- Files that every application may read. -/
  | shared
  deriving DecidableEq, Repr

namespace Kind

/-- Every kind, in the order of their declaration. -/
def all : List Kind :=
  [.plain, .conf, .data, .exec, .http, .icon, .id, .lib, .plug, .shared]

theorem mem_all (kind : Kind) : kind ∈ all := by cases kind <;> decide

def word : Kind → String
  | .plain => "default"
  | .conf => "conf"
  | .data => "data"
  | .exec => "exec"
  | .http => "http"
  | .icon => "icon"
  | .id => "id"
  | .lib => "lib"
  | .plug => "plug"
  | .shared => "public"

def ofWord? (word : String) : Option Kind := all.find? (fun kind => kind.word == word)

/-- Each kind is found by its own word. -/
@[simp]
theorem ofWord?_word (kind : Kind) : ofWord? kind.word = some kind := by cases kind <;> decide

/-- Whether a path of this kind must be a directory. -/
def needsDirectory : Kind → Bool
  | .plug => true
  | _ => false

/-- Whether a path of this kind belongs to an application with an identifier. -/
def needsId : Kind → Bool
  | .plain => false
  | _ => true

end Kind

end Confinement.Staging
