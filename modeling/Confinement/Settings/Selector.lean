/-!
# Selectors

Settings that choose one of a few words: the labeller, the permission store and the form of the log.
The words are told in lower case; a typed word may be in any case, a stored one may not.
-/

namespace Confinement.Settings

/-- Which labeller is used. -/
inductive LabellerKind where
  /-- The one that the kernel offers. -/
  | auto
  | smack
  | selinux
  | simulate
  deriving DecidableEq, Repr

/-- Which permission store is used. -/
inductive StoreKind where
  | cynagora
  | memory
  deriving DecidableEq, Repr

/-- How the log is written. -/
inductive LogFormat where
  | json
  | compact
  deriving DecidableEq, Repr

def LabellerKind.word : LabellerKind → String
  | .auto => "auto"
  | .smack => "smack"
  | .selinux => "selinux"
  | .simulate => "simulate"

def StoreKind.word : StoreKind → String
  | .cynagora => "cynagora"
  | .memory => "memory"

def LogFormat.word : LogFormat → String
  | .json => "json"
  | .compact => "compact"

def LabellerKind.all : List LabellerKind := [.auto, .smack, .selinux, .simulate]

def StoreKind.all : List StoreKind := [.cynagora, .memory]

def LogFormat.all : List LogFormat := [.json, .compact]

/-- A text with its ASCII letters in lower case. -/
def lowered (text : String) : String := String.ofList (text.toList.map Char.toLower)

/-- The choice whose word is exactly `text`. -/
def stored? {Choice : Type} (word : Choice → String) (all : List Choice) (text : String) :
    Option Choice := all.find? (fun choice => word choice == text)

/-- The choice whose word is `text` in any case. -/
def typed? {Choice : Type} (word : Choice → String) (all : List Choice) (text : String) :
    Option Choice := stored? word all (lowered text)

end Confinement.Settings
