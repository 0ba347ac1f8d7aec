import Confinement.Staging.Kind

/-!
# Security labels

The labels under which applications and their files are known to mandatory access control.
-/

namespace Confinement.Policy

open Staging

def applicationLabel (id : String) : String := "App:" ++ id

def systemLabel : String := "System"

/-- The label of files that every application may read. -/
def sharedLabel : String := "System:Shared"

/-- The label of an application's files of one kind. -/
def pathLabel (id : String) : Kind → String
  | .plain => applicationLabel id
  | .shared => sharedLabel
  | .conf => applicationLabel id ++ ":Conf"
  | .data => applicationLabel id ++ ":Data"
  | .exec => applicationLabel id ++ ":Exec"
  | .http => applicationLabel id ++ ":Http"
  | .icon => applicationLabel id ++ ":Icon"
  | .id => applicationLabel id ++ ":Id"
  | .lib => applicationLabel id ++ ":Lib"
  | .plug => applicationLabel id ++ ":Plug"

/-- The policy module of an application: module names have no dashes. -/
def moduleName (id : String) : String :=
  String.ofList (id.toList.map (fun c => if c = '-' then '_' else c))

/-- The domain in which an application runs. -/
def domainLabel (id : String) : String := "system_u:system_r:" ++ moduleName id ++ "_t:s0"

end Confinement.Policy
