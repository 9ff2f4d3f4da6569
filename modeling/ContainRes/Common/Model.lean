import Mathlib.Data.String.Basic

/-! # Data models shared by the services

`User`, `Group` and `Project` as the requests and the service methods pass them around; every field is
optional, as in the models of `auth_model.py` and `projects_model.py`. Fields that no modelled function reads are left
out. -/

namespace ContainRes

structure User where
  username : Option String := none
  password : Option String := none
  email : Option String := none
  uid : Option Nat := none
  gid : Option Nat := none
  additionalGroups : Option (List String) := none
  loginShell : Option String := none
  homeDir : Option String := none
  /-- `sudo`. -/
  isSudo : Option Bool := none
  enabled : Option Bool := none
  role : Option String := none
  isActive : Option Bool := none
  deriving DecidableEq, Repr

structure Group where
  title : Option String := none
  name : Option String := none
  dsName : Option String := none
  gid : Option Nat := none
  groupType : Option String := none
  type : Option String := none
  enabled : Option Bool := none
  role : Option String := none
  deriving DecidableEq, Repr

/-- The name of the administrator role. -/
def adminRole : String := "admin"

/-- The name of the user role. -/
def userRole : String := "user"

/-- `Project`. The budget is its name, the scripts are their locations. -/
structure Project where
  projectId : Option String := none
  name : Option String := none
  ldapGroups : Option (List String) := some []
  users : Option (List String) := none
  enableBudgets : Option Bool := none
  budgetName : Option String := none
  securityGroups : Option (List String) := some []
  policyArns : Option (List String) := none
  scripts : Option (List String) := none
  deriving DecidableEq, Repr

end ContainRes
