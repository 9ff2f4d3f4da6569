import ContainRes.Accounts.Service

/-! # Updating a project

`ProjectsService.update_project`: the checks of a request, the record it writes, and the task it sends
with the difference between the stored and the requested groups and users.

* **`ProjectsContext`** — what the service asks of other services, and the order of its sets.
* **`updateProject`** — the method, with its checks (`checkName`, `checkBudget`,
  `checkLaunchSettings`), the difference it sends (`requestedDifference`) and its writes
  (`storeAndSend`). -/

namespace ContainRes.Projects

open Accounts Effects Text

/-- The order in which a set of strings is iterated: every element, and nothing else. -/
structure SetOrder where
  list : List String → List String
  mem_list : ∀ xs x, x ∈ list xs ↔ x ∈ xs

/-- What `update_project` reads outside the database. -/
structure ProjectsContext where
  /-- The iteration order of the sets of names. -/
  setOrder : SetOrder
  /-- `aws_util.budgets_get_budget(budget_name)`. -/
  budgetsGetBudget : String → Except Exc Unit
  /-- `LaunchScriptsHelper.is_valid_script_location(location)`. -/
  isValidScriptLocation : String → Bool
  /-- `aws_util.is_security_group_available(security_group_id, vpc_id)` in the VPC of the cluster. -/
  isSecurityGroupAvailable : String → Bool
  /-- `aws_util.is_policy_valid(policy_arn)`. -/
  isPolicyValid : String → Bool
  /-- `_update_vdi_role(project_name, policies_to_detach, policies_to_attach)`. -/
  updateVdiRole : Option String → List String → List String → Except Exc Unit

variable (ctx : ProjectsContext)

/-- `list(left - right)` for two sets. -/
def ProjectsContext.difference (left right : List String) : List String :=
  ctx.setOrder.list (left.filter fun x => x ∉ right)

@[simp] theorem mem_difference {left right : List String} {x : String} :
    x ∈ ctx.difference left right ↔ x ∈ left ∧ x ∉ right := by
  simp [ProjectsContext.difference, ctx.setOrder.mem_list]

/-- `get_project_by_name(name)`: the id and the row found first. -/
def getProjectByName (name : String) : DbProc (Option (String × ProjectRow)) := do
  requireNotEmpty name "name is required"
  Proc.gets fun db => db.projects.scan.find? fun item => item.2.name = name

/-- The check of a new name of a project. -/
def checkName (projectId : String) (existing : ProjectRow) (name : Option String) : DbProc PUnit :=
  match name with
  | none => pure ⟨⟩
  | some name =>
    Proc.when (isEmpty name = false ∧ existing.name ≠ name) do
      match ← getProjectByName name with
      | none => pure ⟨⟩
      | some sameNameProject =>
        Proc.when (sameNameProject.1 ≠ projectId)
          (Proc.raise (.invalidParams s!"project with name: {name} already exists"))

/-- The check of the budget of a project. -/
def checkBudget (project : Project) : Except Exc Unit :=
  if project.enableBudgets.getD false then
    match project.budgetName with
    | none => .error (.invalidParams "budget.budget_name is required when budgets are enabled")
    | some budgetName =>
      if isEmpty budgetName then
        .error (.invalidParams "budget.budget_name is required when budgets are enabled")
      else ctx.budgetsGetBudget budgetName
  else .ok ()

/-- The checks of the scripts, the security groups and the policies of a project, and the update of its
role when the policies change. -/
def checkLaunchSettings (project : Project) (existing : ProjectRow) : Except Exc Unit :=
  let policyArns := (project.policyArns.getD []).filterMap fun arn => getAsString (some arn)
  let existingPolicies := existing.policyArns.getD []
  let policiesToDetach := ctx.difference existingPolicies policyArns
  let policiesToAttach := ctx.difference policyArns existingPolicies
  if !(project.scripts.getD []).all ctx.isValidScriptLocation then .error (.invalidParams
    "Script location is incorrect. Script must be https://, s3://, or file://")
  else if !(project.securityGroups.getD []).all ctx.isSecurityGroupAvailable then
    .error (.invalidParams "Security group is not valid")
  else if policiesToDetach ≠ [] ∨ policiesToAttach ≠ [] then
    if !policyArns.all ctx.isPolicyValid then .error (.invalidParams "Policy is not valid")
    else ctx.updateVdiRole project.name policiesToDetach policiesToAttach
  else .ok ()

/-- The names added and removed by a requested list; an empty list of the request changes nothing. -/
def requestedDifference (requested existing : Option (List String)) : List String × List String :=
  if requested.getD [] = [] then ([], [])
  else (ctx.difference (requested.getD []) (existing.getD []), ctx.difference (existing.getD []) (requested.getD []))

/-- The row after the attributes of the request that are not `None` are written. -/
def updatedRow (project : Project) (row : ProjectRow) : ProjectRow where
  name := project.name.getD row.name
  ldapGroups := project.ldapGroups.or row.ldapGroups
  users := project.users.or row.users
  enabled := row.enabled
  policyArns := project.policyArns.or row.policyArns

/-- The end of `update_project`: the record is written and the task is sent. -/
def storeAndSend (project : Project) (projectId : String) (groups users : List String × List String) :
    DbProc PUnit := do
  ProjectsDao.updateProject projectId (updatedRow project)
  let updated ← Proc.gets fun db => db.projects.getItem (strip projectId)
  Proc.when (updated.any (fun row => row.enabled.getD false) ∧
      (groups.1 ≠ [] ∨ groups.2 ≠ [] ∨ users.1 ≠ [] ∨ users.2 ≠ []))
    (sendTask ⟨.projectGroupsUpdated (strip projectId) groups.1 groups.2 users.1 users.2, some (strip projectId), none⟩)

/-- `update_project(request)`, for a request with a project. -/
def updateProject (project : Project) : DbProc PUnit := do
  let projectId := project.projectId.getD ""
  requireNotEmpty projectId "project.project_id is required"
  match ← ProjectsDao.getProjectById projectId with
  | none => Proc.raise (.soca .projectNotFound s!"project not found for id: {projectId}")
  | some existing =>
    checkName projectId existing project.name
    Proc.liftExcept (checkBudget ctx project)
    let groups := requestedDifference ctx project.ldapGroups existing.ldapGroups
    Proc.forEach (fun groupName => Accounts.getGroup groupName >>= fun _ => pure ⟨⟩) groups.1
    let users := requestedDifference ctx project.users existing.users
    Proc.forEach (fun username => Accounts.getUser username >>= fun _ => pure ⟨⟩) users.1
    Proc.liftExcept (checkLaunchSettings ctx project existing)
    storeAndSend project projectId groups users

end ContainRes.Projects
