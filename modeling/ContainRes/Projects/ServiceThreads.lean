import ContainRes.Effects.Thread
import ContainRes.Projects.Creation
import ContainRes.Projects.ProjectDeletion

/-! # The projects service access by access

`ProjectsService.create_project`, `update_project` and `delete_project` as threads: each call of a table and
of IAM is an access of its own, in the order of the source.

* **`Iam`** — the roles and instance profiles, with what its operations require (`IamAccess.serve`).
* **`ServiceAccess`** — the accesses of the service; **`ServiceAccess.serve`** is what they do.
* **`createVdiRoleAndInstanceProfile`**, **`updateVdiRole`** — the role of a project, with the rollback of what
  was done when a step fails.
* **`Stepwise.createProject`**, **`Stepwise.updateProject`**, **`Stepwise.deleteProject`** — the methods. -/

namespace ContainRes.Projects

open Accounts Effects Store Tasks Text

/-! ## IAM -/

/-- A role, with the policies that are attached to it. -/
structure Role where
  /-- Its path is that of the VDI roles of the cluster. -/
  hasVdiPath : Bool
  policyArns : List String

/-- The roles, the instance profiles with the roles in them, and the managed policies of the account. -/
structure Iam where
  roles : Table String Role
  instanceProfiles : Table String (Option String)
  policies : List String

/-- The codes with which IAM refuses. -/
inductive IamError
  | noSuchEntity
  | entityAlreadyExists
  | deleteConflict
  | limitExceeded
  deriving DecidableEq, Repr

/-- A call of IAM that changes something. -/
inductive IamAccess
  /-- `create_role`, under the path of the VDI roles. -/
  | createRole (roleName : String)
  | deleteRole (roleName : String)
  | createInstanceProfile (profileName : String)
  | deleteInstanceProfile (profileName : String)
  | addRoleToInstanceProfile (roleName profileName : String)
  | attachRolePolicy (roleName policyArn : String)
  | detachRolePolicy (roleName policyArn : String)

/-- What a call does when what it requires holds. -/
def IamAccess.serve : IamAccess → Iam → Except IamError Unit × Iam
  | .createRole roleName, iam =>
    if iam.roles.Has roleName then (.error .entityAlreadyExists, iam)
    else (.ok ⟨⟩, { iam with roles := iam.roles.putItem roleName ⟨true, []⟩ })
  | .deleteRole roleName, iam =>
    match iam.roles.getItem roleName with
    | none => (.error .noSuchEntity, iam)
    | some role =>
      -- a role with policies or in an instance profile is not deleted
      if role.policyArns ≠ [] ∨ iam.instanceProfiles.scan.any (fun item => item.2 = some roleName) then
        (.error .deleteConflict, iam)
      else (.ok ⟨⟩, { iam with roles := iam.roles.deleteItem roleName })
  | .createInstanceProfile profileName, iam =>
    if iam.instanceProfiles.Has profileName then (.error .entityAlreadyExists, iam)
    else (.ok ⟨⟩, { iam with instanceProfiles := iam.instanceProfiles.putItem profileName none })
  | .deleteInstanceProfile profileName, iam =>
    match iam.instanceProfiles.getItem profileName with
    | none => (.error .noSuchEntity, iam)
    | some (some _) => (.error .deleteConflict, iam)
    | some none => (.ok ⟨⟩, { iam with instanceProfiles := iam.instanceProfiles.deleteItem profileName })
  | .addRoleToInstanceProfile roleName profileName, iam =>
    if ¬ iam.roles.Has roleName then (.error .noSuchEntity, iam)
    else
      match iam.instanceProfiles.getItem profileName with
      | none => (.error .noSuchEntity, iam)
      | some (some _) => (.error .limitExceeded, iam)
      | some none =>
        (.ok ⟨⟩, { iam with
          instanceProfiles := iam.instanceProfiles.putItem profileName (some roleName) })
  | .attachRolePolicy roleName policyArn, iam =>
    match iam.roles.getItem roleName with
    | none => (.error .noSuchEntity, iam)
    | some role =>
      if policyArn ∉ iam.policies then (.error .noSuchEntity, iam)
      else
        (.ok ⟨⟩, { iam with
          roles := iam.roles.putItem roleName
            { role with policyArns := if policyArn ∈ role.policyArns then role.policyArns
                                      else role.policyArns ++ [policyArn] } })
  | .detachRolePolicy roleName policyArn, iam =>
    match iam.roles.getItem roleName with
    | none => (.error .noSuchEntity, iam)
    | some role =>
      if policyArn ∉ role.policyArns then (.error .noSuchEntity, iam)
      else
        (.ok ⟨⟩, { iam with
          roles := iam.roles.putItem roleName
            { role with policyArns := role.policyArns.filter (· ≠ policyArn) } })

/-! ## The accesses of the service -/

/-- The tables and IAM, and the project ids that were ever given out. -/
structure ServiceWorld where
  db : Db
  iam : Iam
  issued : List String

/-- A single access of the service. -/
inductive ServiceAccess
  /-- The query of the index of the names. -/
  | findByName (name : String)
  | getProject (projectId : String)
  /-- `put_item` under a new id. -/
  | putProject (row : ProjectRow)
  /-- `update_item` of the attributes of a request, with the condition that the project exists. -/
  | updateProject (projectId : String) (project : Project)
  | setEnabled (projectId : String) (enabled : Bool)
  | deleteProject (projectId : String)
  | getGroup (groupName : String)
  | getUser (username : String)
  /-- `UserProjectsDAO.delete_project`, on the tables of the mappings. -/
  | deleteUserProjects (paginator : Paginator (String × String)) (projectId : String)
  | sendTask (message : TaskMessage)
  /-- `get_role`, which finds no role or answers it. -/
  | getRole (roleName : String)
  | iam (call : IamAccess)

/-- The answer to an access. -/
abbrev ServiceAccess.Answer : ServiceAccess → Type
  | .findByName _ => Option (String × ProjectRow)
  | .getProject _ => Option ProjectRow
  | .putProject _ => String
  -- the new row, if the condition held
  | .updateProject _ _ => Option ProjectRow
  | .setEnabled _ _ => Option ProjectRow
  | .getGroup _ => Option GroupRow
  | .getUser _ => Option UserRow
  | .deleteUserProjects _ _ => Except Exc PUnit
  | .getRole _ => Option Role
  | .iam _ => Except IamError Unit
  | _ => PUnit

/-- What an access does. -/
def ServiceAccess.serve (ids : IdSource) : (op : ServiceAccess) → ServiceWorld → op.Answer × ServiceWorld
  | .findByName name, w => (w.db.projects.scan.find? fun item => item.2.name = name, w)
  | .getProject projectId, w => (w.db.projects.getItem projectId, w)
  | .putProject row, w =>
    (ids.next w.issued, { w with
      db := { w.db with projects := w.db.projects.putItem (ids.next w.issued) row }
      issued := ids.next w.issued :: w.issued })
  -- without the project, nothing changes
  | .updateProject projectId project, w =>
    ((w.db.projects.getItem projectId).map (updatedRow project), { w with
      db := { w.db with projects := w.db.projects.updateItem projectId (updatedRow project) } })
  | .setEnabled projectId enabled, w =>
    ((w.db.projects.getItem projectId).map fun row => { row with enabled := some enabled }, { w with
      db := { w.db with
        projects := w.db.projects.updateItem projectId fun row => { row with enabled := some enabled } } })
  | .deleteProject projectId, w =>
    (⟨⟩, { w with db := { w.db with projects := w.db.projects.deleteItem projectId } })
  | .getGroup groupName, w => (w.db.groups.getItem groupName, w)
  | .getUser username, w => (w.db.users.getItem username, w)
  | .deleteUserProjects paginator projectId, w =>
    (((Projects.deleteUserProjects paginator projectId).run w.db).1,
      { w with db := ((Projects.deleteUserProjects paginator projectId).run w.db).2 })
  | .sendTask message, w => (⟨⟩, { w with db := { w.db with sent := w.db.sent ++ [message] } })
  | .getRole roleName, w => (w.iam.roles.getItem roleName, w)
  | .iam call, w => ((call.serve w.iam).1, { w with iam := (call.serve w.iam).2 })

/-- A thread of the service. -/
abbrev ServiceThread (ε α : Type) : Type := Thread ServiceAccess ServiceAccess.Answer ε α

namespace Stepwise

/-- Make an access. -/
abbrev perform {ε : Type} (op : ServiceAccess) : ServiceThread ε op.Answer := Thread.perform op

/-! ## The role of a project -/

/-- The name of the cluster, and `dcv_host_required_policy_arns`. -/
structure RoleSettings where
  clusterName : String
  requiredPolicyArns : List String

def getVdiRoleName (settings : RoleSettings) (projectName : Option String) : String :=
  settings.clusterName ++ "-vdi-" ++ projectName.getD "None"

/-- An error of the AWS client. -/
def clientError (error : IamError) : Exc :=
  .other .clientError (match error with
    | .noSuchEntity => "NoSuchEntity"
    | .entityAlreadyExists => "EntityAlreadyExists"
    | .deleteConflict => "DeleteConflict"
    | .limitExceeded => "LimitExceeded")

/-- What was done before a step of `_create_vdi_role_and_instance_profile` failed. -/
structure RoleProgress where
  isVdiRoleCreated : Bool := false
  isVdiInstanceProfileCreated : Bool := false
  policiesAdded : List String := []

/-- Make a call of IAM, or fail with what was done before. -/
def requireIam (call : IamAccess) (progress : RoleProgress) : ServiceThread RoleProgress PUnit := do
  match ← perform (.iam call) with
  | .ok _ => pure ⟨⟩
  | .error _ => Thread.raise progress

/-- The loop over the policies that are attached. -/
def attachPolicies (roleName : String) :
    List String → RoleProgress → ServiceThread RoleProgress RoleProgress
  | [], progress => pure progress
  | policyArn :: rest, progress => do
    requireIam (.attachRolePolicy roleName policyArn) progress
    attachPolicies roleName rest { progress with policiesAdded := progress.policiesAdded ++ [policyArn] }

/-- The body of the `try` of `_create_vdi_role_and_instance_profile`. -/
def createRoleAndProfile (settings : RoleSettings) (roleName : String) (policyArns : List String) :
    ServiceThread RoleProgress PUnit := do
  requireIam (.createRole roleName) {}
  requireIam (.createInstanceProfile roleName) { isVdiRoleCreated := true }
  let progress ← attachPolicies roleName policyArns
    { isVdiRoleCreated := true, isVdiInstanceProfileCreated := true }
  let _ ← attachPolicies roleName settings.requiredPolicyArns progress
  -- `add_role_to_instance_profile` answers whether it worked, and the answer is not looked at
  let _ ← perform (.iam (.addRoleToInstanceProfile roleName roleName))
  pure ⟨⟩

/-- A call of IAM of a rollback: what is not there need not be deleted. -/
def undoIam (call : IamAccess) : ServiceThread Exc PUnit := do
  match ← perform (.iam call) with
  | .ok _ => pure ⟨⟩
  | .error error => if error = .noSuchEntity then pure ⟨⟩ else Thread.raise (clientError error)

/-- The handler of `_create_vdi_role_and_instance_profile`. -/
def rollBackRole (roleName : String) (progress : RoleProgress) : ServiceThread Exc PUnit := do
  Thread.forEach (fun policyArn => undoIam (.detachRolePolicy roleName policyArn)) progress.policiesAdded
  Thread.when (progress.isVdiRoleCreated = true) (undoIam (.deleteRole roleName))
  Thread.when (progress.isVdiInstanceProfileCreated = true) (undoIam (.deleteInstanceProfile roleName))
  Thread.raise (generalException "Could not create role with given policies")

def createVdiRoleAndInstanceProfile (settings : RoleSettings) (projectName : Option String)
    (policyArns : List String) : ServiceThread Exc PUnit :=
  Thread.tryCatch (rollBackRole (getVdiRoleName settings projectName))
    (createRoleAndProfile settings (getVdiRoleName settings projectName) policyArns)

/-- What was done before a step of `_update_vdi_role` failed. -/
structure PolicyProgress where
  policiesAdded : List String := []
  policiesRemoved : List String := []

/-- The loop over the policies that are detached; a policy that is not attached is no error. -/
def detachRemoved (roleName : String) :
    List String → PolicyProgress → ServiceThread PolicyProgress PolicyProgress
  | [], progress => pure progress
  | policyArn :: rest, progress => do
    match ← perform (.iam (.detachRolePolicy roleName policyArn)) with
    | .ok _ =>
      detachRemoved roleName rest
        { progress with policiesRemoved := progress.policiesRemoved ++ [policyArn] }
    | .error error =>
      if error = .noSuchEntity then
        detachRemoved roleName rest
          { progress with policiesRemoved := progress.policiesRemoved ++ [policyArn] }
      else Thread.raise progress

/-- The loop over the policies that are attached. -/
def attachAdded (roleName : String) :
    List String → PolicyProgress → ServiceThread PolicyProgress PolicyProgress
  | [], progress => pure progress
  | policyArn :: rest, progress => do
    match ← perform (.iam (.attachRolePolicy roleName policyArn)) with
    | .ok _ =>
      attachAdded roleName rest { progress with policiesAdded := progress.policiesAdded ++ [policyArn] }
    | .error _ => Thread.raise progress

/-- A policy that was removed is attached again. -/
def attachAgain (roleName policyArn : String) : ServiceThread Exc PUnit := do
  match ← perform (.iam (.attachRolePolicy roleName policyArn)) with
  | .ok _ => pure ⟨⟩
  | .error error =>
    if error = .noSuchEntity then Thread.raise (.invalidParams "Policy arn provided does not exist")
    else Thread.raise (clientError error)

/-- The handler of `_update_vdi_role`. -/
def rollBackPolicies (roleName : String) (progress : PolicyProgress) : ServiceThread Exc PUnit := do
  Thread.forEach (fun policyArn => undoIam (.detachRolePolicy roleName policyArn)) progress.policiesAdded
  Thread.forEach (attachAgain roleName) progress.policiesRemoved
  Thread.raise (generalException "Could not update role with given policies")

/-- The body of the `try` of `_update_vdi_role`. -/
def changePolicies (roleName : String) (policiesToDetach policiesToAttach : List String) :
    ServiceThread PolicyProgress PUnit := do
  let progress ← detachRemoved roleName policiesToDetach {}
  let _ ← attachAdded roleName policiesToAttach progress
  pure ⟨⟩

def updateVdiRole (settings : RoleSettings) (projectName : Option String)
    (policiesToDetach policiesToAttach : List String) : ServiceThread Exc PUnit := do
  let role ← perform (.getRole (getVdiRoleName settings projectName))
  if role.any Role.hasVdiPath then
    Thread.tryCatch (rollBackPolicies (getVdiRoleName settings projectName))
      (changePolicies (getVdiRoleName settings projectName) policiesToDetach policiesToAttach)
  else createVdiRoleAndInstanceProfile settings projectName policiesToAttach

/-! ## The methods -/

/-- Raise `invalid_params(message)` on a blank argument. -/
def requireText (value message : String) : ServiceThread Exc PUnit :=
  if isEmpty value then Thread.raise (.invalidParams message) else pure ⟨⟩

def getProjectByName (name : String) : ServiceThread Exc (Option (String × ProjectRow)) := do
  requireText name "name is required"
  perform (.findByName name)

def getProjectById (projectId : String) : ServiceThread Exc (Option ProjectRow) := do
  requireText projectId "project_id is required"
  perform (.getProject projectId)

/-- `enable_project` for a project id. -/
def enableProject (shortUuid projectId : String) : ServiceThread Exc PUnit := do
  match ← getProjectById projectId with
  | none => Thread.raise (.soca .projectNotFound "project not found")
  | some _ =>
    match ← perform (.setEnabled projectId true) with
    | none => Thread.raise conditionalCheckFailed
    | some _ => perform (.sendTask ⟨.projectEnabled projectId, some projectId, some shortUuid⟩)

variable (settings : RoleSettings)

/-- The policies of a request that are not blank. -/
def requestedPolicies (project : Project) : List String :=
  (project.policyArns.getD []).filterMap fun arn => getAsString (some arn)

def createProject (ctx : CreationContext) (project : Project) : ServiceThread Exc String := do
  let name := project.name.getD ""
  requireText name "project.name is required"
  let existing ← getProjectByName name
  Thread.when (existing.isSome = true)
    (Thread.raise (.invalidParams s!"project with name: {name} already exists"))
  -- all checks come before the creation of the role
  Thread.liftExcept (checkNewProject { ctx with createVdiRole := fun _ _ => .ok () } name project)
  Thread.when (requestedPolicies project ≠ [])
    (createVdiRoleAndInstanceProfile settings (some name) (ctx.setOrder.list (requestedPolicies project)))
  let projectId ← perform (.putProject (newRow name project))
  enableProject ctx.shortUuid projectId
  match ← getProjectById projectId with
  | none => Thread.raise (.soca .projectNotFound s!"project not found for project id: {projectId}")
  | some _ => pure projectId

/-- The check of a new name of a project. -/
def checkName (projectId : String) (existing : ProjectRow) : Option String → ServiceThread Exc PUnit
  | none => pure ⟨⟩
  | some name =>
    Thread.when (isEmpty name = false ∧ existing.name ≠ name) do
      match ← getProjectByName name with
      | none => pure ⟨⟩
      | some sameNameProject =>
        Thread.when (sameNameProject.1 ≠ projectId)
          (Thread.raise (.invalidParams s!"project with name: {name} already exists"))

/-- `AccountsService.get_group(group_name)`. -/
def requireGroup (groupName : String) : ServiceThread Exc PUnit := do
  requireText groupName "group_name is required"
  match ← perform (.getGroup groupName) with
  | none => Thread.raise (.soca .authGroupNotFound s!"Group not found: {groupName}")
  | some _ => pure ⟨⟩

/-- `AccountsService.get_user(username)`. -/
def requireUser (username : String) : ServiceThread Exc PUnit := do
  let username ← Thread.liftExcept (sanitizeUsername (some username))
  match ← perform (.getUser username) with
  | none => Thread.raise (.soca .authUserNotFound s!"User not found: {username}")
  | some _ => pure ⟨⟩

/-- The end of `update_project`: the record is written and the task is sent. -/
def storeAndSend (project : Project) (projectId : String) (groups users : List String × List String) :
    ServiceThread Exc PUnit := do
  match ← perform (.updateProject (strip projectId) project) with
  | none => Thread.raise conditionalCheckFailed
  | some updated =>
    Thread.when (updated.enabled.getD false = true ∧ (groups.1 ≠ [] ∨ groups.2 ≠ [] ∨ users.1 ≠ [] ∨ users.2 ≠ []))
      (perform (.sendTask ⟨.projectGroupsUpdated (strip projectId) groups.1 groups.2 users.1 users.2,
        some (strip projectId), none⟩))

def updateProject (ctx : ProjectsContext) (project : Project) : ServiceThread Exc PUnit := do
  let projectId := project.projectId.getD ""
  requireText projectId "project.project_id is required"
  match ← getProjectById projectId with
  | none => Thread.raise (.soca .projectNotFound s!"project not found for id: {projectId}")
  | some existing =>
    checkName projectId existing project.name
    Thread.liftExcept (checkBudget ctx project)
    let groups := requestedDifference ctx project.ldapGroups existing.ldapGroups
    Thread.forEach requireGroup groups.1
    let users := requestedDifference ctx project.users existing.users
    Thread.forEach requireUser users.1
    Thread.liftExcept (checkLaunchSettings { ctx with updateVdiRole := fun _ _ _ => .ok () } project existing)
    let policiesToDetach := ctx.difference (existing.policyArns.getD []) (requestedPolicies project)
    let policiesToAttach := ctx.difference (requestedPolicies project) (existing.policyArns.getD [])
    Thread.when (policiesToDetach ≠ [] ∨ policiesToAttach ≠ [])
      (updateVdiRole settings project.name policiesToDetach policiesToAttach)
    storeAndSend project projectId groups users

/-- The project of a request: by its id if there is one, and else by its name. -/
def findProject (request : DeleteProjectRequest) : ServiceThread Exc (Option (String × ProjectRow)) :=
  match request.projectId with
  | some projectId =>
    if projectId = "" then getProjectByName (request.projectName.getD "")
    else do
      let row ← getProjectById projectId
      return row.map fun row => (projectId, row)
  | none => getProjectByName (request.projectName.getD "")

/-- The answer of another service about what uses a project. -/
def checkUnused {α : Type} (listing : Except Exc (List α)) (message : List α → String) :
    ServiceThread Exc PUnit := do
  let uses ← Thread.liftExcept listing
  Thread.when (uses ≠ []) (Thread.raise (generalException (message uses)))

variable (paginator : Paginator (String × String)) (texts : ListingTexts)

/-- `delete_project`, for the id of the project that was found. -/
def deleteFound (w : ProjectsWorld) (projectId : Option String) : ServiceThread Exc PUnit := do
  checkUnused (listSessionsByProjectId texts w.sessions projectId) fun uses =>
    "project is still used by virtual desktop sessions. Project ID: " ++ projectId.getD "None" ++
      ", Session IDs: " ++ listText (uses.map fun row => row.dcvSessionId)
  checkUnused (listSoftwareStacksByProjectId texts w.softwareStacks projectId) fun uses =>
    "project is still used by software stacks. Project ID: " ++ projectId.getD "None" ++
      ", Stack IDs: " ++ listText (uses.map fun row => row.stackId)
  let removed ← perform (.deleteUserProjects paginator (projectId.getD ""))
  Thread.liftExcept removed
  requireText (projectId.getD "") "project_id is required"
  perform (.deleteProject (projectId.getD ""))

/-- `delete_project(request)`, with the tables of the other service as they are. -/
def deleteProject (w : ProjectsWorld) : Option DeleteProjectRequest → ServiceThread Exc PUnit
  | none => Thread.raise (.invalidParams "request is required")
  | some request =>
    if isEmptyOpt request.projectId && isEmptyOpt request.projectName then
      Thread.raise (.invalidParams "either project id or project name is required")
    else do
      match ← findProject request with
      | none => pure ⟨⟩
      | some project => deleteFound paginator texts w (getAsString (some project.1))

end Stepwise

end ContainRes.Projects
