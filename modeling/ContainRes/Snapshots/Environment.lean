import ContainRes.Projects.Service
import ContainRes.Snapshots.Records
import ContainRes.VirtualDesktop.ProfileReferences

/-! # The environment that a snapshot is applied to

The tables of an environment, and the requests that the mergers send to the services that own them: to the
accounts, to the projects, and to the controller of virtual desktops for permission profiles and software
stacks.

* **`Environment`**, **`Services`** — the tables, and what the services have from elsewhere.
* **`answered`** — a request that may fail before it has an effect; what it fails with is none of the
  answers that the mergers read.
* **`getProjectByName`**, **`createProject`**, **`updateProject`** — projects.
* **`getPermissionProfile`**, **`createPermissionProfile`** — profiles.
* **`addAdminUser`**, **`removeAdminUser`** — the roles of users. -/

namespace ContainRes.Snapshots

open Accounts (UserRow GroupRow sanitized sanitizeUsername UserDao.convertFromDb)
open Effects Effects.Proc Store Tasks Text
open Projects (ProjectsContext requestedDifference)
open VirtualDesktop VirtualDesktop.PermissionProfiles
open VirtualDesktop.SoftwareStacks

/-- The tables of an environment, and the messages handed to the task manager. -/
structure Environment where
  users : Table String UserRow
  groups : Table String GroupRow
  projects : Table String ProjectRow
  permissionProfiles : Table String ProfileRow
  softwareStacks : Stacks
  sharedStorage : SharedStorage
  /-- Oldest first. -/
  sent : List TaskMessage

/-- A procedure on the environment. -/
abbrev EnvProc (α : Type) : Type := Proc Environment Exc α

/-- The requests of the mergers. -/
inductive Call
  | getUser (username : String)
  | setRole (username : String)
  | getBasePermissions
  | getPermissionProfile (profileId : String)
  | createPermissionProfile (profileId : String)
  | getProject (name : String)
  | createProject (name : String)
  | updateProject (projectId : String)
  | sendGroupsUpdated (projectId : String)
  | getSoftwareStacksByName (name : String)
  | createSoftwareStack (name : String)
  | listFileSystems
  | listProjects
  | getFileSystem (name : String)
  | onboardFileSystem (name : String)
  | addFileSystemToProject (name project : String)
  deriving DecidableEq, Repr

/-- The error codes that the mergers read as answers. -/
def answerCodes : List ErrorCode :=
  [.authUserNotFound, .projectNotFound, .invalidParams, .filesystemNotFound, .noSharedFilesystemFound,
    .filesystemAlreadyOnboarded, .filesystemNotInVpc]

/-- An exception that is no answer. -/
structure Fault where
  exc : Exc
  not_answer : ∀ code, exc.errorCode = some code → code ∉ answerCodes

/-- What the services have from elsewhere. -/
structure Services where
  /-- What a request fails with, if it fails. -/
  fault : Environment → Call → Option Fault
  ctx : ProjectsContext
  /-- `_create_vdi_role_and_instance_profile(project_name, policy_arns)`. -/
  createVdiRole : String → List String → Except Exc Unit
  /-- The lookup of a group when a project is created. -/
  getLdapGroup : String → Except Exc Unit
  types : PermissionTypes
  numbers : NumberText
  ids : IdSource
  /-- The id of a message that is not sent twice. -/
  shortUuid : String
  stackPaginator : Paginator SoftwareStackDict
  projectPaginator : Paginator (String × ProjectRow)
  describeImageId : String → Option Image
  /-- `cluster.administrator_username`. -/
  administratorUsername : String
  /-- The file systems in the VPC, without the internal ones. -/
  fileSystemsInVpc : List String
  /-- What is described of a file system of a provider before it is onboarded. -/
  describeFileSystem : String → String → Except Exc Unit
  now : Int

variable (services : Services)

/-- A request: it fails without an effect, or is answered. -/
def answered {α : Type} (call : Call) (c : EnvProc α) : EnvProc α := do
  let fault ← Proc.gets fun env => services.fault env call
  match fault with
  | some fault => Proc.raise fault.exc
  | none => c

variable {services} {call : Call} {α : Type} {c : EnvProc α}

theorem run_answered_of_fault {env : Environment} {fault : Fault}
    (h : services.fault env call = some fault) : (answered services call c).run env = (.error fault.exc, env) := by
  unfold answered
  rw [run_bind_of_ok (run_gets _ _), h]
  rfl

theorem run_answered_of_none {env : Environment}
    (h : services.fault env call = none) : (answered services call c).run env = c.run env := by
  unfold answered
  rw [run_bind_of_ok (run_gets _ _), h]

/-- A request does what it does when it is answered, or fails without an effect. -/
theorem run_answered_cases {env env' : Environment}
    {r : Except Exc α} (h : (answered services call c).run env = (r, env')) :
    c.run env = (r, env') ∨ ∃ fault : Fault, r = .error fault.exc ∧ env' = env := by
  cases hfault : services.fault env call with
  | none =>
    rw [run_answered_of_none hfault] at h
    exact .inl h
  | some fault =>
    rw [run_answered_of_fault hfault] at h
    cases h
    exact .inr ⟨fault, rfl, rfl⟩

theorem run_of_answered {env env' : Environment} {a : α}
    (h : (answered services call c).run env = (.ok a, env')) : c.run env = (.ok a, env') := by
  rcases run_answered_cases h with h | ⟨fault, hr, -⟩
  · exact h
  · cases hr

/-- A request does what it does when it is answered, where its failure without an effect is allowed. -/
theorem triple_answered {P : Environment → Prop} {Q : α → Environment → Prop}
    {E : Exc → Environment → Prop} (hc : Triple P c Q E)
    (hfault : ∀ e env, P env → E e env) : Triple P (answered services call c) Q E := by
  refine Triple.intro (fun env a env' henv h => hc.of_ok henv (run_of_answered h)) fun env e env' henv h => ?_
  rcases run_answered_cases h with h | ⟨fault, -, rfl⟩
  · exact hc.of_error henv h
  · exact hfault e env' henv

theorem keeps_answered {I : Environment → Prop} (hc : Keeps I c) : Keeps I (answered services call c) :=
  triple_answered hc fun _ _ henv => henv

theorem reads_answered (hc : Reads c) : Reads (answered services call c) := by
  intro env
  rcases hrun : (answered services call c).run env with ⟨r, env'⟩
  rcases run_answered_cases hrun with h | ⟨fault, -, rfl⟩
  · exact hc.eq_of_run h
  · rfl

variable (services)

/-! ## Users and groups -/

/-- `get_user(username)` of the accounts. -/
def getUser (username : Option String) : EnvProc User := do
  let username ← Proc.liftExcept (sanitizeUsername username)
  answered services (.getUser username) do
    match ← Proc.gets fun env => env.users.getItem username with
    | none => Proc.raise (.soca .authUserNotFound ("User not found: " ++ username))
    | some user => pure (UserDao.convertFromDb username user)

/-- `get_group(group_name)` of the accounts. -/
def getGroup (groupName : String) : EnvProc PUnit :=
  if isEmpty groupName then Proc.raise (.invalidParams "group_name is required")
  else do
    let group ← Proc.gets fun env : Environment => env.groups.getItem groupName
    Proc.when (group.isNone = true) (Proc.raise (.soca .authGroupNotFound ("Group not found: " ++ groupName)))

/-- The end of `add_admin_user` and `remove_admin_user`: the role of a user that is there is set, if it is
another one. -/
def setRole (username role : String) (isSudo : Bool) : EnvProc PUnit := do
  match ← Proc.gets fun env => env.users.getItem (sanitized username) with
  | none => Proc.raise (.soca .authUserNotFound ("User not found: " ++ username))
  | some user =>
    Proc.when (user.role ≠ role) (Proc.modify fun env => { env with
      users := env.users.updateItem (sanitized username) fun user =>
        { user with role := role, isSudo := isSudo } })

def addAdminUser (username : String) : EnvProc PUnit :=
  if isEmpty username then Proc.raise (.invalidParams "username is required")
  else answered services (.setRole username) (setRole username adminRole true)

def removeAdminUser (username : String) : EnvProc PUnit :=
  if isEmpty username then Proc.raise (.invalidParams "username is required")
  else if username = services.administratorUsername then
    Proc.raise (.invalidOperation
      ("Admin rights cannot be revoked from RES Environment Administrator: " ++ username ++ "."))
  else answered services (.setRole username) (setRole username userRole false)

/-! ## Projects -/

/-- The row that the name index gives first. -/
def findProject (name : String) (projects : Table String ProjectRow) : Option (String × ProjectRow) :=
  projects.scan.find? fun item => item.2.name = some name

/-- `get_project` by a name. -/
def getProjectByName (name : String) : EnvProc Project :=
  if isEmpty name then Proc.raise (.invalidParams "Either project_id or project_name is required")
  else answered services (.getProject name) do
    match ← Proc.gets fun env => findProject name env.projects with
    | none => Proc.raise (.soca .projectNotFound ("project not found for project name: " ++ name))
    | some (projectId, row) => pure (convertFromDb projectId row)

/-- The check of the budget of a project. -/
def checkBudget (project : Project) : Except Exc Unit :=
  if project.enableBudgets.getD false then
    if isEmptyOpt project.budget then
      .error (.invalidParams "budget.budget_name is required when budgets are enabled")
    else services.ctx.budgetsGetBudget (project.budget.getD "")
  else .ok ()

/-- The scripts of a project, as `validate_scripts` runs through them. -/
def allScripts (scripts : Scripts) : List Script :=
  (scripts.linux.toList ++ scripts.windows.toList).flatMap fun events =>
    events.onVdiStart ++ events.onVdiConfigured

/-- The policies of a project. -/
def policiesOf (project : Project) : List String :=
  project.policyArns.filterMap fun arn => getAsString (some arn)

/-- The checks of the scripts and the security groups of a project. -/
def checkLaunchSettings (project : Project) : Except Exc Unit :=
  if !(allScripts project.scripts).all fun script =>
      services.ctx.isValidScriptLocation script.scriptLocation then .error (.invalidParams
    "Script location is incorrect. Script must be https://, s3://, or file://")
  else if !project.securityGroups.all services.ctx.isSecurityGroupAvailable then
    .error (.invalidParams "Security group is not valid")
  else .ok ()

/-- The checks of `create_project` after the one of the name. -/
def checkNewProject (name : String) (project : Project) : Except Exc Unit := do
  project.ldapGroups.forM services.getLdapGroup
  checkBudget services project
  checkLaunchSettings services project
  if policiesOf project = [] then return ()
  else if !(policiesOf project).all services.ctx.isPolicyValid then
    throw (.invalidParams "Policy is not valid")
  else services.createVdiRole name (policiesOf project)

/-- The id of the next project. -/
def nextProjectId (projects : Table String ProjectRow) : String :=
  services.ids.next (projects.scan.map Prod.fst)

/-- The end of `create_project`: the row is put under a new id, `enable_project` sets `enabled` and sends
its message, and the project is read again. -/
def storeProject (project : Project) : EnvProc Project := do
  let projectId ← Proc.gets fun env => nextProjectId services env.projects
  let row := { convertToDb project with enabled := some true }
  Proc.modify fun env => { env with
    projects := env.projects.putItem projectId row
    sent := env.sent ++ [⟨.projectEnabled projectId, some projectId, some services.shortUuid⟩] }
  return convertFromDb projectId row

/-- `create_project(request)`, for a request with a project. -/
def createProject (project : Project) : EnvProc Project :=
  if isEmptyOpt project.name then Proc.raise (.invalidParams "project.name is required")
  else do
    let name := project.name.getD ""
    answered services (.createProject name) do
      let existing ← Proc.gets fun env => findProject name env.projects
      Proc.when (existing.isSome = true)
        (Proc.raise (.invalidParams ("project with name: " ++ name ++ " already exists")))
      Proc.liftExcept (checkNewProject services name project)
      storeProject services project

/-- The check of a new name in `update_project`. -/
def checkNewName (projectId : String) (existing : ProjectRow) (name : Option String) : EnvProc PUnit :=
  Proc.when (isEmptyOpt name = false ∧ existing.name ≠ name) do
    let found ← Proc.gets fun env => findProject (name.getD "") env.projects
    Proc.when (found.any (fun item => item.1 ≠ projectId) = true)
      (Proc.raise (.invalidParams ("project with name: " ++ name.getD "" ++ " already exists")))

/-- The change of the policies of a project in `update_project`. -/
def checkPolicies (project : Project) (existing : ProjectRow) : Except Exc Unit :=
  let policies := policiesOf project
  let existingPolicies := existing.policyArns.getD []
  let toDetach := services.ctx.difference existingPolicies policies
  let toAttach := services.ctx.difference policies existingPolicies
  if toDetach = [] ∧ toAttach = [] then .ok ()
  else if !policies.all services.ctx.isPolicyValid then .error (.invalidParams "Policy is not valid")
  else services.ctx.updateVdiRole project.name toDetach toAttach

/-- The end of `update_project`: the row is written, and the message with the difference is sent. -/
def writeProject (project : Project) (projectId : String) (groups users : List String × List String) :
    EnvProc Project := do
  Proc.modify fun env => { env with projects := env.projects.updateItem projectId (writtenOver project) }
  let row ← Proc.gets fun env => env.projects.getItem projectId
  let updated := convertFromDb projectId (row.getD {})
  Proc.when (updated.enabled.getD false = true ∧ (groups.1 ≠ [] ∨ groups.2 ≠ [] ∨ users.1 ≠ [] ∨ users.2 ≠ []))
    (answered services (.sendGroupsUpdated projectId) (Proc.modify fun env => { env with
      sent := env.sent ++ [⟨.projectGroupsUpdated projectId groups.1 groups.2 users.1 users.2,
        some projectId, none⟩] }))
  return updated

/-- `update_project(request)`, for a request with a project. -/
def updateProject (project : Project) : EnvProc Project :=
  if isEmptyOpt project.projectId then Proc.raise (.invalidParams "project.project_id is required")
  else do
    let projectId := project.projectId.getD ""
    answered services (.updateProject projectId) do
      match ← Proc.gets fun env => env.projects.getItem projectId with
      | none => Proc.raise (.soca .projectNotFound ("project not found for id: " ++ projectId))
      | some existing =>
        checkNewName projectId existing project.name
        Proc.liftExcept (checkBudget services project)
        let groups := requestedDifference services.ctx (some project.ldapGroups) existing.ldapGroups
        Proc.forEach getGroup groups.1
        let users := requestedDifference services.ctx (some project.users) existing.users
        Proc.forEach (fun username => getUser services (some username) >>= fun _ => pure ⟨⟩) users.1
        Proc.liftExcept (checkLaunchSettings services project)
        Proc.liftExcept (checkPolicies services project existing)
        writeProject services project projectId groups users

/-! ## Permission profiles -/

/-- `get_permission_profile(profile_id)` of the client of the controller. -/
def getPermissionProfile (profileId : String) : EnvProc PermissionProfile :=
  if isEmpty profileId then Proc.raise (requestFailed ("Invalid profile_id: " ++ profileId))
  else answered services (.getPermissionProfile profileId) do
    match ← Proc.gets fun env => env.permissionProfiles.getItem profileId with
    | none => Proc.raise (requestFailed ("Invalid profile_id: " ++ profileId))
    | some row =>
      pure (PermissionProfiles.convertDbDictToPermissionProfileObject services.types profileId row.read)

/-- `create_permission_profile(profile)` of the client of the controller: an id that is blank has no
profile, and the store rejects one that is empty. -/
def createPermissionProfile (profile : PermissionProfile) : EnvProc PermissionProfile :=
  let profileId := profile.profileId.getD ""
  answered services (.createPermissionProfile profileId) do
    let existing ← Proc.gets fun env => env.permissionProfiles.getItem profileId
    if isEmpty profileId = false ∧ existing.isSome then
      Proc.raise (requestFailed ("Profile ID: " ++ profileId ++ " is not unique. Use a unique name"))
    else if profileId = "" then Proc.raise (.other .clientError "ValidationException")
    else do
      let row := convertPermissionProfileObjectToDbDict services.types profile
      Proc.modify fun env => { env with
        permissionProfiles := env.permissionProfiles.putItem profileId (ProfileRow.written services.types row) }
      return PermissionProfiles.convertDbDictToPermissionProfileObject services.types profileId row

/-! ## Software stacks -/

/-- `get_software_stacks_by_name(stack_name)` of the client of the controller. -/
def getSoftwareStacksByName (name : String) : EnvProc (List SoftwareStack) :=
  answered services (.getSoftwareStacksByName name) do
    let table ← Proc.gets Environment.softwareStacks
    Proc.liftExcept
      (SoftwareStacks.getSoftwareStacksByName services.numbers services.stackPaginator name table)

/-- `create_software_stack(software_stack)` of the client of the controller. -/
def createSoftwareStack (softwareStack : SoftwareStack) : EnvProc SoftwareStack :=
  answered services (.createSoftwareStack (softwareStack.name.getD ""))
    (Proc.zoom Environment.softwareStacks (fun table env => { env with softwareStacks := table })
      (SoftwareStacks.createSoftwareStack services.numbers services.describeImageId services.ids services.now
        softwareStack))

end ContainRes.Snapshots
