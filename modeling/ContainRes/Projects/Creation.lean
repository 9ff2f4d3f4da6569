import ContainRes.Projects.Service
import ContainRes.Store.Growth

/-! # Creating, enabling and disabling a project

`ProjectsService.create_project`, `enable_project` and `disable_project`: a project is stored under a new
id, and then switched on, which stores the flag and sends a task.

* **`CreationContext`** — what `create_project` asks of other services, and where its ids come from.
* **`switchProject`** — the common part of `enable_project` and `disable_project`.
* **`createProject`** — the method, with the checks of a new project (`checkNewProject`).
* **`run_createProject_cases`** — what a call leaves: nothing, or the row of a new, enabled project. -/

namespace ContainRes.Projects

open Accounts Effects Store Tasks Text

/-! ## The methods -/

/-- What `create_project` asks of other services. -/
structure CreationContext extends ProjectsContext where
  /-- The lookup of a group, in the directory or in the groups table. -/
  getLdapGroup : String → Except Exc Unit
  /-- `_create_vdi_role_and_instance_profile(project_name, policy_arns)`. -/
  createVdiRole : String → List String → Except Exc Unit
  /-- `Utils.uuid()`. -/
  ids : IdSource
  /-- `Utils.short_uuid()`, the id of a message that is not sent twice. -/
  shortUuid : String

/-- The project of a request: by its id if there is one, and else by its name. -/
def requestedProject (projectId projectName : Option String) : DbProc (String × ProjectRow) := do
  Proc.when (isEmptyOpt projectId = true ∧ isEmptyOpt projectName = true)
    (Proc.raise (.invalidParams "Either project_id or project_name is required"))
  let project ←
    if isEmptyOpt projectId = false then do
      let row ← ProjectsDao.getProjectById (projectId.getD "")
      pure (row.map fun row => (projectId.getD "", row))
    else getProjectByName (projectName.getD "")
  match project with
  | none => Proc.raise (.soca .projectNotFound "project not found")
  | some project => pure project

/-- The common part of `enable_project` and `disable_project`. -/
def switchProject (shortUuid : String) (enabled : Bool) (task : String → TaskPayload)
    (projectId projectName : Option String) : DbProc PUnit := do
  let project ← requestedProject projectId projectName
  ProjectsDao.updateProject project.1 fun row => { row with enabled := some enabled }
  sendTask ⟨task project.1, some project.1, some shortUuid⟩

def enableProject (shortUuid : String) (projectId projectName : Option String) : DbProc PUnit :=
  switchProject shortUuid true .projectEnabled projectId projectName

def disableProject (shortUuid : String) (projectId projectName : Option String) : DbProc PUnit :=
  switchProject shortUuid false .projectDisabled projectId projectName

variable (ctx : CreationContext)

/-- The checks of the groups, the budget, the scripts, the security groups and the policies of a new project,
and the creation of its role when it has policies. -/
def checkNewProject (name : String) (project : Project) : Except Exc Unit := do
  match project.ldapGroups with
  | none => throw (.other .typeError "'NoneType' object is not iterable")
  | some groups => groups.forM ctx.getLdapGroup
  checkBudget ctx.toProjectsContext project
  let policyArns := (project.policyArns.getD []).filterMap fun arn => getAsString (some arn)
  if !(project.scripts.getD []).all ctx.isValidScriptLocation then throw (.invalidParams
    "Script location is incorrect. Script must be https://, s3://, or file://")
  else if !(project.securityGroups.getD []).all ctx.isSecurityGroupAvailable then
    throw (.invalidParams "Security group is not valid")
  else if policyArns = [] then return ()
  else if !policyArns.all ctx.isPolicyValid then throw (.invalidParams "Policy is not valid")
  else ctx.createVdiRole name policyArns

/-- The row that `ProjectsDAO.create_project` puts: the flag `enabled` is not written. -/
def newRow (name : String) (project : Project) : ProjectRow where
  name := name
  ldapGroups := project.ldapGroups
  users := project.users
  enabled := none
  policyArns := project.policyArns

/-- The id of the next project. -/
def nextProjectId (projects : Table String ProjectRow) : String := ctx.ids.next (projects.scan.map Prod.fst)

/-- The end of `create_project`: the row is put under a new id, and the project is enabled. -/
def storeNewProject (name : String) (project : Project) : DbProc String := do
  let projectId ← Proc.gets fun db => nextProjectId ctx db.projects
  Proc.modify fun db => { db with projects := db.projects.putItem projectId (newRow name project) }
  enableProject ctx.shortUuid (some projectId) none
  return projectId

/-- `create_project(request)`, for a request with a project; the result is the project of the id. -/
def createProject (project : Project) : DbProc String := do
  let name := project.name.getD ""
  requireNotEmpty name "project.name is required"
  let existing ← getProjectByName name
  Proc.when (existing.isSome = true)
    (Proc.raise (.invalidParams s!"project with name: {name} already exists"))
  Proc.liftExcept (checkNewProject ctx name project)
  storeNewProject ctx name project

/-! ## What the calls leave -/

variable {ctx} {db : Db}

theorem run_getProjectByName {name : String} (h : isEmpty name = false) (db : Db) :
    (getProjectByName name).run db = (.ok (db.projects.scan.find? fun item => item.2.name = name), db) := by
  rw [getProjectByName, Proc.run_bind_of_ok (run_requireNotEmpty_of_not_isEmpty h _ db), Proc.run_gets]

variable (name : String)

theorem reads_getProjectByName : Reads (getProjectByName name) := by
  unfold getProjectByName
  refine Reads.bind ?_ fun _ => Reads.gets _
  unfold requireNotEmpty
  exact Reads.ite (fun _ => Reads.raise _) fun _ => Reads.pure _

theorem reads_requestedProject (projectId projectName : Option String) :
    Reads (requestedProject projectId projectName) := by
  have hid : ∀ p, Reads (ProjectsDao.getProjectById p) := fun p =>
    Reads.bind (Reads.ite (fun _ => Reads.raise _) fun _ => Reads.pure _) fun _ => Reads.gets _
  have hfound : ∀ project : Option (String × ProjectRow), Reads (match project with
      | none => Proc.raise (.soca .projectNotFound "project not found")
      | some project => pure project : DbProc (String × ProjectRow)) := fun project => by
    rcases project with _ | project
    · exact Reads.raise _
    · exact Reads.pure _
  refine Reads.bind (Reads.whenRaise _) fun _ => Reads.ite (fun _ => ?_) fun _ => ?_
  · exact Reads.bind (hid _) fun row => Reads.bind (Reads.pure _) hfound
  · exact Reads.bind (reads_getProjectByName _) hfound

variable (ctx) in
/-- The id of the next project is not in use, and is no blank text. -/
theorem nextProjectId_spec (projects : Table String ProjectRow) :
    ¬ projects.Has (nextProjectId ctx projects) ∧ isEmpty (nextProjectId ctx projects) = false ∧
      strip (nextProjectId ctx projects) = nextProjectId ctx projects := by
  refine ⟨fun hhas => ?_, ctx.ids.isEmpty_next _, ctx.ids.strip_next _⟩
  obtain ⟨row, hrow⟩ := Table.has_iff.mp hhas
  have hmem : nextProjectId ctx projects ∈ projects.scan.map Prod.fst :=
    List.mem_map.mpr ⟨(_, row), Table.mem_scan.mpr hrow, rfl⟩
  exact ctx.ids.next_not_mem _ hmem

/-- The database after a project is switched. -/
def switched (db : Db) (p : String) (enabled : Bool) (task : String → TaskPayload) (shortUuid : String) : Db :=
  { db with
    projects := db.projects.updateItem p fun row => { row with enabled := some enabled }
    sent := db.sent ++ [⟨task p, some p, some shortUuid⟩] }

/-- The switch of the project of a request. -/
theorem run_switchProject_of_requested {p : String} {row : ProjectRow} {projectId projectName : Option String}
    (hfound : (requestedProject projectId projectName).run db = (.ok (p, row), db)) (hp : isEmpty p = false)
    (hstrip : strip p = p) (hhas : db.projects.Has p) (shortUuid : String) (enabled : Bool)
    (task : String → TaskPayload) : (switchProject shortUuid enabled task projectId projectName).run db =
      (.ok ⟨⟩, switched db p enabled task shortUuid) := by
  obtain ⟨row', hrow⟩ := Table.has_iff.mp hhas
  have hupdate : (ProjectsDao.updateProject p fun row => { row with enabled := some enabled }).run db =
      (.ok ⟨⟩, { db with
        projects := db.projects.updateItem p fun row => { row with enabled := some enabled } }) := by
    simp [ProjectsDao.updateProject, Proc.run_bind, hp, hstrip, hrow]
  rw [switchProject, Proc.run_bind_of_ok hfound, Proc.run_bind_of_ok hupdate]
  rfl

/-- The switch of a project that is named by its id. -/
theorem run_switchProject {p : String} (hp : isEmpty p = false) (hstrip : strip p = p)
    (hrow : db.projects.Has p) (shortUuid : String) (enabled : Bool) (task : String → TaskPayload)
    (projectName : Option String) : (switchProject shortUuid enabled task (some p) projectName).run db =
      (.ok ⟨⟩, switched db p enabled task shortUuid) := by
  obtain ⟨row, hitem⟩ := Table.has_iff.mp hrow
  have hfound : (requestedProject (some p) projectName).run db = (.ok (p, row), db) := by
    have hp' : isEmptyOpt (some p) = false := hp
    rw [requestedProject, Proc.run_bind_of_ok (Proc.run_when_neg (by simp [hp']) db), if_pos hp']
    simp [ProjectsDao.getProjectById, Proc.run_bind, hp, hitem]
  exact run_switchProject_of_requested hfound hp hstrip hrow shortUuid enabled task

/-- The database after a project is created. -/
def created (ctx : CreationContext) (db : Db) (name : String) (project : Project) : Db :=
  let p := nextProjectId ctx db.projects
  switched { db with projects := db.projects.putItem p (newRow name project) } p true .projectEnabled
    ctx.shortUuid

theorem run_storeNewProject (project : Project) : (storeNewProject ctx name project).run db =
      (.ok (nextProjectId ctx db.projects), created ctx db name project) := by
  obtain ⟨-, hp, hstrip⟩ := nextProjectId_spec ctx db.projects
  have henable : (switchProject ctx.shortUuid true .projectEnabled (some (nextProjectId ctx db.projects))
      none).run { db with projects := db.projects.putItem (nextProjectId ctx db.projects) (newRow name project) } =
        (.ok ⟨⟩, created ctx db name project) :=
    run_switchProject hp hstrip (Table.has_putItem.mpr (.inl rfl)) ctx.shortUuid true .projectEnabled none
  rw [storeNewProject, Proc.run_bind_of_ok (Proc.run_gets _ db), Proc.run_bind_of_ok (Proc.run_modify _ db),
    enableProject, Proc.run_bind_of_ok henable]
  rfl

theorem getItem_created (project : Project) (p : String) : (created ctx db name project).projects.getItem p =
      if p = nextProjectId ctx db.projects then some { newRow name project with enabled := some true }
      else db.projects.getItem p := by
  rw [created, switched]
  simp only [Table.getItem_updateItem, Table.getItem_putItem]
  split <;> simp

/-- **One call of `create_project`** leaves everything as it is, or a new, enabled project under a name that
no project had. -/
theorem run_createProject_cases {project : Project} {r : Except Exc String} {db' : Db}
    (h : (createProject ctx project).run db = (r, db')) : ((∃ e, r = .error e) ∧ db' = db) ∨
      ∃ name, project.name = some name ∧ isEmpty name = false ∧ r = .ok (nextProjectId ctx db.projects) ∧
        (∀ p row, db.projects.getItem p = some row → row.name ≠ name) ∧ db' = created ctx db name project := by
  cases hname : project.name with
  | none =>
    rw [createProject, hname, Option.getD_none,
      Proc.run_bind_of_error (run_requireNotEmpty_of_isEmpty (by decide) _ db)] at h
    cases h
    exact .inl ⟨⟨_, rfl⟩, rfl⟩
  | some name =>
    rw [createProject, hname, Option.getD_some] at h
    rcases hblank : isEmpty name with _ | _
    · rw [Proc.run_bind_of_ok (run_requireNotEmpty_of_not_isEmpty hblank _ db),
        Proc.run_bind_of_ok (run_getProjectByName hblank db)] at h
      cases hfind : db.projects.scan.find? fun item => item.2.name = name with
      | some item =>
        have hexists : (some item).isSome = true := rfl
        rw [hfind, Proc.run_bind, Proc.run_when_pos hexists, Proc.run_raise] at h
        cases h
        exact .inl ⟨⟨_, rfl⟩, rfl⟩
      | none =>
        rw [hfind, Proc.run_bind_of_ok (Proc.run_when_neg (by simp) db)] at h
        cases hcheck : checkNewProject ctx name project with
        | error e =>
          rw [Proc.run_bind_of_error (by rw [Proc.run_liftExcept, hcheck])] at h
          cases h
          exact .inl ⟨⟨_, rfl⟩, rfl⟩
        | ok u =>
          rw [Proc.run_bind_of_ok (by rw [Proc.run_liftExcept, hcheck]), run_storeNewProject] at h
          cases h
          refine .inr ⟨name, rfl, hblank, rfl, fun p row hrow heq => ?_, rfl⟩
          have hnone := List.find?_eq_none.mp hfind (p, row) (Table.mem_scan.mpr hrow)
          exact hnone (decide_eq_true heq)
    · rw [Proc.run_bind_of_error (run_requireNotEmpty_of_isEmpty hblank _ db)] at h
      cases h
      exact .inl ⟨⟨_, rfl⟩, rfl⟩

end ContainRes.Projects
