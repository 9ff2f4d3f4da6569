import ContainRes.Api.InvocationContext
import ContainRes.Config.SocaConfig
import ContainRes.Effects.Faults
import ContainRes.Projects.Creation

/-! # The API of the cluster manager for a user

`ProjectsAPI`, `AccountsAPI` and `ClusterSettingsAPI`: each has a table of namespaces with their scopes and
methods, and a list of the namespaces that are open to every authenticated user. What the methods behind
the other namespaces do is left open, since a user without the administrator role never gets there.

* **`Invocation`**, **`World`**, **`Services`** — a request, what a call can change, and what it reads
  elsewhere.
* **`ProjectsApi.invoke`**, **`AccountsApi.invoke`**, **`ClusterSettingsApi.invoke`** — the three classes, and
  `invoke`, the method of `ClusterManagerApiInvoker`.
* **`NonAdmin`**, **`Isolated`** — who calls, and what the call may show and change.
* **`isolated_iff`** — only `Projects.GetUserProjects` breaks the isolation, with the name of a user whose
  projects the caller does not share. -/

namespace ContainRes.Api

open Accounts Config Effects Projects Store
open Text

/-! ## Requests and state -/

/-- The fields that the open methods read from a payload. -/
structure Payload where
  username : Option String := none
  projectId : Option String := none
  projectName : Option String := none
  moduleId : Option String := none
  deriving DecidableEq, Repr

/-- A request with its context. -/
structure Invocation where
  context : InvocationContext
  namespaceName : String
  /-- `get_request_payload_as(...)`: `None` without a payload, and an exception for a payload that does not
  fit the fields of the request. -/
  payload : Except Exc (Option Payload)

/-- What a call can change. -/
structure World where
  /-- The cached fields of the context of the call. -/
  cache : Cache
  /-- The tables of accounts and projects. -/
  db : Db
  /-- The table of the cluster settings. -/
  settings : Table String ConfigEntry
  /-- The entry `aws.ec2.all-instance-types` of the long-term cache. -/
  instanceTypes : Option (List String)

/-- The payload of a response. -/
inductive Reply
  /-- The projects of `GetUserProjectsResult`, with their ids. -/
  | userProjects (projects : List (String × ProjectRow))
  | project (project : String × ProjectRow)
  | clusterModules (listing : List String)
  | moduleSettings (settings : List (String × ConfigValue))
  | clusterHosts (listing : List String)
  | instanceTypes (instanceTypes : List String)
  /-- The response of a method that is not modelled. -/
  | other

/-- A call of the API. -/
abbrev ApiProc (α : Type) : Type := Proc World Exc α

/-- What the open methods read elsewhere, and the methods that are not open. -/
structure Services where
  /-- The required setting `directoryservice.provider`. -/
  directoryServiceProvider : Except Exc (Option String)
  /-- `ldap_client.get_user(username)`. -/
  ldapGetUser : String → Except Exc Unit
  /-- The lookup of the budget of a project that has budgets enabled. -/
  budgetsGetBudget : String → Except Exc Unit
  /-- `get_cluster_modules()`. -/
  getClusterModules : Except Exc (List String)
  /-- `config().get_config(module_id)` as a plain dictionary. -/
  getConfig : String → Except Exc (List (String × ConfigValue))
  /-- `ec2_describe_instances(...)`. -/
  ec2DescribeInstances : Except Exc (List String)
  /-- The pages of `describe_instance_types(...)`, one after the other. -/
  describeInstanceTypes : Except Exc (List (List String))
  /-- The method behind a namespace that is not open. -/
  method : String → Invocation → ApiProc Reply
  /-- The other classes of the API. -/
  otherApi : Invocation → ApiProc Reply

/-- A procedure on the cached fields of the context. -/
def onCache {α : Type} (c : Proc Cache Exc α) : ApiProc α :=
  Proc.zoom World.cache (fun cache w => { w with cache := cache }) c

/-- A procedure on the tables of accounts and projects. -/
def onDb {α : Type} (c : DbProc α) : ApiProc α := Proc.zoom World.db (fun db w => { w with db := db }) c

/-- An entry of a table `acl`. -/
structure AclEntry where
  scope : String
  method : ApiProc Reply

/-- `Utils.get_value_as_dict(namespace, self.acl)`. -/
def aclEntry (acl : List (String × AclEntry)) (namespaceName : String) : Option AclEntry :=
  (acl.find? fun entry => entry.1 = namespaceName).map Prod.snd

/-- The body of `invoke` that `ProjectsAPI` and `ClusterSettingsAPI` share. -/
def invokeWithOpen (acl : List (String × AclEntry)) (openNamespaces : List String) (call : Invocation) :
    ApiProc Reply :=
  match aclEntry acl call.namespaceName with
  | none => Proc.raise (.unauthorizedAccess none)
  | some entry => do
    let isAuthorized ← onCache (call.context.isAuthorized true (some [entry.scope]))
    let isAuthenticatedUser ← onCache (call.context.isAuthenticatedUser none)
    if isAuthorized = true then entry.method
    else if isAuthenticatedUser = true ∧ call.namespaceName ∈ openNamespaces then entry.method
    else Proc.raise (.unauthorizedAccess none)

variable (services : Services) (call : Invocation)

/-- An entry whose method is not modelled. -/
def closedEntry (scope namespaceName : String) : String × AclEntry :=
  (namespaceName, ⟨scope, services.method namespaceName call⟩)

/-! ## `ProjectsAPI` -/

/-- The loop of `get_user_projects` over the ids of the rows of a user. -/
def enabledProjects : List String → DbProc (List (String × ProjectRow))
  | [] => pure []
  | projectId :: projectIds => do
    match ← ProjectsDao.getProjectById projectId with
    | none => enabledProjects projectIds
    | some row =>
      match row.enabled with
      | none => Proc.raise (.other .keyError "'enabled'")
      | some false => enabledProjects projectIds
      | some true => do
        let projects ← enabledProjects projectIds
        return (projectId, row) :: projects

def getProjectsByUsername (username : String) : DbProc (List String) := do
  requireNotEmpty username "username is required"
  Proc.gets fun db => (db.userProjects.queryKeys fun key => key.1 = username).map Prod.snd

/-- The look at the directory at the start of `get_user_projects`. -/
def Services.probeDirectory (username : String) : Except Exc Unit :=
  match services.directoryServiceProvider with
  | .error e => .error e
  | .ok provider => if provider = some "activedirectory" then services.ldapGetUser username else .ok ()

def getUserProjects (username : Option String) : DbProc (List (String × ProjectRow)) := do
  Proc.when (isEmptyOpt username = true) (Proc.raise (.invalidParams "username is required"))
  let username := username.getD ""
  Proc.liftExcept (services.probeDirectory username)
  let projectIds ← getProjectsByUsername username
  let user ← Accounts.getUser username
  if user.enabled = some true then do
    let projects ← enabledProjects projectIds
    return projects.insertionSort fun p q => p.2.name ≤ q.2.name
  else return []

namespace ProjectsApi

/-- `admin_get_user_projects(context)`: the caller is asked for where the payload names nobody. -/
def adminGetUserProjects : ApiProc Reply := do
  match ← Proc.liftExcept call.payload with
  | none => Proc.raise (.other .attributeError "'NoneType' object has no attribute 'username'")
  | some request => do
    let username ←
      if isEmptyOpt request.username = true then onCache call.context.getUsername
      else pure request.username
    let projects ← onDb (getUserProjects services username)
    return .userProjects projects

def getProject : ApiProc Reply := do
  match ← Proc.liftExcept call.payload with
  | none => Proc.raise (.invalidParams "request is required")
  | some request => do
    let project ← onDb (requestedProject request.projectId request.projectName)
    Proc.liftExcept (services.budgetsGetBudget project.1)
    return .project project

/-- The table `acl`. -/
def acl : List (String × AclEntry) :=
  let scopeWrite := call.context.moduleWriteScope
  let scopeRead := call.context.moduleReadScope
  [closedEntry services call scopeWrite "Projects.CreateProject",
    closedEntry services call scopeWrite "Projects.DeleteProject",
    ("Projects.GetProject", ⟨scopeRead, getProject services call⟩),
    closedEntry services call scopeWrite "Projects.UpdateProject",
    closedEntry services call scopeRead "Projects.ListProjects",
    ("Projects.GetUserProjects", ⟨scopeRead, adminGetUserProjects services call⟩),
    closedEntry services call scopeWrite "Projects.EnableProject",
    closedEntry services call scopeWrite "Projects.DisableProject",
    closedEntry services call scopeRead "Projects.ListFileSystemsForProject",
    closedEntry services call scopeRead "Projects.ListSecurityGroups",
    closedEntry services call scopeRead "Projects.ListPolicies"]

/-- The namespaces open to every authenticated user. -/
def openNamespaces : List String := ["Projects.GetUserProjects", "Projects.GetProject"]

def invoke : ApiProc Reply := invokeWithOpen (acl services call) openNamespaces call

end ProjectsApi

/-! ## `ClusterSettingsAPI` -/

namespace ClusterSettingsApi

def listClusterModules : ApiProc Reply := do
  let listing ← Proc.liftExcept services.getClusterModules
  return .clusterModules listing

def getModuleSettings : ApiProc Reply := do
  match ← Proc.liftExcept call.payload with
  | none => Proc.raise (.other .attributeError "'NoneType' object has no attribute 'module_id'")
  | some request => do
    Proc.when (isEmptyOpt request.moduleId = true) (Proc.raise (.invalidParams "module_id is required"))
    let settings ← Proc.liftExcept (services.getConfig (request.moduleId.getD ""))
    return .moduleSettings settings

def listClusterHosts : ApiProc Reply := do
  match ← Proc.liftExcept call.payload with
  | none => Proc.raise (.other .attributeError "'NoneType' object has no attribute 'page_size'")
  | some _ => do
    let listing ← Proc.liftExcept services.ec2DescribeInstances
    return .clusterHosts listing

/-- `describe_instance_types(context)`: the pages are fetched once and then cached. -/
def describeInstanceTypes : ApiProc Reply := do
  match ← Proc.gets World.instanceTypes with
  | some instanceTypes => return .instanceTypes instanceTypes
  | none => do
    let pages ← Proc.liftExcept services.describeInstanceTypes
    Proc.modify fun w => { w with instanceTypes := some pages.flatten }
    return .instanceTypes pages.flatten

/-- The table `acl`. -/
def acl : List (String × AclEntry) :=
  let scopeWrite := call.context.moduleWriteScope
  let scopeRead := call.context.moduleReadScope
  [("ClusterSettings.ListClusterModules", ⟨scopeRead, listClusterModules services⟩),
    ("ClusterSettings.GetModuleSettings", ⟨scopeRead, getModuleSettings services call⟩),
    closedEntry services call scopeWrite "ClusterSettings.UpdateModuleSettings",
    ("ClusterSettings.ListClusterHosts", ⟨scopeRead, listClusterHosts services call⟩),
    ("ClusterSettings.DescribeInstanceTypes", ⟨scopeRead, describeInstanceTypes services⟩),
    closedEntry services call scopeRead "ClusterSettings.GetAllowedSessionsPerUser",
    closedEntry services call scopeWrite "ClusterSettings.UpdateQuicConfig"]

/-- The namespaces open to every authenticated user. -/
def openNamespaces : List String :=
  ["ClusterSettings.ListClusterModules", "ClusterSettings.GetModuleSettings",
    "ClusterSettings.ListClusterHosts", "ClusterSettings.DescribeInstanceTypes"]

def invoke : ApiProc Reply := invokeWithOpen (acl services call) openNamespaces call

end ClusterSettingsApi

/-! ## `AccountsAPI` -/

namespace AccountsApi

/-- The table `acl`. -/
def acl : List (String × AclEntry) :=
  let scopeWrite := call.context.moduleWriteScope
  let scopeRead := call.context.moduleReadScope
  [closedEntry services call scopeRead "Accounts.GetUser",
    closedEntry services call scopeRead "Accounts.GetUserByEmail",
    closedEntry services call scopeWrite "Accounts.ModifyUser",
    closedEntry services call scopeRead "Accounts.ListUsers",
    closedEntry services call scopeWrite "Accounts.EnableUser",
    closedEntry services call scopeWrite "Accounts.DisableUser",
    closedEntry services call scopeRead "Accounts.GetGroup",
    closedEntry services call scopeWrite "Accounts.ModifyGroup",
    closedEntry services call scopeWrite "Accounts.EnableGroup",
    closedEntry services call scopeWrite "Accounts.DisableGroup",
    closedEntry services call scopeRead "Accounts.ListGroups",
    closedEntry services call scopeRead "Accounts.ListUsersInGroup",
    closedEntry services call scopeWrite "Accounts.AddAdminUser",
    closedEntry services call scopeWrite "Accounts.RemoveAdminUser",
    closedEntry services call scopeWrite "Accounts.GlobalSignOut",
    closedEntry services call scopeWrite "Accounts.ResetPassword"]

def checkAdminAuthorizationServices : ApiProc PUnit :=
  if call.namespaceName ∈ ["Accounts.AddAdminUser", "Accounts.RemoveAdminUser", "Accounts.ModifyUser"] then do
    let isAdministrator ← onCache (call.context.isAdministrator none)
    Proc.when (isAdministrator = false) (Proc.raise (.unauthorizedAccess none))
  else pure ⟨⟩

def invoke : ApiProc Reply :=
  match aclEntry (acl services call) call.namespaceName with
  | none => Proc.raise (.unauthorizedAccess none)
  | some entry => do
    checkAdminAuthorizationServices call
    let isAuthorized ← onCache (call.context.isAuthorized true (some [entry.scope]))
    if isAuthorized = true then entry.method
    else Proc.raise (.unauthorizedAccess none)

end AccountsApi

def invoke : ApiProc Reply :=
  let namespaceName := call.namespaceName
  if startsWith namespaceName "Auth." then services.otherApi call
  else if startsWith namespaceName "App." then services.otherApi call
  else if startsWith namespaceName "FileBrowser." then services.otherApi call
  else if startsWith namespaceName "ClusterSettings." then ClusterSettingsApi.invoke services call
  else if startsWith namespaceName "Projects." then ProjectsApi.invoke services call
  else if startsWith namespaceName "FileSystem." then services.otherApi call
  else if startsWith namespaceName "Accounts." then AccountsApi.invoke services call
  else services.otherApi call

/-! ## What a call may show and change -/

/-- The namespaces of the three classes. -/
def OfClusterManager (namespaceName : String) : Prop :=
  startsWith namespaceName "Projects." = true ∨ startsWith namespaceName "Accounts." = true ∨
    startsWith namespaceName "ClusterSettings." = true

/-- The call comes from the user `u`, who is not an administrator. -/
structure NonAdmin (ctx : InvocationContext) (cache : Cache) (u : String) : Prop where
  cacheOk : ctx.CacheOk cache
  authorization : ∃ authorization, ctx.freshAuthorization = .ok authorization ∧
    authorization.type = .user ∧ authorization.username = some u

/-- **Isolation.** The call of `u` changes no record and no setting, and the projects that
`Projects.GetUserProjects` returns are projects of `u`. -/
def Isolated (services : Services) (call : Invocation) (u : String) (w : World) : Prop :=
  let result := (invoke services call).run w
  (result.2.db = w.db ∧ result.2.settings = w.settings) ∧
    (call.namespaceName = "Projects.GetUserProjects" → ∀ projects, result.1 = .ok (.userProjects projects) →
      ∀ project ∈ projects, w.db.userProjects.Has (u, project.1))

/-- The name that `Projects.GetUserProjects` is asked for by `u`. -/
def askedFor (u : String) (request : Payload) : String :=
  if isEmptyOpt request.username = true then u else request.username.getD ""

/-- The id of a row names a project with its flag, or no project. -/
def Flagged (db : Db) (p : String) : Prop :=
  isEmpty p = false ∧ ∀ row, db.projects.getItem p = some row → row.enabled ≠ none

/-- The projects of a user can be listed: the directory answers, the user is enabled, and every project of
the rows of the user has its flag. -/
structure Listable (services : Services) (db : Db) (username : String) : Prop where
  notEmpty : isEmpty username = false
  directory : services.probeDirectory username = .ok ()
  enabled : ∃ row, db.users.getItem (sanitized username) = some row ∧ row.enabled = true
  flagged : ∀ p, db.userProjects.Has (username, p) → Flagged db p

/-- Every project that is listed for `username` is a project of `u`. -/
def SharesProjects (services : Services) (db : Db) (u username : String) : Prop :=
  Listable services db username → ∀ p row, db.userProjects.Has (username, p) →
    db.projects.getItem p = some row → row.enabled = some true → db.userProjects.Has (u, p)

/-! ## The listing -/

variable {services} {call} {db : Db} {w : World} {u : String}

/-- A stored project that is enabled. -/
def enabledProject (db : Db) (p : String) : Option (String × ProjectRow) :=
  (db.projects.getItem p).bind fun row => if row.enabled = some true then some (p, row) else none

theorem run_getProjectById {p : String} (h : isEmpty p = false) (db : Db) :
    (ProjectsDao.getProjectById p).run db = (.ok (db.projects.getItem p), db) := by
  rw [ProjectsDao.getProjectById, Proc.run_bind_of_ok (run_requireNotEmpty_of_not_isEmpty h _ db), Proc.run_gets]

/-- The loop over the ids raises at an id without a flag, and keeps the enabled projects otherwise. -/
theorem run_enabledProjects (projectIds : List String) (db : Db) : ((∀ p ∈ projectIds, Flagged db p) ∧
        (enabledProjects projectIds).run db = (.ok (projectIds.filterMap (enabledProject db)), db)) ∨
      ((¬ ∀ p ∈ projectIds, Flagged db p) ∧ ∃ e, (enabledProjects projectIds).run db = (.error e, db)) := by
  induction projectIds with
  | nil => exact .inl ⟨by simp, rfl⟩
  | cons p ps ih =>
    rcases hp : isEmpty p with _ | _
    · -- the first id is looked up
      have hget := run_getProjectById hp db
      unfold enabledProjects
      rw [Proc.run_bind_of_ok hget]
      rcases hrow : db.projects.getItem p with _ | row
      · have hflag : Flagged db p := ⟨hp, by simp [hrow]⟩
        have hskip : enabledProject db p = none := by simp [enabledProject, hrow]
        simpa [hflag, hskip] using ih
      · rcases henabled : row.enabled with _ | _ | _
        · refine .inr ⟨fun h => ?_, _, by simp [henabled]; rfl⟩
          exact (h p List.mem_cons_self).2 row hrow henabled
        · have hflag : Flagged db p := ⟨hp, by simp [hrow, henabled]⟩
          have hskip : enabledProject db p = none := by simp [enabledProject, hrow, henabled]
          simpa [hflag, hskip, henabled] using ih
        · have hflag : Flagged db p := ⟨hp, by simp [hrow, henabled]⟩
          have hkeep : enabledProject db p = some (p, row) := by simp [enabledProject, hrow, henabled]
          rcases ih with ⟨hall, hrun⟩ | ⟨hnot, e, hrun⟩
          · refine .inl ⟨by simpa [hflag] using hall, ?_⟩
            simp only [henabled]
            rw [Proc.run_bind_of_ok hrun, Proc.run_pure, List.filterMap_cons_some hkeep]
          · refine .inr ⟨by simpa [hflag] using hnot, e, ?_⟩
            simp only [henabled]
            rw [Proc.run_bind_of_error hrun]
    · refine .inr ⟨fun h => ?_, .invalidParams "project_id is required", ?_⟩
      · have hfalse := (h p List.mem_cons_self).1
        rw [hp] at hfalse
        cases hfalse
      · rw [enabledProjects, ProjectsDao.getProjectById, Proc.bind_assoc,
          Proc.run_bind_of_error (run_requireNotEmpty_of_isEmpty hp _ db)]

/-- The projects that are listed for a user. -/
def listedProjects (db : Db) (username : String) : List (String × ProjectRow) :=
  (((db.userProjects.queryKeys fun key => key.1 = username).map Prod.snd).filterMap
    (enabledProject db)).insertionSort fun p q => p.2.name ≤ q.2.name

theorem mem_projectIds {username p : String} :
    p ∈ (db.userProjects.queryKeys fun key => key.1 = username).map Prod.snd ↔ db.userProjects.Has (username, p) := by
  simp

theorem mem_listedProjects {username p : String} {row : ProjectRow} :
    (p, row) ∈ listedProjects db username ↔ db.userProjects.Has (username, p) ∧
      db.projects.getItem p = some row ∧ row.enabled = some true := by
  rw [listedProjects, (List.perm_insertionSort _ _).mem_iff, List.mem_filterMap]
  constructor
  · rintro ⟨p', hp', hproject⟩
    obtain ⟨row', hrow', hrest⟩ := Option.bind_eq_some_iff.mp hproject
    split at hrest
    · rename_i henabled
      cases hrest
      exact ⟨mem_projectIds.mp hp', hrow', henabled⟩
    · cases hrest
  · rintro ⟨hrow, hget, henabled⟩
    exact ⟨p, mem_projectIds.mpr hrow, by simp [enabledProject, hget, henabled]⟩

/-- **One listing.** It gives the enabled projects of the name where they can be listed, and raises or gives
nothing otherwise. -/
theorem run_getUserProjects (services : Services) (username : Option String) (db : Db) :
    (Listable services db (username.getD "") ∧
        (getUserProjects services username).run db = (.ok (listedProjects db (username.getD "")), db)) ∨
      (¬ Listable services db (username.getD "") ∧ ((∃ e, (getUserProjects services username).run db = (.error e, db)) ∨
          (getUserProjects services username).run db = (.ok [], db))) := by
  unfold getUserProjects
  by_cases hblank : isEmptyOpt username = true
  · refine .inr ⟨fun h => ?_, .inl ⟨.invalidParams "username is required", ?_⟩⟩
    · have hfalse := h.notEmpty
      rcases username with _ | name
      · exact absurd hfalse (by decide)
      · rw [Option.getD_some, show isEmpty name = true from hblank] at hfalse
        cases hfalse
    · rw [Proc.run_bind, Proc.run_when_pos hblank, Proc.run_raise]
  · rw [Proc.run_bind_of_ok (Proc.run_when_neg hblank db)]
    obtain ⟨name, rfl⟩ : ∃ name, username = some name := by
      rcases username with _ | name
      · exact absurd rfl hblank
      · exact ⟨name, rfl⟩
    have hname : isEmpty name = false := by simpa [isEmptyOpt] using hblank
    simp only [Option.getD_some]
    rcases hprobe : services.probeDirectory name with e | u
    · refine .inr ⟨fun h => ?_, .inl ⟨e, ?_⟩⟩
      · rw [h.directory] at hprobe
        cases hprobe
      · rw [Proc.run_bind_of_error (Proc.run_liftExcept _ db)]
    · have hids : (getProjectsByUsername name).run db =
          (.ok ((db.userProjects.queryKeys fun key => key.1 = name).map Prod.snd), db) := by
        rw [getProjectsByUsername, Proc.run_bind_of_ok (run_requireNotEmpty_of_not_isEmpty hname _ db), Proc.run_gets]
      rw [Proc.run_bind_of_ok (Proc.run_liftExcept _ db), Proc.run_bind_of_ok hids]
      rcases huser : db.users.getItem (sanitized name) with _ | row
      · -- nobody has the name
        have hget : (Accounts.getUser name).run db =
            (.error (.soca .authUserNotFound s!"User not found: {sanitized name}"), db) := by
          simp [Accounts.getUser, Proc.run_bind, UserDao.run_getUser, hname, huser]
        refine .inr ⟨fun h => ?_, .inl ⟨_, Proc.run_bind_of_error hget⟩⟩
        obtain ⟨row, hrow, -⟩ := h.enabled
        rw [huser] at hrow
        cases hrow
      · have hget : (Accounts.getUser name).run db =
            (.ok (UserDao.convertFromDb (sanitized name) row), db) := by
          simp [Accounts.getUser, Proc.run_bind, UserDao.run_getUser, hname, huser]
        rw [Proc.run_bind_of_ok hget]
        have hflag : (UserDao.convertFromDb (sanitized name) row).enabled = some row.enabled := rfl
        rw [hflag]
        rcases henabled : row.enabled with _ | _
        · refine .inr ⟨fun h => ?_, .inr (by simp)⟩
          obtain ⟨row', hrow', henabled'⟩ := h.enabled
          rw [huser] at hrow'
          cases hrow'
          rw [henabled] at henabled'
          cases henabled'
        · rw [if_pos rfl]
          rcases run_enabledProjects ((db.userProjects.queryKeys fun key => key.1 = name).map Prod.snd) db
            with ⟨hall, hrun⟩ | ⟨hnot, e, hrun⟩
          · refine .inl ⟨⟨hname, hprobe, ⟨row, huser, henabled⟩, fun p hp => hall p (mem_projectIds.mpr hp)⟩, ?_⟩
            rw [Proc.run_bind_of_ok hrun]
            rfl
          · refine .inr ⟨fun h => hnot fun p hp => h.flagged p (mem_projectIds.mp hp), .inl ⟨e, ?_⟩⟩
            rw [Proc.run_bind_of_error hrun]

/-! ## The call -/

/-- The records and the settings are those of `w₀`. -/
def Unchanged (w₀ w : World) : Prop := w.db = w₀.db ∧ w.settings = w₀.settings

variable (w₀ : World)

theorem keeps_onCache {α : Type} (c : Proc Cache Exc α) : Keeps (Unchanged w₀) (onCache c) :=
  Keeps.zoom fun _ h => h

theorem keeps_onDb {α : Type} {c : DbProc α} (hc : Reads c) : Keeps (Unchanged w₀) (onDb c) :=
  Keeps.of_reads (Reads.zoom hc fun _ => rfl)

variable (username : Option String)

theorem reads_getUserProjects : Reads (getUserProjects services username) := by
  intro db
  rcases run_getUserProjects services username db with ⟨-, hrun⟩ | ⟨-, ⟨e, hrun⟩ | hrun⟩ <;>
    rw [hrun]

/-- The two open methods of `ProjectsAPI` change nothing. -/
theorem keeps_adminGetUserProjects : Keeps (Unchanged w₀) (ProjectsApi.adminGetUserProjects services call) := by
  refine Keeps.bind (Keeps.liftExcept _) fun payload => ?_
  rcases payload with _ | request
  · exact Keeps.raise _
  · have hlist : ∀ username, Keeps (Unchanged w₀) (onDb (getUserProjects services username) >>= fun projects =>
        pure (Reply.userProjects projects)) := fun username =>
      Keeps.bind (keeps_onDb w₀ (reads_getUserProjects username)) fun _ => Keeps.pure _
    refine Keeps.ite (fun _ => Keeps.bind (keeps_onCache w₀ _) hlist) fun _ => ?_
    exact Keeps.bind (Keeps.pure _) hlist

theorem keeps_getProject : Keeps (Unchanged w₀) (ProjectsApi.getProject services call) := by
  refine Keeps.bind (Keeps.liftExcept _) fun payload => ?_
  rcases payload with _ | request
  · exact Keeps.raise _
  · refine Keeps.bind (keeps_onDb w₀ (reads_requestedProject _ _)) fun project => ?_
    exact Keeps.bind (Keeps.liftExcept _) fun _ => Keeps.pure _

/-- The open methods of `ClusterSettingsAPI` change nothing but the cached instance types. -/
theorem keeps_getModuleSettings : Keeps (Unchanged w₀) (ClusterSettingsApi.getModuleSettings services call) := by
  refine Keeps.bind (Keeps.liftExcept _) fun payload => ?_
  rcases payload with _ | request
  · exact Keeps.raise _
  · refine Keeps.bind (Keeps.when fun _ => Keeps.raise _) fun _ => ?_
    exact Keeps.bind (Keeps.liftExcept _) fun _ => Keeps.pure _

theorem keeps_listClusterHosts : Keeps (Unchanged w₀) (ClusterSettingsApi.listClusterHosts services call) := by
  refine Keeps.bind (Keeps.liftExcept _) fun payload => ?_
  rcases payload with _ | request
  · exact Keeps.raise _
  · exact Keeps.bind (Keeps.liftExcept _) fun _ => Keeps.pure _

theorem keeps_describeInstanceTypes : Keeps (Unchanged w₀) (ClusterSettingsApi.describeInstanceTypes services) := by
  refine Keeps.bind (Keeps.gets _) fun instanceTypes => ?_
  rcases instanceTypes with _ | instanceTypes
  · refine Keeps.bind (Keeps.liftExcept _) fun pages => ?_
    exact Keeps.bind (Keeps.modify fun _ h => h) fun _ => Keeps.pure _
  · exact Keeps.pure _

theorem keeps_listClusterModules : Keeps (Unchanged w₀) (ClusterSettingsApi.listClusterModules services) :=
  Keeps.bind (Keeps.liftExcept _) fun _ => Keeps.pure _

theorem NonAdmin.of_cacheOk {ctx : InvocationContext} {cache cache' : Cache} (h : NonAdmin ctx cache u)
    (hcache : ctx.CacheOk cache') : NonAdmin ctx cache' u := ⟨hcache, h.authorization⟩

/-- A user without the administrator role is not authorized, but authenticated. -/
theorem NonAdmin.run_checks (h : NonAdmin call.context w.cache u) (scopes : Option (List String)) :
    ∃ cache₁ cache₂, call.context.CacheOk cache₁ ∧ call.context.CacheOk cache₂ ∧
      (onCache (call.context.isAuthorized true scopes)).run w = (.ok false, { w with cache := cache₁ }) ∧
      (onCache (call.context.isAuthenticatedUser none)).run { w with cache := cache₁ } =
        (.ok true, { w with cache := cache₂ }) := by
  obtain ⟨authorization, hfresh, huser, -⟩ := h.authorization
  obtain ⟨cache₁, hauthorized, hcache₁⟩ := InvocationContext.run_isAuthorized_of_user scopes h.cacheOk hfresh huser
  obtain ⟨cache₂, hauthenticated, hcache₂⟩ := InvocationContext.run_bind_getAuthorization hcache₁ hfresh
    fun authorization => authorization.type == .user || authorization.type == .administrator
  refine ⟨cache₁, cache₂, hcache₁, hcache₂, Proc.run_zoom_of hauthorized, Proc.run_zoom_of ?_⟩
  rw [huser] at hauthenticated
  exact hauthenticated

/-- The name of the caller. -/
theorem NonAdmin.run_getUsername (h : NonAdmin call.context w.cache u) :
    ∃ cache', (onCache call.context.getUsername).run w = (.ok (some u), { w with cache := cache' }) := by
  obtain ⟨authorization, hfresh, huser, hname⟩ := h.authorization
  obtain ⟨cache', hrun, -⟩ := InvocationContext.run_bind_getAuthorization h.cacheOk hfresh
    ApiAuthorization.username
  refine ⟨cache', Proc.run_zoom_of ?_⟩
  unfold InvocationContext.getUsername
  rcases hservice : call.context.apiAuthorizationService with _ | service
  · exact absurd hservice (InvocationContext.apiAuthorizationService_of_user hfresh huser)
  · rw [← hname]
    exact hrun

/-- A user without the administrator role reaches the open methods only. -/
theorem NonAdmin.run_invokeWithOpen (h : NonAdmin call.context w.cache u)
    {acl : List (String × AclEntry)} (openNamespaces : List String) {entry : AclEntry}
    (hentry : aclEntry acl call.namespaceName = some entry) :
    ∃ cache', call.context.CacheOk cache' ∧ (invokeWithOpen acl openNamespaces call).run w =
      (if call.namespaceName ∈ openNamespaces then entry.method
        else Proc.raise (.unauthorizedAccess none)).run { w with cache := cache' } := by
  obtain ⟨cache₁, cache₂, -, hcache₂, hauthorized, hauthenticated⟩ := h.run_checks (some [entry.scope])
  refine ⟨cache₂, hcache₂, ?_⟩
  unfold invokeWithOpen
  rw [hentry]
  simp only
  rw [Proc.run_bind_of_ok hauthorized, Proc.run_bind_of_ok hauthenticated, if_neg (by simp)]
  simp

/-- What is kept by the methods behind the open namespaces is kept by the call. -/
theorem NonAdmin.keeps_invokeWithOpen (h : NonAdmin call.context w.cache u)
    {acl : List (String × AclEntry)} {openNamespaces : List String}
    (hopen : ∀ entry, aclEntry acl call.namespaceName = some entry → call.namespaceName ∈ openNamespaces →
      Keeps (Unchanged w) entry.method) : Unchanged w ((invokeWithOpen acl openNamespaces call).run w).2 := by
  rcases hentry : aclEntry acl call.namespaceName with _ | entry
  · rw [invokeWithOpen, hentry]
    exact ⟨rfl, rfl⟩
  · obtain ⟨cache', -, hrun⟩ := h.run_invokeWithOpen openNamespaces hentry
    rw [hrun]
    have hstart : Unchanged w { w with cache := cache' } := ⟨rfl, rfl⟩
    split
    · rename_i hmem
      exact (hopen entry hentry hmem).run hstart
    · exact hstart

/-- The methods of `AccountsAPI` are all closed to a user without the administrator role. -/
theorem NonAdmin.unchanged_accounts (h : NonAdmin call.context w.cache u) :
    Unchanged w ((AccountsApi.invoke services call).run w).2 := by
  unfold AccountsApi.invoke
  rcases hentry : aclEntry (AccountsApi.acl services call) call.namespaceName with _ | entry
  · exact ⟨rfl, rfl⟩
  · -- the check of the administrator raises, or leaves only a new cache
    obtain ⟨authorization, hfresh, huser, -⟩ := h.authorization
    obtain ⟨cache', hadmin, hcache'⟩ := InvocationContext.run_bind_getAuthorization h.cacheOk hfresh
      fun authorization => authorization.type == .administrator
    rw [huser] at hadmin
    have hadministrator : (onCache (call.context.isAdministrator none)).run w =
        (.ok false, { w with cache := cache' }) := Proc.run_zoom_of hadmin
    have hrefused : ∀ {w' : World}, Unchanged w w' → NonAdmin call.context w'.cache u →
        Unchanged w ((onCache (call.context.isAuthorized true (some [entry.scope])) >>= fun isAuthorized =>
          if isAuthorized = true then entry.method
          else Proc.raise (.unauthorizedAccess none)).run w').2 := by
      intro w' hw' h'
      obtain ⟨cache₁, -, -, -, hauthorized, -⟩ := h'.run_checks (some [entry.scope])
      rw [Proc.run_bind_of_ok hauthorized]
      exact hw'
    simp only
    unfold AccountsApi.checkAdminAuthorizationServices
    split
    · rw [Proc.bind_assoc, Proc.run_bind_of_ok hadministrator,
        Proc.run_bind_of_error (Proc.run_when_pos rfl _ |>.trans (Proc.run_raise _ _))]
      exact ⟨rfl, rfl⟩
    · rw [Proc.run_bind_of_ok (Proc.run_pure _ _)]
      exact hrefused ⟨rfl, rfl⟩ h

theorem invoke_of_projects (h : startsWith call.namespaceName "Projects." = true) :
    invoke services call = ProjectsApi.invoke services call := by
  have hnot : ∀ q, startsWith "Projects." q = false → startsWith q "Projects." = false →
      startsWith call.namespaceName q = false := fun q => not_startsWith_of_startsWith h
  simp [invoke, h, hnot "Auth." (by decide) (by decide), hnot "App." (by decide) (by decide),
    hnot "FileBrowser." (by decide) (by decide), hnot "ClusterSettings." (by decide) (by decide)]

theorem invoke_of_clusterSettings (h : startsWith call.namespaceName "ClusterSettings." = true) :
    invoke services call = ClusterSettingsApi.invoke services call := by
  have hnot : ∀ q, startsWith "ClusterSettings." q = false → startsWith q "ClusterSettings." = false →
      startsWith call.namespaceName q = false := fun q => not_startsWith_of_startsWith h
  simp [invoke, h, hnot "Auth." (by decide) (by decide), hnot "App." (by decide) (by decide),
    hnot "FileBrowser." (by decide) (by decide)]

theorem invoke_of_accounts (h : startsWith call.namespaceName "Accounts." = true) :
    invoke services call = AccountsApi.invoke services call := by
  have hnot : ∀ q, startsWith "Accounts." q = false → startsWith q "Accounts." = false →
      startsWith call.namespaceName q = false := fun q => not_startsWith_of_startsWith h
  simp [invoke, h, hnot "Auth." (by decide) (by decide), hnot "App." (by decide) (by decide),
    hnot "FileBrowser." (by decide) (by decide), hnot "ClusterSettings." (by decide) (by decide),
    hnot "Projects." (by decide) (by decide), hnot "FileSystem." (by decide) (by decide)]

/-- **No record changes.** A call of a user without the administrator role leaves every record and setting. -/
theorem NonAdmin.unchanged_invoke (h : NonAdmin call.context w.cache u)
    (hns : OfClusterManager call.namespaceName) : Unchanged w ((invoke services call).run w).2 := by
  rcases hns with hprojects | haccounts | hsettings
  · rw [invoke_of_projects hprojects]
    refine h.keeps_invokeWithOpen fun entry hentry hopen => ?_
    rcases List.mem_pair.mp hopen with hname | hname <;> rw [hname] at hentry <;>
      simp [aclEntry, ProjectsApi.acl, closedEntry] at hentry <;> subst hentry
    · exact keeps_adminGetUserProjects w
    · exact keeps_getProject w
  · rw [invoke_of_accounts haccounts]
    exact h.unchanged_accounts
  · rw [invoke_of_clusterSettings hsettings]
    refine h.keeps_invokeWithOpen fun entry hentry hopen => ?_
    simp only [ClusterSettingsApi.openNamespaces, List.mem_cons, List.not_mem_nil, or_false] at hopen
    rcases hopen with hname | hname | hname | hname <;> rw [hname] at hentry <;>
      simp [aclEntry, ClusterSettingsApi.acl, closedEntry] at hentry <;> subst hentry
    · exact keeps_listClusterModules w
    · exact keeps_getModuleSettings w
    · exact keeps_listClusterHosts w
    · exact keeps_describeInstanceTypes w

/-- `Projects.GetUserProjects` reaches its method. -/
theorem NonAdmin.run_getUserProjects_call (h : NonAdmin call.context w.cache u) (services : Services)
    (hname : call.namespaceName = "Projects.GetUserProjects") :
    ∃ cache', call.context.CacheOk cache' ∧ (invoke services call).run w =
      (ProjectsApi.adminGetUserProjects services call).run { w with cache := cache' } := by
  have hprojects : startsWith call.namespaceName "Projects." = true := by
    rw [hname]
    decide
  have hentry : aclEntry (ProjectsApi.acl services call) call.namespaceName =
      some ⟨call.context.moduleReadScope, ProjectsApi.adminGetUserProjects services call⟩ := by
    rw [hname]
    simp [aclEntry, ProjectsApi.acl, closedEntry]
  obtain ⟨cache', hcache', hrun⟩ := h.run_invokeWithOpen ProjectsApi.openNamespaces hentry
  rw [if_pos (by rw [hname]; exact List.mem_cons_self)] at hrun
  exact ⟨cache', hcache', by rw [invoke_of_projects hprojects, ProjectsApi.invoke, hrun]⟩

/-- The method lists the projects of the name asked for. -/
theorem NonAdmin.run_adminGetUserProjects (h : NonAdmin call.context w.cache u) (services : Services)
    {request : Payload} (hpayload : call.payload = .ok (some request)) :
    ∃ username : Option String, username.getD "" = askedFor u request ∧
      ((ProjectsApi.adminGetUserProjects services call).run w).1 =
        ((getUserProjects services username).run w.db).1.map Reply.userProjects := by
  have hlist : ∀ (username : Option String) (w' : World), w'.db = w.db →
      ((onDb (getUserProjects services username) >>= fun projects =>
        (pure (Reply.userProjects projects) : ApiProc Reply)).run w').1 =
        ((getUserProjects services username).run w.db).1.map Reply.userProjects := by
    intro username w' hw'
    rw [Proc.run_bind, onDb, Proc.run_zoom, hw']
    rcases ((getUserProjects services username).run w.db).1 with e | projects <;> rfl
  obtain ⟨cache', hcaller⟩ := h.run_getUsername
  have hread : (Proc.liftExcept call.payload : ApiProc (Option Payload)).run w = (.ok (some request), w) := by
    rw [hpayload, Proc.run_liftExcept]
  rw [ProjectsApi.adminGetUserProjects, Proc.run_bind_of_ok hread]
  by_cases hblank : isEmptyOpt request.username = true
  · refine ⟨some u, by simp [askedFor, hblank], ?_⟩
    simp only [if_pos hblank]
    rw [Proc.run_bind_of_ok hcaller]
    exact hlist (some u) _ rfl
  · refine ⟨request.username, by simp [askedFor, hblank], ?_⟩
    simp only [if_neg hblank]
    rw [Proc.run_bind_of_ok (Proc.run_pure _ _)]
    exact hlist request.username _ rfl

/-- A payload that is missing or does not fit is answered with an exception. -/
theorem run_adminGetUserProjects_of_no_request (services : Services)
    (h : ∀ request, call.payload ≠ .ok (some request)) (w : World) :
    ∃ e, ((ProjectsApi.adminGetUserProjects services call).run w).1 = .error e := by
  rcases hpayload : call.payload with e | _ | request
  · refine ⟨e, ?_⟩
    rw [ProjectsApi.adminGetUserProjects, hpayload, Proc.run_bind_of_error (Proc.run_liftExcept _ w)]
  · refine ⟨.other .attributeError "'NoneType' object has no attribute 'username'", ?_⟩
    rw [ProjectsApi.adminGetUserProjects, hpayload, Proc.run_bind_of_ok (Proc.run_liftExcept _ w)]
    rfl
  · exact absurd hpayload (h request)

/-- **The isolation of a user.** A call of `u`, who is not an administrator, is isolated exactly when it
does not ask for the projects of a user whose projects `u` does not share. -/
theorem isolated_iff (services : Services) (call : Invocation) (u : String) (w : World)
    (h : NonAdmin call.context w.cache u) (hns : OfClusterManager call.namespaceName) :
    Isolated services call u w ↔ (call.namespaceName = "Projects.GetUserProjects" → ∀ request,
      call.payload = .ok (some request) → SharesProjects services w.db u (askedFor u request)) := by
  constructor
  · rintro ⟨-, hlisted⟩ hname request hpayload hlistable p row hp hrow henabled
    obtain ⟨cache', hcache', hcall⟩ := h.run_getUserProjects_call services hname
    have h' : NonAdmin call.context ({ w with cache := cache' } : World).cache u := h.of_cacheOk hcache'
    obtain ⟨username, husername, hresult⟩ := h'.run_adminGetUserProjects services hpayload
    rw [← husername] at hlistable hp
    rcases run_getUserProjects services username w.db with ⟨-, hrun⟩ | ⟨hnot, -⟩
    · rw [← hcall, hrun] at hresult
      exact hlisted hname _ hresult (p, row) (mem_listedProjects.mpr ⟨hp, hrow, henabled⟩)
    · exact absurd hlistable hnot
  · intro hshares
    refine ⟨h.unchanged_invoke hns, fun hname projects hprojects project hproject => ?_⟩
    obtain ⟨cache', hcache', hcall⟩ := h.run_getUserProjects_call services hname
    have h' : NonAdmin call.context ({ w with cache := cache' } : World).cache u := h.of_cacheOk hcache'
    rw [hcall] at hprojects
    by_cases hrequest : ∃ request, call.payload = .ok (some request)
    · obtain ⟨request, hpayload⟩ := hrequest
      obtain ⟨username, husername, hresult⟩ := h'.run_adminGetUserProjects services hpayload
      rw [hresult] at hprojects
      rcases run_getUserProjects services username w.db with
        ⟨hlistable, hrun⟩ | ⟨-, ⟨e, hrun⟩ | hrun⟩ <;> rw [hrun] at hprojects <;> cases hprojects
      · obtain ⟨hp, hrow, henabled⟩ := mem_listedProjects.mp hproject
        rw [husername] at hlistable hp
        exact hshares hname request hpayload hlistable project.1 project.2 hp hrow henabled
      · cases hproject
    · obtain ⟨e, herror⟩ := run_adminGetUserProjects_of_no_request services
        (fun request hpayload => hrequest ⟨request, hpayload⟩) { w with cache := cache' }
      rw [herror] at hprojects
      cases hprojects

/-! ## A user who asks for another -/

/-- The row of an enabled user. -/
def enabledUser : UserRow where
  email := ""
  uid := none
  gid := none
  additionalGroups := []
  loginShell := ""
  homeDir := ""
  isSudo := false
  enabled := true
  role := "user"
  isActive := true

/-- An enabled project. -/
def enabledRow : ProjectRow where
  name := "project"
  ldapGroups := none
  users := some ["alice"]
  enabled := some true
  policyArns := none

/-- Alice has a project, and Bob has none. -/
def alicesProject : World where
  cache := Cache.empty
  db := { Db.empty with
    users := ((∅ : Table String UserRow).putItem "alice" enabledUser).putItem "bob" enabledUser
    projects := (∅ : Table String ProjectRow).putItem "p1" enabledRow
    userProjects := (∅ : Table (String × String) (List String)).putItem ("alice", "p1") ["SELF"] }
  settings := ∅
  instanceTypes := none

/-- Services without a directory, whose other methods raise. -/
def quietServices : Services where
  directoryServiceProvider := .ok none
  ldapGetUser := fun _ => .ok ()
  budgetsGetBudget := fun _ => .ok ()
  getClusterModules := .ok []
  getConfig := fun _ => .ok []
  ec2DescribeInstances := .ok []
  describeInstanceTypes := .ok []
  method := fun _ _ => Proc.raise (.unauthorizedAccess none)
  otherApi := fun _ => Proc.raise (.unauthorizedAccess none)

/-- A request of Bob with a valid token. -/
def bobsContext : InvocationContext where
  moduleId := "cluster-manager"
  administratorUsername := "clusteradmin"
  invocationSource := "http"
  tokenType := some "Bearer"
  token := some "bobs-token"
  testUsername := none
  tokenService := some ⟨fun _ => .ok ((∅ : DecodedToken).putItem "username" "bob")⟩
  apiAuthorizationService :=
    some ⟨fun username => .ok (some { username := some username, enabled := some true, role := some "user" })⟩
  testMode := false

/-- Bob asks for the projects of `username`. -/
def bobsCall (username : Option String) : Invocation where
  context := bobsContext
  namespaceName := "Projects.GetUserProjects"
  payload := .ok (some { username := username })

theorem nonAdmin_bob : NonAdmin (bobsCall username).context alicesProject.cache "bob" :=
  ⟨bobsContext.cacheOk_empty, _, rfl, rfl, rfl⟩

theorem ofClusterManager_getUserProjects : OfClusterManager (bobsCall username).namespaceName :=
  .inl (show startsWith "Projects.GetUserProjects" "Projects." = true by decide)

/-- Bob's own listing is isolated. -/
theorem isolated_own_projects : Isolated quietServices (bobsCall none) "bob" alicesProject :=
  (isolated_iff quietServices (bobsCall none) "bob" alicesProject (nonAdmin_bob none)
    (ofClusterManager_getUserProjects none)).mpr (by
      rintro - request hrequest - p row hp - -
      cases hrequest
      exact hp)

/-- Bob is shown the project of Alice. -/
theorem other_users_projects_shown : ¬ ∀ (services : Services) (call : Invocation) (u : String) (w : World),
    NonAdmin call.context w.cache u → OfClusterManager call.namespaceName → Isolated services call u w := by
  intro h
  have hisolated := h quietServices (bobsCall (some "alice")) "bob" alicesProject (nonAdmin_bob _)
    (ofClusterManager_getUserProjects _)
  have hreply : ((invoke quietServices (bobsCall (some "alice"))).run alicesProject).1 =
      .ok (.userProjects [("p1", enabledRow)]) := by rfl
  have hmember := hisolated.2 rfl _ hreply ("p1", enabledRow) List.mem_cons_self
  exact absurd hmember (by decide)

end ContainRes.Api
