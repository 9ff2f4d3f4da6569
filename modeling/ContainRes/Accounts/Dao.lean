import ContainRes.Common.Exceptions
import ContainRes.Common.Model
import ContainRes.Effects.Proc
import ContainRes.Store.Table
import ContainRes.Tasks.TaskMessage
import ContainRes.Text.Python

/-! # The tables of accounts and projects

The six tables that accounts and projects live in, and their data access objects, as procedures on a
database that may raise.

* **`Db`** — users, groups, group-members, projects, project-groups and user-projects, and the
  messages handed to the task manager.
* **`UserDao`**, **`GroupDao`**, **`GroupMembersDao`**, **`ProjectsDao`**, **`UserProjectsDao`** —
  the methods of the classes of these names.
* **`Db.grant`**, **`Db.revoke`** — what `create_user_project` and `delete_user_project` do to the
  provenance of one user in one project. -/

namespace ContainRes.Accounts

open Effects Store Tasks Text

/-! ## Rows -/

/-- A row of `accounts.users`, under its username. -/
structure UserRow where
  email : String
  uid : Option Nat
  gid : Option Nat
  additionalGroups : List String
  loginShell : String
  homeDir : String
  /-- `sudo`. -/
  isSudo : Bool
  enabled : Bool
  role : String
  isActive : Bool
  deriving DecidableEq, Repr

/-- A row of `accounts.groups`, under its group name. -/
structure GroupRow where
  title : Option String
  dsName : Option String
  gid : Option Nat
  groupType : Option String
  type : Option String
  enabled : Bool
  role : Option String
  deriving DecidableEq, Repr

/-- A row of `projects`, under its project id; an attribute that was never written is missing. -/
structure ProjectRow where
  name : String
  ldapGroups : Option (List String)
  users : Option (List String)
  enabled : Option Bool
  policyArns : Option (List String)
  deriving DecidableEq, Repr

/-- The database of the cluster manager. -/
structure Db where
  users : Table String UserRow
  groups : Table String GroupRow
  /-- Keyed by group name and username. -/
  groupMembers : Table (String × String) Unit
  projects : Table String ProjectRow
  /-- Keyed by group name and project id. -/
  projectGroups : Table (String × String) Unit
  /-- The attribute `by_ldaps`, keyed by username and project id. -/
  userProjects : Table (String × String) (List String)
  /-- The messages handed to the task manager, oldest first. -/
  sent : List TaskMessage

/-- The database with empty tables. -/
def Db.empty : Db :=
  { users := ∅, groups := ∅, groupMembers := ∅, projects := ∅, projectGroups := ∅,
    userProjects := ∅, sent := [] }

/-- A procedure on the database. -/
abbrev DbProc (α : Type) : Type := Proc Db Exc α

/-- `self.task_manager.send(...)`. -/
def sendTask (message : TaskMessage) : DbProc PUnit :=
  Proc.modify fun db => { db with sent := db.sent ++ [message] }

/-- The failure of a `ConditionExpression`. -/
def conditionalCheckFailed : Exc := .other .clientError "ConditionalCheckFailedException"

/-- Raise `invalid_params(message)` on a blank argument. -/
def requireNotEmpty (value : String) (message : String) : DbProc PUnit :=
  if isEmpty value then Proc.raise (.invalidParams message) else pure ⟨⟩

theorem run_requireNotEmpty (value message : String) (db : Db) : (requireNotEmpty value message).run db =
      if isEmpty value then (.error (.invalidParams message), db) else (.ok ⟨⟩, db) := by
  unfold requireNotEmpty
  split <;> rfl

@[simp] theorem run_requireNotEmpty_of_not_isEmpty {value : String} (h : isEmpty value = false)
    (message : String) (db : Db) : (requireNotEmpty value message).run db = (.ok ⟨⟩, db) := by
  rw [run_requireNotEmpty, h]
  rfl

@[simp] theorem run_requireNotEmpty_of_isEmpty {value : String} (h : isEmpty value = true)
    (message : String) (db : Db) : (requireNotEmpty value message).run db = (.error (.invalidParams message), db) := by
  rw [run_requireNotEmpty, h]
  rfl

/-- A blank argument is refused, and what comes after the check knows that it is not blank. -/
theorem triple_requireNotEmpty {α : Type} {P : Db → Prop} {Q : α → Db → Prop} {E : Exc → Db → Prop}
    {value message : String} {c : DbProc α} (hE : ∀ s, P s → E (.invalidParams message) s)
    (hc : isEmpty value = false → Triple P c Q E) : Triple P (requireNotEmpty value message >>= fun _ => c) Q E := by
  intro s hs
  rcases hvalue : isEmpty value with _ | _
  · rw [Proc.run_bind_of_ok (run_requireNotEmpty_of_not_isEmpty hvalue _ s)]
    exact hc hvalue s hs
  · rw [Proc.run_bind_of_error (run_requireNotEmpty_of_isEmpty hvalue _ s)]
    exact hE s hs

/-! ## `AuthUtils` -/

/-- A username as the tables store it: stripped and in lower case. -/
def sanitized (username : String) : String := lower (strip username)

def sanitizeUsername (username : Option String) : Except Exc String :=
  match username with
  | none => .error (.invalidParams "username is required")
  | some username =>
    if isEmpty username then .error (.invalidParams "username is required")
    else .ok (sanitized username)

variable (username : String)

@[simp] theorem sanitized_idem : sanitized (sanitized username) = sanitized username :=
  lower_strip_idem username

@[simp] theorem isEmpty_sanitized : isEmpty (sanitized username) = isEmpty username :=
  isEmpty_lower_strip username

@[simp] theorem sanitizeUsername_of_not_isEmpty {username : String} (h : isEmpty username = false) :
    sanitizeUsername (some username) = .ok (sanitized username) := by
  simp [sanitizeUsername, h]

@[simp] theorem sanitizeUsername_of_isEmpty {username : String} (h : isEmpty username = true) :
    sanitizeUsername (some username) = .error (.invalidParams "username is required") := by
  simp [sanitizeUsername, h]

/-! ## `UserDAO` -/

namespace UserDao

def getUser (username : String) : DbProc (Option UserRow) := do
  let username ← Proc.liftExcept (sanitizeUsername (some username))
  Proc.gets fun db => db.users.getItem username

def createUser (username : String) (user : UserRow) : DbProc PUnit := do
  let username ← Proc.liftExcept (sanitizeUsername (some username))
  match ← Proc.gets fun db => db.users.getItem username with
  | some _ => Proc.raise conditionalCheckFailed
  | none => Proc.modify fun db => { db with users := db.users.putItem username user }

/-- `update_user({'username': username, ...})`; `update` sets the other attributes given. -/
def updateUser (username : String) (update : UserRow → UserRow) : DbProc PUnit := do
  let username ← Proc.liftExcept (sanitizeUsername (some username))
  match ← Proc.gets fun db => db.users.getItem username with
  | none => Proc.raise conditionalCheckFailed
  | some _ => Proc.modify fun db => { db with users := db.users.updateItem username update }

def deleteUser (username : String) : DbProc PUnit := do
  let username ← Proc.liftExcept (sanitizeUsername (some username))
  Proc.modify fun db => { db with users := db.users.deleteItem username }

theorem run_getUser (db : Db) : (getUser username).run db =
      if isEmpty username then (.error (.invalidParams "username is required"), db)
      else (.ok (db.users.getItem (sanitized username)), db) := by
  rcases h : isEmpty username with _ | _ <;> simp [getUser, Proc.run_bind, h]

theorem run_createUser (user : UserRow) (db : Db) : (createUser username user).run db =
      if isEmpty username then (.error (.invalidParams "username is required"), db)
      else
        match db.users.getItem (sanitized username) with
        | some _ => (.error conditionalCheckFailed, db)
        | none => (.ok ⟨⟩, { db with users := db.users.putItem (sanitized username) user }) := by
  rcases h : isEmpty username with _ | _
  · rcases hget : db.users.getItem (sanitized username) with _ | row <;>
      simp [createUser, Proc.run_bind, h, hget]
  · simp [createUser, Proc.run_bind, h]

theorem run_updateUser (update : UserRow → UserRow) (db : Db) :
    (updateUser username update).run db = if isEmpty username then (.error (.invalidParams "username is required"), db)
      else
        match db.users.getItem (sanitized username) with
        | none => (.error conditionalCheckFailed, db)
        | some _ =>
          (.ok ⟨⟩, { db with users := db.users.updateItem (sanitized username) update }) := by
  rcases h : isEmpty username with _ | _
  · rcases hget : db.users.getItem (sanitized username) with _ | row <;>
      simp [updateUser, Proc.run_bind, h, hget]
  · simp [updateUser, Proc.run_bind, h]

theorem run_deleteUser (db : Db) : (deleteUser username).run db =
      if isEmpty username then (.error (.invalidParams "username is required"), db)
      else (.ok ⟨⟩, { db with users := db.users.deleteItem (sanitized username) }) := by
  rcases h : isEmpty username with _ | _ <;> simp [deleteUser, Proc.run_bind, h]

def convertFromDb (username : String) (user : UserRow) : User :=
  { username := getAsString (some username), email := getAsString (some user.email),
    uid := user.uid, gid := user.gid,
    additionalGroups := if user.additionalGroups = [] then none else some user.additionalGroups,
    loginShell := getAsString (some user.loginShell), homeDir := getAsString (some user.homeDir),
    isSudo := some user.isSudo, enabled := some user.enabled, role := some user.role,
    isActive := some user.isActive }

end UserDao

/-! ## `GroupDAO` -/

namespace GroupDao

def getGroup (groupName : String) : DbProc (Option GroupRow) := do
  requireNotEmpty groupName "group_name is required"
  Proc.gets fun db => db.groups.getItem groupName

def createGroup (groupName : String) (group : GroupRow) : DbProc PUnit := do
  requireNotEmpty groupName "group_name is required"
  match ← Proc.gets fun db => db.groups.getItem groupName with
  | some _ => Proc.raise conditionalCheckFailed
  | none => Proc.modify fun db => { db with groups := db.groups.putItem groupName group }

def deleteGroup (groupName : String) : DbProc PUnit := do
  requireNotEmpty groupName "group_name is required"
  Proc.modify fun db => { db with groups := db.groups.deleteItem groupName }

variable (groupName : String)

theorem run_getGroup (db : Db) : (getGroup groupName).run db =
      if isEmpty groupName then (.error (.invalidParams "group_name is required"), db)
      else (.ok (db.groups.getItem groupName), db) := by
  rcases h : isEmpty groupName with _ | _ <;> simp [getGroup, Proc.run_bind, h]

theorem run_createGroup (group : GroupRow) (db : Db) : (createGroup groupName group).run db =
      if isEmpty groupName then (.error (.invalidParams "group_name is required"), db)
      else
        match db.groups.getItem groupName with
        | some _ => (.error conditionalCheckFailed, db)
        | none => (.ok ⟨⟩, { db with groups := db.groups.putItem groupName group }) := by
  rcases h : isEmpty groupName with _ | _
  · rcases hget : db.groups.getItem groupName with _ | row <;>
      simp [createGroup, Proc.run_bind, h, hget]
  · simp [createGroup, Proc.run_bind, h]

theorem run_deleteGroup (db : Db) : (deleteGroup groupName).run db =
      if isEmpty groupName then (.error (.invalidParams "group_name is required"), db)
      else (.ok ⟨⟩, { db with groups := db.groups.deleteItem groupName }) := by
  rcases h : isEmpty groupName with _ | _ <;> simp [deleteGroup, Proc.run_bind, h]

def convertFromDb (groupName : String) (group : GroupRow) : Group :=
  { title := getAsString group.title, name := getAsString (some groupName),
    dsName := getAsString group.dsName, gid := group.gid,
    groupType := getAsString group.groupType, type := getAsString group.type,
    enabled := some group.enabled, role := getAsString group.role }

end GroupDao

/-! ## `GroupMembersDAO` -/

/-- The database with one more membership. -/
def Db.join (db : Db) (groupName username : String) : Db :=
  { db with groupMembers := db.groupMembers.putItem (groupName, username) () }

/-- The database with one membership less. -/
def Db.leave (db : Db) (groupName username : String) : Db :=
  { db with groupMembers := db.groupMembers.deleteItem (groupName, username) }

/-- The user is a member of the group. -/
def Db.IsMember (db : Db) (groupName username : String) : Prop :=
  db.groupMembers.Has (groupName, username)

variable {db : Db}

@[simp] theorem Db.isMember_join {g u g' u' : String} :
    (db.join g u).IsMember g' u' ↔ g' = g ∧ u' = u ∨ db.IsMember g' u' := by
  simp [Db.join, Db.IsMember]

@[simp] theorem Db.isMember_leave {g u g' u' : String} :
    (db.leave g u).IsMember g' u' ↔ ¬ (g' = g ∧ u' = u) ∧ db.IsMember g' u' := by
  simp [Db.leave, Db.IsMember]

namespace GroupMembersDao

def createMembership (groupName username : String) : DbProc PUnit := do
  let username ← Proc.liftExcept (sanitizeUsername (some username))
  requireNotEmpty groupName "group_name is required"
  Proc.modify fun db => db.join groupName username

def deleteMembership (groupName username : String) : DbProc PUnit := do
  let username ← Proc.liftExcept (sanitizeUsername (some username))
  requireNotEmpty groupName "group_name is required"
  Proc.modify fun db => db.leave groupName username

/-- The usernames of the membership rows of a group. -/
def usernames (db : Db) (groupName : String) : List String :=
  (db.groupMembers.queryKeys fun key => key.1 = groupName).map Prod.snd

def hasUsersInGroup (groupName : String) : DbProc Bool :=
  Proc.gets fun db => !(usernames db groupName).isEmpty

def getUsernamesInGroup (groupName : String) : DbProc (List String) := do
  requireNotEmpty groupName "group_name is required"
  Proc.gets fun db => usernames db groupName

variable {groupName username : String}

theorem run_createMembership (hg : isEmpty groupName = false)
    (hu : isEmpty username = false) (db : Db) : (createMembership groupName username).run db =
      (.ok ⟨⟩, db.join groupName (sanitized username)) := by
  simp [createMembership, Proc.run_bind, hg, hu]

theorem run_deleteMembership (hg : isEmpty groupName = false)
    (hu : isEmpty username = false) (db : Db) : (deleteMembership groupName username).run db =
      (.ok ⟨⟩, db.leave groupName (sanitized username)) := by
  simp [deleteMembership, Proc.run_bind, hg, hu]

@[simp] theorem run_hasUsersInGroup (groupName : String) (db : Db) :
    (hasUsersInGroup groupName).run db = (.ok (!(usernames db groupName).isEmpty), db) := rfl

theorem run_getUsernamesInGroup {groupName : String} (hg : isEmpty groupName = false) (db : Db) :
    (getUsernamesInGroup groupName).run db = (.ok (usernames db groupName), db) := by
  simp [getUsernamesInGroup, Proc.run_bind, hg]

@[simp] theorem mem_usernames : username ∈ usernames db groupName ↔ db.IsMember groupName username := by
  simp [usernames, Db.IsMember]

end GroupMembersDao

/-! ## `ProjectsDAO` -/

namespace ProjectsDao

def getProjectById (projectId : String) : DbProc (Option ProjectRow) := do
  requireNotEmpty projectId "project_id is required"
  Proc.gets fun db => db.projects.getItem projectId

def updateProject (projectId : String) (update : ProjectRow → ProjectRow) : DbProc PUnit := do
  requireNotEmpty projectId "project_id is required"
  let projectId := strip projectId
  match ← Proc.gets fun db => db.projects.getItem projectId with
  | none => Proc.raise conditionalCheckFailed
  | some _ => Proc.modify fun db => { db with projects := db.projects.updateItem projectId update }

end ProjectsDao

/-! ## `UserProjectsDAO` -/

/-- The group is mapped to the project. -/
def Db.IsMapped (db : Db) (groupName projectId : String) : Prop :=
  db.projectGroups.Has (groupName, projectId)

/-- The provenance of a user in a project after `create_user_project`: the union of the old and the
new sources, or the new ones where there was no row. -/
def Db.grant (db : Db) (projectId username : String) (byLdaps : List String) : Db :=
  let sources :=
    match db.userProjects.getItem (username, projectId) with
    | some existing => (existing ++ byLdaps).dedup
    | none => byLdaps
  { db with userProjects := db.userProjects.putItem (username, projectId) sources }

/-- The provenance of a user in a project after `delete_user_project`: the difference of the old and
the given sources, and no row where none is left. -/
def Db.revoke (db : Db) (projectId username : String) (byLdaps : List String) : Db :=
  match db.userProjects.getItem (username, projectId) with
  | none => db
  | some existing =>
    let left := existing.dedup.filter fun source => source ∉ byLdaps
    { db with userProjects :=
        if left = [] then db.userProjects.deleteItem (username, projectId)
        else db.userProjects.putItem (username, projectId) left }

namespace UserProjectsDao

def createUserProject (projectId username : String) (byLdaps : List String) : DbProc PUnit := do
  requireNotEmpty projectId "project_id is required"
  requireNotEmpty username "username is required"
  Proc.modify fun db => db.grant projectId username byLdaps

def deleteUserProject (projectId username : String) (byLdaps : List String) : DbProc PUnit := do
  requireNotEmpty projectId "project_id is required"
  requireNotEmpty username "username is required"
  match ← ProjectsDao.getProjectById projectId with
  | none => Proc.raise (.soca .projectNotFound s!"project: {projectId} not found.")
  | some _ =>
    match ← UserDao.getUser username with
    | none => Proc.raise (.soca .authUserNotFound s!"user: {username} not found.")
    | some _ => Proc.modify fun db => db.revoke projectId username byLdaps

def ldapGroupAdded (projectId groupName : String) : DbProc PUnit := do
  requireNotEmpty projectId "project_id is required"
  requireNotEmpty groupName "group_name is required"
  Proc.modify fun db =>
    { db with projectGroups := db.projectGroups.putItem (groupName, projectId) () }
  let usernames ← GroupMembersDao.getUsernamesInGroup groupName
  Proc.forEach (fun username => createUserProject projectId username [groupName]) usernames

def ldapGroupRemoved (projectId groupName : String) : DbProc PUnit := do
  requireNotEmpty projectId "project_id is required"
  requireNotEmpty groupName "group_name is required"
  Proc.modify fun db =>
    { db with projectGroups := db.projectGroups.deleteItem (groupName, projectId) }
  let usernames ← GroupMembersDao.getUsernamesInGroup groupName
  Proc.forEach (fun username => deleteUserProject projectId username [groupName]) usernames

/-- The project ids of the rows of a group in project-groups. -/
def projectIds (db : Db) (groupName : String) : List String :=
  (db.projectGroups.queryKeys fun key => key.1 = groupName).map Prod.snd

@[simp] theorem mem_projectIds {groupName projectId : String} :
    projectId ∈ projectIds db groupName ↔ db.IsMapped groupName projectId := by
  simp [projectIds, Db.IsMapped]

theorem projectIds_eq_nil {groupName : String}
    (h : ∀ projectId, ¬ db.IsMapped groupName projectId) : projectIds db groupName = [] :=
  List.eq_nil_iff_forall_not_mem.mpr fun projectId hmem => h projectId (mem_projectIds.mp hmem)

def getProjectsByGroupName (groupName : String) : DbProc (List String) := do
  requireNotEmpty groupName "group_name is required"
  Proc.gets fun db => projectIds db groupName

def hasProjectsInGroup (groupName : String) : DbProc Bool :=
  Proc.gets fun db => !(projectIds db groupName).isEmpty

def groupMemberAdded (groupName username : String) : DbProc PUnit := do
  requireNotEmpty groupName "group_name is required"
  requireNotEmpty username "username is required"
  let projectIds ← getProjectsByGroupName groupName
  Proc.forEach (fun projectId => createUserProject projectId username [groupName]) projectIds

def groupMemberRemoved (groupName username : String) : DbProc PUnit := do
  requireNotEmpty groupName "group_name is required"
  requireNotEmpty username "username is required"
  let projectIds ← getProjectsByGroupName groupName
  Proc.forEach (fun projectId => deleteUserProject projectId username [groupName]) projectIds

theorem run_groupMemberAdded {groupName username : String} (hg : isEmpty groupName = false)
    (hu : isEmpty username = false) (db : Db) : (groupMemberAdded groupName username).run db =
      (Proc.forEach (fun projectId => createUserProject projectId username [groupName])
        (projectIds db groupName)).run db := by
  simp [groupMemberAdded, getProjectsByGroupName, Proc.run_bind, hg, hu]

theorem run_groupMemberRemoved {groupName username : String} (hg : isEmpty groupName = false)
    (hu : isEmpty username = false) (db : Db) : (groupMemberRemoved groupName username).run db =
      (Proc.forEach (fun projectId => deleteUserProject projectId username [groupName])
        (projectIds db groupName)).run db := by
  simp [groupMemberRemoved, getProjectsByGroupName, Proc.run_bind, hg, hu]

/-- `project['ldap_groups']` or `project['users']` of a row that may lack it. -/
def requireField (key : String) : Option (List String) → DbProc (List String)
  | some value => pure value
  | none => Proc.raise (.other .keyError s!"'{key}'")

/-- The project of `project_enabled` and `project_disabled`, which subscript it without a test. -/
def getProject (projectId : String) : DbProc ProjectRow := do
  match ← ProjectsDao.getProjectById projectId with
  | some project => return project
  | none => Proc.raise (.other .typeError "'NoneType' object is not subscriptable")

def projectDisabled (projectId : String) : DbProc PUnit := do
  requireNotEmpty projectId "project_id is required"
  let project ← getProject projectId
  let ldapGroups ← requireField "ldap_groups" project.ldapGroups
  let usernames ← requireField "users" project.users
  Proc.forEach (fun ldapGroup => ldapGroupRemoved projectId ldapGroup) ldapGroups
  Proc.forEach (fun username => deleteUserProject projectId username ["SELF"]) usernames

def projectEnabled (projectId : String) : DbProc PUnit := do
  requireNotEmpty projectId "project_id is required"
  let project ← getProject projectId
  let ldapGroups ← requireField "ldap_groups" project.ldapGroups
  Proc.forEach (fun ldapGroup => ldapGroupAdded projectId ldapGroup) ldapGroups
  Proc.forEach (fun user => createUserProject projectId user ["SELF"]) (project.users.getD [])

end UserProjectsDao

end ContainRes.Accounts
