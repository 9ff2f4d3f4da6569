import ContainRes.Accounts.Service
import ContainRes.Effects.Thread

/-! # The membership methods access by access

`AccountsService.add_users_to_group` and `remove_users_from_group` as threads: each read and write of a table
is an access of its own, in the order of the source.

* **`TableAccess`** — the accesses that the two methods make; **`TableAccess.serve`** is what they do.
* **`Stepwise.addUsersToGroup`**, **`Stepwise.removeUsersFromGroup`** — the methods with the methods of the
  DAOs that they call.
* **`Stepwise.alone_addUsersToGroup`**, **`Stepwise.alone_removeUsersFromGroup`** — a call that runs alone is
  the procedure of `ContainRes.Accounts.Service`. -/

namespace ContainRes.Accounts

open Effects Store Text

/-! ## The accesses -/

/-- A single read or write of a table. -/
inductive TableAccess
  | getGroup (groupName : String)
  | getUser (username : String)
  /-- `update_item` with the condition that the user exists. -/
  | updateAdditionalGroups (username : String) (groups : List String)
  | putMembership (groupName username : String)
  | deleteMembership (groupName username : String)
  | queryProjectGroups (groupName : String)
  | getProject (projectId : String)
  | getUserProject (username projectId : String)
  | putUserProject (username projectId : String) (byLdaps : List String)
  /-- `update_item` without a condition, which writes the item when there is none. -/
  | updateUserProject (username projectId : String) (byLdaps : List String)
  | deleteUserProject (username projectId : String)

/-- The answer to an access. -/
abbrev TableAccess.Answer : TableAccess → Type
  | .getGroup _ => Option GroupRow
  | .getUser _ => Option UserRow
  -- whether the condition held
  | .updateAdditionalGroups _ _ => Bool
  | .queryProjectGroups _ => List String
  | .getProject _ => Option ProjectRow
  | .getUserProject _ _ => Option (List String)
  | _ => PUnit

/-- What an access does to the database. -/
def TableAccess.serve : (op : TableAccess) → Db → op.Answer × Db
  | .getGroup groupName, db => (db.groups.getItem groupName, db)
  | .getUser username, db => (db.users.getItem username, db)
  -- without the user, nothing changes
  | .updateAdditionalGroups username groups, db =>
    ((db.users.getItem username).isSome, { db with
      users := db.users.updateItem username fun row => { row with additionalGroups := groups } })
  | .putMembership groupName username, db => (⟨⟩, db.join groupName username)
  | .deleteMembership groupName username, db => (⟨⟩, db.leave groupName username)
  | .queryProjectGroups groupName, db => (UserProjectsDao.projectIds db groupName, db)
  | .getProject projectId, db => (db.projects.getItem projectId, db)
  | .getUserProject username projectId, db => (db.userProjects.getItem (username, projectId), db)
  | .putUserProject username projectId byLdaps, db =>
    (⟨⟩, { db with userProjects := db.userProjects.putItem (username, projectId) byLdaps })
  | .updateUserProject username projectId byLdaps, db =>
    (⟨⟩, { db with userProjects := db.userProjects.putItem (username, projectId) byLdaps })
  | .deleteUserProject username projectId, db =>
    (⟨⟩, { db with userProjects := db.userProjects.deleteItem (username, projectId) })

/-- A thread on the tables. -/
abbrev DbThread (α : Type) : Type := Thread TableAccess TableAccess.Answer Exc α

/-- Make an access to a table. -/
abbrev access (op : TableAccess) : DbThread op.Answer := Thread.perform op

/-! ## The methods -/

namespace Stepwise

/-- Raise `invalid_params(message)` on a blank argument. -/
def requireNotEmpty (value message : String) : DbThread PUnit :=
  if isEmpty value then Thread.raise (.invalidParams message) else pure ⟨⟩

def getGroup (groupName : String) : DbThread (Option GroupRow) := do
  requireNotEmpty groupName "group_name is required"
  access (.getGroup groupName)

def getUser (username : String) : DbThread (Option UserRow) := do
  let username ← Thread.liftExcept (sanitizeUsername (some username))
  access (.getUser username)

/-- `update_user({'username': username, 'additional_groups': groups})`. -/
def updateAdditionalGroups (username : String) (groups : List String) : DbThread PUnit := do
  let username ← Thread.liftExcept (sanitizeUsername (some username))
  let held : Bool ← access (.updateAdditionalGroups username groups)
  if held then pure ⟨⟩ else Thread.raise conditionalCheckFailed

def createMembership (groupName username : String) : DbThread PUnit := do
  let username ← Thread.liftExcept (sanitizeUsername (some username))
  requireNotEmpty groupName "group_name is required"
  access (.putMembership groupName username)

def deleteMembership (groupName username : String) : DbThread PUnit := do
  let username ← Thread.liftExcept (sanitizeUsername (some username))
  requireNotEmpty groupName "group_name is required"
  access (.deleteMembership groupName username)

def getProjectById (projectId : String) : DbThread (Option ProjectRow) := do
  requireNotEmpty projectId "project_id is required"
  access (.getProject projectId)

/-- The reads of `create_user_project` and `delete_user_project`: `is_user_in_project(username, project_id)`,
and where the user is in the project a second read of the same item, which is subscripted. -/
def existingSources (username projectId : String) : DbThread (Option (List String)) := do
  match ← access (.getUserProject username projectId) with
  | none => pure none
  | some _ =>
    match ← access (.getUserProject username projectId) with
    | none => Thread.raise (.other .typeError "'NoneType' object is not subscriptable")
    | some existing => pure (some existing)

def createUserProject (projectId username : String) (byLdaps : List String) : DbThread PUnit := do
  requireNotEmpty projectId "project_id is required"
  requireNotEmpty username "username is required"
  match ← existingSources username projectId with
  | some existing => access (.updateUserProject username projectId (existing ++ byLdaps).dedup)
  | none => access (.putUserProject username projectId byLdaps)

def deleteUserProject (projectId username : String) (byLdaps : List String) : DbThread PUnit := do
  requireNotEmpty projectId "project_id is required"
  requireNotEmpty username "username is required"
  match ← getProjectById projectId with
  | none => Thread.raise (.soca .projectNotFound s!"project: {projectId} not found.")
  | some _ =>
    match ← getUser username with
    | none => Thread.raise (.soca .authUserNotFound s!"user: {username} not found.")
    | some _ =>
      match ← existingSources username projectId with
      | none => pure ⟨⟩
      | some existing =>
        let left := existing.dedup.filter fun source => source ∉ byLdaps
        if left = [] then access (.deleteUserProject username projectId)
        else access (.updateUserProject username projectId left)

def getProjectsByGroupName (groupName : String) : DbThread (List String) := do
  requireNotEmpty groupName "group_name is required"
  access (.queryProjectGroups groupName)

def groupMemberAdded (groupName username : String) : DbThread PUnit := do
  requireNotEmpty groupName "group_name is required"
  requireNotEmpty username "username is required"
  let projectIds ← getProjectsByGroupName groupName
  Thread.forEach (fun projectId => createUserProject projectId username [groupName]) projectIds

def groupMemberRemoved (groupName username : String) : DbThread PUnit := do
  requireNotEmpty groupName "group_name is required"
  requireNotEmpty username "username is required"
  let projectIds ← getProjectsByGroupName groupName
  Thread.forEach (fun projectId => deleteUserProject projectId username [groupName]) projectIds

variable (ctx : AccountsContext)

/-- The iteration of `add_users_to_group` for one user. -/
def addUserToGroup (groupName : String) (bypassActiveUserCheck : Bool) (username : String) :
    DbThread PUnit := do
  match ← getUser username with
  | none => Thread.raise (userNotFound username)
  | some user =>
    if user.enabled = false then Thread.raise (userIsDisabled username)
    else
      Thread.when (groupName ∉ user.additionalGroups)
        (updateAdditionalGroups username (withGroup user.additionalGroups groupName))
      Thread.when (bypassActiveUserCheck || user.isActive || ctx.isTestMode) do
        createMembership groupName username
        groupMemberAdded groupName username

def addUsersToGroup (usernames : List String) (groupName : String) (bypassActiveUserCheck : Bool) :
    DbThread PUnit := do
  Thread.when (usernames = []) (Thread.raise (.invalidParams "usernames is required"))
  requireNotEmpty groupName "group_name is required"
  match ← getGroup groupName with
  | none => Thread.raise (groupNotFound groupName)
  | some group =>
    if group.enabled = false then
      Thread.raise (.soca .authGroupIsDisabled "cannot add users to a disabled user group")
    else Thread.forEach (addUserToGroup ctx groupName bypassActiveUserCheck) usernames

/-- The iteration of `remove_users_from_group` for one user. -/
def removeUserFromGroup (groupName : String) (force : Bool) (username : String) : DbThread PUnit := do
  match ← getUser username with
  | none => if force then pure ⟨⟩ else Thread.raise (userNotFound username)
  | some user =>
    if user.enabled = false ∧ force = false then Thread.raise (userIsDisabled username)
    else
      Thread.when (groupName ∈ user.additionalGroups)
        (updateAdditionalGroups username (withoutGroup user.additionalGroups groupName))
      deleteMembership groupName username
      groupMemberRemoved groupName username

/-- The iteration of the handler of `remove_users_from_group` for a group that does not exist. -/
def reportRemovalFromDeletedGroup (username : String) : DbThread PUnit := do
  match ← getUser username with
  | none => Thread.raise (.other .typeError "'NoneType' object is not subscriptable")
  | some user =>
    if user.isActive then pure ⟨⟩
    else Thread.raise (.other .typeError "unsupported operand type(s) for -: 'list' and 'set'")

/-- The body of the `try` of `remove_users_from_group`. -/
def removeFromGroup (usernames : List String) (groupName : String) (force : Bool) : DbThread PUnit := do
  match ← getGroup groupName with
  | none => Thread.raise (groupNotFound groupName)
  | some group =>
    if group.enabled = false ∧ force = false then
      Thread.raise (.soca .authGroupIsDisabled "cannot remove users from a disabled user group")
    else Thread.forEach (removeUserFromGroup groupName force) usernames

def removeUsersFromGroup (usernames : List String) (groupName : String) (force : Bool) :
    DbThread PUnit := do
  Thread.when (usernames = []) (Thread.raise (.invalidParams "usernames is required"))
  requireNotEmpty groupName "group_name is required"
  Thread.tryCatch
    (fun e => if e.errorCode = some .authGroupNotFound then
        Thread.forEach reportRemovalFromDeletedGroup usernames
      else Thread.raise e)
    (removeFromGroup usernames groupName force)

/-! ## The methods alone -/

/-- The procedure of a thread of the tables. -/
def alone {α : Type} (t : DbThread α) : DbProc α := t.toProc TableAccess.serve

section

variable {α β : Type}

@[simp] theorem alone_pure (a : α) : alone (pure a) = pure a := rfl

@[simp] theorem alone_raise (e : Exc) : alone (Thread.raise e : DbThread α) = Proc.raise e := rfl

@[simp] theorem alone_bind (t : DbThread β) (f : β → DbThread α) :
    alone (t >>= f) = alone t >>= fun b => alone (f b) := Thread.toProc_bind _ t f

@[simp] theorem alone_when (b : Prop) [Decidable b] (t : DbThread PUnit) :
    alone (Thread.when b t) = Proc.when b (alone t) := Thread.toProc_when _ b t

@[simp] theorem alone_forEach (f : β → DbThread PUnit) (bs : List β) :
    alone (Thread.forEach f bs) = Proc.forEach (fun b => alone (f b)) bs := Thread.toProc_forEach _ f bs

@[simp] theorem alone_tryCatch (t : DbThread α) (handler : Exc → DbThread α) :
    alone (t.tryCatch handler) = Proc.tryCatch (alone t) fun e => alone (handler e) :=
  Thread.toProc_tryCatch _ t handler

@[simp] theorem alone_liftExcept (r : Except Exc α) :
    alone (Thread.liftExcept r) = Proc.liftExcept r := Thread.toProc_liftExcept _ r

@[simp] theorem alone_ite (b : Prop) [Decidable b] (t t' : DbThread α) :
    alone (if b then t else t') = if b then alone t else alone t' := apply_ite alone b t t'

theorem run_alone_access (op : TableAccess) (db : Db) :
    (alone (access op)).run db = (.ok (op.serve db).1, (op.serve db).2) := rfl

end

@[simp] theorem alone_requireNotEmpty (value message : String) :
    alone (requireNotEmpty value message) = Accounts.requireNotEmpty value message := by
  simp [requireNotEmpty, Accounts.requireNotEmpty]

variable (groupName : String)

@[simp] theorem alone_getGroup : alone (getGroup groupName) = GroupDao.getGroup groupName := by
  unfold getGroup GroupDao.getGroup
  rw [alone_bind, alone_requireNotEmpty]
  rfl

variable (username : String)

@[simp] theorem alone_getUser : alone (getUser username) = UserDao.getUser username := by
  unfold getUser UserDao.getUser
  rw [alone_bind, alone_liftExcept]
  rfl

@[simp] theorem alone_getProjectById (projectId : String) :
    alone (getProjectById projectId) = ProjectsDao.getProjectById projectId := by
  unfold getProjectById ProjectsDao.getProjectById
  rw [alone_bind, alone_requireNotEmpty]
  rfl

@[simp] theorem alone_getProjectsByGroupName :
    alone (getProjectsByGroupName groupName) = UserProjectsDao.getProjectsByGroupName groupName := by
  unfold getProjectsByGroupName UserProjectsDao.getProjectsByGroupName
  rw [alone_bind, alone_requireNotEmpty]
  rfl

variable (groupName username : String)

@[simp] theorem alone_createMembership :
    alone (createMembership groupName username) = GroupMembersDao.createMembership groupName username := by
  unfold createMembership GroupMembersDao.createMembership
  simp only [alone_bind, alone_liftExcept, alone_requireNotEmpty]
  rfl

@[simp] theorem alone_deleteMembership :
    alone (deleteMembership groupName username) = GroupMembersDao.deleteMembership groupName username := by
  unfold deleteMembership GroupMembersDao.deleteMembership
  simp only [alone_bind, alone_liftExcept, alone_requireNotEmpty]
  rfl

@[simp] theorem alone_updateAdditionalGroups (groups : List String) :
    alone (updateAdditionalGroups username groups) = Accounts.updateAdditionalGroups username groups := by
  unfold updateAdditionalGroups Accounts.updateAdditionalGroups UserDao.updateUser
  simp only [alone_bind, alone_liftExcept]
  refine congrArg _ (funext fun username => Proc.ext fun db => ?_)
  rw [Proc.run_bind, run_alone_access]
  cases hrow : db.users.getItem username with
  | none => simp [TableAccess.serve, Proc.run_bind, Table.updateItem, hrow]
  | some row => simp [TableAccess.serve, Proc.run_bind, hrow]

/-- Both reads answer the sources of the user in the project. -/
theorem run_alone_existingSources (username projectId : String) (db : Db) :
    (alone (existingSources username projectId)).run db =
      (.ok (db.userProjects.getItem (username, projectId)), db) := by
  unfold existingSources
  rw [alone_bind, Proc.run_bind_of_ok (run_alone_access _ db)]
  cases hrow : db.userProjects.getItem (username, projectId) with
  | none => simp [TableAccess.serve, hrow]
  | some existing =>
    simp only [TableAccess.serve, hrow]
    rw [alone_bind, Proc.run_bind_of_ok (run_alone_access _ db)]
    simp [TableAccess.serve, hrow]

@[simp] theorem alone_createUserProject (projectId username : String) (byLdaps : List String) :
    alone (createUserProject projectId username byLdaps) =
      UserProjectsDao.createUserProject projectId username byLdaps := by
  unfold createUserProject UserProjectsDao.createUserProject
  simp only [alone_bind, alone_requireNotEmpty]
  refine congrArg _ (funext fun _ => congrArg _ (funext fun _ => Proc.ext fun db => ?_))
  rw [Proc.run_bind_of_ok (run_alone_existingSources username projectId db), Proc.run_modify, Db.grant]
  cases hrow : db.userProjects.getItem (username, projectId) with
  | none => rfl
  | some existing => rfl

@[simp] theorem alone_deleteUserProject (projectId username : String) (byLdaps : List String) :
    alone (deleteUserProject projectId username byLdaps) =
      UserProjectsDao.deleteUserProject projectId username byLdaps := by
  unfold deleteUserProject UserProjectsDao.deleteUserProject
  simp only [alone_bind, alone_requireNotEmpty, alone_getProjectById]
  refine congrArg _ (funext fun _ => congrArg _ (funext fun _ => congrArg _ (funext fun project => ?_)))
  cases project with
  | none => rfl
  | some project =>
    simp only [alone_bind, alone_getUser]
    refine congrArg _ (funext fun user => ?_)
    cases user with
    | none => rfl
    | some user =>
      refine Proc.ext fun db => ?_
      simp only [alone_bind]
      rw [Proc.run_bind_of_ok (run_alone_existingSources username projectId db), Proc.run_modify, Db.revoke]
      cases hrow : db.userProjects.getItem (username, projectId) with
      | none => rfl
      | some existing =>
        dsimp only
        split <;> rfl

@[simp] theorem alone_groupMemberAdded :
    alone (groupMemberAdded groupName username) = UserProjectsDao.groupMemberAdded groupName username := by
  simp [groupMemberAdded, UserProjectsDao.groupMemberAdded]

@[simp] theorem alone_groupMemberRemoved : alone (groupMemberRemoved groupName username) =
      UserProjectsDao.groupMemberRemoved groupName username := by
  simp [groupMemberRemoved, UserProjectsDao.groupMemberRemoved]

variable {ctx}

@[simp] theorem alone_addUserToGroup (bypass : Bool) (username : String) :
    alone (addUserToGroup ctx groupName bypass username) = Accounts.addUserToGroup ctx groupName bypass username := by
  unfold addUserToGroup Accounts.addUserToGroup
  rw [alone_bind, alone_getUser]
  refine congrArg _ (funext fun user => ?_)
  cases user with
  | none => rfl
  | some user => simp [-Bool.or_eq_true]

/-- **A call of `add_users_to_group` that runs alone.** -/
theorem alone_addUsersToGroup (usernames : List String) (groupName : String) (bypass : Bool) :
    alone (addUsersToGroup ctx usernames groupName bypass) =
      Accounts.addUsersToGroup ctx usernames groupName bypass := by
  unfold addUsersToGroup Accounts.addUsersToGroup
  simp only [alone_bind, alone_when, alone_raise, alone_requireNotEmpty, alone_getGroup]
  refine congrArg _ (funext fun _ => congrArg _ (funext fun _ => congrArg _ (funext fun group => ?_)))
  cases group with
  | none => rfl
  | some group => simp

@[simp] theorem alone_removeUserFromGroup (force : Bool) (username : String) :
    alone (removeUserFromGroup groupName force username) = Accounts.removeUserFromGroup groupName force username := by
  unfold removeUserFromGroup Accounts.removeUserFromGroup
  rw [alone_bind, alone_getUser]
  refine congrArg _ (funext fun user => ?_)
  cases user with
  | none => cases force <;> rfl
  | some user => simp

@[simp] theorem alone_reportRemovalFromDeletedGroup :
    alone (reportRemovalFromDeletedGroup username) = Accounts.reportRemovalFromDeletedGroup username := by
  unfold reportRemovalFromDeletedGroup Accounts.reportRemovalFromDeletedGroup
  rw [alone_bind, alone_getUser]
  refine congrArg _ (funext fun user => ?_)
  cases user with
  | none => rfl
  | some user => simp

/-- **A call of `remove_users_from_group` that runs alone.** -/
theorem alone_removeUsersFromGroup (usernames : List String) (groupName : String) (force : Bool) :
    alone (removeUsersFromGroup usernames groupName force) =
      Accounts.removeUsersFromGroup usernames groupName force := by
  unfold removeUsersFromGroup removeFromGroup Accounts.removeUsersFromGroup
  simp only [alone_bind, alone_when, alone_raise, alone_requireNotEmpty, alone_tryCatch, alone_getGroup,
    alone_ite, alone_forEach, alone_reportRemovalFromDeletedGroup]
  refine congrArg _ (funext fun _ => congrArg _ (funext fun _ => ?_))
  refine congrArg (fun c => Proc.tryCatch c _) (congrArg _ (funext fun group => ?_))
  cases group with
  | none => rfl
  | some group => simp

end Stepwise

end ContainRes.Accounts
