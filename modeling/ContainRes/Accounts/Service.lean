import ContainRes.Accounts.Dao

/-! # The accounts service

The operations of `AccountsService` on users, groups and memberships, statement by statement over the
data access objects. An operation that raises leaves behind the writes it made before.

* **`AccountsContext`** — what an operation reads outside the database: the directory, the settings
  and the clients of other services, as they stand while the operation runs.
* **`createGroup`**, **`deleteGroup`**, **`addUsersToGroup`**, **`removeUserFromGroups`**,
  **`removeUsersFromGroup`** — groups and their members.
* **`createUser`**, **`activateUser`**, **`enableUser`**, **`disableUser`**, **`deleteUser`** —
  users. -/

namespace ContainRes.Accounts

open Effects Store Text

/-- The password policy of the user pool. -/
structure PasswordPolicy where
  minimumLength : Nat
  requireNumbers : Bool
  requireUppercase : Bool
  requireLowercase : Bool
  requireSymbols : Bool

/-- What an operation of the accounts service reads outside the database. -/
structure AccountsContext where
  /-- The required setting `cluster.administrator_username`. -/
  administratorUsername : String
  /-- `Utils.is_test_mode()`. -/
  isTestMode : Bool
  /-- `ldap_client.is_readonly()`. -/
  isReadonly : Bool
  /-- `ldap_client.get_group(group_name)`: the entry `name` of the group found, if any. -/
  getLdapGroup : String → Except Exc (Option (Option String))
  /-- `sssd.get_gid_for_group(groupname)`. -/
  getGidForGroup : String → Option Nat
  /-- `ldap_client.is_existing_user(username)`. -/
  isExistingUser : String → Except Exc Bool
  /-- `sssd.get_uid_and_gid_for_user(username)`. -/
  getUidAndGidForUser : String → Option (Nat × Nat)
  /-- `validators.email(email)`. -/
  isValidEmail : String → Bool
  /-- `user_pool.describe_password_policy()`. -/
  passwordPolicy : PasswordPolicy
  /-- `user_pool.admin_create_user(username, ...)`. -/
  adminCreateUser : String → Except Exc Unit
  /-- `evdi_client.publish_user_disabled_event(username)`. -/
  publishUserDisabledEvent : String → Except Exc Unit

variable (ctx : AccountsContext)

def AccountsContext.isClusterAdministrator (username : String) : Bool :=
  username == ctx.administratorUsername

/-- The exception of an operation on a user that does not exist. -/
def userNotFound (username : String) : Exc := .soca .authUserNotFound s!"user not found: {username}"

/-- The exception of an operation on a disabled user. -/
def userIsDisabled (username : String) : Exc :=
  .soca .authUserIsDisabled s!"user is disabled: {username}"

/-- The exception of an operation on a group that does not exist. -/
def groupNotFound (groupName : String) : Exc :=
  .soca .authGroupNotFound s!"group: {groupName} not found."

/-! ## Groups -/

def getGroup (groupName : String) : DbProc Group := do
  requireNotEmpty groupName "group_name is required"
  match ← GroupDao.getGroup groupName with
  | none => Proc.raise (.soca .authGroupNotFound s!"Group not found: {groupName}")
  | some group => return GroupDao.convertFromDb groupName group

/-- The names in `ALL_GROUP_TYPES`. -/
def allGroupTypes : List String := ["user", "project", "module", "cluster"]

def groupTypeExternal : String := "external"

def groupTypeInternal : String := "internal"

/-- The GID of an external group in a read-only directory service. -/
def gidOfDirectoryGroup (dsName : Option String) : Except Exc Nat :=
  match dsName with
  | none => .error (.invalidParams "group.ds_name is required when using Read-Only Directory Service: activedirectory")
  | some dsName =>
    if dsName = "" then .error (.invalidParams
      "group.ds_name is required when using Read-Only Directory Service: activedirectory")
    else
      match ctx.getLdapGroup dsName with
      | .error e => .error e
      | .ok none => .error (.invalidParams
          s!"group with name {dsName} is not found in Read-Only Directory Service: activedirectory")
      | .ok (some none) => .error (.invalidParams
          s!"Group name matching the provided name {dsName} is not found in Directory Service: activedirectory")
      | .ok (some (some groupNameInAd)) =>
        if groupNameInAd ≠ dsName then .error (.invalidParams
          s!"group.ds_name {dsName} does not match the value {groupNameInAd} read from Directory Service: activedirectory")
        else
          match ctx.getGidForGroup groupNameInAd with
          | none => .error (.soca .gidNotFound
              s!"Unable to retrieve GID for Group: {groupNameInAd}")
          | some gid => .ok gid

/-- The checks of `create_group` before it looks at the database: the group name, the group type and
the type, `external` unless given. -/
def checkGroup (group : Group) : Except Exc (String × String × String) :=
  match group.name with
  | none => .error (.invalidParams "group.name is required")
  | some groupName =>
    if groupName = "" then .error (.invalidParams "group.name is required")
    else
      let groupType := group.groupType.getD ""
      let type := if group.type.getD "" = "" then groupTypeExternal else group.type.getD ""
      if groupType = "" then .error (.invalidParams "group.group_type is required")
      else if groupType ∉ allGroupTypes then
        .error (.invalidParams s!"invalid group type: {groupType}. must be one of: {allGroupTypes}")
      else if type ∉ [groupTypeExternal, groupTypeInternal] then
        .error (.invalidParams s!"invalid group type: {type}. must be one of: {[groupTypeExternal, groupTypeInternal]}")
      else .ok (groupName, groupType, type)

def createGroup (group : Group) : DbProc Group := do
  let (groupName, groupType, type) ← Proc.liftExcept (checkGroup group)
  match ← GroupDao.getGroup groupName with
  | some _ => Proc.raise (.invalidParams s!"group: {groupName} already exists")
  | none =>
    let gid ← Proc.liftExcept
      (if type = groupTypeExternal ∧ ctx.isReadonly = true then
        (gidOfDirectoryGroup ctx group.dsName).map some
      else .ok group.gid)
    let dbGroup : GroupRow :=
      { title := group.title, dsName := group.dsName, gid := gid, groupType := some groupType,
        type := some type, enabled := true, role := group.role }
    GroupDao.createGroup groupName dbGroup
    return GroupDao.convertFromDb groupName dbGroup

/-! ## Members of a group -/

/-- `list(set(groups + [group_name]))`. -/
def withGroup (groups : List String) (groupName : String) : List String :=
  (groups ++ [groupName]).dedup

/-- `list(set(groups) - {group_name})`. -/
def withoutGroup (groups : List String) (groupName : String) : List String :=
  groups.dedup.filter (· ≠ groupName)

/-- `update_user({'username': username, 'additional_groups': groups})`. -/
def updateAdditionalGroups (username : String) (groups : List String) : DbProc PUnit :=
  UserDao.updateUser username fun row => { row with additionalGroups := groups }

/-- The iteration of `add_users_to_group` for one user. -/
def addUserToGroup (groupName : String) (bypassActiveUserCheck : Bool) (username : String) :
    DbProc PUnit := do
  match ← UserDao.getUser username with
  | none => Proc.raise (userNotFound username)
  | some user =>
    if user.enabled = false then Proc.raise (userIsDisabled username)
    else
      Proc.when (groupName ∉ user.additionalGroups)
        (updateAdditionalGroups username (withGroup user.additionalGroups groupName))
      Proc.when (bypassActiveUserCheck || user.isActive || ctx.isTestMode) do
        GroupMembersDao.createMembership groupName username
        UserProjectsDao.groupMemberAdded groupName username

def addUsersToGroup (usernames : List String) (groupName : String)
    (bypassActiveUserCheck : Bool) : DbProc PUnit := do
  Proc.when (usernames = []) (Proc.raise (.invalidParams "usernames is required"))
  requireNotEmpty groupName "group_name is required"
  match ← GroupDao.getGroup groupName with
  | none => Proc.raise (groupNotFound groupName)
  | some group =>
    if group.enabled = false then
      Proc.raise (.soca .authGroupIsDisabled "cannot add users to a disabled user group")
    else Proc.forEach (addUserToGroup ctx groupName bypassActiveUserCheck) usernames

/-- `groups_to_remove`: the group names without repetitions, in the order given. -/
def groupsToRemove (groupNames : List String) : List String :=
  groupNames.foldl (fun seen groupName => if groupName ∈ seen then seen else seen ++ [groupName]) []

/-- The loop of `remove_user_from_groups`: it deletes the memberships of existing, enabled groups and
gives the additional groups that are left. -/
def removeMemberships (username : String) (isActive : Bool) :
    List String → List String → DbProc (List String)
  | [], additionalGroups => return additionalGroups
  | groupName :: rest, additionalGroups => do
    match ← GroupDao.getGroup groupName with
    | none =>
      removeMemberships username isActive rest
        (if isActive then additionalGroups else additionalGroups.erase groupName)
    | some group =>
      if group.enabled = false then removeMemberships username isActive rest additionalGroups
      else
        GroupMembersDao.deleteMembership groupName username
        removeMemberships username isActive rest (additionalGroups.erase groupName)

def removeUserFromGroups (username : String) (groupNames : List String) : DbProc PUnit := do
  requireNotEmpty username "usernames is required"
  Proc.when (groupNames = []) (Proc.raise (.invalidParams "group_names is required"))
  match ← UserDao.getUser username with
  | none => Proc.raise (userNotFound username)
  | some user =>
    if user.enabled = false then Proc.raise (userIsDisabled username)
    else
      let additionalGroups ← removeMemberships username user.isActive
        (groupsToRemove groupNames) user.additionalGroups
      updateAdditionalGroups username additionalGroups
      Proc.forEach (fun groupName => UserProjectsDao.groupMemberRemoved groupName username)
        (groupsToRemove groupNames)

/-- The iteration of `remove_users_from_group` for one user. -/
def removeUserFromGroup (groupName : String) (force : Bool) (username : String) :
    DbProc PUnit := do
  match ← UserDao.getUser username with
  | none => if force then pure ⟨⟩ else Proc.raise (userNotFound username)
  | some user =>
    if user.enabled = false ∧ force = false then Proc.raise (userIsDisabled username)
    else
      Proc.when (groupName ∈ user.additionalGroups)
        (updateAdditionalGroups username (withoutGroup user.additionalGroups groupName))
      GroupMembersDao.deleteMembership groupName username
      UserProjectsDao.groupMemberRemoved groupName username

/-- The iteration of the handler of `remove_users_from_group` for a group that does not exist: it
subtracts a set from a list for an inactive user, which raises, and only logs for an active one. -/
def reportRemovalFromDeletedGroup (username : String) : DbProc PUnit := do
  match ← UserDao.getUser username with
  | none => Proc.raise (.other .typeError "'NoneType' object is not subscriptable")
  | some user =>
    if user.isActive then pure ⟨⟩
    else Proc.raise (.other .typeError "unsupported operand type(s) for -: 'list' and 'set'")

def removeUsersFromGroup (usernames : List String) (groupName : String) (force : Bool) :
    DbProc PUnit := do
  Proc.when (usernames = []) (Proc.raise (.invalidParams "usernames is required"))
  requireNotEmpty groupName "group_name is required"
  Proc.tryCatch (do
    match ← GroupDao.getGroup groupName with
    | none => Proc.raise (groupNotFound groupName)
    | some group =>
      if group.enabled = false ∧ force = false then
        Proc.raise (.soca .authGroupIsDisabled "cannot remove users from a disabled user group")
      else Proc.forEach (removeUserFromGroup groupName force) usernames)
    fun e =>
      if e.errorCode = some .authGroupNotFound then
        Proc.forEach reportRemovalFromDeletedGroup usernames
      else Proc.raise e

/-- Run a procedure and go on after a `SocaException`. -/
def logSocaException (c : DbProc PUnit) : DbProc PUnit :=
  Proc.tryCatch c fun e => if e.isSoca then pure ⟨⟩ else Proc.raise e

/-! ## `ProjectsService.remove_projects_from_group` -/

/-- The first loop of `remove_projects_from_group`: the projects of the given ids. -/
def collectProjects (force : Bool) : List String → DbProc (List (String × ProjectRow))
  | [] => return []
  | projectId :: rest => do
    match ← ProjectsDao.getProjectById projectId with
    | none =>
      if force then Proc.raise (.other .typeError "'NoneType' object is not subscriptable")
      else Proc.raise (.soca .projectNotFound s!"project not found: {projectId}")
    | some project =>
      match project.enabled with
      | none => Proc.raise (.other .keyError "'enabled'")
      | some enabled =>
        if enabled = false ∧ force = false then
          Proc.raise (.soca .projectNotFound s!"project is disabled: {projectId}")
        else return (projectId, project) :: (← collectProjects force rest)

def removeProjectsFromGroup (projectIds : List String) (groupName : String) (force : Bool) :
    DbProc PUnit := do
  Proc.when (projectIds = []) (Proc.raise (.invalidParams "project_ids is required"))
  requireNotEmpty groupName "group_name is required"
  match ← GroupDao.getGroup groupName with
  | none => Proc.raise (groupNotFound groupName)
  | some group =>
    if group.enabled = false ∧ force = false then
      Proc.raise (.soca .authGroupIsDisabled "cannot remove projects from a disabled group")
    else
      let projects ← collectProjects force projectIds
      Proc.forEach (fun project => do
          ProjectsDao.updateProject project.1 fun row =>
            { row with ldapGroups := some ((project.2.ldapGroups.getD []).filter (· ≠ groupName)) }
          UserProjectsDao.ldapGroupRemoved project.1 groupName)
        (projects.filter fun project => groupName ∈ project.2.ldapGroups.getD [])

/-- The part of `delete_group` about the members of the group. -/
def deleteGroupMembers (groupName : String) (force : Bool) : DbProc PUnit := do
  let hasUsers ← GroupMembersDao.hasUsersInGroup groupName
  Proc.when hasUsers
    (if force then do
      let usernames ← GroupMembersDao.getUsernamesInGroup groupName
      logSocaException (removeUsersFromGroup usernames groupName force)
    else Proc.raise (.invalidOperation
      "Users associated to group. Group must be empty before it can be deleted."))

/-- The part of `delete_group` about the projects the group is mapped to. -/
def deleteGroupProjects (groupName : String) (force : Bool) : DbProc PUnit := do
  let hasProjects ← UserProjectsDao.hasProjectsInGroup groupName
  Proc.when hasProjects
    (if force then do
      let projectIds ← UserProjectsDao.getProjectsByGroupName groupName
      logSocaException (removeProjectsFromGroup projectIds groupName force)
    else Proc.raise (.invalidOperation
      "Projects associated to group. Group must not be mapped to any project before it can be deleted."))

def deleteGroup (groupName : String) (force : Bool) : DbProc PUnit := do
  requireNotEmpty groupName "group_name is required"
  match ← GroupDao.getGroup groupName with
  | none => Proc.raise (groupNotFound groupName)
  | some _ =>
    deleteGroupMembers groupName force
    deleteGroupProjects groupName force
    GroupDao.deleteGroup groupName

/-! ## Users -/

/-- The characters `USERNAME_REGEX` allows only inside a name, and not next to each other. -/
def isNamePunctuation (c : Char) : Bool := c == '_' || c == '.'

/-- The characters of `[a-z0-9._]`. -/
def isNameChar (c : Char) : Bool :=
  (97 ≤ c.toNat && c.toNat ≤ 122) || (48 ≤ c.toNat && c.toNat ≤ 57) || isNamePunctuation c

/-- No two neighbouring characters are both punctuation. -/
def noDoublePunctuation : List Char → Bool
  | c :: d :: rest =>
    !(isNamePunctuation c && isNamePunctuation d) && noDoublePunctuation (d :: rest)
  | _ => true

/-- `re.match(USERNAME_REGEX, username)`, for
`^(?=.{3,20}$)(?![_.])(?!.*[_.]{2})[a-z0-9._]+(?<![_.])$` and a name without a final newline. -/
def matchesUsernameRegex (username : String) : Bool :=
  let chars := username.toList
  3 ≤ chars.length && chars.length ≤ 20 && chars.all isNameChar &&
    !(chars.head?.any isNamePunctuation) && noDoublePunctuation chars &&
    !(chars.getLast?.any isNamePunctuation)

/-- The regular expression, as the message of `create_user` shows it. -/
def usernameRegex : String := "^(?=.\x7b3,20\x7d$)(?![_.])(?!.*[_.]\x7b2\x7d)[a-z0-9._]+(?<![_.])$"

/-- The names `check_allowed_username` refuses. -/
def reservedUsernames : List String :=
  ["root", "admin", "administrator", "ideaserviceaccount", "ec2-user", "centos", "ssm-user"]

def checkAllowedUsername (username : String) : Except Exc Unit :=
  if sanitized username ∈ reservedUsernames then .error (.invalidParams
    s!"invalid username: {username}. Change username to prevent conflicts with local or directory system users.")
  else .ok ()

def sanitizeEmail (email : Option String) : Except Exc String :=
  match email with
  | none => .error (.invalidParams "email is required")
  | some email =>
    if isEmpty email then .error (.invalidParams "email is required")
    else if !ctx.isValidEmail (lower (strip email)) then
      .error (.invalidParams s!"invalid email: {lower (strip email)}")
    else .ok (lower (strip email))

/-- The special characters of the password check. -/
def passwordSymbols : List Char := "^$*.[]\x7b\x7d()?\"!@#%&/\\,><':;|_~`=+-".toList

/-- The checks of a password against the policy of the user pool. -/
def checkPassword (policy : PasswordPolicy) (password : Option String) : Except Exc Unit :=
  let chars := (password.getD "").toList
  if isEmptyOpt password then .error (.invalidParams "Password is required")
  else if chars.length < policy.minimumLength then .error (.invalidParams
    s!"Password should be at least {policy.minimumLength} characters long")
  else if 256 < chars.length then .error (.invalidParams "Password can be up to 256 characters")
  else if policy.requireNumbers && !chars.any Char.isDigit then
    .error (.invalidParams "Password should include at least 1 number")
  else if policy.requireUppercase && !chars.any Char.isUpper then
    .error (.invalidParams "Password should include at least 1 uppercase letter")
  else if policy.requireLowercase && !chars.any Char.isLower then
    .error (.invalidParams "Password should include at least 1 lowercase letter")
  else if policy.requireSymbols && !chars.any (· ∈ passwordSymbols) then
    .error (.invalidParams "Password should include at least 1 of these special characters: ^ $ * . [ ] \x7b \x7d ( ) ? \" ! @ # % & / \\ , > < ' : ; | _ ~ ` = + -")
  else .ok ()

/-- A setting of the request, or the default when it is missing or blank. -/
def orDefault (value : Option String) (default : String) : String :=
  if isEmptyOpt value then default else value.getD default

/-- The user pool entry of the administrator, made by `create_user`. -/
def createPoolUser (username : String) (password : Option String) (emailVerified : Bool) :
    Except Exc Unit := do
  let _ ← if emailVerified then checkPassword ctx.passwordPolicy password else .ok ()
  ctx.adminCreateUser username

/-- The part of `create_user` before the user is written: the checks, and the row to write. -/
def newUser (user : User) (emailVerified : Bool) : DbProc (String × UserRow) := do
  let username ← Proc.liftExcept (sanitizeUsername user.username)
  requireNotEmpty username "user.username is required"
  Proc.when (matchesUsernameRegex username = false)
    (Proc.raise (.invalidParams s!"user.username must match regex: {usernameRegex}"))
  Proc.liftExcept (checkAllowedUsername username)
  let bootstrapUser := user.username.any ctx.isClusterAdministrator
  let existsInDirectory ← Proc.liftExcept
    (if bootstrapUser then .ok true else ctx.isExistingUser username)
  Proc.when (existsInDirectory = false) (Proc.raise (.invalidParams
    s!"User {username} does not exist in AD, please add user in AD and retry"))
  match ← UserDao.getUser username with
  | some _ => Proc.raise (.soca .authUserAlreadyExists s!"username: {username} already exists.")
  | none =>
    let email ← Proc.liftExcept (sanitizeEmail ctx user.email)
    let uidAndGid := ctx.getUidAndGidForUser username
    Proc.when (uidAndGid = none ∧ bootstrapUser = false) (Proc.raise (.soca .uidAndGidNotFound
      s!"Unable to retrieve UID and GID for User: {username}"))
    Proc.when bootstrapUser
      (Proc.liftExcept (createPoolUser ctx username user.password emailVerified))
    return (username,
      { email := email, uid := uidAndGid.map Prod.fst, gid := uidAndGid.map Prod.snd,
        additionalGroups := user.additionalGroups.getD [],
        loginShell := orDefault user.loginShell "/bin/bash",
        homeDir := orDefault user.homeDir s!"/home/{username}",
        isSudo := user.isSudo.getD false, enabled := true,
        role := if user.role = some adminRole then adminRole else userRole,
        isActive := user.isActive.getD false })

def createUser (user : User) (emailVerified : Bool) : DbProc User := do
  let (username, createdUser) ← newUser ctx user emailVerified
  UserDao.createUser username createdUser
  Proc.forEach (fun additionalGroup => addUsersToGroup ctx [username] additionalGroup false)
    createdUser.additionalGroups
  Proc.when (user.username.any ctx.isClusterAdministrator = false)
    (sendTask ⟨.createHomeDirectory username, some username, none⟩)
  return UserDao.convertFromDb username createdUser

/-- Run a procedure and go on after any exception. -/
def logException (c : DbProc PUnit) : DbProc PUnit := Proc.tryCatch c fun _ => pure ⟨⟩

def activateUser (existingUser : User) : DbProc PUnit :=
  if existingUser.isActive = some true then pure ⟨⟩
  else do
    let username := existingUser.username.getD ""
    Proc.forEach
      (fun additionalGroup => logException (addUsersToGroup ctx [username] additionalGroup true))
      (existingUser.additionalGroups.getD [])
    UserDao.updateUser username fun row => { row with isActive := true }

def enableUser (username : String) : DbProc PUnit := do
  requireNotEmpty username "username is required"
  match ← UserDao.getUser username with
  | none => Proc.raise (.soca .authUserNotFound s!"User not found: {username}")
  | some existingUser =>
    if existingUser.enabled then pure ⟨⟩
    else UserDao.updateUser username fun row => { row with enabled := true }

def disableUser (username : String) : DbProc PUnit := do
  requireNotEmpty username "username is required"
  Proc.when (ctx.isClusterAdministrator username)
    (Proc.raise (.invalidOperation "Cluster Administrator cannot be disabled."))
  match ← UserDao.getUser username with
  | none => Proc.raise (.soca .authUserNotFound s!"User not found: {username}")
  | some existingUser =>
    if existingUser.enabled = false then pure ⟨⟩
    else
      UserDao.updateUser username fun row => { row with enabled := false }
      Proc.liftExcept (ctx.publishUserDisabledEvent username)

/-- Run a procedure and go on after the exception for a disabled user. -/
def passIfDisabled (c : DbProc PUnit) : DbProc PUnit :=
  Proc.tryCatch c fun e =>
    if e.errorCode = some .authUserIsDisabled then pure ⟨⟩ else Proc.raise e

def deleteUser (username : String) : DbProc PUnit := do
  Proc.when (ctx.isClusterAdministrator username)
    (Proc.raise (.invalidOperation "Cluster Administrator cannot be deleted."))
  match ← UserDao.getUser username with
  | none => pure ⟨⟩
  | some user =>
    Proc.when (user.additionalGroups ≠ [])
      (passIfDisabled (removeUserFromGroups username user.additionalGroups))
    UserDao.deleteUser username

def getUser (username : String) : DbProc User := do
  let username ← Proc.liftExcept (sanitizeUsername (some username))
  match ← UserDao.getUser username with
  | none => Proc.raise (.soca .authUserNotFound s!"User not found: {username}")
  | some user => return UserDao.convertFromDb username user

end ContainRes.Accounts
