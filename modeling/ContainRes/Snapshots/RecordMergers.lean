import ContainRes.Effects.Merging
import ContainRes.Snapshots.Environment

/-! # Merging users, permission profiles, projects and software stacks

The mergers of four tables. Each looks for a record of the environment with the name of the one of the
snapshot: without one it creates the record, with an equal one it does nothing, and otherwise it creates the
record under a name with the dedup id at its end. Users are only given their roles.

* **`mergeUser`**, **`mergePermissionProfile`**, **`mergeProject`**, **`mergeSoftwareStack`** — the body of
  the loop of each `merge`; the loop is `mergeAll`.
* **`resolveProfile`**, **`resolveProject`**, **`resolveSoftwareStack`** — `resolve_record`; `none` is a
  record that is unchanged.
* **`resolveProjectId`** — the id of a project of a stack, through the deltas of the projects. -/

namespace ContainRes.Snapshots

open Accounts (UserRow UserDao.convertFromDb)
open Effects Effects.Proc Text
open VirtualDesktop.PermissionProfiles
open VirtualDesktop.SoftwareStacks

/-- `MergedRecordDelta` of a record that was created. -/
structure MergedRecordDelta (ρ : Type) where
  snapshotRecord : ρ
  resolvedRecord : ρ

/-- `MergedRecordDelta` of a user whose role was updated. -/
structure MergedUserDelta where
  originalRecord : String × UserRow
  snapshotRecord : String × UserRow

/-- `except Exception`: the merge of the table ends without success. -/
def orFailed {δ : Type} (c : EnvProc (Merged δ)) : EnvProc (Merged δ) :=
  Proc.tryCatch c fun _ => pure .failed

variable (services : Services) (dedupId : String)

/-! ## Users -/

/-- The user of the environment; one that is not there is skipped. -/
def findUser (username : Option String) : EnvProc (Merged User) :=
  Proc.tryCatch (getUser services username >>= fun user => pure (.merged user)) fun e =>
    if e.errorCode = some .authUserNotFound then pure .skipped
    else if e.isSoca then Proc.raise e
    else pure .failed

/-- `UsersTableMerger.apply`. -/
def applyRole (user : User) : EnvProc PUnit :=
  if user.role = some adminRole then addAdminUser services (user.username.getD "")
  else removeAdminUser services (user.username.getD "")

/-- The body of `UsersTableMerger.merge`. -/
def mergeUser (record : String × UserRow) : EnvProc (Merged MergedUserDelta) := do
  let userToMerge := UserDao.convertFromDb record.1 record.2
  match ← findUser services userToMerge.username with
  | .skipped => pure .skipped
  | .failed => pure .failed
  | .merged existing =>
    if userToMerge.role = existing.role then pure .skipped
    else orFailed do
      let username := existing.username.getD ""
      let original ← Proc.gets fun env : Environment => env.users.getItem username
      applyRole services userToMerge
      return .merged ⟨(username, original.getD record.2), record⟩

/-! ## Permission profiles -/

/-- `PermissionProfilesTableMerger.resolve_record`. -/
def resolveProfile (record : String × ProfileRow) : EnvProc (Option (String × ProfileRow)) :=
  Proc.tryCatch
    (do
      let existing ← getPermissionProfile services record.1
      if profileEqual existing (convertDbDictToPermissionProfileObject services.types record.1 record.2) then
        return none
      else return some (uniqueResourceIdGenerator record.1 dedupId, record.2))
    fun e => if e.errorCode = some .invalidParams then pure (some record) else Proc.raise e

/-- The body of `PermissionProfilesTableMerger.merge`. -/
def mergePermissionProfile (record : String × ProfileRow) :
    EnvProc (Merged (MergedRecordDelta (String × ProfileRow))) :=
  if record.1 = "" then pure .skipped
  else orFailed do
    match ← resolveProfile services dedupId record with
    | none => return .skipped
    | some resolved =>
      let created ← createPermissionProfile services
        (convertDbDictToPermissionProfileObject services.types resolved.1 resolved.2)
      return .merged ⟨record, (created.profileId.getD "", ProfileRow.written services.types
        (convertPermissionProfileObjectToDbDict services.types created))⟩

/-- `PermissionProfilesTableMerger.merge`, which first asks for the permission types. -/
def mergePermissionProfiles (records : List (String × ProfileRow)) :
    EnvProc (List (MergedRecordDelta (String × ProfileRow)) × Bool) := do
  let answer ← Proc.tryCatch (answered services .getBasePermissions (pure true)) fun _ => pure false
  if answer then mergeAll (mergePermissionProfile services dedupId) records else return ([], false)

/-! ## Projects -/

/-- `ProjectsTableMerger.resolve_record`. -/
def resolveProject (name : String) (record : String × ProjectRow) :
    EnvProc (Option (String × ProjectRow)) :=
  Proc.tryCatch
    (do
      let existing ← getProjectByName services name
      if existing.equal (convertFromDb record.1 record.2) then return none
      else return some (record.1, { record.2 with name := some (uniqueResourceIdGenerator name dedupId) }))
    fun e => if e.errorCode = some .projectNotFound then pure (some record) else Proc.raise e

def budgetIsEnabledAndExists (project : Project) : Bool :=
  project.enableBudgets.getD false && project.budget.any fun budgetName =>
    budgetName ≠ "" && (services.ctx.budgetsGetBudget budgetName).isOk

/-- The project that is created for a record: without groups and users, and with its budget if there is
such a budget. -/
def projectToCreate (record : String × ProjectRow) : Project :=
  let project := convertFromDb record.1 record.2
  { project with
    ldapGroups := [], users := [], enableBudgets := some (budgetIsEnabledAndExists services project) }

/-- `_add_groups_and_users_to_project`: what it raises is logged only. -/
def addGroupsAndUsersToProject (delta : MergedRecordDelta (String × ProjectRow)) :
    EnvProc (MergedRecordDelta (String × ProjectRow)) :=
  let project := convertFromDb delta.resolvedRecord.1 { delta.resolvedRecord.2 with
    ldapGroups := delta.snapshotRecord.2.ldapGroups, users := delta.snapshotRecord.2.users }
  Proc.tryCatch
    (do
      let updated ← updateProject services project
      return { delta with resolvedRecord := (updated.projectId.getD "", convertToDb updated) })
    fun _ => pure delta

/-- The part of the body of `ProjectsTableMerger.merge` that creates. -/
def createProjectOfRecord (name : String) (record : String × ProjectRow) :
    EnvProc (Merged (MergedRecordDelta (String × ProjectRow))) :=
  orFailed do
    match ← resolveProject services dedupId name record with
    | none => return .skipped
    | some resolved =>
      let created ← createProject services (projectToCreate services resolved)
      return .merged ⟨record, (created.projectId.getD "", convertToDb created)⟩

/-- The body of `ProjectsTableMerger.merge`. -/
def mergeProject (record : String × ProjectRow) :
    EnvProc (Merged (MergedRecordDelta (String × ProjectRow))) :=
  let name := record.2.name.getD ""
  if name = "" then pure .skipped
  else createProjectOfRecord services dedupId name record >>= fun
    | .skipped => pure .skipped
    | .failed => pure .failed
    | .merged delta => addGroupsAndUsersToProject services delta >>= fun delta => pure (.merged delta)

/-! ## Software stacks -/

/-- `project_id_mappings`: a later delta replaces an earlier one. -/
def projectIdMappings (deltas : List (MergedRecordDelta (String × ProjectRow))) : List (String × String) :=
  (deltas.map fun delta => (delta.snapshotRecord.1, delta.resolvedRecord.1)).reverse

/-- One step of `_resolve_project_ids`: an id without a mapping stays. -/
def resolveProjectId (mappings : List (String × String)) (projectId : Option String) : Option String :=
  match projectId.bind fun projectId => mappings.lookup projectId with
  | none => projectId
  | some resolved => if resolved = "" then projectId else some resolved

def resolveProjectIds (mappings : List (String × String)) (record : SoftwareStackDict) : SoftwareStackDict :=
  { record with projects := record.projects.map (resolveProjectId mappings) }

/-- `SoftwareStacksTableMerger.resolve_record`, after the ids of the projects are resolved. -/
def resolveSoftwareStack (name : String) (record : SoftwareStackDict) :
    EnvProc (Option SoftwareStackDict) := do
  let listed ← getSoftwareStacksByName services name
  if listed = [] then return some record
  else do
    let snapshotStack ← Proc.liftExcept (convertDbDictToSoftwareStackObject services.numbers record)
    if listed.any fun existing => existing.equal snapshotStack then return none
    else return some { record with name := some (uniqueResourceIdGenerator name dedupId) }

/-- The exception that says that the image of a stack is not available. -/
def isInvalidAmi : Exc → Bool
  | .soca .invalidParams message => startsWith message "Invalid software_stack.ami_id"
  | _ => false

/-- The stack that is created for a record, and its delta. -/
def createStackOfRecord (record resolved : SoftwareStackDict) :
    EnvProc (Merged (MergedRecordDelta SoftwareStackDict)) := do
  let softwareStack ← Proc.liftExcept (convertDbDictToSoftwareStackObject services.numbers resolved)
  let created ← createSoftwareStack services softwareStack
  let dict ← Proc.liftExcept (convertSoftwareStackObjectToDbDict services.numbers.str created)
  return .merged ⟨record, dict⟩

/-- The body of `SoftwareStacksTableMerger.merge`: other exceptions of the services are raised again. -/
def mergeSoftwareStack (mappings : List (String × String)) (record : SoftwareStackDict) :
    EnvProc (Merged (MergedRecordDelta SoftwareStackDict)) :=
  let name := record.name.getD ""
  if name = "" then pure .skipped
  else Proc.tryCatch
    (do
      match ← resolveSoftwareStack services dedupId name (resolveProjectIds mappings record) with
      | none => return .skipped
      | some resolved => createStackOfRecord services record resolved)
    fun e => if isInvalidAmi e then pure .skipped else if e.isSoca then Proc.raise e else pure .failed

end ContainRes.Snapshots
