import ContainRes.Accounts.Dao

/-! # The project tasks

The tasks of `project_tasks.py`, which carry a change of a project over to the provenance of its users.

* **`ProjectTask`** — the tasks of one project, with the rest of their payload.
* **`ProjectTask.invoke`** — the `invoke` methods. -/

namespace ContainRes.Projects

open Accounts Effects Tasks

/-- A task of a project. -/
inductive ProjectTask
  | projectEnabled
  | projectDisabled
  | projectGroupsUpdated (groupsAdded groupsRemoved usersAdded usersRemoved : List String)
  deriving DecidableEq, Repr

/-- The payload of a task of a project. -/
def ProjectTask.payload (projectId : String) : ProjectTask → TaskPayload
  | .projectEnabled => .projectEnabled projectId
  | .projectDisabled => .projectDisabled projectId
  | .projectGroupsUpdated groupsAdded groupsRemoved usersAdded usersRemoved =>
    .projectGroupsUpdated projectId groupsAdded groupsRemoved usersAdded usersRemoved

/-- `ProjectGroupsUpdatedTask.invoke(payload)`. -/
def invokeGroupsUpdated (projectId : String)
    (groupsAdded groupsRemoved usersAdded usersRemoved : List String) : DbProc PUnit := do
  let project ← UserProjectsDao.getProject projectId
  match project.enabled with
  | none => Proc.raise (.other .keyError "'enabled'")
  | some enabled =>
    Proc.when (enabled = true) do
      Proc.forEach (fun username => UserProjectsDao.deleteUserProject projectId username ["SELF"]) usersRemoved
      Proc.forEach (fun ldapGroupName => do
        UserProjectsDao.ldapGroupRemoved projectId ldapGroupName
        UserProjectsDao.projectEnabled projectId) groupsRemoved
      Proc.forEach (fun username => UserProjectsDao.createUserProject projectId username ["SELF"]) usersAdded
      Proc.forEach (fun ldapGroupName => UserProjectsDao.ldapGroupAdded projectId ldapGroupName) groupsAdded

/-- The `invoke` method of a task. -/
def ProjectTask.invoke (projectId : String) : ProjectTask → DbProc PUnit
  | .projectEnabled => UserProjectsDao.projectEnabled projectId
  | .projectDisabled => UserProjectsDao.projectDisabled projectId
  | .projectGroupsUpdated groupsAdded groupsRemoved usersAdded usersRemoved =>
    invokeGroupsUpdated projectId groupsAdded groupsRemoved usersAdded usersRemoved

end ContainRes.Projects
