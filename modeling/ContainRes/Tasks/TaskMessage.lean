import Mathlib.Data.String.Basic

/-! # Messages of the task queue

The payloads the services hand to `TaskManager.send`, each under the name of the task that will
process it, and the message with its group and its optional deduplication id. -/

namespace ContainRes.Tasks

/-- The payload of a task, one constructor for each task name. -/
inductive TaskPayload
  | createHomeDirectory (username : String)
  | projectEnabled (projectId : String)
  | projectDisabled (projectId : String)
  | projectGroupsUpdated (projectId : String)
      (groupsAdded groupsRemoved usersAdded usersRemoved : List String)
  deriving DecidableEq, Repr

/-- The task name of a payload. -/
def TaskPayload.taskName : TaskPayload → String
  | .createHomeDirectory _ => "accounts.create-home-directory"
  | .projectEnabled _ => "projects.project-enabled"
  | .projectDisabled _ => "projects.project-disabled"
  | .projectGroupsUpdated .. => "projects.project-groups-updated"

/-- The arguments of `TaskManager.send`. -/
structure TaskMessage where
  payload : TaskPayload
  messageGroupId : Option String
  messageDedupeId : Option String
  deriving DecidableEq, Repr

end ContainRes.Tasks
