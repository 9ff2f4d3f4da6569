import ContainRes.VirtualDesktop.Events
import ContainRes.VirtualDesktop.Schedules
import ContainRes.VirtualDesktop.SessionDb
import ContainRes.VirtualDesktop.SessionPermissionDb

/-! # Deleting a session

`ValidateDCVSessionDeletionEventHandler`: when the DCV session of a session in `DELETING` is gone, the
rows of its schedules, the rows of its permissions and its own row are deleted, and its instance is
terminated. The message is delivered again as long as the handler raises.

* **`Step`**, **`Delivery`** — the calls of a delivery, and the outcome that each of them meets.
* **`handleEvent`** — the handler. -/

namespace ContainRes.VirtualDesktop.SessionDeletion

open Effects Store Text
open Schedules SessionPermissions
open Sessions

/-- The calls to a service that the handler makes. -/
inductive Step
  | readSession
  | describeSessions
  | deleteSchedule (d : DayOfWeek)
  | queryPermissions
  | deletePermission (actorName : String)
  | deleteSession
  | terminateInstances
  | deleteServer
  | stopInstances
  | readServer
  | updateServer
  deriving DecidableEq, Repr

/-- What each call of one delivery meets. -/
abbrev Delivery : Type := Step → Outcome

/-- A delivery in which no call fails. -/
def faultless : Delivery := fun _ => .done

/-- The state of an instance. -/
inductive InstanceState
  | running
  | stopping
  | terminated
  deriving DecidableEq, Repr

/-- The tables, the instances, and the states in which the broker reports DCV sessions. -/
structure World where
  schedules : Table (String × String) ScheduleDict
  permissions : Permissions
  sessions : SessionTable
  servers : ServerTable
  instances : String → InstanceState
  broker : String → Option String

/-- A schedule function, on the schedules table. -/
def onSchedules {α : Type} (c : Proc Schedules.World Exc α) : Proc World Exc α :=
  Proc.zoom (fun w : World => { table := w.schedules, drawn := 0, week := fun _ => none })
    (fun s w => { w with schedules := s.table }) c

/-- A function on the permissions table. -/
def onPermissions {α : Type} (c : Proc Permissions Exc α) : Proc World Exc α :=
  Proc.zoom World.permissions (fun t w => { w with permissions := t }) c

/-- A function on the sessions table. -/
def onSessions {α : Type} (c : Proc SessionTable Exc α) : Proc World Exc α :=
  Proc.zoom World.sessions (fun t w => { w with sessions := t }) c

/-- A function on the servers table. -/
def onServers {α : Type} (c : Proc ServerTable Exc α) : Proc World Exc α :=
  Proc.zoom World.servers (fun t w => { w with servers := t }) c

/-- The exception of a call that fails. -/
def callFailed : Exc := .other .clientError "ClientError"

variable (hours : WorkingHours) (paginator : Paginator ((String × String) × SessionPermissionRow))

/-- `_delete_schedule` of one day; only a schedule that names a row makes a call. -/
def deleteScheduleOf (o : Delivery) (week : DayOfWeek → Option Schedule) (d : DayOfWeek) :
    Proc World Exc PUnit :=
  Proc.attempt (if (rowKey (week d)).isSome then o (.deleteSchedule d) else .done) callFailed
    (onSchedules (deleteSchedule (week d)))

def deleteSchedulesForSession (o : Delivery) (week : DayOfWeek → Option Schedule) : Proc World Exc PUnit :=
  Proc.forEach (deleteScheduleOf o week) DayOfWeek.all

/-- The deletion of one permission. -/
def deletePermission (o : Delivery) (p : SessionPermission) : Proc World Exc PUnit :=
  Proc.attempt (o (.deletePermission (p.actorName.getD ""))) callFailed
    (onPermissions (SessionPermissions.delete p))

def deletePermissionsForSession (o : Delivery) (ideaSessionId : String) : Proc World Exc PUnit := do
  let permissions ← onPermissions (getForSession paginator (o .queryPermissions) ideaSessionId)
  Proc.forEach (deletePermission o) permissions

/-- `VirtualDesktopServerUtils.terminate_dcv_hosts` for the server of a session. -/
def terminateDcvHosts (o : Delivery) (server : Option VirtualDesktopServer) : Proc World Exc PUnit :=
  match server with
  | none => Proc.raise (.other .attributeError "'NoneType' object has no attribute 'instance_id'")
  | some server =>
    match server.instanceId with
    | none => Proc.raise (.other .clientError "ParamValidationError")
    | some id => do
      Proc.attempt (o .terminateInstances) callFailed (Proc.modify fun w : World =>
        { w with instances := Function.update w.instances id .terminated })
      Proc.attempt (o .deleteServer) callFailed (onServers (Sessions.deleteServer (some id)))

/-- `VirtualDesktopServerUtils.stop_or_hibernate_servers` for the server of a session; `state` is what the
server's row says afterwards. -/
def stopOrHibernateServer (o : Delivery) (state : String) (server : Option VirtualDesktopServer) :
    Proc World Exc PUnit :=
  match server with
  | none => Proc.raise (.other .attributeError "'NoneType' object has no attribute 'instance_id'")
  | some server =>
    match server.instanceId with
    | none => Proc.raise (.other .clientError "ParamValidationError")
    | some id => do
      Proc.attempt (o .stopInstances) callFailed (Proc.modify fun w : World =>
        { w with instances := Function.update w.instances id .stopping })
      let row ← Proc.attempt (o .readServer) callFailed (onServers (getServer (some id)))
      match row with
      | none => Proc.raise (.other .attributeError "'NoneType' object has no attribute 'state'")
      | some row =>
        Proc.attempt (o .updateServer) callFailed
          (onServers (Sessions.updateServer { row with state := some state }))

def continueStopSession (o : Delivery) (session : VirtualDesktopSession) : Proc World Exc PUnit :=
  stopOrHibernateServer o (if session.hibernationEnabled then "HIBERNATED" else "STOPPED") session.server

def continueDeleteSession (o : Delivery) (session : VirtualDesktopSession) : Proc World Exc PUnit := do
  deleteSchedulesForSession o session.schedule
  deletePermissionsForSession paginator o (session.ideaSessionId.getD "")
  Proc.attempt (o .deleteSession) callFailed (onSessions (Sessions.delete session))
  terminateDcvHosts o session.server

/-- The text of `do_not_delete_message_exception` for a session that the broker still has. -/
def notDeletedText (session : VirtualDesktopSession) (state : Option String) : String :=
  let id := session.ideaSessionId.getD "None"
  let name := session.name.getD "None"
  let current := state.getD "None"
  s!"RES Session ID: {id}:{name} is not deleted with state: {current}. Not doing anything will try again."

/-- What the handler does with the session it has read. -/
def validateDeletion (o : Delivery) (session : VirtualDesktopSession) : Proc World Exc PUnit :=
  if session.state ≠ .stopping ∧ session.state ≠ .deleting then pure ⟨⟩
  else do
    let state ← Proc.attempt (o .describeSessions) callFailed
      (Proc.gets fun w : World => w.broker (session.dcvSessionId.getD ""))
    if isEmptyOpt state ∨ state = some "DELETED" then
      if session.state = .deleting then continueDeleteSession paginator o session
      else continueStopSession o session
    else
      Proc.raise (.soca .doNotDeleteMessage (notDeletedText session state))

def handleEvent (controllerRoleId senderId : String) (event : VirtualDesktopEvent) (o : Delivery) :
    Proc World Exc PUnit :=
  if isSenderRole controllerRoleId senderId = false then Proc.raise (corruptedSender senderId)
  else
    let ideaSessionId := event.detailString "idea_session_id"
    let ideaSessionOwner := event.detailString "idea_session_owner"
    if isEmptyOpt ideaSessionId || isEmptyOpt ideaSessionOwner then pure ⟨⟩
    else do
      let session ← Proc.attempt (o .readSession) callFailed
        (onSessions (Sessions.getFromDb hours ideaSessionOwner ideaSessionId))
      match session with
      | none => pure ⟨⟩
      | some session => validateDeletion paginator o session

end ContainRes.VirtualDesktop.SessionDeletion
