import ContainRes.Effects.Traced
import ContainRes.VirtualDesktop.PermissionChanges
import ContainRes.VirtualDesktop.ReadIsolation
import ContainRes.VirtualDesktop.SessionHandlers

/-! # The operations of a user

`VirtualDesktopUserAPI` for a user without administration rights: every operation with the payload that
it reads, on the four tables, with a trace of the rows that it writes and of the instances and DCV
sessions for which it sends a change to EC2 or to the broker. Publications and what a listing reads are
left out, and so are failures of the tables.

* **`Target`** — what a call can act on.
* **`World`**, **`Services`** — the tables, and the answers of EC2, of the broker and of the configuration.
* **`createSession`**, **`updateSession`**, **`deleteSessions`**, **`stopSessions`**, **`resumeSessions`**,
  **`rebootSessions`**, **`getSessionConnectionInfo`**, **`updateSessionPermission`** — the operations that
  write.
* **`invoke`** — one call. -/

namespace ContainRes.VirtualDesktop.UserApi

open Effects Store Text
open Schedules SessionPermissions
open Sessions

/-- What a call can act on: a row, an instance or a DCV session. -/
inductive Target
  | session (owner ideaSessionId : String)
  | server (instanceId : String)
  | schedule (key : String × String)
  | permission (key : String × String)
  | ec2Instance (instanceId : String)
  | dcvSession (dcvSessionId : String)
  deriving DecidableEq, Repr

/-- The tables, and the number of ids drawn so far. -/
structure World where
  sessions : SessionTable
  servers : ServerTable
  schedules : Table (String × String) ScheduleDict
  permissions : Permissions
  drawn : Nat

/-! ## Payloads -/

/-- The session of a request. -/
structure SessionRequest where
  owner : Option String := none
  ideaSessionId : Option String := none
  name : Option String := none
  description : Option String := none
  dcvSessionId : Option String := none
  force : Option Bool := none
  hibernationEnabled : Option Bool := none
  server : Option VirtualDesktopServer := none
  schedule : Option (DayOfWeek → Option Schedule) := none

/-- `VirtualDesktopSessionConnectionInfo`. -/
structure ConnectionInfoRequest where
  dcvSessionId : Option String := none
  ideaSessionId : Option String := none
  ideaSessionOwner : Option String := none
  username : Option String := none
  deriving DecidableEq, Repr

/-- A permission of a request; the date is looked at by the validation only. -/
structure PermissionRequest where
  permission : SessionPermission
  ideaSessionCreatedOn : Option Int
  deriving DecidableEq, Repr

/-- The operations with their payloads. A list or an object of a payload may be missing. -/
inductive Operation
  | createSession (session : Option SessionRequest)
  | updateSession (session : Option SessionRequest)
  | deleteSessions (sessions : Option (List SessionRequest))
  | stopSessions (sessions : Option (List SessionRequest))
  | resumeSessions (sessions : Option (List SessionRequest))
  | rebootSessions (sessions : Option (List SessionRequest))
  | getSessionInfo (session : Option SessionRequest)
  | getSessionConnectionInfo (connectionInfo : Option ConnectionInfoRequest)
  | updateSessionPermission (creates updates deletes : Option (List PermissionRequest))
  | list (request : ReadIsolation.ReadRequest)
  | listSoftwareStacks (projectId : Option String)

/-! ## The services -/

/-- The changes that EC2 is asked for. -/
inductive Command
  | stopInstances (instanceIds : List String) (hibernate : Bool)
  | startInstances (instanceIds : List String)
  | rebootInstances (instanceIds : List String)
  | terminateInstances (instanceIds : List String)
  | modifyInstanceType (instanceId instanceType : String)
  | createTag (instanceId : String)
  deriving DecidableEq, Repr

/-- The instances that a command names. -/
def Command.instanceIds : Command → List String
  | .stopInstances ids _ | .startInstances ids | .rebootInstances ids | .terminateInstances ids => ids
  | .modifyInstanceType id _ | .createTag id => [id]

/-- What the services answer, and what is configured. -/
structure Services where
  /-- `virtual-desktop-controller.dcv_session.allowed_sessions_per_user`. -/
  allowedSessionsPerUser : Nat
  /-- Whether the project, the stack, the budget and the instance type of a new session are accepted by
  `validate_create_session_request`. -/
  acceptsSession : SessionRequest → Bool
  /-- The type and the times of the default schedule of a day. -/
  defaultType : DayOfWeek → ScheduleType
  defaultTimes : DayOfWeek → String × String
  /-- `provision_dcv_host_for_session`: the id of the new instance, or the failure. -/
  runInstances : SessionRequest → Except Exc String
  /-- Whether EC2 accepts a command. -/
  ec2 : Command → Bool
  /-- The number of connections to a DCV session. -/
  connectionCount : String → Nat
  /-- The DCV sessions that are gone after the broker was asked to delete some. -/
  deleteSessions : List String → Except Exc (List String)
  /-- Whether the broker gives a user the connection data of a DCV session. -/
  connects : String → String → Bool
  /-- Whether the operating system of a session supports permissions in the directory in use. -/
  supportsPermissions : VirtualDesktopSession → Bool
  /-- What the listings answer. -/
  reply : ReadIsolation.ReadRequest → World → Except Exc ReadIsolation.Reply
  softwareStacks : String → World → Except Exc ReadIsolation.Reply

/-- `AttributeError` of a value that is missing. -/
def attributeError (name : String) : Exc :=
  .other .attributeError ("'NoneType' object has no attribute '" ++ name ++ "'")

/-- A list of a payload; one that is missing cannot be run through. -/
def required {α : Type} (list : Option (List α)) : Traced Target World Exc (List α) :=
  match list with
  | none => Traced.raise (.other .typeError "'NoneType' object is not iterable")
  | some l => pure l

variable (hours : WorkingHours) (uuids : Uuids)
  (paginator : Paginator ((String × String) × SessionPermissionRow)) (services : Services)
  (username : String)

def uuid : Traced Target World Exc String :=
  Traced.lift do
    let n ← Proc.gets World.drawn
    Proc.modify fun w => { w with drawn := w.drawn + 1 }
    return uuids.id n

/-- EC2 is asked for a change; one that is not accepted raises. -/
def issue (command : Command) : Traced Target World Exc PUnit := do
  Traced.emit (command.instanceIds.map .ec2Instance)
  Traced.when (services.ec2 command = false) (Traced.raise callFailed)

/-! ## The tables -/

/-- A function on the sessions table. -/
def onSessions {α : Type} (c : Proc SessionTable Exc α) : Proc World Exc α :=
  Proc.zoom World.sessions (fun t w => { w with sessions := t }) c

/-- A function on the servers table. -/
def onServers {α : Type} (c : Proc ServerTable Exc α) : Proc World Exc α :=
  Proc.zoom World.servers (fun t w => { w with servers := t }) c

/-- A function on the permissions table. -/
def onPermissions {α : Type} (c : Proc Permissions Exc α) : Proc World Exc α :=
  Proc.zoom World.permissions (fun t w => { w with permissions := t }) c

/-- The row of a session. -/
def sessionTarget (session : VirtualDesktopSession) : List Target :=
  match session.owner, session.ideaSessionId with
  | some owner, some id => [.session owner id]
  | _, _ => []

/-- `VirtualDesktopSessionDB.create`. -/
def sessionDbCreate (session : VirtualDesktopSession) : Traced Target World Exc PUnit :=
  Traced.observe (fun _ _ => sessionTarget session) <| onSessions <|
    match session.owner, session.ideaSessionId with
    | some owner, some id => do
      Proc.modify fun t : SessionTable => t.putItem (owner, id) (convertSessionObjectToDbDict session)
      let _ ← Proc.liftExcept
        (Sessions.convertDbDictToSessionObject hours (owner, id) (convertSessionObjectToDbDict session))
      return ⟨⟩
    | _, _ => Proc.raise (.other .clientError "ValidationException")

/-- `VirtualDesktopSessionDB.update`, with the session that is made from what was put. -/
def sessionDbUpdate (session : VirtualDesktopSession) : Traced Target World Exc VirtualDesktopSession :=
  Traced.observe (fun _ _ => sessionTarget session) <| onSessions do
    Sessions.update session
    Proc.liftExcept (Sessions.convertDbDictToSessionObject hours
      (session.owner.getD "", session.ideaSessionId.getD "") (convertSessionObjectToDbDict session))

/-- `VirtualDesktopSessionDB.delete`. -/
def sessionDbDelete (session : VirtualDesktopSession) : Traced Target World Exc PUnit :=
  Traced.observe (fun _ _ => sessionTarget session) (onSessions (Sessions.delete session))

/-- The row of a server. -/
def serverTarget (instanceId : Option String) : List Target :=
  match instanceId with
  | some id => [.server id]
  | none => []

/-- `VirtualDesktopServerDB.create`. -/
def serverDbCreate (instanceId : String) (server : VirtualDesktopServer) (ideaSessionId : String) :
    Traced Target World Exc VirtualDesktopServer :=
  let row := { convertServerObjectToDbDict server with
    ideaSessionId := some ideaSessionId
    ideaSessionOwner := some username
    state := some "CREATED" }
  Traced.observe (fun _ _ => [.server instanceId]) do
    onServers (Proc.modify fun t : ServerTable => t.putItem instanceId row)
    return convertDbEntryToServerObject (some instanceId) row

/-- `VirtualDesktopServerDB.update`. -/
def serverDbUpdate (server : VirtualDesktopServer) : Traced Target World Exc PUnit :=
  Traced.observe (fun _ _ => serverTarget server.instanceId) (onServers (Sessions.updateServer server))

/-- `VirtualDesktopServerDB.delete`. -/
def serverDbDelete (instanceId : String) : Traced Target World Exc PUnit :=
  Traced.observe (fun _ _ => [.server instanceId]) (onServers (Sessions.deleteServer (some instanceId)))

/-- The rows of a schedules table that another no longer has as they are. -/
def changedSchedules (t t' : Table (String × String) ScheduleDict) : List Target :=
  (t.items.keys.filter fun key => t'.getItem key ≠ t.getItem key).map .schedule

/-- A schedule function for the week of a session, with the week that it leaves. -/
def onSchedules (week : DayOfWeek → Option Schedule) (c : Proc Schedules.World Exc PUnit) :
    Traced Target World Exc (DayOfWeek → Option Schedule) :=
  Traced.observe (fun w w' => changedSchedules w.schedules w'.schedules) <|
    Proc.zoom (fun w : World => (⟨w.schedules, w.drawn, week⟩ : Schedules.World))
      (fun s w => { w with schedules := s.table, drawn := s.drawn })
      (c >>= fun _ => Proc.gets Schedules.World.week)

/-- One change of a permission. -/
def applyChange (c : Change) : Traced Target World Exc PUnit :=
  Traced.observe (fun _ _ => c.key.toList.map .permission) do
    let _ ← onPermissions c.apply
    return ⟨⟩

/-! ## Owners -/

/-- `complete_…_request`: a request without an owner is the user's. -/
def completed (request : SessionRequest) : SessionRequest :=
  { request with owner := if isEmptyOpt request.owner then some username else request.owner }

/-- The requests for which the owner is the user. -/
def ownRequests (requests : List SessionRequest) : List SessionRequest :=
  (requests.filter fun r => ReadIsolation.validateOwner username r.owner).map (completed username)

/-- The sessions of requests, with whether to use force, are all read before anything is done. -/
def readRequested (requests : List SessionRequest) :
    Traced Target World Exc (List (VirtualDesktopSession × Bool)) :=
  Traced.lift do
    let sessions ← onSessions
      (Lifecycle.readSessions hours (requests.map fun r => (r.owner, r.ideaSessionId)))
    return sessions.zip (requests.map fun r => r.force.getD false)

/-! ## Stopping, resuming, rebooting and deleting -/

/-- `DCVBrokerClient.delete_sessions`: a session with connections is deleted by force only. -/
def deleteDcvSessions (sessions : List (VirtualDesktopSession × Bool)) :
    Traced Target World Exc (List String) :=
  let forced := sessions.filter fun s => s.2
  let idle := sessions.filter fun s => !s.2 && services.connectionCount (s.1.dcvSessionId.getD "") == 0
  let ids := (forced ++ idle).map fun s => s.1.dcvSessionId.getD ""
  if ids = [] then pure []
  else do
    Traced.emit (ids.map .dcvSession)
    Traced.lift (Proc.liftExcept (services.deleteSessions ids))

/-- The sessions whose DCV session is gone are put in a state; `session_map` has the last session with
the id. -/
def updateDeleted (state : VirtualDesktopSessionState) (sessions : List VirtualDesktopSession)
    (ids : List String) : Traced Target World Exc PUnit :=
  Traced.forEach (fun id => match sessions.reverse.find? fun s => s.dcvSessionId == some id with
    | none => Traced.raise (.other .keyError id)
    | some session => do
      let _ ← sessionDbUpdate hours { session with state := state }
      return ⟨⟩) ids

/-- The sessions are put in a state. -/
def updateAll (state : VirtualDesktopSessionState) (sessions : List VirtualDesktopSession) :
    Traced Target World Exc PUnit :=
  Traced.forEach (fun session => do
    let _ ← sessionDbUpdate hours { session with state := state }
    return ⟨⟩) sessions

/-- `server.instance_id`. -/
def instanceIdOf : Option VirtualDesktopServer → Except Exc (Option String)
  | none => .error (attributeError "instance_id")
  | some server => .ok server.instanceId

/-- An id in a request to EC2, which may not be missing. -/
def idParam : Option String → Except Exc String
  | none => .error (.other .clientError "ParamValidationError")
  | some id => .ok id

/-- The ids of the instances of servers, for a request to EC2. -/
def instanceIds (servers : List (Option VirtualDesktopServer)) : Except Exc (List String) := do
  let ids ← servers.mapM instanceIdOf
  ids.mapM idParam

/-- One half of `stop_or_hibernate_servers`. -/
def stopServers (hibernate : Bool) (servers : List (Option VirtualDesktopServer)) :
    Traced Target World Exc PUnit :=
  if servers = [] then pure ⟨⟩
  else do
    let ids ← Traced.lift (Proc.liftExcept (instanceIds servers))
    issue services (.stopInstances ids hibernate)
    Traced.forEach (fun id => do
      let server ← Traced.lift (onServers (getServer (some id)))
      match server with
      | none => Traced.raise (attributeError "state")
      | some server =>
        serverDbUpdate { server with state := some (if hibernate then "HIBERNATED" else "STOPPED") }) ids

/-- `VirtualDesktopSessionUtils.stop_sessions`. -/
def stopSessionsImpl (requests : List SessionRequest) : Traced Target World Exc PUnit := do
  let sessions ← readRequested hours requests
  let ready := sessions.filter fun s => s.1.state = .ready
  let toDelete := ready.filter fun s => !isEmptyOpt s.1.dcvSessionId
  let invalid := (ready.filter fun s => isEmptyOpt s.1.dcvSessionId).map Prod.fst
  let ids ← deleteDcvSessions services toDelete
  updateDeleted hours .stopping (toDelete.map Prod.fst) ids
  updateAll hours .stopping invalid
  stopServers services false ((invalid.filter fun s => !s.hibernationEnabled).map fun s => s.server)
  stopServers services true ((invalid.filter fun s => s.hibernationEnabled).map fun s => s.server)

def stopSessions (sessions : Option (List SessionRequest)) : Traced Target World Exc PUnit := do
  let requests ← required sessions
  let requests := ownRequests username requests
  Traced.when (requests ≠ []) (stopSessionsImpl hours services requests)

/-- `VirtualDesktopSessionUtils.resume_sessions`; a failure of EC2 is a reason in the response. -/
def resumeSessionsImpl (requests : List SessionRequest) : Traced Target World Exc PUnit := do
  let sessions ← readRequested hours requests
  let stopped := (sessions.map Prod.fst).filter fun s => s.state = .stopped
  let ids ← Traced.lift (Proc.liftExcept (instanceIds (stopped.map fun s => s.server)))
  Traced.emit (ids.map .ec2Instance)
  Traced.when (services.ec2 (.startInstances ids)) (updateAll hours .resuming stopped)

def resumeSessions (sessions : Option (List SessionRequest)) : Traced Target World Exc PUnit := do
  let requests ← required sessions
  let requests := ownRequests username (requests.filter fun r => !isEmptyOpt r.ideaSessionId)
  Traced.when (requests ≠ []) (resumeSessionsImpl hours services requests)

/-- `VirtualDesktopSessionUtils.reboot_sessions`: a session with connections is rebooted by force only. -/
def rebootSessionsImpl (requests : List SessionRequest) : Traced Target World Exc PUnit := do
  let sessions ← readRequested hours requests
  let eligible := sessions.filter fun s => s.1.state = .ready || s.1.state = .error
  let forced := eligible.filter fun s => s.2
  let idle := eligible.filter fun s => !s.2 && services.connectionCount (s.1.dcvSessionId.getD "") == 0
  let toReboot := (forced ++ idle).map Prod.fst
  updateAll hours .resuming toReboot
  Traced.when (toReboot ≠ []) do
    let ids ← Traced.lift (Proc.liftExcept (instanceIds (toReboot.map fun s => s.server)))
    issue services (.rebootInstances ids)

def rebootSessions (sessions : Option (List SessionRequest)) : Traced Target World Exc PUnit := do
  let requests ← required sessions
  let requests := ownRequests username requests
  Traced.when (requests ≠ []) (rebootSessionsImpl hours services requests)

def terminateDcvHosts (servers : List (Option VirtualDesktopServer)) : Traced Target World Exc PUnit :=
  if servers = [] then pure ⟨⟩
  else do
    let ids ← Traced.lift (Proc.liftExcept (instanceIds servers))
    issue services (.terminateInstances ids)
    Traced.forEach serverDbDelete ids

def deleteSchedulesForSession (session : VirtualDesktopSession) : Traced Target World Exc PUnit := do
  let _ ← onSchedules session.schedule
    (Proc.forEach (fun d => deleteSchedule (session.schedule d)) DayOfWeek.all)
  return ⟨⟩

def deletePermissionsForSession (session : VirtualDesktopSession) : Traced Target World Exc PUnit := do
  let permissions ← Traced.lift
    (onPermissions (getForSession paginator .done (session.ideaSessionId.getD "")))
  Traced.forEach (fun p => applyChange (.delete p)) permissions

def terminateSessions (requests : List SessionRequest) : Traced Target World Exc PUnit := do
  let sessions ← readRequested hours requests
  let stopped := (sessions.filter fun s => isEmptyOpt s.1.dcvSessionId || s.1.state = .stopped).map Prod.fst
  let toDelete := sessions.filter fun s => !(isEmptyOpt s.1.dcvSessionId || s.1.state = .stopped)
  let ids ← deleteDcvSessions services toDelete
  updateDeleted hours .deleting (toDelete.map Prod.fst) ids
  terminateDcvHosts services (stopped.map fun s => s.server)
  Traced.forEach (fun session => do
    deleteSchedulesForSession session
    deletePermissionsForSession paginator session
    sessionDbDelete session) stopped

def deleteSessions (sessions : Option (List SessionRequest)) : Traced Target World Exc PUnit := do
  let requests ← required sessions
  terminateSessions hours paginator services
    (ownRequests username (requests.filter fun r => !isEmptyOpt r.ideaSessionId))

/-! ## Creating and updating a session -/

def getDefaultSchedules (d : DayOfWeek) : Option Schedule :=
  let scheduleType := services.defaultType d
  let times :=
    match scheduleType with
    | .workingHours => (hours.startUpTime, hours.shutDownTime)
    | .stopAllDay => ("23:59", "00:00")
    | .startAllDay => ("00:00", "23:59")
    | .customSchedule => services.defaultTimes d
    | .noSchedule => ("", "")
  some {
    dayOfWeek := some d
    startUpTime := some times.1
    shutDownTime := some times.2
    scheduleType := scheduleType }

/-- The week of a request; what is missing is no schedule. -/
def SessionRequest.week (request : SessionRequest) : DayOfWeek → Option Schedule :=
  request.schedule.getD fun _ => none

/-- `VirtualDesktopSessionUtils.create_session`, where the failure to start an instance is a reason in the
response. The rows of the payload's own week are taken for rows of the new session. -/
def createSessionImpl (request : SessionRequest) (name : Option String) (ideaSessionId : String) :
    Traced Target World Exc PUnit :=
  match services.runInstances request with
  | .error _ => pure ⟨⟩
  | .ok instanceId => do
    let server ← serverDbCreate username instanceId (request.server.getD {}) ideaSessionId
    let week ← onSchedules request.week
      (updateScheduleForSession hours uuids (getDefaultSchedules hours services) ideaSessionId username)
    sessionDbCreate hours {
      owner := some username
      ideaSessionId := some ideaSessionId
      name := name
      description := request.description
      dcvSessionId := request.dcvSessionId
      state := .provisioning
      hibernationEnabled := request.hibernationEnabled.getD false
      server := some server
      schedule := week }

/-- Whether `_validate_create_session_request` accepts a request. -/
def acceptsCreate (request : SessionRequest) (w : World) : Bool :=
  ReadIsolation.validateOwner username request.owner &&
    decide ((w.sessions.queryKeys fun key => key.1 == username).length < services.allowedSessionsPerUser) &&
    services.acceptsSession request

/-- The name of a new session, which is an id where the request has none. -/
def newName (request : SessionRequest) : Traced Target World Exc (Option String) :=
  if isEmptyOpt request.name then do
    let id ← uuid uuids
    return some id
  else pure request.name

def createSession (session : Option SessionRequest) : Traced Target World Exc PUnit :=
  match session with
  | none => pure ⟨⟩
  | some request => do
    let accepted ← Traced.lift (Proc.gets (acceptsCreate services username request))
    Traced.when (accepted = true) do
      let name ← newName uuids request
      let ideaSessionId ← uuid uuids
      createSessionImpl hours uuids services username request name ideaSessionId

/-- Whether a text of a request takes the place of the session's. -/
def replaces (new current : Option String) : Bool := !isEmptyOpt new && new != current

/-- The session with the name and the description of a request. -/
def editTexts (request : SessionRequest) (session : VirtualDesktopSession) : VirtualDesktopSession :=
  { session with
    name := if replaces request.name session.name then request.name else session.name
    description :=
      if replaces request.description session.description then request.description
      else session.description }

/-- `VirtualDesktopControllerUtils.change_instance_type`, and whether it succeeds. -/
def changeInstanceType (instanceId instanceType : Option String) : Traced Target World Exc Bool :=
  if isEmptyOpt instanceId || isEmptyOpt instanceType then pure false
  else do
    Traced.emit [.ec2Instance (instanceId.getD "")]
    return services.ec2 (.modifyInstanceType (instanceId.getD "") (instanceType.getD ""))

/-- The part of `_update_session` about the server: the session, and whether its server is another now, or
nothing when the operation has failed. The server is looked up under the id that the request names. -/
def editServer (request : SessionRequest) (session : VirtualDesktopSession) :
    Traced Target World Exc (Option (VirtualDesktopSession × Bool)) :=
  match request.server with
  | none => pure (some (session, false))
  | some server =>
    if isEmptyOpt server.instanceType then pure (some (session, false))
    else do
      let old ← Traced.lift (onServers (getServer server.instanceId))
      match old with
      | none => pure (some (session, false))
      | some old =>
        if old.instanceType = server.instanceType then pure (some (session, false))
        else if session.hibernationEnabled then pure none
        else do
          let success ← changeInstanceType services server.instanceId server.instanceType
          if success = false then pure none
          else
            match session.server with
            | none => Traced.raise (attributeError "instance_type")
            | some own =>
              pure (some ({ session with
                server := some { own with instanceType := server.instanceType } }, true))

/-- The part of `_update_session` about the schedules. -/
def editSchedule (request : SessionRequest) (session : VirtualDesktopSession) :
    Traced Target World Exc VirtualDesktopSession :=
  match request.schedule with
  | none => pure session
  | some newSchedules => do
    let week ← onSchedules session.schedule (updateScheduleForSession hours uuids newSchedules
      (session.ideaSessionId.getD "") (session.owner.getD ""))
    return { session with schedule := week }

/-- The session is written back, and its instance is tagged with its name. -/
def saveSession (session : VirtualDesktopSession) : Traced Target World Exc PUnit := do
  let saved ← sessionDbUpdate hours session
  let ids ← Traced.lift (Proc.liftExcept (instanceIds [saved.server]))
  Traced.forEach (fun id => issue services (.createTag id)) ids

/-- `_update_session`, for the session that was read. -/
def updateSessionImpl (request : SessionRequest) (old : VirtualDesktopSession) :
    Traced Target World Exc PUnit := do
  let edited ← editServer services request (editTexts request old)
  match edited with
  | none => pure ⟨⟩
  | some (session, serverUpdated) => do
    let session ← editSchedule hours uuids request session
    Traced.when (serverUpdated = true) (Traced.forEach serverDbUpdate session.server.toList)
    Traced.when (replaces request.name old.name || replaces request.description old.description ||
      serverUpdated || request.schedule.isSome) (saveSession hours services session)

def updateSession (session : Option SessionRequest) : Traced Target World Exc PUnit :=
  match session with
  | none => Traced.raise (attributeError "owner")
  | some request =>
    if ReadIsolation.validateOwner username request.owner = false then pure ⟨⟩
    else do
      let request := completed username request
      let old ← Traced.lift (onSessions (Sessions.getFromDb hours request.owner request.ideaSessionId))
      match old with
      | none => pure ⟨⟩
      | some old => updateSessionImpl hours uuids services request old

/-! ## Connecting -/

/-- `validate_get_connection_info_request`. -/
def validateConnectionInfo (info : ConnectionInfoRequest) : Bool :=
  !isEmptyOpt info.dcvSessionId || (!isEmptyOpt info.ideaSessionOwner && !isEmptyOpt info.ideaSessionId)

/-- The session that was read, or else the one that the request names. -/
def sessionOfRequest (info : ConnectionInfoRequest) (session : Option VirtualDesktopSession) :
    Traced Target World Exc (Option VirtualDesktopSession) :=
  if session.isNone && !isEmptyOpt info.ideaSessionId then
    Traced.lift (onSessions (Sessions.getFromDb hours info.ideaSessionOwner info.ideaSessionId))
  else pure session

/-- The connection to a DCV session is asked for. When the broker gives none, the session of the request
goes into the error state. -/
def connect (info : ConnectionInfoRequest) (dcvSessionId : Option String)
    (session : Option VirtualDesktopSession) : Traced Target World Exc PUnit :=
  if services.connects (dcvSessionId.getD "") username then pure ⟨⟩
  else do
    let session ← sessionOfRequest hours info session
    match session with
    | none => pure ⟨⟩
    | some session => do
      let _ ← sessionDbUpdate hours { session with state := .error }
      return ⟨⟩

/-- `_get_session_connection_info`, which reads the session under the owner that the request names. -/
def getSessionConnectionInfoImpl (info : ConnectionInfoRequest) : Traced Target World Exc PUnit :=
  if isEmptyOpt info.dcvSessionId then do
    let session ← Traced.lift
      (onSessions (Sessions.getFromDb hours info.ideaSessionOwner info.ideaSessionId))
    match session with
    | none => pure ⟨⟩
    | some session =>
      if session.state ≠ .ready then pure ⟨⟩
      else connect hours services username info session.dcvSessionId (some session)
  else connect hours services username info info.dcvSessionId none

/-- `VirtualDesktopUserAPI.get_session_connection_info`: the owner that is validated is `username`. -/
def getSessionConnectionInfo (connectionInfo : Option ConnectionInfoRequest) :
    Traced Target World Exc PUnit :=
  match connectionInfo with
  | none => Traced.raise (attributeError "dcv_session_id")
  | some info =>
    if validateConnectionInfo info && ReadIsolation.validateOwner username info.username then
      getSessionConnectionInfoImpl hours services username info
    else pure ⟨⟩

/-! ## Session permissions -/

/-- `validate_create_session_permission_request`. -/
def validateCreatePermission (request : PermissionRequest) : Bool :=
  let p := request.permission
  !isEmptyOpt p.ideaSessionId && !isEmptyOpt p.ideaSessionOwner && !isEmptyOpt p.ideaSessionName &&
    !isEmptyOpt p.ideaSessionInstanceType && p.ideaSessionState.isSome && p.ideaSessionBaseOs.isSome &&
    request.ideaSessionCreatedOn.isSome && p.ideaSessionType.isSome &&
    !isEmptyOpt (p.permissionProfile.getD none) && p.actorType.isSome && !isEmptyOpt p.actorName &&
    p.expiryDate.isSome

/-- The check of a permission that is created or updated: `wellFormed` is the check of its fields, and its
session is one of the owner that it names. -/
def validatePermission (wellFormed : Bool) (p : SessionPermission) : Proc World Exc Bool :=
  if wellFormed = false then pure false
  else do
    let session ← onSessions (Sessions.getFromDb hours p.ideaSessionOwner p.ideaSessionId)
    match session with
    | none => pure false
    | some session => pure (services.supportsPermissions session)

/-- The checks of a list of permissions are all made. -/
def validateAll (validate : PermissionRequest → Proc World Exc Bool) :
    List PermissionRequest → Proc World Exc Bool
  | [] => pure true
  | request :: rest => do
    let valid ← validate request
    let allValid ← validateAll validate rest
    return valid && allValid

/-- `validate_update_session_permission_request`: a permission that is deleted is not checked. -/
def validatePermissions (creates updates : List PermissionRequest) (changes : List Change) :
    Proc World Exc Bool := do
  let created ← validateAll
    (fun r => validatePermission hours services (validateCreatePermission r) r.permission) creates
  let updated ← validateAll
    (fun r => validatePermission hours services (!isEmptyOpt r.permission.ideaSessionId) r.permission) updates
  return created && updated && !changes.isEmpty &&
    decide (changes.map fun c => c.permission.actorName).Nodup

/-- The changes of a request in the order in which they are made. -/
def changesOf (creates updates deletes : List PermissionRequest) : List Change :=
  creates.map (fun r => .create r.permission) ++ updates.map (fun r => .update r.permission) ++
    deletes.map (fun r => .delete r.permission)

/-- `VirtualDesktopUserAPI.update_session_permission`: each permission names the user as the owner of its
session. -/
def updateSessionPermission (creates updates deletes : Option (List PermissionRequest)) :
    Traced Target World Exc PUnit := do
  let creates ← required creates
  let deletes ← required deletes
  let updates ← required updates
  let changes := changesOf creates updates deletes
  if changes.any fun c => c.permission.ideaSessionOwner != some username then pure ⟨⟩
  else do
    let valid ← Traced.lift (validatePermissions hours services creates updates changes)
    Traced.when (valid = true) (Traced.forEach applyChange changes)

/-! ## One call -/

def getSessionInfo (session : Option SessionRequest) : Traced Target World Exc PUnit :=
  match session with
  | none => Traced.raise (attributeError "idea_session_id")
  | some request =>
    if ReadIsolation.validateOwner username request.owner = false then pure ⟨⟩
    else do
      let request := completed username request
      let session ← Traced.lift (onSessions (Sessions.getFromDb hours request.owner request.ideaSessionId))
      Traced.when (session.isNone = true) (Traced.raise (attributeError "failure_reason"))

/-- An operation that answers from the tables. -/
def answer (reply : World → Except Exc ReadIsolation.Reply) : Traced Target World Exc PUnit :=
  Traced.lift do
    let result ← Proc.gets reply
    let _ ← Proc.liftExcept result
    return ⟨⟩

/-- `VirtualDesktopUserAPI.invoke`, for a call that is authorized. -/
def invoke : Operation → Traced Target World Exc PUnit
  | .createSession session => createSession hours uuids services username session
  | .updateSession session => updateSession hours uuids services username session
  | .deleteSessions sessions => deleteSessions hours paginator services username sessions
  | .stopSessions sessions => stopSessions hours services username sessions
  | .resumeSessions sessions => resumeSessions hours services username sessions
  | .rebootSessions sessions => rebootSessions hours services username sessions
  | .getSessionInfo session => getSessionInfo hours username session
  | .getSessionConnectionInfo info => getSessionConnectionInfo hours services username info
  | .updateSessionPermission creates updates deletes =>
    updateSessionPermission hours services username creates updates deletes
  | .list request => answer (services.reply request)
  | .listSoftwareStacks projectId =>
    if isEmptyOpt projectId then pure ⟨⟩ else answer (services.softwareStacks (projectId.getD ""))

end ContainRes.VirtualDesktop.UserApi
