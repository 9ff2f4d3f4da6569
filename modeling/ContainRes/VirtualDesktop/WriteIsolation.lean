import ContainRes.VirtualDesktop.ScheduleRows
import ContainRes.VirtualDesktop.UserApiTrace

/-! # What a user can change

A call of `VirtualDesktopUserAPI` should change nothing that belongs to a session of another user. Ownership
is checked on one field of the payload, and the call acts on others.

* **`Foreign`**, **`Isolated`** — a target is another user's; a call acts on no such target, and then every
  row of another user is as it was (`othersUnchanged`).
* **`InstanceOwn`**, **`ServerOwn`**, **`SchedulesOwn`**, **`PermissionsOwn`** — what the row of a session names
  is not another user's.
* **`Harmless`** — the condition on a request and the tables in front of it. -/

namespace ContainRes.VirtualDesktop.WriteIsolation

open Effects Store Text
open Schedules SessionPermissions
open Sessions UserApi

/-- An owner is named, and it is not the user. -/
def OfAnother (username : String) (owner : Option String) : Prop := ∃ o, owner = some o ∧ o ≠ username

/-- The row, the instance or the DCV session belongs to a session that is not the user's. -/
def Foreign (username : String) (w : UserApi.World) : Target → Prop
  | .session owner _ => owner ≠ username
  | .server id => ∃ row, w.servers.getItem id = some row ∧ OfAnother username row.ideaSessionOwner
  | .schedule key => ∃ row, w.schedules.getItem key = some row ∧ OfAnother username row.ideaSessionOwner
  | .permission key =>
    ∃ row, w.permissions.getItem key = some row ∧ OfAnother username row.ideaSessionOwner
  | .ec2Instance id =>
    ∃ key row server, w.sessions.getItem key = some row ∧ key.1 ≠ username ∧
      row.server = some server ∧ server.instanceId = some id
  | .dcvSession id =>
    ∃ key row, w.sessions.getItem key = some row ∧ key.1 ≠ username ∧ row.dcvSessionId = some id

variable (hours : WorkingHours) (uuids : Uuids)
  (paginator : Paginator ((String × String) × SessionPermissionRow)) (services : Services)
  (username : String)

/-- A call acts on nothing of another user's. -/
def Isolated (w : UserApi.World) (operation : Operation) : Prop :=
  ActsOn (fun target => ¬ Foreign username w target)
    (invoke hours uuids paginator services username operation) w

/-- The rows that belong to sessions of other users are as they were. -/
structure OthersUnchanged (w w' : UserApi.World) : Prop where
  sessions : ∀ key row, w.sessions.getItem key = some row → key.1 ≠ username →
    w'.sessions.getItem key = some row
  servers : ∀ id row, w.servers.getItem id = some row → OfAnother username row.ideaSessionOwner →
    w'.servers.getItem id = some row
  schedules : ∀ key row, w.schedules.getItem key = some row → OfAnother username row.ideaSessionOwner →
    w'.schedules.getItem key = some row
  permissions : ∀ key row, w.permissions.getItem key = some row → OfAnother username row.ideaSessionOwner →
    w'.permissions.getItem key = some row

/-- An isolated call leaves the rows of the others. -/
theorem othersUnchanged {w : UserApi.World} {operation : Operation}
    (h : Isolated hours uuids paginator services username w operation) : OthersUnchanged username w
      ((invoke hours uuids paginator services username operation).run w).2 := by
  have hleaves := invoke_leavesOthers hours uuids paginator services username operation w
  refine ⟨fun key row hrow hforeign => ?_, fun id row hrow hforeign => ?_,
    fun key row hrow hforeign => ?_, fun key row hrow hforeign => ?_⟩
  · rw [hleaves.sessions key fun hmem => h _ hmem hforeign]
    exact hrow
  · rw [hleaves.servers id fun hmem => h _ hmem ⟨row, hrow, hforeign⟩]
    exact hrow
  · exact hleaves.schedules key row hrow fun hmem => h _ hmem ⟨row, hrow, hforeign⟩
  · rw [hleaves.permissions key fun hmem => h _ hmem ⟨row, hrow, hforeign⟩]
    exact hrow

/-! ## The condition -/

/-- The session under an owner and an id. -/
def sessionOf (w : UserApi.World) (owner id : Option String) : Except Exc (Option VirtualDesktopSession) :=
  ((Sessions.getFromDb hours owner id).run w.sessions).1

/-- The instance of a session. -/
def OnInstance (session : VirtualDesktopSession) (instanceId : String) : Prop :=
  ∃ server, session.server = some server ∧ server.instanceId = some instanceId

/-- The instance that a session names is not another user's. -/
def InstanceOwn (w : UserApi.World) (session : VirtualDesktopSession) : Prop :=
  ∀ id, OnInstance session id → ¬ Foreign username w (.ec2Instance id)

/-- The row of the server that a session names is not another user's. -/
def ServerOwn (w : UserApi.World) (session : VirtualDesktopSession) : Prop :=
  ∀ id, OnInstance session id → ¬ Foreign username w (.server id)

/-- The schedules that a session names are not another user's. -/
def SchedulesOwn (w : UserApi.World) (session : VirtualDesktopSession) : Prop :=
  ∀ d key, rowKey (session.schedule d) = some key → ¬ Foreign username w (.schedule key)

/-- The permissions under the id of a session, which are deleted under the names that are read, are not
another user's. -/
def PermissionsOwn (w : UserApi.World) (session : VirtualDesktopSession) : Prop :=
  ∀ key, w.permissions.Has key → session.ideaSessionId = some key.1 →
    ¬ Foreign username w (.permission (textOf (some key.1), textOf (some key.2)))

/-- The sessions of the user that a list of requests names, each with whether to use force. -/
def Requested (w : UserApi.World) (requests : List SessionRequest) (s : VirtualDesktopSession × Bool) : Prop :=
  ∃ request ∈ requests, ReadIsolation.validateOwner username request.owner = true ∧
    sessionOf hours w (some username) request.ideaSessionId = .ok (some s.1) ∧
      s.2 = request.force.getD false

/-- Force is used, or nobody is connected. -/
def Interruptible (s : VirtualDesktopSession × Bool) : Prop :=
  s.2 = true ∨ services.connectionCount (s.1.dcvSessionId.getD "") = 0

/-- The DCV session that is deleted with a session is not another user's. -/
def DcvSessionOwn (w : UserApi.World) (s : VirtualDesktopSession × Bool) : Prop :=
  Interruptible services s → ¬ Foreign username w (.dcvSession (s.1.dcvSessionId.getD ""))

/-- A session has no DCV session any more: what is left of it is deleted. -/
def Released (s : VirtualDesktopSession × Bool) : Prop :=
  isEmptyOpt s.1.dcvSessionId = true ∨ s.1.state = .stopped

/-- The instance that the update of a session gives another type, and the type. It is the instance that the
request names, whatever the session's is. -/
def typeChange (w : UserApi.World) (request : SessionRequest) : Option (String × String) :=
  match request.server with
  | none => none
  | some server =>
    match server.instanceId, server.instanceType with
    | some id, some instanceType =>
      if isEmpty id || isEmpty instanceType then none
      else (w.servers.getItem id).bind fun row =>
        if getAsString row.instanceType = some instanceType then none else some (id, instanceType)
    | _, _ => none

/-- The change of the type, if there is one, is possible. -/
def TypeAccepted (w : UserApi.World) (request : SessionRequest) (session : VirtualDesktopSession) : Prop :=
  ∀ change, typeChange w request = some change → session.hibernationEnabled = false ∧
    services.ec2 (.modifyInstanceType change.1 change.2) = true

/-- The rows of schedules that an update of a week deletes: those that the days name, as long as they are
there. -/
def schedulesDeleted (w : UserApi.World) (week new : DayOfWeek → Option Schedule) : List (String × String) :=
  deletedRows (fun d => deletedKey d (week d) (new d)) DayOfWeek.all w.schedules

/-- The condition for the update of a session. -/
structure UpdateHarmless (w : UserApi.World) (request : SessionRequest) (session : VirtualDesktopSession) :
    Prop where
  instanceType : ∀ change, typeChange w request = some change → session.hibernationEnabled = false →
    ¬ Foreign username w (.ec2Instance change.1)
  schedules : TypeAccepted services w request session → ∀ week, request.schedule = some week →
    ∀ key ∈ schedulesDeleted w session.schedule week, ¬ Foreign username w (.schedule key)
  ownServer : TypeAccepted services w request session → (typeChange w request).isSome →
    ServerOwn username w session
  ownInstance : TypeAccepted services w request session →
    (replaces request.name session.name || replaces request.description session.description ||
      (typeChange w request).isSome || request.schedule.isSome) = true → InstanceOwn username w session

/-- The changes of permissions up to the first that fails. -/
def reached (t : Permissions) : List Change → List Change
  | [] => []
  | c :: rest => c :: if c.Succeeds t then reached t rest else []

/-- The DCV session for which the connection to a session is asked. -/
def dcvSessionOf (info : ConnectionInfoRequest) (session : VirtualDesktopSession) : String :=
  (if isEmptyOpt info.dcvSessionId then session.dcvSessionId else info.dcvSessionId).getD ""

/-- **The condition.**

* A new session's instance has no row of another user yet, and the week of the request names no schedule of
  another user that is deleted.
* What the user's own sessions name, and the operation deletes or changes, is not another user's; and neither
  is the instance that an update gives another type.
* A connection that the broker refuses was asked for with a session of the user's.
* No permission that is reached is another user's. -/
def Harmless (w : UserApi.World) : Operation → Prop
  | .createSession (some request) =>
    acceptsCreate services username request w = true →
      ∀ id, services.runInstances request = .ok id → ¬ Foreign username w (.server id) ∧
        ∀ key ∈ schedulesDeleted w request.week (getDefaultSchedules hours services),
          ¬ Foreign username w (.schedule key)
  | .updateSession (some request) =>
    ReadIsolation.validateOwner username request.owner = true →
      ∀ session, sessionOf hours w (some username) request.ideaSessionId = .ok (some session) →
        UpdateHarmless services username w request session
  | .stopSessions (some requests) => ∀ s, Requested hours username w requests s → s.1.state = .ready →
      if isEmptyOpt s.1.dcvSessionId then InstanceOwn username w s.1 ∧ ServerOwn username w s.1
      else DcvSessionOwn services username w s
  | .resumeSessions (some requests) => ∀ s, Requested hours username w requests s → s.1.state = .stopped →
      InstanceOwn username w s.1
  | .rebootSessions (some requests) => ∀ s, Requested hours username w requests s →
      s.1.state = .ready ∨ s.1.state = .error → Interruptible services s → InstanceOwn username w s.1
  | .deleteSessions (some requests) => ∀ s, Requested hours username w requests s →
      (Released s → InstanceOwn username w s.1 ∧ ServerOwn username w s.1 ∧ SchedulesOwn username w s.1 ∧
        PermissionsOwn username w s.1) ∧
      (¬ Released s → DcvSessionOwn services username w s)
  | .getSessionConnectionInfo (some info) =>
    validateConnectionInfo info = true → ReadIsolation.validateOwner username info.username = true →
      ∀ session, sessionOf hours w info.ideaSessionOwner info.ideaSessionId = .ok (some session) →
        (isEmptyOpt info.dcvSessionId = true → session.state = .ready) →
          services.connects (dcvSessionOf info session) username = false →
            session.owner = some username
  | .updateSessionPermission (some creates) (some updates) (some deletes) =>
    (∀ c ∈ changesOf creates updates deletes, c.permission.ideaSessionOwner = some username) →
      ((validatePermissions hours services creates updates (changesOf creates updates deletes)).run w).1 =
        .ok true →
      ∀ c ∈ reached w.permissions (changesOf creates updates deletes), ∀ key, c.key = some key →
        ¬ Foreign username w (.permission key)
  | _ => True

/-- The permissions of the sessions that a request deletes are the user's. -/
def PermissionsClean (w : UserApi.World) : Operation → Prop
  | .deleteSessions (some requests) =>
    ∀ s, Requested hours username w requests s → Released s → PermissionsOwn username w s.1
  | _ => True

/-- The ids still to be drawn are new: no schedule has one, and neither does the week of a request or of the
session that it updates. -/
structure NewIds (w : UserApi.World) (operation : Operation) : Prop where
  rows : ∀ n, w.drawn ≤ n → ∀ day, w.schedules.getItem (day, uuids.id n) = none
  request : ∀ request, operation = .createSession (some request) → ∀ d key,
    rowKey (request.week d) = some key → ∀ n, w.drawn ≤ n → key.2 ≠ uuids.id n
  session : ∀ request, operation = .updateSession (some request) →
    ∀ session, sessionOf hours w (some username) request.ideaSessionId = .ok (some session) →
      ∀ d key, rowKey (session.schedule d) = some key → ∀ n, w.drawn ≤ n → key.2 ≠ uuids.id n

/-! ## What is read -/

variable {username} {w : UserApi.World}

theorem run_lift_getFromDb (owner id : Option String) : (Traced.lift (onSessions (Sessions.getFromDb hours owner id)) :
      Traced Target UserApi.World Exc _).run w = (sessionOf hours w owner id, w) :=
  Prod.ext rfl (reads_onSessions (Sessions.reads_getFromDb hours owner id) w)

variable {session : VirtualDesktopSession}

/-- A session that is found has a row. -/
theorem exists_row_of_sessionOf {owner id : Option String}
    (h : sessionOf hours w owner id = .ok (some session)) : isEmptyOpt owner = false ∧ isEmptyOpt id = false ∧
      ∃ row, Sessions.convertDbDictToSessionObject hours (owner.getD "", id.getD "") row = .ok session := by
  unfold sessionOf Sessions.getFromDb at h
  split at h
  · exact absurd h (by simp)
  · rename_i hguard
    have hguard' : isEmptyOpt owner = false ∧ isEmptyOpt id = false := by simpa using hguard
    rw [Proc.run_bind_of_ok (Proc.run_gets _ _)] at h
    cases hrow : w.sessions.getItem (owner.getD "", id.getD "") with
    | none =>
      rw [hrow] at h
      exact absurd h (by simp)
    | some row =>
      simp only [hrow, Proc.run_liftExcept] at h
      cases hconv : Sessions.convertDbDictToSessionObject hours (owner.getD "", id.getD "") row with
      | error e =>
        rw [hconv] at h
        exact absurd h (by simp [Except.map])
      | ok session' =>
        rw [hconv] at h
        have heq : session' = session := by simpa [Except.map] using h
        exact ⟨hguard'.1, hguard'.2, row, heq ▸ hconv⟩

/-- The fields of a session that is read back. -/
theorem fields_of_convert {key : String × String} {row : Sessions.SessionRow}
    (h : Sessions.convertDbDictToSessionObject hours key row = .ok session) :
    session.owner = getAsString (some key.1) ∧ session.ideaSessionId = getAsString (some key.2) ∧
      ∀ server, session.server = some server → getAsString server.instanceId = server.instanceId := by
  unfold Sessions.convertDbDictToSessionObject at h
  cases hweek : loadWeek hours row.schedule with
  | error e =>
    rw [hweek] at h
    exact absurd h (by simp [Bind.bind, Except.bind])
  | ok week =>
    rw [hweek] at h
    have heq := Except.ok.inj h
    rw [← heq]
    refine ⟨rfl, rfl, fun server hserver => ?_⟩
    obtain ⟨stored, -, rfl⟩ := Option.map_eq_some_iff.mp hserver
    exact getAsString_getAsString _

/-- A session as it is read under the name of its owner. -/
structure OwnSession (username : String) (session : VirtualDesktopSession) : Prop where
  owner : session.owner = some username
  instanceId : ∀ id, OnInstance session id → getAsString (some id) = some id

/-- A session found under the user's name is the user's. -/
theorem ownSession_of_sessionOf (hplain : Plain username) {id : Option String}
    (h : sessionOf hours w (some username) id = .ok (some session)) : OwnSession username session := by
  obtain ⟨-, -, row, hconv⟩ := exists_row_of_sessionOf hours h
  obtain ⟨howner, -, hserver⟩ := fields_of_convert hours hconv
  refine ⟨howner.trans hplain.getAsString, ?_⟩
  rintro id ⟨server, hs, hid⟩
  rw [← hid]
  exact hserver server hs

/-- Only the row of the session itself is written. -/
theorem not_foreign_sessionTarget (h : session.owner = some username) :
    ∀ target ∈ sessionTarget session, ¬ Foreign username w target := by
  intro target htarget
  unfold sessionTarget at htarget
  rw [h] at htarget
  cases hid : session.ideaSessionId with
  | none =>
    rw [hid] at htarget
    exact absurd htarget List.not_mem_nil
  | some id =>
    rw [hid] at htarget
    rw [List.mem_singleton.mp htarget]
    exact fun hne => hne rfl

end ContainRes.VirtualDesktop.WriteIsolation
