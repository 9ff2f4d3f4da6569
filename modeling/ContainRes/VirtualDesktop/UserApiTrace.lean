import ContainRes.VirtualDesktop.UserApi

/-! # The trace of a call says what the call changes

A row that is not in the trace of a call of `VirtualDesktopUserAPI` is as it was. The rows of the schedules
table that are created on the way are in no trace, so there the statement is about the rows that were there.

* **`LeavesOthers`** — the rows that are not acted on are as they were.
* **`invoke_leavesOthers`** — every call leaves the others. -/

namespace ContainRes.VirtualDesktop.UserApi

open Effects Store
open Schedules SessionPermissions
open Sessions

/-- Between two states the rows that are not acted on are as they were. -/
structure LeavesOthers (w w' : World) (l : List Target) : Prop where
  sessions : ∀ key : String × String, .session key.1 key.2 ∉ l →
    w'.sessions.getItem key = w.sessions.getItem key
  servers : ∀ id, .server id ∉ l → w'.servers.getItem id = w.servers.getItem id
  schedules : ∀ key row, w.schedules.getItem key = some row → .schedule key ∉ l →
    w'.schedules.getItem key = some row
  permissions : ∀ key, .permission key ∉ l → w'.permissions.getItem key = w.permissions.getItem key

theorem explanation_leavesOthers : Explanation LeavesOthers where
  refl _ _ := ⟨fun _ _ => rfl, fun _ _ => rfl, fun _ _ h _ => h, fun _ _ => rfl⟩
  trans := by
    intro s t r l l' h h'
    refine ⟨fun key hkey => ?_, fun id hid => ?_, fun key row hrow hkey => ?_, fun key hkey => ?_⟩
    · obtain ⟨hl, hl'⟩ := not_or.mp (mt List.mem_append.mpr hkey)
      exact (h'.sessions key hl').trans (h.sessions key hl)
    · obtain ⟨hl, hl'⟩ := not_or.mp (mt List.mem_append.mpr hid)
      exact (h'.servers id hl').trans (h.servers id hl)
    · obtain ⟨hl, hl'⟩ := not_or.mp (mt List.mem_append.mpr hkey)
      exact h'.schedules key row (h.schedules key row hrow hl) hl'
    · obtain ⟨hl, hl'⟩ := not_or.mp (mt List.mem_append.mpr hkey)
      exact (h'.permissions key hl').trans (h.permissions key hl)

/-- A call that leaves the others. -/
abbrev Leaves {α : Type} (c : Traced Target World Exc α) : Prop := Explained LeavesOthers c

variable (hours : WorkingHours) (uuids : Uuids)
  (paginator : Paginator ((String × String) × SessionPermissionRow)) (services : Services)
  (username : String)

/-! ## One operation on a table -/

variable {α : Type}

theorem reads_onSessions {c : Proc SessionTable Exc α} (hc : Reads c) : Reads (onSessions c) :=
  Reads.zoom hc fun _ => rfl

theorem reads_onServers {c : Proc ServerTable Exc α} (hc : Reads c) : Reads (onServers c) :=
  Reads.zoom hc fun _ => rfl

theorem reads_onPermissions {c : Proc Permissions Exc α} (hc : Reads c) : Reads (onPermissions c) :=
  Reads.zoom hc fun _ => rfl

theorem reads_getServer (instanceId : Option String) : Reads (getServer instanceId) :=
  Reads.ite (fun _ => Reads.raise _) fun _ => Reads.gets _

theorem leaves_lift {c : Proc World Exc α} (hc : Reads c) : Leaves (Traced.lift c) :=
  Explained.lift_reads explanation_leavesOthers hc

theorem leaves_pure (a : α) : Leaves (pure a) := Explained.pure explanation_leavesOthers a

theorem leaves_raise (e : Exc) : Leaves (Traced.raise e : Traced Target World Exc α) :=
  Explained.raise explanation_leavesOthers e

theorem leaves_emit (l : List Target) : Leaves (Traced.emit l) :=
  Explained.emit explanation_leavesOthers l

theorem leaves_bind {α β : Type} {c : Traced Target World Exc β} {f : β → Traced Target World Exc α}
    (hc : Leaves c) (hf : ∀ b, Leaves (f b)) : Leaves (c >>= f) :=
  Explained.bind explanation_leavesOthers hc hf

theorem leaves_when {b : Prop} [Decidable b] {c : Traced Target World Exc PUnit} (hc : Leaves c) :
    Leaves (Traced.when b c) :=
  Explained.when explanation_leavesOthers hc

theorem leaves_forEach {β : Type} {f : β → Traced Target World Exc PUnit} {xs : List β}
    (h : ∀ b, Leaves (f b)) : Leaves (Traced.forEach f xs) :=
  Explained.forEach explanation_leavesOthers h

theorem leaves_required (list : Option (List α)) : Leaves (required list) := by
  cases list with
  | none => exact leaves_raise _
  | some l => exact leaves_pure l

theorem leaves_uuid : Leaves (uuid uuids) := fun _ =>
  ⟨fun _ _ => rfl, fun _ _ => rfl, fun _ _ h _ => h, fun _ _ => rfl⟩

/-- An operation on the sessions table that leaves the rows other than a session's. -/
theorem leaves_sessions {session : VirtualDesktopSession} {c : Proc SessionTable Exc α}
    (h : ∀ t key, ¬ (session.owner = some key.1 ∧ session.ideaSessionId = some key.2) →
      (c.run t).2.getItem key = t.getItem key) :
    Leaves (Traced.observe (fun _ _ => sessionTarget session) (onSessions c)) := by
  intro w
  refine ⟨fun key hkey => h w.sessions key ?_, fun _ _ => rfl, fun _ _ hrow _ => hrow, fun _ _ => rfl⟩
  rintro ⟨howner, hid⟩
  refine hkey ?_
  simp only [Traced.trace_observe, sessionTarget, howner, hid, List.mem_singleton]

variable (session : VirtualDesktopSession)

theorem leaves_sessionDbCreate : Leaves (sessionDbCreate hours session) := by
  refine leaves_sessions fun t key hkey => ?_
  cases howner : session.owner with
  | none => rfl
  | some owner =>
    cases hid : session.ideaSessionId with
    | none => rfl
    | some id =>
      have hne : key ≠ (owner, id) := by
        rintro rfl
        exact hkey ⟨howner, hid⟩
      dsimp only
      rw [Proc.run_bind_of_ok (Proc.run_modify _ t), Proc.run_bind, Proc.run_liftExcept]
      cases Sessions.convertDbDictToSessionObject hours (owner, id)
        (convertSessionObjectToDbDict session) <;> exact Table.getItem_putItem_of_ne _ _ hne

theorem leaves_sessionDbUpdate : Leaves (sessionDbUpdate hours session) := by
  refine leaves_sessions fun t key hkey => ?_
  have hupdate := Sessions.getItem_update session t key
  rw [if_neg hkey] at hupdate
  rw [Proc.state_bind_of_reads fun _ => Reads.liftExcept _]
  exact hupdate

theorem leaves_sessionDbDelete : Leaves (sessionDbDelete session) := by
  refine leaves_sessions fun t key hkey => ?_
  rw [Sessions.getItem_delete, if_neg]
  rintro ⟨howner, hid, -⟩
  exact hkey ⟨howner, hid⟩

/-- An operation on the servers table that leaves the rows other than a server's. -/
theorem leaves_servers {instanceId : String} {l : List Target} {c : Proc ServerTable Exc α}
    (hl : .server instanceId ∈ l) (h : ∀ t id, id ≠ instanceId → (c.run t).2.getItem id = t.getItem id) :
    Leaves (Traced.observe (fun _ _ => l) (onServers c)) := by
  intro w
  refine ⟨fun _ _ => rfl, fun id hid => h w.servers id ?_, fun _ _ hrow _ => hrow, fun _ _ => rfl⟩
  rintro rfl
  exact hid hl

theorem leaves_serverDbCreate (instanceId : String) (server : VirtualDesktopServer)
    (ideaSessionId : String) : Leaves (serverDbCreate username instanceId server ideaSessionId) := by
  intro w
  refine ⟨fun _ _ => rfl, fun id hid => ?_, fun _ _ hrow _ => hrow, fun _ _ => rfl⟩
  have hne : id ≠ instanceId := by
    rintro rfl
    exact hid List.mem_cons_self
  exact Table.getItem_putItem_of_ne _ _ hne

theorem leaves_serverDbUpdate (server : VirtualDesktopServer) : Leaves (serverDbUpdate server) := by
  unfold serverDbUpdate Sessions.updateServer
  cases hid : server.instanceId with
  | none => exact fun w => explanation_leavesOthers.refl w _
  | some instanceId =>
    exact leaves_servers List.mem_cons_self fun t id hne => Table.getItem_putItem_of_ne _ _ hne

theorem leaves_serverDbDelete (instanceId : String) : Leaves (serverDbDelete instanceId) := by
  refine leaves_servers List.mem_cons_self fun t id hne => ?_
  unfold Sessions.deleteServer
  split
  · rfl
  · rw [Proc.run_bind_of_ok (Proc.run_gets _ t), Proc.run_bind_of_ok (Proc.run_modify _ t), Proc.state_when_raise]
    exact Table.getItem_deleteItem_of_ne _ hne

/-- The rows that a schedules table no longer has as they are. -/
theorem mem_changedSchedules {t t' : Table (String × String) ScheduleDict} {key : String × String} :
    .schedule key ∈ changedSchedules t t' ↔ t.Has key ∧ t'.getItem key ≠ t.getItem key := by
  unfold changedSchedules
  rw [List.mem_map]
  constructor
  · rintro ⟨key', hmem, heq⟩
    cases heq
    rw [List.mem_filter, Table.mem_keys_iff_has] at hmem
    exact ⟨hmem.1, by simpa using hmem.2⟩
  · rintro ⟨hhas, hne⟩
    refine ⟨key, ?_, rfl⟩
    rw [List.mem_filter, Table.mem_keys_iff_has]
    exact ⟨hhas, by simpa using hne⟩

theorem exists_of_mem_changedSchedules {t t' : Table (String × String) ScheduleDict} {target : Target}
    (h : target ∈ changedSchedules t t') : ∃ key, target = .schedule key := by
  obtain ⟨key, -, rfl⟩ := List.mem_map.mp h
  exact ⟨key, rfl⟩

theorem leaves_onSchedules (week : DayOfWeek → Option Schedule) (c : Proc Schedules.World Exc PUnit) :
    Leaves (onSchedules week c) := by
  intro w
  refine ⟨fun _ _ => rfl, fun _ _ => rfl, fun key row hrow hkey => ?_, fun _ _ => rfl⟩
  by_contra hne
  refine hkey (mem_changedSchedules.mpr ⟨Table.Has.of_getItem hrow, ?_⟩)
  rw [hrow]
  exact hne

theorem leaves_applyChange (c : Change) : Leaves (applyChange c) := by
  intro w
  have hrun : ((applyChange c).run w).2 = { w with permissions := c.applied w.permissions } := by
    unfold applyChange
    rw [Traced.run_observe, Proc.state_bind_of_reads fun _ => Reads.pure _]
    rfl
  rw [hrun]
  refine ⟨fun _ _ => rfl, fun _ _ => rfl, fun _ _ hrow _ => hrow, fun key hkey => ?_⟩
  refine getItem_applied_of_key_ne c w.permissions fun heq => hkey ?_
  simp only [applyChange, Traced.trace_observe, heq, Option.toList_some, List.map_cons, List.map_nil,
    List.mem_singleton]

theorem leaves_issue (command : Command) : Leaves (issue services command) :=
  leaves_bind (leaves_emit _) fun _ => leaves_when (leaves_raise _)

/-! ## The operations -/

theorem leaves_readRequested (requests : List SessionRequest) : Leaves (readRequested hours requests) :=
  leaves_lift (Reads.bind (reads_onSessions (Lifecycle.reads_readSessions hours _)) fun _ => Reads.pure _)

theorem leaves_instanceIds (servers : List (Option VirtualDesktopServer)) :
    Leaves (Traced.lift (Proc.liftExcept (instanceIds servers))) :=
  leaves_lift (Reads.liftExcept _)

theorem leaves_deleteDcvSessions (sessions : List (VirtualDesktopSession × Bool)) :
    Leaves (deleteDcvSessions services sessions) :=
  Explained.ite (leaves_pure _) (leaves_bind (leaves_emit _) fun _ => leaves_lift (Reads.liftExcept _))

theorem leaves_updateDeleted (state : VirtualDesktopSessionState) (sessions : List VirtualDesktopSession)
    (ids : List String) : Leaves (updateDeleted hours state sessions ids) := by
  refine leaves_forEach fun id => ?_
  cases sessions.reverse.find? fun s => s.dcvSessionId == some id with
  | none => exact leaves_raise _
  | some session => exact leaves_bind (leaves_sessionDbUpdate hours _) fun _ => leaves_pure _

theorem leaves_updateAll (state : VirtualDesktopSessionState) (sessions : List VirtualDesktopSession) :
    Leaves (updateAll hours state sessions) :=
  leaves_forEach fun _ => leaves_bind (leaves_sessionDbUpdate hours _) fun _ => leaves_pure _

theorem leaves_stopServers (hibernate : Bool) (servers : List (Option VirtualDesktopServer)) :
    Leaves (stopServers services hibernate servers) := by
  refine Explained.ite (leaves_pure _) (leaves_bind (leaves_instanceIds servers) fun ids =>
    leaves_bind (leaves_issue services _) fun _ => leaves_forEach fun id =>
      leaves_bind (leaves_lift (reads_onServers (reads_getServer _))) fun server => ?_)
  cases server with
  | none => exact leaves_raise _
  | some server => exact leaves_serverDbUpdate _

variable (sessions : Option (List SessionRequest))

theorem leaves_stopSessions : Leaves (stopSessions hours services username sessions) := by
  refine leaves_bind (leaves_required sessions) fun requests => leaves_when ?_
  refine leaves_bind (leaves_readRequested hours _) fun found => ?_
  refine leaves_bind (leaves_deleteDcvSessions services _) fun ids => ?_
  refine leaves_bind (leaves_updateDeleted hours _ _ _) fun _ => ?_
  refine leaves_bind (leaves_updateAll hours _ _) fun _ => ?_
  exact leaves_bind (leaves_stopServers services _ _) fun _ => leaves_stopServers services _ _

theorem leaves_resumeSessions : Leaves (resumeSessions hours services username sessions) := by
  refine leaves_bind (leaves_required sessions) fun requests => leaves_when ?_
  refine leaves_bind (leaves_readRequested hours _) fun found => ?_
  refine leaves_bind (leaves_instanceIds _) fun ids => ?_
  exact leaves_bind (leaves_emit _) fun _ => leaves_when (leaves_updateAll hours _ _)

theorem leaves_rebootSessions : Leaves (rebootSessions hours services username sessions) := by
  refine leaves_bind (leaves_required sessions) fun requests => leaves_when ?_
  refine leaves_bind (leaves_readRequested hours _) fun found => ?_
  refine leaves_bind (leaves_updateAll hours _ _) fun _ => leaves_when ?_
  exact leaves_bind (leaves_instanceIds _) fun ids => leaves_issue services _

theorem leaves_terminateDcvHosts (servers : List (Option VirtualDesktopServer)) :
    Leaves (terminateDcvHosts services servers) :=
  Explained.ite (leaves_pure _) (leaves_bind (leaves_instanceIds servers) fun _ =>
    leaves_bind (leaves_issue services _) fun _ => leaves_forEach leaves_serverDbDelete)

theorem leaves_deleteSchedulesForSession : Leaves (deleteSchedulesForSession session) :=
  leaves_bind (leaves_onSchedules _ _) fun _ => leaves_pure _

theorem leaves_deletePermissionsForSession : Leaves (deletePermissionsForSession paginator session) :=
  leaves_bind (leaves_lift (reads_onPermissions (reads_getForSession paginator _ _))) fun _ =>
    leaves_forEach fun _ => leaves_applyChange _

theorem leaves_deleteSessions : Leaves (deleteSessions hours paginator services username sessions) := by
  refine leaves_bind (leaves_required sessions) fun requests => ?_
  refine leaves_bind (leaves_readRequested hours _) fun found => ?_
  refine leaves_bind (leaves_deleteDcvSessions services _) fun ids => ?_
  refine leaves_bind (leaves_updateDeleted hours _ _ _) fun _ => ?_
  refine leaves_bind (leaves_terminateDcvHosts services _) fun _ => leaves_forEach fun session => ?_
  refine leaves_bind (leaves_deleteSchedulesForSession session) fun _ => ?_
  exact leaves_bind (leaves_deletePermissionsForSession paginator session) fun _ =>
    leaves_sessionDbDelete session

theorem leaves_createSession (session : Option SessionRequest) :
    Leaves (createSession hours uuids services username session) := by
  cases session with
  | none => exact leaves_pure _
  | some request =>
    refine leaves_bind (leaves_lift (Reads.gets _)) fun accepted => leaves_when ?_
    have hname : Leaves (newName uuids request) :=
      Explained.ite (leaves_bind (leaves_uuid uuids) fun _ => leaves_pure _) (leaves_pure _)
    refine leaves_bind hname fun name => leaves_bind (leaves_uuid uuids) fun id => ?_
    unfold createSessionImpl
    cases services.runInstances request with
    | error e => exact leaves_pure _
    | ok instanceId =>
      exact leaves_bind (leaves_serverDbCreate username instanceId _ _) fun server =>
        leaves_bind (leaves_onSchedules _ _) fun week => leaves_sessionDbCreate hours _

theorem leaves_editServer (request : SessionRequest) (session : VirtualDesktopSession) :
    Leaves (editServer services request session) := by
  unfold editServer
  cases request.server with
  | none => exact leaves_pure _
  | some server =>
    refine Explained.ite (leaves_pure _)
      (leaves_bind (leaves_lift (reads_onServers (reads_getServer _))) fun old => ?_)
    cases old with
    | none => exact leaves_pure _
    | some old =>
      refine Explained.ite (leaves_pure _) (Explained.ite (leaves_pure _) ?_)
      refine leaves_bind (Explained.ite (leaves_pure _)
        (leaves_bind (leaves_emit _) fun _ => leaves_pure _)) fun success => ?_
      refine Explained.ite (leaves_pure _) ?_
      cases session.server with
      | none => exact leaves_raise _
      | some own => exact leaves_pure _

theorem leaves_editSchedule (request : SessionRequest) (session : VirtualDesktopSession) :
    Leaves (editSchedule hours uuids request session) := by
  unfold editSchedule
  cases request.schedule with
  | none => exact leaves_pure _
  | some newSchedules => exact leaves_bind (leaves_onSchedules _ _) fun _ => leaves_pure _

theorem leaves_saveSession : Leaves (saveSession hours services session) :=
  leaves_bind (leaves_sessionDbUpdate hours session) fun _ =>
    leaves_bind (leaves_instanceIds _) fun _ => leaves_forEach fun _ => leaves_issue services _

theorem leaves_updateSession (session : Option SessionRequest) :
    Leaves (updateSession hours uuids services username session) := by
  cases session with
  | none => exact leaves_raise _
  | some request =>
    refine Explained.ite (leaves_pure _)
      (leaves_bind (leaves_lift (reads_onSessions (Sessions.reads_getFromDb hours _ _))) fun old => ?_)
    cases old with
    | none => exact leaves_pure _
    | some old =>
      refine leaves_bind (leaves_editServer services _ _) fun edited => ?_
      rcases edited with _ | ⟨session, serverUpdated⟩
      · exact leaves_pure _
      · refine leaves_bind (leaves_editSchedule hours uuids _ _) fun session => ?_
        exact leaves_bind (leaves_when (leaves_forEach leaves_serverDbUpdate)) fun _ =>
          leaves_when (leaves_saveSession hours services session)

theorem leaves_connect (info : ConnectionInfoRequest) (dcvSessionId : Option String)
    (session : Option VirtualDesktopSession) : Leaves (connect hours services username info dcvSessionId session) := by
  have hfound : Leaves (sessionOfRequest hours info session) :=
    Explained.ite (leaves_lift (reads_onSessions (Sessions.reads_getFromDb hours _ _))) (leaves_pure _)
  refine Explained.ite (leaves_pure _) (leaves_bind hfound fun found => ?_)
  cases found with
  | none => exact leaves_pure _
  | some session => exact leaves_bind (leaves_sessionDbUpdate hours _) fun _ => leaves_pure _

theorem leaves_getSessionConnectionInfo (connectionInfo : Option ConnectionInfoRequest) :
    Leaves (getSessionConnectionInfo hours services username connectionInfo) := by
  cases connectionInfo with
  | none => exact leaves_raise _
  | some info =>
    refine Explained.ite (Explained.ite (leaves_bind
      (leaves_lift (reads_onSessions (Sessions.reads_getFromDb hours _ _))) fun session => ?_)
        (leaves_connect hours services username _ _ _)) (leaves_pure _)
    cases session with
    | none => exact leaves_pure _
    | some session => exact Explained.ite (leaves_pure _) (leaves_connect hours services username _ _ _)

theorem reads_validatePermission (wellFormed : Bool) (p : SessionPermission) :
    Reads (validatePermission hours services wellFormed p) := by
  refine Reads.ite (fun _ => Reads.pure _) fun _ =>
    Reads.bind (reads_onSessions (Sessions.reads_getFromDb hours _ _)) fun session => ?_
  cases session with
  | none => exact Reads.pure _
  | some session => exact Reads.pure _

theorem reads_validateAll {validate : PermissionRequest → Proc World Exc Bool}
    (h : ∀ r, Reads (validate r)) (requests : List PermissionRequest) : Reads (validateAll validate requests) := by
  induction requests with
  | nil => exact Reads.pure _
  | cons r rest ih => exact Reads.bind (h r) fun _ => Reads.bind ih fun _ => Reads.pure _

theorem reads_validatePermissions (creates updates : List PermissionRequest) (changes : List Change) :
    Reads (validatePermissions hours services creates updates changes) :=
  Reads.bind (reads_validateAll (fun _ => reads_validatePermission hours services _ _) _) fun _ =>
    Reads.bind (reads_validateAll (fun _ => reads_validatePermission hours services _ _) _) fun _ =>
      Reads.pure _

theorem leaves_updateSessionPermission (creates updates deletes : Option (List PermissionRequest)) :
    Leaves (updateSessionPermission hours services username creates updates deletes) := by
  refine leaves_bind (leaves_required creates) fun creates => ?_
  refine leaves_bind (leaves_required deletes) fun deletes => ?_
  refine leaves_bind (leaves_required updates) fun updates => ?_
  refine Explained.ite (leaves_pure _) (leaves_bind
    (leaves_lift (reads_validatePermissions hours services _ _ _)) fun valid => ?_)
  exact leaves_when (leaves_forEach leaves_applyChange)

theorem leaves_getSessionInfo (session : Option SessionRequest) : Leaves (getSessionInfo hours username session) := by
  cases session with
  | none => exact leaves_raise _
  | some request =>
    exact Explained.ite (leaves_pure _) (leaves_bind
      (leaves_lift (reads_onSessions (Sessions.reads_getFromDb hours _ _))) fun _ => leaves_when (leaves_raise _))

theorem leaves_answer (reply : World → Except Exc ReadIsolation.Reply) : Leaves (answer reply) :=
  leaves_lift (Reads.bind (Reads.gets _) fun _ => Reads.bind (Reads.liftExcept _) fun _ => Reads.pure _)

/-- **Frame.** A call leaves every row as it was that is not in its trace. -/
theorem invoke_leavesOthers (operation : Operation) :
    Leaves (invoke hours uuids paginator services username operation) := by
  cases operation with
  | createSession session => exact leaves_createSession hours uuids services username session
  | updateSession session => exact leaves_updateSession hours uuids services username session
  | deleteSessions sessions => exact leaves_deleteSessions hours paginator services username sessions
  | stopSessions sessions => exact leaves_stopSessions hours services username sessions
  | resumeSessions sessions => exact leaves_resumeSessions hours services username sessions
  | rebootSessions sessions => exact leaves_rebootSessions hours services username sessions
  | getSessionInfo session => exact leaves_getSessionInfo hours username session
  | getSessionConnectionInfo info => exact leaves_getSessionConnectionInfo hours services username info
  | updateSessionPermission creates updates deletes =>
    exact leaves_updateSessionPermission hours services username creates updates deletes
  | list request => exact leaves_answer (services.reply request)
  | listSoftwareStacks projectId =>
    exact Explained.ite (leaves_pure _) (leaves_answer _)

end ContainRes.VirtualDesktop.UserApi
