import ContainRes.VirtualDesktop.SessionDeletion

/-! # Whether an interrupted deletion is resumed

The validate-deletion message of a session is delivered again after each delivery that raised. The
handler starts from the beginning each time: it reads the session's row, deletes the schedule rows that
the row names, and so on.

* **`Clean`** — nothing of the session is left, and its instance is terminated.
* **`Harmless`** — a delivery whose failure the next one can make up for: nothing has been deleted yet, or
  only permission rows; or everything has been done.
* **`deletion_resumes`** — when every delivery is harmless, the run of deliveries ends and leaves the
  session clean.
* **`deletion_abandoned`** — a failure after the session's row has been deleted leaves the instance
  running. -/

namespace ContainRes.VirtualDesktop.SessionDeletion

open Effects Store Text
open Schedules SessionPermissions
open Sessions

/-- Nothing of the session is left, and its instance is terminated. -/
structure Clean (sid owner iid : String) (w : World) : Prop where
  noSchedule : ∀ key row, w.schedules.getItem key = some row → row.ideaSessionId ≠ some sid
  noPermission : ∀ actor, w.permissions.getItem (sid, actor) = none
  noSession : w.sessions.getItem (owner, sid) = none
  terminated : w.instances iid = .terminated
  noServer : w.servers.getItem iid = none

/-- The keys of the schedule rows that a list of days names. -/
def keysOf (week : DayOfWeek → Option Schedule) (days : List DayOfWeek) : List (String × String) :=
  days.filterMap fun d => rowKey (week d)

/-- The keys of the schedule rows that a week names. -/
def scheduleKeys (week : DayOfWeek → Option Schedule) : List (String × String) :=
  keysOf week DayOfWeek.all

/-- The first day whose schedule names a row. -/
def firstNamed (week : DayOfWeek → Option Schedule) : Option DayOfWeek :=
  DayOfWeek.all.find? fun d => (rowKey (week d)).isSome

/-- The row of a session in `DELETING`: it can be read, its week names no row twice, and it has an
instance. -/
structure Deleting (hours : WorkingHours) (sid owner iid : String) (row : Sessions.SessionRow)
    (week : DayOfWeek → Option Schedule) : Prop where
  id_plain : Plain sid
  owner_plain : Plain owner
  instance_plain : Plain iid
  state : row.state = .deleting
  week_loads : loadWeek hours row.schedule = .ok week
  nodup : (scheduleKeys week).Nodup
  server : ∃ server, row.server = some server ∧ server.instanceId = some iid

/-- The permission rows of the session can be read back. -/
def Readable (sid : String) (w : World) : Prop :=
  ∀ actor r, w.permissions.getItem (sid, actor) = some r → r.Readable ∧ Plain actor

/-- The session's row is there, its DCV session is gone, the tables hold the rows that the session
names and no other schedule rows of it, and its permission rows can be read. -/
structure Pending (sid owner iid : String) (row : Sessions.SessionRow) (week : DayOfWeek → Option Schedule)
    (w : World) : Prop where
  session : w.sessions.getItem (owner, sid) = some row
  gone : isEmptyOpt (w.broker (textOf row.dcvSessionId)) ∨ w.broker (textOf row.dcvSessionId) = some "DELETED"
  schedules : ∀ key ∈ scheduleKeys week, w.schedules.Has key
  named : ∀ key r, w.schedules.getItem key = some r → r.ideaSessionId = some sid → key ∈ scheduleKeys week
  permissions : Readable sid w
  server : w.servers.Has iid

variable (paginator : Paginator ((String × String) × SessionPermissionRow))

/-- The permission rows of a session. -/
def sessionRows (sid : String) (t : Permissions) : List ((String × String) × SessionPermissionRow) :=
  t.scan.filter fun entry => entry.1.1 = sid

/-- A delivery that gets to the end: only the answer to the last call may be lost. -/
structure Completes (sid : String) (week : DayOfWeek → Option Schedule) (o : Delivery) (w : World) :
    Prop where
  schedules : ∀ d, (rowKey (week d)).isSome → o (.deleteSchedule d) = .done
  query : sessionRows sid w.permissions = [] ∨
    o .queryPermissions = .done ∧ paginator.Fits (sessionRows sid w.permissions)
  permissions : ∀ actor, w.permissions.Has (sid, actor) → o (.deletePermission actor) = .done
  session : o .deleteSession = .done
  terminate : o .terminateInstances = .done
  server : o .deleteServer ≠ .failed

/-- A delivery whose failure the next one can make up for. -/
inductive Harmless (sid : String) (week : DayOfWeek → Option Schedule) (o : Delivery) (w : World) : Prop
  /-- Nothing is deleted. -/
  | unread (h : o .readSession ≠ .done ∨ o .describeSessions ≠ .done)
  /-- The first schedule row is not deleted. -/
  | firstSchedule (d : DayOfWeek) (hfirst : firstNamed week = some d) (h : o (.deleteSchedule d) = .failed)
  /-- There are no schedule rows, and the deletion of a permission row fails. -/
  | permission (hnone : scheduleKeys week = []) (hquery : o .queryPermissions = .done)
      (entry : (String × String) × SessionPermissionRow)
      (hmem : entry ∈ queryRows paginator sid w.permissions)
      (h : o (.deletePermission entry.1.2) ≠ .done)
  /-- There are no schedule rows, and the session's row is not deleted. -/
  | session (hnone : scheduleKeys week = []) (h : o .deleteSession = .failed)
  | completes (h : Completes paginator sid week o w)

variable {hours : WorkingHours} {sid owner iid : String} {row : Sessions.SessionRow}
  {week : DayOfWeek → Option Schedule} {o : Delivery} {w : World}

/-! ## Schedules -/

variable {d : DayOfWeek}

theorem run_deleteScheduleOf_none (h : rowKey (week d) = none) (w : World) :
    (deleteScheduleOf o week d).run w = (.ok ⟨⟩, w) := by
  unfold deleteScheduleOf
  rw [h, Option.isSome_none, if_neg (by simp), Proc.attempt_done, deleteSchedule_of_rowKey_none h]
  rfl

/-- The deletion of a day's schedule that names a row. -/
theorem run_deleteScheduleOf_some {key : String × String} (h : rowKey (week d) = some key)
    (hdone : o (.deleteSchedule d) = .done) (hrow : w.schedules.Has key) :
    (deleteScheduleOf o week d).run w = (.ok ⟨⟩, { w with schedules := w.schedules.deleteItem key }) := by
  unfold deleteScheduleOf
  rw [h, Option.isSome_some, if_pos rfl, hdone, Proc.attempt_done]
  exact Proc.run_zoom_of (run_deleteSchedule_of_rowKey h hrow)

/-- The deletion of schedules that all have their rows. -/
theorem run_deleteSchedules {days : List DayOfWeek} (hnodup : (keysOf week days).Nodup)
    (hrows : ∀ key ∈ keysOf week days, w.schedules.Has key)
    (hdone : ∀ d ∈ days, (rowKey (week d)).isSome → o (.deleteSchedule d) = .done) :
    (Proc.forEach (deleteScheduleOf o week) days).run w =
      (.ok ⟨⟩, { w with schedules := w.schedules.deleteItems (keysOf week days) }) := by
  induction days generalizing w with
  | nil => rfl
  | cons d days ih =>
    have hdone' : ∀ d' ∈ days, (rowKey (week d')).isSome → o (.deleteSchedule d') = .done :=
      fun d' hd' => hdone d' (List.mem_cons_of_mem _ hd')
    rw [Proc.forEach_cons]
    cases hkey : rowKey (week d) with
    | none =>
      have hkeys : keysOf week (d :: days) = keysOf week days := by
        simp [keysOf, hkey]
      rw [hkeys] at hnodup hrows ⊢
      rw [Proc.run_bind_of_ok (run_deleteScheduleOf_none hkey w)]
      exact ih hnodup hrows hdone'
    | some key =>
      have hkeys : keysOf week (d :: days) = key :: keysOf week days := by
        simp [keysOf, hkey]
      rw [hkeys] at hnodup hrows ⊢
      obtain ⟨hnot, hnodup'⟩ := List.nodup_cons.mp hnodup
      have hd : o (.deleteSchedule d) = .done := hdone d List.mem_cons_self (by rw [hkey]; rfl)
      rw [Proc.run_bind_of_ok (run_deleteScheduleOf_some hkey hd (hrows key List.mem_cons_self))]
      rw [ih hnodup' ?_ hdone']
      · rfl
      · intro key' hmem
        have hne : key' ≠ key := fun heq => hnot (heq ▸ hmem)
        exact Table.has_deleteItem.mpr ⟨hne, hrows key' (List.mem_cons_of_mem _ hmem)⟩

/-- The deletion of schedules of which the first fails. -/
theorem run_deleteSchedules_of_failed {days : List DayOfWeek}
    (hfirst : days.find? (fun d => (rowKey (week d)).isSome) = some d)
    (hfailed : o (.deleteSchedule d) = .failed) (w : World) :
    (Proc.forEach (deleteScheduleOf o week) days).run w = (.error callFailed, w) := by
  induction days with
  | nil => exact absurd hfirst (by simp)
  | cons d' days ih =>
    rw [Proc.forEach_cons]
    rw [List.find?_cons] at hfirst
    cases hkey : rowKey (week d') with
    | none =>
      rw [hkey] at hfirst
      rw [Proc.run_bind_of_ok (run_deleteScheduleOf_none hkey w)]
      exact ih hfirst
    | some key =>
      rw [hkey] at hfirst
      obtain rfl : d' = d := Option.some.inj hfirst
      refine Proc.run_bind_of_error ?_
      unfold deleteScheduleOf
      rw [hkey, Option.isSome_some, if_pos rfl, hfailed, Proc.run_attempt_failed]

/-! ## Permissions -/

/-- The deletion of permissions that all have their rows. -/
theorem run_deletePermissions {entries : List ((String × String) × SessionPermissionRow)}
    {permissions : List SessionPermission} (hread : List.Forall₂
      (fun entry p => SessionPermissions.convertDbDictToSessionPermissionObject entry.1 entry.2 = .ok p)
      entries permissions) (hentry : ∀ entry ∈ entries, entry.2.Readable ∧ Plain entry.1.1 ∧ Plain entry.1.2 ∧
      o (.deletePermission entry.1.2) = .done) (hnodup : (entries.map Prod.fst).Nodup)
    (hrows : ∀ entry ∈ entries, w.permissions.Has entry.1) : (Proc.forEach (deletePermission o) permissions).run w =
      (.ok ⟨⟩, { w with permissions := w.permissions.deleteItems (entries.map Prod.fst) }) := by
  induction hread generalizing w with
  | nil => rfl
  | @cons entry p entries permissions hp _ ih =>
    obtain ⟨hreadable, hid, hactor, hdone⟩ := hentry entry List.mem_cons_self
    rw [List.map_cons, List.nodup_cons] at hnodup
    obtain ⟨hnot, hnodup'⟩ := hnodup
    obtain ⟨p', hp', hpid, hpactor, -⟩ := exists_convert hreadable entry.1
    obtain rfl : p' = p := Except.ok.inj (hp'.symm.trans hp)
    rw [hid.textOf] at hpid
    rw [hactor.textOf] at hpactor
    obtain ⟨r, hr⟩ := Table.has_iff.mp (hrows entry List.mem_cons_self)
    have hrun : (deletePermission o p').run w =
        (.ok ⟨⟩, { w with permissions := w.permissions.deleteItem entry.1 }) := by
      unfold deletePermission
      rw [hpactor, Option.getD_some, hdone, Proc.attempt_done]
      exact Proc.run_zoom_of
        (SessionPermissions.run_delete hpid hpactor hid.isEmpty hactor.isEmpty hr)
    rw [Proc.forEach_cons, Proc.run_bind_of_ok hrun]
    rw [ih (fun e he => hentry e (List.mem_cons_of_mem _ he)) hnodup' ?_]
    · rfl
    · intro e he
      have hne : e.1 ≠ entry.1 := fun heq => hnot (heq ▸ List.mem_map_of_mem he)
      exact Table.has_deleteItem.mpr ⟨hne, hrows e (List.mem_cons_of_mem _ he)⟩

/-- A pending deletion stays one when permission rows are deleted. -/
theorem Pending.of_permissions (h : Pending sid owner iid row week w) {t : Permissions}
    (hsub : ∀ key r, t.getItem key = some r → w.permissions.getItem key = some r) :
    Pending sid owner iid row week { w with permissions := t } where
  session := h.session
  gone := h.gone
  schedules := h.schedules
  named := h.named
  permissions := fun actor r hr => h.permissions actor r (hsub _ r hr)
  server := h.server

theorem keeps_deletePermission (p : SessionPermission) :
    Keeps (Pending sid owner iid row week) (deletePermission o p) := by
  refine Keeps.attempt (Keeps.zoom fun w h => ?_) _ _
  exact h.of_permissions fun key r hr => getItem_of_run_delete hr

/-- What the deletion of permissions reads. -/
theorem run_onPermissions_getForSession (hid : Plain sid) (h : Readable sid w) :
    ∃ permissions, (onPermissions (getForSession paginator .done sid)).run w = (.ok permissions, w) ∧
      List.Forall₂ (fun entry p => SessionPermissions.convertDbDictToSessionPermissionObject entry.1 entry.2 = .ok p)
        (queryRows paginator sid w.permissions) permissions := by
  have hreadable : ∀ entry ∈ queryRows paginator sid w.permissions, entry.2.Readable := by
    intro entry hmem
    obtain ⟨hget, hkey⟩ := mem_of_mem_queryRows paginator hmem
    obtain ⟨⟨id, actor⟩, r⟩ := entry
    obtain rfl : id = sid := hkey
    exact (h actor r hget).1
  obtain ⟨permissions, hrun, hread⟩ := run_getForSession paginator hid.isEmpty w.permissions hreadable
  exact ⟨permissions, Proc.run_zoom_of hrun, hread⟩

/-- The deletion of the session's permissions keeps a deletion pending. -/
theorem keeps_deletePermissionsForSession :
    Keeps (Pending sid owner iid row week) (deletePermissionsForSession paginator o sid) := by
  refine Keeps.bind (Keeps.of_reads (Reads.zoom (reads_getForSession _ _ _) fun _ => rfl)) fun ps => ?_
  exact Keeps.forEach fun p _ => keeps_deletePermission p

/-- The deletion of the session's permissions raises where the deletion of one of them fails. -/
theorem run_deletePermissionsForSession_of_failed (hid : Plain sid) (h : Readable sid w)
    (hquery : o .queryPermissions = .done) {entry : (String × String) × SessionPermissionRow}
    (hmem : entry ∈ queryRows paginator sid w.permissions) (hfailed : o (.deletePermission entry.1.2) ≠ .done) :
    ∃ e w', (deletePermissionsForSession paginator o sid).run w = (.error e, w') := by
  obtain ⟨permissions, hread, hall⟩ := run_onPermissions_getForSession paginator hid h
  have hloop : (deletePermissionsForSession paginator o sid).run w =
      (Proc.forEach (deletePermission o) permissions).run w := by
    unfold deletePermissionsForSession
    rw [hquery, Proc.run_bind_of_ok hread]
  rcases hrun : (Proc.forEach (deletePermission o) permissions).run w with ⟨e | u, w'⟩
  · exact ⟨e, w', hloop.trans hrun⟩
  · -- a loop that returns has deleted every permission
    obtain ⟨hget, hkey⟩ := mem_of_mem_queryRows paginator hmem
    obtain ⟨⟨id, actor⟩, r⟩ := entry
    obtain rfl : id = sid := hkey
    obtain ⟨hreadable, hactor⟩ := h actor r hget
    obtain ⟨p, hp, hconv⟩ := exists_permission_of_mem hall hmem
    obtain ⟨p', hconv', -, hpactor, -⟩ := exists_convert hreadable (id, actor)
    obtain rfl : p' = p := Except.ok.inj (hconv'.symm.trans hconv)
    obtain ⟨s, t, hreturns⟩ := Proc.returns_of_forEach hrun hp
    have hdone := Proc.done_of_returns_attempt hreturns
    rw [hpactor, hactor.textOf, Option.getD_some] at hdone
    exact absurd hdone hfailed

/-- The deletion of the session's permissions in a delivery that gets to the end. -/
theorem run_deletePermissionsForSession (hid : Plain sid) (h : Readable sid w)
    (hcompletes : Completes paginator sid week o w) :
    ∃ t, (deletePermissionsForSession paginator o sid).run w = (.ok ⟨⟩, { w with permissions := t }) ∧
      ∀ actor, t.getItem (sid, actor) = none := by
  unfold deletePermissionsForSession
  have hentry : ∀ entry, entry ∈ sessionRows sid w.permissions ↔
      w.permissions.getItem entry.1 = some entry.2 ∧ entry.1.1 = sid := by
    intro entry
    rw [sessionRows, List.mem_filter, ← Table.mem_scan]
    simp
  rcases hcompletes.query with hempty | ⟨hquery, hfits⟩
  · -- there is nothing to read
    have hnone : ∀ actor, w.permissions.getItem (sid, actor) = none := by
      intro actor
      cases hget : w.permissions.getItem (sid, actor) with
      | none => rfl
      | some r =>
        have hmem := (hentry ((sid, actor), r)).mpr ⟨hget, rfl⟩
        rw [hempty] at hmem
        exact absurd hmem List.not_mem_nil
    have hrows : queryRows paginator sid w.permissions = [] := by
      have hfirst : queryRows paginator sid w.permissions = paginator.first (sessionRows sid w.permissions) := rfl
      rw [hfirst, hempty, paginator.first_nil]
    have hread : (onPermissions (getForSession paginator (o .queryPermissions) sid)).run w = (.ok [], w) := by
      by_cases hquery : o .queryPermissions = .done
      · obtain ⟨permissions, hrun, hall⟩ := run_onPermissions_getForSession paginator hid h
        rw [hrows, List.forall₂_nil_left_iff] at hall
        rw [hquery, hrun, hall]
      · exact Proc.run_zoom_of (run_getForSession_of_ne_done paginator hquery sid w.permissions)
    rw [Proc.run_bind_of_ok hread]
    exact ⟨w.permissions, rfl, hnone⟩
  · -- every row of the session is read
    obtain ⟨permissions, hread, hall⟩ := run_onPermissions_getForSession paginator hid h
    have hperm : (queryRows paginator sid w.permissions).Perm (sessionRows sid w.permissions) :=
      paginator.perm_first hfits
    have hnodup : ((queryRows paginator sid w.permissions).map Prod.fst).Nodup := by
      refine (hperm.map Prod.fst).nodup_iff.mpr ?_
      exact List.Nodup.sublist (List.Sublist.map _ List.filter_sublist) w.permissions.nodup_scan_keys
    have hrun := run_deletePermissions (o := o) (w := w) hall (fun entry hmem => ?_) hnodup fun entry hmem => ?_
    · rw [hquery, Proc.run_bind_of_ok hread, hrun]
      refine ⟨_, rfl, fun actor => ?_⟩
      rw [Table.getItem_deleteItems]
      split
      · rfl
      · rename_i hnot
        cases hget : w.permissions.getItem (sid, actor) with
        | none => rfl
        | some r =>
          have hmem := hperm.mem_iff.mpr ((hentry ((sid, actor), r)).mpr ⟨hget, rfl⟩)
          exact absurd (List.mem_map_of_mem hmem) hnot
    · obtain ⟨⟨id, actor⟩, r⟩ := entry
      obtain ⟨hget, hkey⟩ := (hentry _).mp (hperm.mem_iff.mp hmem)
      obtain rfl : id = sid := hkey
      obtain ⟨hreadable, hactor⟩ := h actor r hget
      exact ⟨hreadable, hid, hactor, hcompletes.permissions actor (Table.Has.of_getItem hget)⟩
    · exact Table.Has.of_getItem ((hentry entry).mp (hperm.mem_iff.mp hmem)).1

/-! ## The handler -/

/-- The session is read. -/
theorem run_getFromDb (hrow : Deleting hours sid owner iid row week) (h : w.sessions.getItem (owner, sid) = some row) :
    ∃ session : VirtualDesktopSession,
      (onSessions (Sessions.getFromDb hours (some owner) (some sid))).run w = (.ok (some session), w) ∧
      session.owner = some owner ∧ session.ideaSessionId = some sid ∧ session.state = .deleting ∧
      session.schedule = week ∧ session.dcvSessionId = some (textOf row.dcvSessionId) ∧
      ∃ server, session.server = some server ∧ server.instanceId = some iid := by
  obtain ⟨server, hserver, hiid⟩ := hrow.server
  obtain ⟨session, hconv, hfields⟩ : ∃ session : VirtualDesktopSession,
      Sessions.convertDbDictToSessionObject hours (owner, sid) row = .ok session ∧
      session.owner = some owner ∧ session.ideaSessionId = some sid ∧ session.state = .deleting ∧
      session.schedule = week ∧ session.dcvSessionId = some (textOf row.dcvSessionId) ∧
      ∃ server, session.server = some server ∧ server.instanceId = some iid := by
    simp only [Sessions.convertDbDictToSessionObject, hrow.week_loads, hrow.owner_plain.getAsString,
      hrow.id_plain.getAsString, hserver, Option.map_some, hrow.state]
    refine ⟨_, rfl, rfl, rfl, rfl, rfl, rfl, _, rfl, ?_⟩
    simp only [convertDbEntryToServerObject, hiid, hrow.instance_plain.getAsString]
  refine ⟨session, ?_, hfields⟩
  have hget : (Sessions.getFromDb hours (some owner) (some sid)).run w.sessions =
      (.ok (some session), w.sessions) := by
    unfold Sessions.getFromDb
    rw [hrow.owner_plain.isEmptyOpt, hrow.id_plain.isEmptyOpt, Bool.or_self, if_neg (by simp)]
    simp only [Option.getD_some]
    rw [Proc.run_bind_of_ok (Proc.run_gets _ w.sessions), h]
    simp only [hconv]
    rfl
  exact Proc.run_zoom_of hget

/-- A delivery of the message about the deletion of the session. -/
abbrev deliver (hours : WorkingHours) (paginator : Paginator ((String × String) × SessionPermissionRow))
    (controllerRoleId senderId sid owner : String) (o : Delivery) : Proc World Exc PUnit :=
  handleEvent hours paginator controllerRoleId senderId
    (validateDcvSessionDeletionEvent (some sid) (some owner)) o

variable {controllerRoleId senderId : String} (hsender : isSenderRole controllerRoleId senderId = true)

include hsender

/-- A delivery reads the session first. -/
theorem deliver_eq (hid : Plain sid) (howner : Plain owner) :
    deliver hours paginator controllerRoleId senderId sid owner o =
      Proc.attempt (o .readSession) callFailed (onSessions (Sessions.getFromDb hours (some owner) (some sid))) >>=
        fun session => match session with
          | none => pure ⟨⟩
          | some session => validateDeletion paginator o session := by
  have hdetail : (validateDcvSessionDeletionEvent (some sid) (some owner)).detail =
      some (sessionDetail (some sid) (some owner) ++ []) := rfl
  obtain ⟨hidText, hownerText⟩ := detailString_sessionDetail _ hdetail
  unfold deliver handleEvent
  rw [if_neg (by simp [hsender]), hidText, hownerText, hid.getAsString, howner.getAsString]
  dsimp only
  rw [howner.isEmptyOpt, hid.isEmptyOpt, Bool.or_self]
  exact if_neg (by simp)

/-- A delivery that cannot read the session changes nothing. -/
theorem run_deliver_of_unread (hid : Plain sid) (howner : Plain owner) (h : o .readSession ≠ .done) (w : World) :
    ∃ e, (deliver hours paginator controllerRoleId senderId sid owner o).run w = (.error e, w) := by
  have hreads : Reads (onSessions (Sessions.getFromDb hours (some owner) (some sid))) :=
    Reads.zoom (Sessions.reads_getFromDb hours _ _) fun _ => rfl
  obtain ⟨e, hrun⟩ := Proc.run_attempt_of_reads callFailed hreads h w
  rw [deliver_eq paginator hsender hid howner]
  exact ⟨e, Proc.run_bind_of_error hrun⟩

/-- A delivery that finds no session has nothing to do. -/
theorem run_deliver_of_gone (hid : Plain sid) (howner : Plain owner)
    (hgone : w.sessions.getItem (owner, sid) = none) (h : o .readSession = .done) :
    (deliver hours paginator controllerRoleId senderId sid owner o).run w = (.ok ⟨⟩, w) := by
  have hget : (Sessions.getFromDb hours (some owner) (some sid)).run w.sessions = (.ok none, w.sessions) := by
    unfold Sessions.getFromDb
    rw [howner.isEmptyOpt, hid.isEmptyOpt, Bool.or_self, if_neg (by simp)]
    simp only [Option.getD_some]
    rw [Proc.run_bind_of_ok (Proc.run_gets _ w.sessions), hgone]
    rfl
  have hread : (onSessions (Sessions.getFromDb hours (some owner) (some sid))).run w = (.ok none, w) :=
    Proc.run_zoom_of hget
  rw [deliver_eq paginator hsender hid howner, h, Proc.attempt_done, Proc.run_bind_of_ok hread]
  rfl

/-- A delivery that reads the session and asks the broker goes on with the deletion. -/
theorem run_deliver_of_read (hrow : Deleting hours sid owner iid row week)
    (h : Pending sid owner iid row week w) (hread : o .readSession = .done) : (o .describeSessions ≠ .done →
      ∃ e, (deliver hours paginator controllerRoleId senderId sid owner o).run w = (.error e, w)) ∧
    (o .describeSessions = .done → ∃ session : VirtualDesktopSession,
        session.owner = some owner ∧ session.ideaSessionId = some sid ∧ session.schedule = week ∧
        (∃ server, session.server = some server ∧ server.instanceId = some iid) ∧
        (deliver hours paginator controllerRoleId senderId sid owner o).run w =
          (continueDeleteSession paginator o session).run w) := by
  obtain ⟨session, hget, howner, hid, hstate, hschedule, hdcv, hserver⟩ := run_getFromDb hrow h.session
  have hrun : (deliver hours paginator controllerRoleId senderId sid owner o).run w =
      (validateDeletion paginator o session).run w := by
    rw [deliver_eq paginator hsender hrow.id_plain hrow.owner_plain, hread, Proc.attempt_done, Proc.run_bind_of_ok hget]
  have hvalidate : validateDeletion paginator o session =
      Proc.attempt (o .describeSessions) callFailed
        (Proc.gets fun w : World => w.broker (textOf row.dcvSessionId)) >>= fun state =>
          if isEmptyOpt state ∨ state = some "DELETED" then
            if session.state = .deleting then continueDeleteSession paginator o session
            else continueStopSession o session
          else
            Proc.raise (.soca .doNotDeleteMessage (notDeletedText session state)) := by
    unfold validateDeletion
    rw [if_neg (by simp [hstate]), hdcv, Option.getD_some]
  refine ⟨fun hdescribe => ?_, fun hdescribe => ⟨session, howner, hid, hschedule, hserver, ?_⟩⟩
  · obtain ⟨e, herr⟩ := Proc.run_attempt_of_reads callFailed
      (Reads.gets fun w : World => w.broker (textOf row.dcvSessionId)) hdescribe w
    exact ⟨e, by rw [hrun, hvalidate]; exact Proc.run_bind_of_error herr⟩
  · rw [hrun, hvalidate, hdescribe, Proc.attempt_done, Proc.run_bind_of_ok (Proc.run_gets _ w),
      if_pos h.gone, if_pos hstate]

omit hsender

variable {session : VirtualDesktopSession}

/-- The deletion of the session's row. -/
theorem run_deleteSession (hid : Plain sid) (howner : Plain owner)
    (hsid : session.ideaSessionId = some sid) (hso : session.owner = some owner)
    (h : w.sessions.getItem (owner, sid) = some row) : (onSessions (Sessions.delete session)).run w =
      (.ok ⟨⟩, { w with sessions := w.sessions.deleteItem (owner, sid) }) := by
  have hdelete : (Sessions.delete session).run w.sessions =
      (.ok ⟨⟩, w.sessions.deleteItem (owner, sid)) := by
    unfold Sessions.delete
    rw [hsid, hso, hid.isEmptyOpt, howner.isEmptyOpt, Bool.or_self, if_neg (by simp)]
    simp only [Option.getD_some]
    rw [Proc.run_bind_of_ok (Proc.run_gets _ w.sessions), Proc.run_bind_of_ok (Proc.run_modify _ w.sessions), h]
    exact Proc.run_when_neg (by simp) _
  exact Proc.run_zoom_of hdelete

/-- The deletion of the server's row. -/
theorem run_deleteServer (hiid : Plain iid) (h : w.servers.Has iid) :
    (onServers (Sessions.deleteServer (some iid))).run w =
      (.ok ⟨⟩, { w with servers := w.servers.deleteItem iid }) := by
  obtain ⟨r, hr⟩ := Table.has_iff.mp h
  have hdelete : (Sessions.deleteServer (some iid)).run w.servers = (.ok ⟨⟩, w.servers.deleteItem iid) := by
    unfold Sessions.deleteServer
    rw [hiid.isEmptyOpt, if_neg (by simp)]
    simp only [Option.getD_some]
    rw [Proc.run_bind_of_ok (Proc.run_gets _ w.servers), Proc.run_bind_of_ok (Proc.run_modify _ w.servers), hr]
    exact Proc.run_when_neg (by simp) _
  exact Proc.run_zoom_of hdelete

/-- The instance is terminated and the server's row is deleted, whether or not the last call is
answered. -/
theorem run_terminateDcvHosts (hiid : Plain iid) {server : Option VirtualDesktopServer}
    (hserver : ∃ s, server = some s ∧ s.instanceId = some iid) (h : w.servers.Has iid)
    (hterminate : o .terminateInstances = .done) (hdelete : o .deleteServer ≠ .failed) :
    ∃ r, (terminateDcvHosts o server).run w =
        (r, { w with
          instances := Function.update w.instances iid .terminated
          servers := w.servers.deleteItem iid }) ∧
      (o .deleteServer = .done → r = .ok ⟨⟩) := by
  obtain ⟨s, rfl, hs⟩ := hserver
  have hrun : (terminateDcvHosts o (some s)).run w =
      (Proc.attempt (o .deleteServer) callFailed (onServers (Sessions.deleteServer (some iid)))).run
        { w with instances := Function.update w.instances iid .terminated } := by
    unfold terminateDcvHosts
    simp only [hs]
    rw [hterminate, Proc.attempt_done, Proc.run_bind_of_ok (Proc.run_modify _ w)]
  have hserverRow := run_deleteServer (w := { w with instances := Function.update w.instances iid .terminated })
    hiid h
  rw [hrun]
  cases ho : o .deleteServer with
  | done => exact ⟨.ok ⟨⟩, by rw [Proc.attempt_done, hserverRow], fun _ => rfl⟩
  | failed => exact absurd ho hdelete
  | lost => exact ⟨.error callFailed, Proc.run_attempt_lost hserverRow, fun h => by cases h⟩

/-! ## One delivery -/

theorem rowKey_eq_none_of_scheduleKeys (h : scheduleKeys week = []) (d : DayOfWeek) : rowKey (week d) = none := by
  unfold scheduleKeys keysOf at h
  rw [List.filterMap_eq_nil_iff] at h
  exact h d (DayOfWeek.mem_all d)

/-- Where no row is named, the deletion of the schedules does nothing. -/
theorem run_deleteSchedulesForSession_of_nil (h : scheduleKeys week = []) (w : World) :
    (deleteSchedulesForSession o week).run w = (.ok ⟨⟩, w) := by
  have hkeys : keysOf week DayOfWeek.all = [] := h
  have hnodup : (keysOf week DayOfWeek.all).Nodup := by
    rw [hkeys]
    exact List.nodup_nil
  have hrun := run_deleteSchedules hnodup (o := o) (w := w)
    (fun _ hmem => absurd (hkeys ▸ hmem) List.not_mem_nil)
    (fun d _ hd => by rw [rowKey_eq_none_of_scheduleKeys h d] at hd; exact absurd hd (by simp))
  rw [← scheduleKeys, h] at hrun
  exact hrun

/-- A delivery that gets to the end leaves the session clean. -/
theorem run_continueDeleteSession_of_completes
    (hrow : Deleting hours sid owner iid row week) (h : Pending sid owner iid row week w)
    (hcompletes : Completes paginator sid week o w) (howner : session.owner = some owner)
    (hid : session.ideaSessionId = some sid) (hschedule : session.schedule = week)
    (hserver : ∃ server, session.server = some server ∧ server.instanceId = some iid) :
    ∃ r w', (continueDeleteSession paginator o session).run w = (r, w') ∧ Clean sid owner iid w' ∧
      (o .deleteServer = .done → r = .ok ⟨⟩) := by
  have hschedules : (deleteSchedulesForSession o week).run w =
      (.ok ⟨⟩, { w with schedules := w.schedules.deleteItems (scheduleKeys week) }) :=
    run_deleteSchedules hrow.nodup h.schedules fun d _ hd => hcompletes.schedules d hd
  -- the later calls do not look at the schedules
  obtain ⟨t, hpermissions, hnone⟩ := run_deletePermissionsForSession paginator hrow.id_plain
    (w := { w with schedules := w.schedules.deleteItems (scheduleKeys week) }) h.permissions
    ⟨hcompletes.schedules, hcompletes.query, hcompletes.permissions, hcompletes.session,
      hcompletes.terminate, hcompletes.server⟩
  have hsession := run_deleteSession
    (w := { w with
      schedules := w.schedules.deleteItems (scheduleKeys week)
      permissions := t }) hrow.id_plain hrow.owner_plain hid howner h.session
  obtain ⟨r, hterminate, hanswered⟩ := run_terminateDcvHosts (o := o)
    (w := { w with
      schedules := w.schedules.deleteItems (scheduleKeys week)
      permissions := t
      sessions := w.sessions.deleteItem (owner, sid) })
    hrow.instance_plain hserver h.server hcompletes.terminate hcompletes.server
  refine ⟨r, { w with
    schedules := w.schedules.deleteItems (scheduleKeys week)
    permissions := t
    sessions := w.sessions.deleteItem (owner, sid)
    servers := w.servers.deleteItem iid
    instances := Function.update w.instances iid .terminated }, ?_, ?_, hanswered⟩
  · unfold continueDeleteSession
    rw [hschedule, hid, Option.getD_some, Proc.run_bind_of_ok hschedules, Proc.run_bind_of_ok hpermissions,
      hcompletes.session, Proc.attempt_done, Proc.run_bind_of_ok hsession, hterminate]
  · refine ⟨fun key schedule hget => ?_, hnone, Table.getItem_deleteItem_self _ _, ?_,
      Table.getItem_deleteItem_self _ _⟩
    · obtain ⟨hnot, hget'⟩ := Table.getItem_of_deleteItems hget
      exact fun hsid => hnot (h.named key schedule hget' hsid)
    · exact Function.update_self _ _ _

/-- A delivery that is harmless and does not get to the end raises, and the deletion is still pending. -/
theorem run_continueDeleteSession_of_harmless
    (hrow : Deleting hours sid owner iid row week) (h : Pending sid owner iid row week w)
    (hschedule : session.schedule = week) (hid : session.ideaSessionId = some sid)
    (hdescribe : o .readSession = .done ∧ o .describeSessions = .done)
    (hharmless : Harmless paginator sid week o w) (hends : ¬ Completes paginator sid week o w) :
    ∃ e w', (continueDeleteSession paginator o session).run w = (.error e, w') ∧ Pending sid owner iid row week w' := by
  unfold continueDeleteSession
  rw [hschedule, hid, Option.getD_some]
  cases hharmless with
  | unread hunread => exact absurd hdescribe (not_and_or.mpr hunread)
  | completes hcompletes => exact absurd hcompletes hends
  | firstSchedule d hfirst hfailed =>
    exact ⟨callFailed, w, Proc.run_bind_of_error (run_deleteSchedules_of_failed hfirst hfailed w), h⟩
  | permission hnone hquery entry hmem hfailed =>
    obtain ⟨e, w', hrun⟩ :=
      run_deletePermissionsForSession_of_failed paginator hrow.id_plain h.permissions hquery hmem hfailed
    have hpending := (keeps_deletePermissionsForSession paginator).of_error h hrun
    rw [Proc.run_bind_of_ok (run_deleteSchedulesForSession_of_nil hnone w)]
    exact ⟨e, w', Proc.run_bind_of_error hrun, hpending⟩
  | session hnone hfailed =>
    rw [Proc.run_bind_of_ok (run_deleteSchedulesForSession_of_nil hnone w)]
    rcases hrun : (deletePermissionsForSession paginator o sid).run w with ⟨e | u, w'⟩
    · have hpending := (keeps_deletePermissionsForSession paginator).of_error h hrun
      exact ⟨e, w', Proc.run_bind_of_error hrun, hpending⟩
    · have hpending := (keeps_deletePermissionsForSession paginator).of_ok h hrun
      refine ⟨callFailed, w', ?_, hpending⟩
      rw [Proc.run_bind_of_ok hrun, hfailed]
      exact Proc.run_bind_of_error (Proc.run_attempt_failed _ _ _)

/-! ## The run -/

/-- What each delivery of a run meets: while the session's row is there, it is harmless. -/
def Meets (sid owner : String) (week : DayOfWeek → Option Schedule) (o : Delivery) (w : World) : Prop :=
  w.sessions.Has (owner, sid) → Harmless paginator sid week o w

include hsender

/-- A harmless delivery of a pending deletion leaves it pending or the session clean. -/
theorem deliver_spec (hrow : Deleting hours sid owner iid row week) (o : Delivery) :
    Triple (fun w => (Pending sid owner iid row week w ∨ Clean sid owner iid w) ∧ Meets paginator sid owner week o w)
      (deliver hours paginator controllerRoleId senderId sid owner o) (fun _ => Clean sid owner iid)
      fun _ w => Pending sid owner iid row week w ∨ Clean sid owner iid w := by
  intro w hw
  obtain ⟨hpending | hclean, hmeets⟩ := hw
  · have hharmless := hmeets (Table.Has.of_getItem hpending.session)
    by_cases hread : o .readSession = .done
    · obtain ⟨hunread, hdeliver⟩ :=
        run_deliver_of_read paginator hsender (o := o) hrow hpending hread
      by_cases hdescribe : o .describeSessions = .done
      · obtain ⟨session, howner, hid, hschedule, hserver, hrun⟩ := hdeliver hdescribe
        rw [hrun]
        by_cases hends : Completes paginator sid week o w
        · obtain ⟨r, w', hrun', hclean, -⟩ :=
            run_continueDeleteSession_of_completes paginator hrow hpending hends howner hid hschedule hserver
          rw [hrun']
          cases r with
          | ok u => exact hclean
          | error e => exact .inr hclean
        · obtain ⟨e, w', hrun', hpending'⟩ :=
            run_continueDeleteSession_of_harmless paginator hrow hpending hschedule hid ⟨hread, hdescribe⟩
              hharmless hends
          rw [hrun']
          exact .inl hpending'
      · obtain ⟨e, hrun⟩ := hunread hdescribe
        rw [hrun]
        exact .inl hpending
    · obtain ⟨e, hrun⟩ :=
        run_deliver_of_unread paginator hsender hrow.id_plain hrow.owner_plain hread w
      rw [hrun]
      exact .inl hpending
  · by_cases hread : o .readSession = .done
    · rw [run_deliver_of_gone paginator hsender hrow.id_plain hrow.owner_plain hclean.noSession hread]
      exact hclean
    · obtain ⟨e, hrun⟩ :=
        run_deliver_of_unread paginator hsender hrow.id_plain hrow.owner_plain hread w
      rw [hrun]
      exact .inr hclean

/-- The faultless delivery at the end returns. -/
theorem deliver_faultless_spec (hrow : Deleting hours sid owner iid row week) :
    Triple (fun w => (Pending sid owner iid row week w ∨ Clean sid owner iid w) ∧
        Meets paginator sid owner week faultless w)
      (deliver hours paginator controllerRoleId senderId sid owner faultless)
      (fun _ => Clean sid owner iid) fun _ _ => False := by
  intro w hw
  obtain ⟨hpending | hclean, hmeets⟩ := hw
  · have hcompletes : Completes paginator sid week faultless w := by
      cases hmeets (Table.Has.of_getItem hpending.session) with
      | completes h => exact h
      | unread h => simp [faultless] at h
      | firstSchedule d _ h => simp [faultless] at h
      | permission _ _ entry _ h => simp [faultless] at h
      | session _ h => simp [faultless] at h
    obtain ⟨-, hdeliver⟩ := run_deliver_of_read paginator hsender (o := faultless) hrow hpending rfl
    obtain ⟨session, howner, hid, hschedule, hserver, hrun⟩ := hdeliver rfl
    obtain ⟨r, w', hrun', hclean, hok⟩ :=
      run_continueDeleteSession_of_completes paginator hrow hpending hcompletes howner hid hschedule hserver
    rw [hrun, hrun', hok rfl]
    exact hclean
  · rw [run_deliver_of_gone paginator hsender hrow.id_plain hrow.owner_plain hclean.noSession rfl]
    exact hclean

/-- **Deletion is resumed.** The message of a pending deletion is delivered again, the last time without
failures. If every delivery is harmless, the run ends and nothing of the session is left. -/
theorem deletion_resumes (hrow : Deleting hours sid owner iid row week)
    (h : Pending sid owner iid row week w) (deliveries : List Delivery)
    (hmeets : Along (deliver hours paginator controllerRoleId senderId sid owner)
      (Meets paginator sid owner week) (deliveries ++ [faultless]) w) :
    ∃ w', (Proc.redeliver (deliver hours paginator controllerRoleId senderId sid owner) faultless
        deliveries).run w = (.ok ⟨⟩, w') ∧ Clean sid owner iid w' :=
  redeliver_of_along (I := fun w => Pending sid owner iid row week w ∨ Clean sid owner iid w)
    (fun o => deliver_spec paginator hsender hrow o) (deliver_faultless_spec paginator hsender hrow)
    deliveries (.inl h) hmeets

omit hsender

/-- The row of a session without schedules. -/
def deletingRow : Sessions.SessionRow where
  name := some "desk"
  description := none
  dcvSessionId := some "dcv"
  state := .deleting
  hibernationEnabled := false
  server := some { instanceId := some "i-1" }
  schedule := fun _ => none

/-- The session `session` of `owner`, which is shared with `guest`. -/
def sharedSession : World where
  schedules := ∅
  permissions := (∅ : Permissions).putItem ("session", "guest")
    { ideaSessionOwner := some "owner", ideaSessionName := some "desk", ideaSessionInstanceType := none
      ideaSessionState := some .ready, ideaSessionBaseOs := some .amazonLinux2
      ideaSessionType := some .virtual, permissionProfileId := some "observer"
      actorType := some .user, expiryDate := 0 }
  sessions := (∅ : SessionTable).putItem ("owner", "session") deletingRow
  servers := (∅ : ServerTable).putItem "i-1"
    { instanceType := none, ideaSessionId := some "session", ideaSessionOwner := some "owner"
      state := none, locked := false }
  instances := fun _ => .running
  broker := fun _ => none

/-- The working hours do not matter to a session without schedules. -/
def officeHours : WorkingHours := ⟨"09:00", "17:00"⟩

theorem deleting_deletingRow :
    Deleting officeHours "session" "owner" "i-1" deletingRow fun _ => some (getEmptySchedule none) where
  id_plain := by decide
  owner_plain := by decide
  instance_plain := by decide
  state := rfl
  week_loads := rfl
  nodup := by decide
  server := ⟨_, rfl, rfl⟩

theorem pending_sharedSession :
    Pending "session" "owner" "i-1" deletingRow (fun _ => some (getEmptySchedule none)) sharedSession where
  session := Table.getItem_putItem_self _ _ _
  gone := .inl rfl
  schedules := fun key hmem => absurd hmem (by simp [scheduleKeys, keysOf, rowKey, getEmptySchedule])
  named := fun key r hget => by simp [sharedSession] at hget
  permissions := fun actor r hget => by
    rw [sharedSession, Table.getItem_putItem] at hget
    split at hget
    · rename_i hkey
      obtain rfl : actor = "guest" := congrArg Prod.snd hkey
      rw [← Option.some.inj hget]
      decide
    · exact absurd hget (by simp)
  server := Table.Has.of_getItem (Table.getItem_putItem_self _ _ _)

/-- The answer to the deletion of the guest's permission is lost; the next delivery deletes the rest. -/
theorem sharedSession_resumed :
    ∃ w', (Proc.redeliver (deliver officeHours (Paginator.single _) "role" "role:vdc" "session" "owner") faultless
        [fun step => if step = .deletePermission "guest" then .lost else .done]).run sharedSession =
        (.ok ⟨⟩, w') ∧ Clean "session" "owner" "i-1" w' := by
  refine deletion_resumes (Paginator.single _) (by decide) deleting_deletingRow pending_sharedSession _
    ⟨fun _ => ?_, fun e t _ => ⟨fun _ => ?_, fun _ _ _ => trivial⟩⟩
  · exact .permission (by decide) (by decide) (("session", "guest"), _) List.mem_cons_self (by decide)
  · exact .completes ⟨fun _ _ => rfl, .inr ⟨rfl, rfl⟩, fun _ _ => rfl, rfl, rfl, by decide⟩

/-- The answer to the deletion of the session's row is lost: the next delivery finds no session, and the
instance is not terminated. -/
theorem deletion_abandoned :
    ¬ ∀ (hours : WorkingHours) (paginator : Paginator ((String × String) × SessionPermissionRow))
        (controllerRoleId senderId sid owner iid : String) (row : Sessions.SessionRow)
        (week : DayOfWeek → Option Schedule) (w : World) (deliveries : List Delivery),
        isSenderRole controllerRoleId senderId = true → Deleting hours sid owner iid row week →
          Pending sid owner iid row week w →
            ∃ w', (Proc.redeliver (deliver hours paginator controllerRoleId senderId sid owner) faultless
              deliveries).run w = (.ok ⟨⟩, w') ∧ Clean sid owner iid w' := by
  intro h
  obtain ⟨w', hrun, hclean⟩ := h officeHours (Paginator.single _) "role" "role:vdc" "session" "owner" "i-1"
    deletingRow _ sharedSession [fun step => if step = .deleteSession then .lost else .done] (by decide)
    deleting_deletingRow pending_sharedSession
  have hrunning : ((Proc.redeliver
      (deliver officeHours (Paginator.single _) "role" "role:vdc" "session" "owner") faultless
        [fun step => if step = .deleteSession then .lost else .done]).run sharedSession).2.instances "i-1" =
      .running := by
    decide
  rw [hrun] at hrunning
  have hterminated : w'.instances "i-1" = .terminated := hclean.terminated
  exact absurd (hrunning.symm.trans hterminated) (by decide)

end ContainRes.VirtualDesktop.SessionDeletion
