import ContainRes.VirtualDesktop.ScheduleRows
import ContainRes.VirtualDesktop.SessionDb

/-! # The creation of a session

`VirtualDesktopSessionUtils.create_session` launches an instance, writes its server row, reads the default
schedules, writes a schedule row for each day that has one, and at last writes the session row. What raises up to
the server row becomes the failure reason of the session; what raises later leaves the call. Nothing is undone.

* **`CreateFaults`** — an outcome for each call to another service.
* **`getDefaultSchedules`** — the schedules of the configuration.
* **`updateScheduleForSessionWith`** — the writing of the schedules where calls may fail.
* **`createSession`** — the creation.
* **`NoOrphan`**, **`noOrphan_iff`** — without a session row nothing of the call is left exactly when the launch
  fails, or the call comes to its end, or there was a session row before. -/

namespace ContainRes.VirtualDesktop.SessionCreation

open Effects Store Text
open Schedules Sessions

/-! ## Default schedules -/

/-- `VirtualDesktopScheduleType(value)`. -/
def scheduleTypeOf : String → Except Exc ScheduleType
  | "WORKING_HOURS" => .ok .workingHours
  | "STOP_ALL_DAY" => .ok .stopAllDay
  | "START_ALL_DAY" => .ok .startAllDay
  | "CUSTOM_SCHEDULE" => .ok .customSchedule
  | "NO_SCHEDULE" => .ok .noSchedule
  | value => .error (.other .valueError (value ++ " is not a valid VirtualDesktopScheduleType"))

/-- `config().get_string(key, required=True)`: a missing key raises, and a blank value is `None`. -/
abbrev Config : Type := String → Except Exc (Option String)

section Defaults

variable (config : Config)

/-- The setting of a day. -/
def daySetting (d : DayOfWeek) (name : String) : Except Exc (Option String) :=
  config ("virtual-desktop-controller.dcv_session.schedule." ++ d.value ++ "." ++ name)

/-- The setting of the working hours. -/
def workingHoursSetting (name : String) : Except Exc (Option String) :=
  config ("virtual-desktop-controller.dcv_session.working_hours." ++ name)

def getDefaultScheduleForDayOfWeek (d : DayOfWeek) : Except Exc Schedule := do
  let scheduleType ← scheduleTypeOf ((← daySetting config d "type").getD "None")
  match scheduleType with
  | .workingHours =>
    let startUpTime ← workingHoursSetting config "start_up_time"
    let shutDownTime ← workingHoursSetting config "shut_down_time"
    return { dayOfWeek := some d, startUpTime, shutDownTime, scheduleType }
  | .stopAllDay =>
    return { dayOfWeek := some d, startUpTime := "23:59", shutDownTime := "00:00", scheduleType }
  | .startAllDay =>
    return { dayOfWeek := some d, startUpTime := "00:00", shutDownTime := "23:59", scheduleType }
  | .customSchedule =>
    let startUpTime ← daySetting config d "start_up_time"
    let shutDownTime ← daySetting config d "shut_down_time"
    return { dayOfWeek := some d, startUpTime, shutDownTime, scheduleType }
  | .noSchedule =>
    return { dayOfWeek := some d, startUpTime := "", shutDownTime := "", scheduleType }

/-- `get_default_schedules`: one day after another. -/
def getDefaultSchedules : Except Exc (DayOfWeek → Option Schedule) := do
  let schedules ← DayOfWeek.all.mapM fun d => (getDefaultScheduleForDayOfWeek config d).map fun s => (d, s)
  return fun d => schedules.lookup d

end Defaults

/-! ## Schedules where calls may fail -/

/-- An outcome for each call to another service. -/
structure CreateFaults where
  /-- `run_instances`. -/
  launch : Outcome
  /-- The write of the server row and the event about it. -/
  putServer : Outcome
  deleteSchedule : DayOfWeek → Outcome
  putSchedule : DayOfWeek → Outcome
  /-- The session is made a row, which is written, and the event about it is sent. -/
  putSession : Outcome

/-- The exception of a call that fails. -/
def callFailed : Exc := .other .clientError "call failed"

variable (hours : WorkingHours) (uuids : Uuids)

/-- `_delete_schedule`. Only a schedule that names a row leads to a call. -/
def deleteScheduleWith (o : Outcome) (schedule : Option Schedule) : Proc World Exc PUnit :=
  if rowKey schedule = none then pure ⟨⟩ else Proc.attempt o callFailed (Schedules.deleteSchedule schedule)

/-- `_create_schedule_for_day_of_week`. -/
def createScheduleForDayOfWeekWith (o : Outcome) (d : DayOfWeek) (schedule : Schedule)
    (ideaSessionId owner : String) : Proc World Exc Schedule :=
  if schedule.scheduleType = .noSchedule then pure (getEmptySchedule (some d))
  else Proc.attempt o callFailed (create hours uuids (scheduleOfDay d schedule ideaSessionId owner))

/-- `_create_or_update_schedule_for_session_for_day_of_week`. -/
def createOrUpdateScheduleWith (deletion creation : Outcome) (d : DayOfWeek)
    (currentSchedule newSchedule : Option Schedule) (ideaSessionId owner : String) : Proc World Exc Schedule :=
  let current := currentSchedule.getD (getEmptySchedule (some d))
  match newSchedule with
  | none => pure current
  | some new =>
    if isSameSchedule (some new) (some current) then pure current
    else do
      let createNew := new.scheduleType ≠ .noSchedule ∧ current.scheduleType ≠ new.scheduleType
      let new := if new.scheduleType = .noSchedule then getEmptySchedule (some d) else new
      Proc.when (current.scheduleType ≠ .noSchedule ∨ isEmptyOpt current.scheduleId = false)
        (deleteScheduleWith deletion (some current))
      if createNew then createScheduleForDayOfWeekWith hours uuids creation d new ideaSessionId owner
      else pure new

section Week

variable (faults : CreateFaults) (newSchedules : DayOfWeek → Option Schedule) (ideaSessionId owner : String)

/-- The update of one day of the session's week. -/
def updateDayWith (d : DayOfWeek) : Proc World Exc PUnit := do
  let current ← Proc.gets fun w => w.week d
  let schedule ← createOrUpdateScheduleWith hours uuids (faults.deleteSchedule d) (faults.putSchedule d) d current
    (newSchedules d) ideaSessionId owner
  Proc.modify fun w => { w with week := Function.update w.week d (some schedule) }

/-- `update_schedule_for_session`. -/
def updateScheduleForSessionWith : Proc World Exc PUnit :=
  Proc.forEach (updateDayWith hours uuids faults newSchedules ideaSessionId owner) DayOfWeek.all

end Week

theorem deleteScheduleWith_done (schedule : Option Schedule) :
    deleteScheduleWith .done schedule = Schedules.deleteSchedule schedule := by
  unfold deleteScheduleWith
  split
  · rename_i hkey
    rw [deleteSchedule_of_rowKey_none hkey]
  · rfl

/-- The calls of a day that do not fail: those that are made. -/
structure DayAnswered (deletion creation : Outcome) (d : DayOfWeek) (current new : Option Schedule) : Prop where
  deletion : ∀ key, deletedKey d current new = some key → deletion = .done
  creation : ∀ n, new = some n → n.scheduleType ≠ .noSchedule →
    isSameSchedule (some n) (some (current.getD (getEmptySchedule (some d)))) = false →
    (current.getD (getEmptySchedule (some d))).scheduleType ≠ n.scheduleType → creation = .done

variable {d : DayOfWeek}

/-- A day whose calls are answered is updated as without failures. -/
theorem createOrUpdateScheduleWith_of_answered {deletion creation : Outcome}
    {current new : Option Schedule} (h : DayAnswered deletion creation d current new) (ideaSessionId owner : String) :
    createOrUpdateScheduleWith hours uuids deletion creation d current new ideaSessionId owner =
      createOrUpdateSchedule hours uuids d current new ideaSessionId owner := by
  cases new with
  | none => rfl
  | some n =>
    unfold createOrUpdateScheduleWith createOrUpdateSchedule
    dsimp only
    by_cases hsame : isSameSchedule (some n) (some (current.getD (getEmptySchedule (some d)))) = true
    · rw [if_pos hsame, if_pos hsame]
    · rw [if_neg hsame, if_neg hsame]
      have hdelete : deleteScheduleWith deletion (some (current.getD (getEmptySchedule (some d)))) =
          Schedules.deleteSchedule (some (current.getD (getEmptySchedule (some d)))) := by
        by_cases hkey : rowKey (some (current.getD (getEmptySchedule (some d)))) = none
        · rw [deleteSchedule_of_rowKey_none hkey]
          exact if_pos hkey
        · obtain ⟨key, hkey⟩ := Option.ne_none_iff_exists'.mp hkey
          have hdeleted : deletedKey d current (some n) = some key := by
            unfold deletedKey
            dsimp only
            rw [if_neg hsame, hkey]
          rw [h.deletion key hdeleted, deleteScheduleWith_done]
      rw [hdelete]
      by_cases htype : n.scheduleType = .noSchedule
      · have hnot : ¬ (n.scheduleType ≠ .noSchedule ∧
            (current.getD (getEmptySchedule (some d))).scheduleType ≠ n.scheduleType) := fun hboth => hboth.1 htype
        simp only [if_neg hnot]
      · by_cases hcreate : (current.getD (getEmptySchedule (some d))).scheduleType ≠ n.scheduleType
        · rw [h.creation n rfl htype (Bool.eq_false_iff.mpr hsame) hcreate]
          rfl
        · have hnot : ¬ (n.scheduleType ≠ .noSchedule ∧
              (current.getD (getEmptySchedule (some d))).scheduleType ≠ n.scheduleType) :=
            fun hboth => hcreate hboth.2
          simp only [if_neg hnot]

/-! ## When the schedules are written -/

/-- A call returns. -/
def Succeeds {σ α : Type} (c : Proc σ Exc α) (s : σ) : Prop := ∃ a t, Proc.Returns c s a t

theorem succeeds_bind {σ α β : Type} {c : Proc σ Exc α} {f : α → Proc σ Exc β} {s : σ} :
    Succeeds (c >>= f) s ↔ ∃ a t, Proc.Returns c s a t ∧ Succeeds (f a) t := by
  constructor
  · rintro ⟨b, u, hrun⟩
    obtain ⟨a, t, hc, hf⟩ := Proc.returns_bind.mp hrun
    exact ⟨a, t, hc, b, u, hf⟩
  · rintro ⟨a, t, hc, b, u, hf⟩
    exact ⟨b, u, Proc.returns_bind.mpr ⟨a, t, hc, hf⟩⟩

variable {w : World} {o : Outcome}

/-- The deletion of what a schedule names: the call is answered and the row is there. -/
theorem succeeds_deleteScheduleWith {schedule : Option Schedule} :
    Succeeds (deleteScheduleWith o schedule) w ↔ ∀ key, rowKey schedule = some key → o = .done ∧ w.table.Has key := by
  unfold deleteScheduleWith
  cases hkey : rowKey schedule with
  | none =>
    rw [if_pos rfl]
    exact iff_of_true ⟨⟨⟩, w, rfl⟩ nofun
  | some key =>
    rw [if_neg (by simp)]
    constructor
    · rintro ⟨⟨⟩, t, hrun⟩ key' hkey'
      cases hkey'
      obtain rfl := Proc.done_of_returns_attempt hrun
      refine ⟨rfl, ?_⟩
      by_contra hmissing
      obtain ⟨e, herror⟩ := run_deleteSchedule_of_missing hkey hmissing
      cases herror.symm.trans hrun
    · intro h
      obtain ⟨rfl, hrow⟩ := h key rfl
      exact ⟨⟨⟩, _, run_deleteSchedule_of_rowKey hkey hrow⟩

theorem succeeds_createScheduleForDayOfWeekWith {schedule : Schedule}
    {ideaSessionId owner : String} :
    Succeeds (createScheduleForDayOfWeekWith hours uuids o d schedule ideaSessionId owner) w ↔
      (schedule.scheduleType ≠ .noSchedule → o = .done) := by
  unfold createScheduleForDayOfWeekWith
  by_cases htype : schedule.scheduleType = .noSchedule
  · rw [if_pos htype]
    exact iff_of_true ⟨_, w, rfl⟩ fun h => absurd htype h
  · rw [if_neg htype]
    constructor
    · rintro ⟨s, t, hrun⟩ -
      exact Proc.done_of_returns_attempt hrun
    · intro h
      obtain rfl := h htype
      obtain ⟨created, hrun, -⟩ := run_create hours uuids w (scheduleOfDay d schedule ideaSessionId owner) d rfl
      exact ⟨created, _, hrun⟩

/-- The old schedule of a day is deleted if it names a row. -/
theorem succeeds_deletion {old : Schedule} :
    Succeeds (Proc.when (old.scheduleType ≠ .noSchedule ∨ isEmptyOpt old.scheduleId = false)
        (deleteScheduleWith o (some old))) w ↔ ∀ key, rowKey (some old) = some key → o = .done ∧ w.table.Has key := by
  rw [← succeeds_deleteScheduleWith]
  unfold Proc.when
  split
  · rfl
  · -- such a schedule names no row
    rename_i hguard
    have htype : old.scheduleType = .noSchedule := by
      by_contra htype
      exact hguard (.inl htype)
    have hnone : rowKey (some old) = none := by
      simp only [rowKey, Option.bind_some, if_pos (Or.inl htype)]
    unfold deleteScheduleWith
    rw [if_pos hnone]

/-- The new schedule of a day is created if there is to be one of another type. -/
theorem succeeds_creation {old n : Schedule} {ideaSessionId owner : String} :
    Succeeds (if n.scheduleType ≠ .noSchedule ∧ old.scheduleType ≠ n.scheduleType then
        createScheduleForDayOfWeekWith hours uuids o d
          (if n.scheduleType = .noSchedule then getEmptySchedule (some d) else n) ideaSessionId owner
      else pure (if n.scheduleType = .noSchedule then getEmptySchedule (some d) else n)) w ↔
      (n.scheduleType ≠ .noSchedule → old.scheduleType ≠ n.scheduleType → o = .done) := by
  by_cases hnew : n.scheduleType ≠ .noSchedule ∧ old.scheduleType ≠ n.scheduleType
  · rw [if_pos hnew, if_neg hnew.1, succeeds_createScheduleForDayOfWeekWith]
    exact ⟨fun h htype _ => h htype, fun h htype => h htype hnew.2⟩
  · rw [if_neg hnew]
    exact iff_of_true ⟨_, w, rfl⟩ fun htype hdiffers => absurd ⟨htype, hdiffers⟩ hnew

/-- **A day** is updated exactly when the calls that are made are answered and the row to be deleted is there. -/
theorem succeeds_createOrUpdateScheduleWith {deletion creation : Outcome}
    {current new : Option Schedule} (ideaSessionId owner : String) :
    Succeeds (createOrUpdateScheduleWith hours uuids deletion creation d current new ideaSessionId owner) w ↔
      DayAnswered deletion creation d current new ∧ ∀ key, deletedKey d current new = some key → w.table.Has key := by
  cases new with
  | none => exact iff_of_true ⟨_, w, rfl⟩ ⟨⟨nofun, nofun⟩, nofun⟩
  | some n =>
    unfold createOrUpdateScheduleWith
    dsimp only
    by_cases hsame : isSameSchedule (some n) (some (current.getD (getEmptySchedule (some d)))) = true
    · have hkey : deletedKey d current (some n) = none := if_pos hsame
      rw [if_pos hsame, hkey]
      refine iff_of_true ⟨_, w, rfl⟩ ⟨⟨fun key h => ?_, fun m hm _ hdiffers => ?_⟩, nofun⟩
      · cases hkey.symm.trans h
      · cases hm
        exact absurd hsame (Bool.eq_false_iff.mp hdiffers)
    · have hkey : deletedKey d current (some n) = rowKey (some (current.getD (getEmptySchedule (some d)))) :=
        if_neg hsame
      rw [if_neg hsame, succeeds_bind, hkey]
      constructor
      · rintro ⟨⟨⟩, t, hdeleted, hcreated⟩
        have hdeletion := succeeds_deletion.mp ⟨_, t, hdeleted⟩
        refine ⟨⟨fun key h => (hdeletion key (hkey ▸ h)).1, fun m hm htype _ => ?_⟩, fun key h => (hdeletion key h).2⟩
        cases hm
        exact (succeeds_creation hours uuids).mp hcreated htype
      · rintro ⟨hanswered, hrow⟩
        obtain ⟨⟨⟩, t, hdeleted⟩ := succeeds_deletion.mpr fun key h =>
          ⟨hanswered.deletion key (hkey.trans h), hrow key h⟩
        refine ⟨⟨⟩, t, hdeleted, (succeeds_creation hours uuids).mpr fun htype hdiffers => ?_⟩
        exact hanswered.creation n rfl htype (Bool.eq_false_iff.mpr hsame) hdiffers

section Week

variable (faults : CreateFaults) (newSchedules : DayOfWeek → Option Schedule) (ideaSessionId owner : String)

/-- The days of a list are all updated: the calls that are made are answered, and each row to be deleted is there
after the days before it. -/
def DaysWritten : List DayOfWeek → World → Prop
  | [], _ => True
  | d :: days, w =>
    DayAnswered (faults.deleteSchedule d) (faults.putSchedule d) d (w.week d) (newSchedules d) ∧
      (∀ key, deletedKey d (w.week d) (newSchedules d) = some key → w.table.Has key) ∧
      DaysWritten days ((updateDay hours uuids newSchedules ideaSessionId owner d).run w).2

variable {faults newSchedules ideaSessionId owner}

/-- A day whose calls are answered is updated as without failures. -/
theorem run_updateDayWith
    (h : DayAnswered (faults.deleteSchedule d) (faults.putSchedule d) d (w.week d) (newSchedules d)) :
    (updateDayWith hours uuids faults newSchedules ideaSessionId owner d).run w =
      (updateDay hours uuids newSchedules ideaSessionId owner d).run w := by
  unfold updateDayWith updateDay
  rw [Proc.run_bind_of_ok (Proc.run_gets _ w), Proc.run_bind_of_ok (Proc.run_gets _ w),
    createOrUpdateScheduleWith_of_answered hours uuids h]

variable (ideaSessionId owner) in
theorem succeeds_updateDayWith : Succeeds (updateDayWith hours uuids faults newSchedules ideaSessionId owner d) w ↔
      DayAnswered (faults.deleteSchedule d) (faults.putSchedule d) d (w.week d) (newSchedules d) ∧
        ∀ key, deletedKey d (w.week d) (newSchedules d) = some key → w.table.Has key := by
  rw [← succeeds_createOrUpdateScheduleWith hours uuids ideaSessionId owner]
  unfold updateDayWith
  rw [succeeds_bind]
  constructor
  · rintro ⟨current, t, hgets, hrest⟩
    obtain ⟨rfl, rfl⟩ := Proc.returns_gets.mp hgets
    obtain ⟨s, t, hday, -⟩ := succeeds_bind.mp hrest
    exact ⟨s, t, hday⟩
  · rintro ⟨s, t, hday⟩
    exact ⟨_, w, rfl, succeeds_bind.mpr ⟨s, t, hday, ⟨⟩, _, rfl⟩⟩

/-- **The week** is updated exactly when each of its days is. -/
theorem succeeds_updateDays (days : List DayOfWeek) (w : World) :
    Succeeds (Proc.forEach (updateDayWith hours uuids faults newSchedules ideaSessionId owner) days) w ↔
      DaysWritten hours uuids faults newSchedules ideaSessionId owner days w := by
  induction days generalizing w with
  | nil => exact iff_of_true ⟨⟨⟩, w, rfl⟩ trivial
  | cons d days ih =>
    rw [Proc.forEach_cons, succeeds_bind, DaysWritten]
    constructor
    · rintro ⟨⟨⟩, t, hday, hrest⟩
      obtain ⟨hanswered, hrow⟩ := (succeeds_updateDayWith hours uuids ideaSessionId owner).mp ⟨_, t, hday⟩
      have hstate : ((updateDay hours uuids newSchedules ideaSessionId owner d).run w).2 = t := by
        rw [← run_updateDayWith hours uuids hanswered, hday]
      rw [hstate]
      exact ⟨hanswered, hrow, (ih t).mp hrest⟩
    · rintro ⟨hanswered, hrow, hrest⟩
      obtain ⟨⟨⟩, t, hday⟩ := (succeeds_updateDayWith hours uuids ideaSessionId owner).mpr ⟨hanswered, hrow⟩
      have hstate : ((updateDay hours uuids newSchedules ideaSessionId owner d).run w).2 = t := by
        rw [← run_updateDayWith hours uuids hanswered, hday]
      rw [hstate] at hrest
      exact ⟨⟨⟩, t, hday, (ih t).mpr hrest⟩

end Week

/-! ## The creation -/

/-- What the creation reads and writes: the running instances, the tables, and among the schedules the week of the
session at hand. -/
structure State where
  instances : List String
  servers : ServerTable
  schedules : World
  sessions : SessionTable

/-- The row of a new server. -/
def newServerRow (server : VirtualDesktopServer) (ideaSessionId owner : String) : ServerRow :=
  { convertServerObjectToDbDict server with
    ideaSessionId := some ideaSessionId
    ideaSessionOwner := some owner
    state := some "CREATED" }

section Creation

variable (faults : CreateFaults) (config : Config) (instanceId owner ideaSessionId : String)

def provisionHostForSession (server : VirtualDesktopServer) : Proc State Exc VirtualDesktopServer := do
  Proc.attempt faults.launch callFailed (Proc.modify fun s => { s with instances := s.instances ++ [instanceId] })
  let row := newServerRow { server with instanceId := some instanceId } ideaSessionId owner
  Proc.attempt faults.putServer callFailed
    (Proc.modify fun s => { s with servers := s.servers.putItem instanceId row })
  return convertDbEntryToServerObject (some instanceId) row

/-- `VirtualDesktopSessionDB.create`: the row has the week that the schedules were written for. -/
def putSession (session : VirtualDesktopSession) : Proc State Exc PUnit :=
  Proc.attempt faults.putSession callFailed (Proc.modify fun s => { s with
    sessions := s.sessions.putItem (owner, ideaSessionId)
      (convertSessionObjectToDbDict { session with schedule := s.schedules.week }) })

/-- The part of `create_session` after the launch: the schedules and the session. -/
def writeSession (session : VirtualDesktopSession) : Proc State Exc PUnit := do
  let newSchedules ← Proc.liftExcept (getDefaultSchedules config)
  Proc.zoom State.schedules (fun w s => { s with schedules := w })
    (updateScheduleForSessionWith hours uuids faults newSchedules ideaSessionId owner)
  putSession faults owner ideaSessionId { session with state := .provisioning }

/-- `create_session`: the failure reason of the session, if it has one. -/
def createSession (session : VirtualDesktopSession) (server : VirtualDesktopServer) :
    Proc State Exc (Option Exc) := do
  let provisioned ← Proc.tryCatch
    (provisionHostForSession faults instanceId owner ideaSessionId server >>= fun server => pure (Except.ok server))
    (fun e => pure (Except.error e))
  match provisioned with
  | .error e => return some e
  | .ok server =>
    writeSession hours uuids faults config owner ideaSessionId { session with server := some server }
    return none

/-! ## What is left -/

/-- **No orphan.** Without a session row there is no instance, server row or schedule row that was not there
before. -/
def NoOrphan (owner ideaSessionId : String) (s t : State) : Prop :=
  ¬ t.sessions.Has (owner, ideaSessionId) → t.instances = s.instances ∧
    (∀ id, t.servers.Has id → s.servers.Has id) ∧ ∀ key, t.schedules.table.Has key → s.schedules.table.Has key

/-- The calls that are made are answered: the default schedules are read, the schedules are written, and the
session row is written, whether or not the event about it is sent. -/
def CallsAnswered (s : State) : Prop :=
  faults.launch = .done ∧ faults.putServer = .done ∧
    (∃ newSchedules, getDefaultSchedules config = .ok newSchedules ∧
      DaysWritten hours uuids faults newSchedules ideaSessionId owner DayOfWeek.all s.schedules) ∧
    faults.putSession ≠ .failed

theorem run_createSession_of_failed (h : faults.launch = .failed) (session : VirtualDesktopSession)
    (server : VirtualDesktopServer) (s : State) :
    (createSession hours uuids faults config instanceId owner ideaSessionId session server).run s =
      (.ok (some callFailed), s) := by
  unfold createSession provisionHostForSession
  rw [h]
  rfl

/-- A failure after the launch, up to the server row, leaves the instance. -/
theorem run_createSession_of_unprovisioned (hlaunch : faults.launch ≠ .failed)
    (hnot : ¬ (faults.launch = .done ∧ faults.putServer = .done)) (session : VirtualDesktopSession)
    (server : VirtualDesktopServer) (s : State) :
    ∃ t, (createSession hours uuids faults config instanceId owner ideaSessionId session server).run s =
        (.ok (some callFailed), t) ∧ t.instances = s.instances ++ [instanceId] ∧ t.sessions = s.sessions := by
  unfold createSession provisionHostForSession
  cases hl : faults.launch with
  | failed => exact absurd hl hlaunch
  | lost => exact ⟨_, rfl, rfl, rfl⟩
  | done =>
    cases hput : faults.putServer with
    | failed => exact ⟨_, rfl, rfl, rfl⟩
    | lost => exact ⟨_, rfl, rfl, rfl⟩
    | done => exact absurd ⟨hl, hput⟩ hnot

/-- With a server row the schedules and the session are written. -/
theorem run_createSession_of_provisioned (hlaunch : faults.launch = .done) (hput : faults.putServer = .done)
    (session : VirtualDesktopSession) (server : VirtualDesktopServer) (s : State) :
    ∃ t session', t.instances = s.instances ++ [instanceId] ∧ t.schedules = s.schedules ∧ t.sessions = s.sessions ∧
      ((createSession hours uuids faults config instanceId owner ideaSessionId session server).run s).2 =
        ((writeSession hours uuids faults config owner ideaSessionId session').run t).2 := by
  unfold createSession provisionHostForSession
  rw [hlaunch, hput]
  let row := newServerRow { server with instanceId := some instanceId } ideaSessionId owner
  refine ⟨{ s with instances := s.instances ++ [instanceId], servers := s.servers.putItem instanceId row },
    { session with server := some (convertDbEntryToServerObject (some instanceId) row) }, rfl, rfl, rfl, ?_⟩
  show (Proc.run (writeSession hours uuids faults config owner ideaSessionId _ >>= fun _ => pure none) _).2 = _
  rw [Proc.run_bind]
  cases (writeSession hours uuids faults config owner ideaSessionId _).run _ with
  | mk r t => cases r <;> rfl

/-- The schedules and the session are written without a look at the instances. -/
theorem keeps_writeSession (session : VirtualDesktopSession) (instances : List String) :
    Keeps (fun s : State => s.instances = instances)
      (writeSession hours uuids faults config owner ideaSessionId session) := by
  unfold writeSession putSession
  refine Keeps.bind (Keeps.liftExcept _) fun newSchedules => Keeps.bind (Keeps.zoom fun _ h => h) fun _ => ?_
  apply Keeps.attempt
  exact Keeps.modify fun _ h => h

/-- **The session row** is there afterwards if it was before, or if all calls are answered. -/
theorem has_writeSession (session : VirtualDesktopSession) (s : State) :
    ((writeSession hours uuids faults config owner ideaSessionId session).run s).2.sessions.Has (owner, ideaSessionId) ↔
      s.sessions.Has (owner, ideaSessionId) ∨ (∃ newSchedules, getDefaultSchedules config = .ok newSchedules ∧
          DaysWritten hours uuids faults newSchedules ideaSessionId owner DayOfWeek.all s.schedules) ∧
        faults.putSession ≠ .failed := by
  unfold writeSession
  cases hdefaults : getDefaultSchedules config with
  | error e =>
    show s.sessions.Has (owner, ideaSessionId) ↔ _
    simp
  | ok newSchedules =>
    have hread : (Proc.liftExcept (.ok newSchedules) : Proc State Exc _).run s = (.ok newSchedules, s) := rfl
    have hweek : Succeeds (updateScheduleForSessionWith hours uuids faults newSchedules ideaSessionId owner)
        s.schedules ↔ DaysWritten hours uuids faults newSchedules ideaSessionId owner DayOfWeek.all s.schedules :=
      succeeds_updateDays hours uuids DayOfWeek.all s.schedules
    rw [Proc.run_bind_of_ok hread]
    have hsame : (∃ new, Except.ok newSchedules = (.ok new : Except Exc (DayOfWeek → Option Schedule)) ∧
        DaysWritten hours uuids faults new ideaSessionId owner DayOfWeek.all s.schedules) ↔
        Succeeds (updateScheduleForSessionWith hours uuids faults newSchedules ideaSessionId owner) s.schedules := by
      rw [hweek]
      constructor
      · rintro ⟨new, hnew, hwritten⟩
        cases hnew
        exact hwritten
      · exact fun hwritten => ⟨newSchedules, rfl, hwritten⟩
    rw [hsame]
    rcases hrun : (updateScheduleForSessionWith hours uuids faults newSchedules ideaSessionId owner).run s.schedules
      with ⟨e | u, w⟩
    · -- the schedules are not all written, and neither is the session
      have hnot : ¬ Succeeds (updateScheduleForSessionWith hours uuids faults newSchedules ideaSessionId owner)
          s.schedules := by
        rintro ⟨u, w', hok⟩
        cases hrun.symm.trans hok
      have hstate : (Proc.zoom State.schedules (fun w (s : State) => { s with schedules := w })
          (updateScheduleForSessionWith hours uuids faults newSchedules ideaSessionId owner)).run s =
          (_, { s with schedules := w }) := Proc.run_zoom_of hrun
      rw [Proc.run_bind, hstate]
      exact ⟨.inl, fun h => h.resolve_right fun hboth => hnot hboth.1⟩
    · have hyes : Succeeds (updateScheduleForSessionWith hours uuids faults newSchedules ideaSessionId owner)
          s.schedules := ⟨u, w, hrun⟩
      have hstate : (Proc.zoom State.schedules (fun w (s : State) => { s with schedules := w })
          (updateScheduleForSessionWith hours uuids faults newSchedules ideaSessionId owner)).run s =
          (_, { s with schedules := w }) := Proc.run_zoom_of hrun
      rw [Proc.run_bind_of_ok hstate]
      unfold putSession
      cases hput : faults.putSession with
      | failed => exact ⟨.inl, fun h => h.resolve_right fun hboth => hboth.2 rfl⟩
      | done => exact iff_of_true (Table.has_putItem.mpr (.inl rfl)) (.inr ⟨hyes, by simp⟩)
      | lost => exact iff_of_true (Table.has_putItem.mpr (.inl rfl)) (.inr ⟨hyes, by simp⟩)

/-- **No orphan desktop.** The creation leaves a session row or nothing exactly when the launch fails, or every call
that is made is answered, or there was a session row before. -/
theorem noOrphan_iff (session : VirtualDesktopSession) (server : VirtualDesktopServer) (s : State) :
    NoOrphan owner ideaSessionId s
        ((createSession hours uuids faults config instanceId owner ideaSessionId session server).run s).2 ↔
      s.sessions.Has (owner, ideaSessionId) ∨ faults.launch = .failed ∨
        CallsAnswered hours uuids faults config owner ideaSessionId s := by
  have hnew : s.instances ++ [instanceId] ≠ s.instances := by simp
  -- where the instance is there, it has to have a session row
  have horphan {t : State} (hinstances : t.instances = s.instances ++ [instanceId]) :
      NoOrphan owner ideaSessionId s t ↔ t.sessions.Has (owner, ideaSessionId) := by
    constructor
    · intro h
      by_contra hmissing
      exact hnew (hinstances.symm.trans (h hmissing).1)
    · exact fun hhas hmissing => absurd hhas hmissing
  by_cases hfailed : faults.launch = .failed
  · rw [run_createSession_of_failed hours uuids faults config instanceId owner ideaSessionId hfailed]
    exact iff_of_true (fun _ => ⟨rfl, fun _ h => h, fun _ h => h⟩) (.inr (.inl hfailed))
  · by_cases hprovisioned : faults.launch = .done ∧ faults.putServer = .done
    · obtain ⟨t, session', hinstances, hschedules, hsessions, hrun⟩ := run_createSession_of_provisioned hours uuids
        faults config instanceId owner ideaSessionId hprovisioned.1 hprovisioned.2 session server s
      have hkept := (keeps_writeSession hours uuids faults config owner ideaSessionId session' _).state hinstances
      rw [hrun, horphan hkept, has_writeSession, hsessions, hschedules]
      constructor
      · rintro (hhas | ⟨hwritten, hput⟩)
        · exact .inl hhas
        · exact .inr (.inr ⟨hprovisioned.1, hprovisioned.2, hwritten, hput⟩)
      · rintro (hhas | hlaunch | ⟨-, -, hwritten, hput⟩)
        · exact .inl hhas
        · exact absurd hlaunch hfailed
        · exact .inr ⟨hwritten, hput⟩
    · obtain ⟨t, hrun, hinstances, hsessions⟩ := run_createSession_of_unprovisioned hours uuids faults config instanceId
        owner ideaSessionId hfailed hprovisioned session server s
      rw [hrun, horphan hinstances, hsessions]
      constructor
      · exact .inl
      · rintro (hhas | hlaunch | hanswered)
        · exact hhas
        · exact absurd hlaunch hfailed
        · exact absurd ⟨hanswered.1, hanswered.2.1⟩ hprovisioned

end Creation

/-! ## A session row that is not written -/

/-- Everything is answered but the write of the session row. -/
def sessionRowFails : CreateFaults where
  launch := .done
  putServer := .done
  deleteSchedule _ := .done
  putSchedule _ := .done
  putSession := .failed

/-- A session of a user, without schedules. -/
def newSession : VirtualDesktopSession where
  owner := some "ada"
  ideaSessionId := some "s1"
  name := some "desktop"
  description := none
  dcvSessionId := none
  state := .provisioning
  hibernationEnabled := false
  server := none
  schedule _ := none

/-- **An orphan.** The instance runs and its session is nowhere. -/
theorem orphan_without_session_row : ¬ ∀ (faults : CreateFaults) (config : Config) (s : State), NoOrphan "ada" "s1" s
      ((createSession ⟨"09:00", "17:00"⟩ Uuids.unary faults config "i-1" "ada" "s1" newSession {}).run s).2 := by
  intro h
  have hno := h sessionRowFails (fun _ => .ok (some "NO_SCHEDULE")) ⟨[], ∅, emptyWorld, ∅⟩
  have hmissing : ¬ ((createSession ⟨"09:00", "17:00"⟩ Uuids.unary sessionRowFails (fun _ => .ok (some "NO_SCHEDULE"))
      "i-1" "ada" "s1" newSession {}).run ⟨[], ∅, emptyWorld, ∅⟩).2.sessions.Has ("ada", "s1") :=
    Table.not_has_iff.mpr (Option.isNone_iff_eq_none.mp (by decide +kernel))
  have hinstances := (hno hmissing).1
  revert hinstances
  decide +kernel

end ContainRes.VirtualDesktop.SessionCreation
