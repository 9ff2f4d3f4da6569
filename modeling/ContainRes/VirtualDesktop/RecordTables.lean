import ContainRes.Store.WriteBack
import ContainRes.VirtualDesktop.SessionDb
import ContainRes.VirtualDesktop.SoftwareStackApi

/-! # Rows that are read and written back

The rows of the servers, session permissions and schedules tables with all their attributes, and what becomes of
one that a handler reads with the converter of its table and writes back with `update`.

* **`Stripped`** — the texts that are read as they are.
* **`servers`**, **`permissions`**, **`schedules`** — the tables; `ServerDict` is also how a server stands in the
  row of its session.
* **`not_unchanged_server`** — the state of a server is lost.
* **`permission_unchanged_iff`**, **`schedule_unchanged_iff`** — which permissions and schedules come back as they
  were; **`convert_eq_self_iff`** says it of a schedule as a dictionary, with an id or without. -/

namespace ContainRes.VirtualDesktop.Records

open Effects Store Text
open Schedules SessionPermissions
open Sessions SoftwareStacks

/-! ## Values that are read back as they are -/

/-- A text that `get_value_as_string` does not change: it is missing, or neither blank nor with blanks around
it. -/
def Stripped (s : Option String) : Prop := ∀ v, s = some v → isEmpty v = false ∧ strip v = v

/-- A text that `get_value_as_string` with an empty default does not change. -/
def StrippedOrEmpty (s : Option String) : Prop := ∃ v, s = some v ∧ strip v = v

variable {s : Option String}

theorem getAsString_eq_self : getAsString s = s ↔ Stripped s := by
  cases s with
  | none => simp [getAsString, Stripped]
  | some v => by_cases h : isEmpty v = true <;> simp [getAsString, Stripped, h]

theorem strip_of_isEmpty {v : String} (h : isEmpty v = true) : strip v = "" := by
  rw [isEmpty, List.isEmpty_iff] at h
  rw [strip, h]

theorem textOf_eq_self : some (textOf s) = s ↔ StrippedOrEmpty s := by
  cases s with
  | none => simp [StrippedOrEmpty]
  | some v =>
    by_cases h : isEmpty v = true
    · simp [textOf, getAsString, StrippedOrEmpty, h, strip_of_isEmpty h]
    · simp [textOf, getAsString, StrippedOrEmpty, h]

theorem toDatetime_eq_self {ms : Int} : toDatetime ms = ms ↔ 1000 ∣ ms := by
  unfold toDatetime
  constructor
  · intro h
    exact ⟨_, by rw [mul_comm]; exact h.symm⟩
  · rintro ⟨n, rfl⟩
    rw [Int.mul_tdiv_cancel_left _ (by decide), mul_comm]

@[simp] theorem toMilliseconds_some (ms : Int) : toMilliseconds (some ms) = ms := rfl

/-- A part of a key; the store rejects one that is missing or empty. -/
def keyText : Option String → Except Exc String
  | none => .error (.other .clientError "ValidationException")
  | some "" => .error (.other .clientError "ValidationException")
  | some s => .ok s

theorem keyText_eq_ok {v : String} : keyText s = .ok v ↔ s = some v ∧ v ≠ "" := by
  unfold keyText
  split
  · simp
  · simp only [reduceCtorEq, Option.some.injEq, false_iff, not_and, not_not]
    exact Eq.symm
  · rename_i w hw
    constructor
    · intro h
      cases h
      exact ⟨rfl, hw⟩
    · rintro ⟨h, -⟩
      cases h
      rfl

/-! ## Servers -/

/-- A server as a dictionary. -/
structure ServerDict extends ServerRow where
  instanceId : Option String
  deriving DecidableEq, Repr

/-- A row of the servers table. -/
structure ServerItem extends ServerDict where
  createdOn : Option Int
  updatedOn : Option Int
  deriving DecidableEq, Repr

/-- `convert_server_object_to_db_dict`. -/
def serverDictOf (server : VirtualDesktopServer) : ServerDict where
  toServerRow := Sessions.convertServerObjectToDbDict server
  instanceId := server.instanceId

/-- `convert_db_entry_to_server_object`. -/
def serverOf (dict : ServerDict) : VirtualDesktopServer :=
  Sessions.convertDbEntryToServerObject dict.instanceId dict.toServerRow

/-- `VirtualDesktopServerDB`. -/
def servers : RecordTable String ServerItem VirtualDesktopServer Exc where
  load item := .ok (serverOf item.toServerDict)
  dump server := .ok { toServerDict := serverDictOf server, createdOn := none, updatedOn := none }
  keyOf item := keyText item.instanceId
  set old item := { item with createdOn := old.bind ServerItem.createdOn }
  missing := none

/-- What `VirtualDesktopServerDB.create` sets beside the attributes of the server. -/
def createdServer (ideaSessionId ideaSessionOwner : Option String) (now : Int) (item : ServerItem) : ServerItem :=
  { item with
    ideaSessionId := ideaSessionId
    ideaSessionOwner := ideaSessionOwner
    createdOn := some now
    updatedOn := some now
    state := some "CREATED" }

/-- What `VirtualDesktopServerDB.update` sets beside them. -/
def updatedServer (now : Int) (item : ServerItem) : ServerItem := { item with updatedOn := some now }

theorem keyOf_servers {item : ServerItem} {key : String} :
    servers.keyOf item = .ok key ↔ item.instanceId = some key ∧ key ≠ "" := keyText_eq_ok

@[simp] theorem state_serverOf (dict : ServerDict) : (serverOf dict).state = none := rfl

/-- The dictionary of a server that was read from a dictionary. -/
theorem serverDictOf_serverOf (dict : ServerDict) : serverDictOf (serverOf dict) = dict ↔
      dict.state = none ∧ Stripped dict.instanceId ∧ Stripped dict.instanceType ∧
        Stripped dict.ideaSessionId ∧ Stripped dict.ideaSessionOwner := by
  obtain ⟨⟨instanceType, ideaSessionId, ideaSessionOwner, state, locked⟩, instanceId⟩ := dict
  simp only [serverDictOf, serverOf, Sessions.convertServerObjectToDbDict, Sessions.convertDbEntryToServerObject,
    ServerDict.mk.injEq, ServerRow.mk.injEq, getAsString_eq_self]
  tauto

/-- A row but for `updated_on`. -/
def ServerItem.lasting (item : ServerItem) : ServerItem := { item with updatedOn := none }

/-- **No server is read and written back as it was.** The state that `create` writes is lost. -/
theorem not_unchanged_server {ideaSessionId ideaSessionOwner : Option String} {now : Int} {key : String}
    {item : ServerItem} (h : servers.WrittenBy (createdServer ideaSessionId ideaSessionOwner now) key item) :
    ¬ servers.Unchanged updatedServer ServerItem.lasting key item := by
  obtain ⟨server, attributes, -, -, rfl⟩ := RecordTable.writtenBy_iff.mp h
  intro hsame
  obtain ⟨a, attributes', hload, hdump, hrest⟩ := RecordTable.unchanged_iff.mp hsame
  obtain ⟨-, hview, -⟩ := hrest 0
  cases hload
  cases hdump
  have hstate : (none : Option String) = some "CREATED" := congrArg (fun item : ServerItem => item.state) hview
  exact absurd hstate (by simp)

/-! ## Session permissions -/

/-- `VirtualDesktopSessionPermission` with all that is stored. -/
structure Permission extends SessionPermission where
  ideaSessionCreatedOn : Option Int
  ideaSessionHibernationEnabled : Option Bool
  createdOn : Option Int
  updatedOn : Option Int
  deriving DecidableEq, Repr

/-- A row of the session permissions table. -/
structure PermissionItem extends SessionPermissionRow where
  ideaSessionId : Option String
  actorName : Option String
  ideaSessionCreatedOn : Int
  ideaSessionHibernationEnabled : Bool
  createdOn : Option Int
  updatedOn : Int
  deriving DecidableEq, Repr

/-- `convert_db_dict_to_session_permission_object`. -/
def permissionOf (item : PermissionItem) : Except Exc Permission := do
  let permission ← SessionPermissions.convertDbDictToSessionPermissionObject
    (item.ideaSessionId.getD "", item.actorName.getD "") item.toSessionPermissionRow
  return {
    toSessionPermission := permission
    ideaSessionCreatedOn := some (toDatetime item.ideaSessionCreatedOn)
    ideaSessionHibernationEnabled := some item.ideaSessionHibernationEnabled
    createdOn := item.createdOn.map toDatetime
    updatedOn := some (toDatetime item.updatedOn) }

/-- `convert_session_permission_object_to_db_dict`. -/
def permissionItemOf (permission : Permission) : Except Exc PermissionItem := do
  let row ← SessionPermissions.convertSessionPermissionObjectToDbDict permission.toSessionPermission
  return {
    toSessionPermissionRow := row
    ideaSessionId := permission.ideaSessionId
    actorName := permission.actorName
    ideaSessionCreatedOn := toMilliseconds permission.ideaSessionCreatedOn
    ideaSessionHibernationEnabled := permission.ideaSessionHibernationEnabled.getD false
    createdOn := some (toMilliseconds permission.createdOn)
    updatedOn := toMilliseconds permission.updatedOn }

/-- `VirtualDesktopSessionPermissionDB`. -/
def permissions : RecordTable (String × String) PermissionItem Permission Exc where
  load := permissionOf
  dump := permissionItemOf
  keyOf item := do return (← keyText item.ideaSessionId, ← keyText item.actorName)
  set old item := { item with createdOn := old.bind PermissionItem.createdOn }
  missing := none

/-- What `VirtualDesktopSessionPermissionDB.create` sets beside the attributes of the permission. -/
def createdPermission (now : Int) (item : PermissionItem) : PermissionItem :=
  { item with createdOn := some now, updatedOn := now }

/-- What `VirtualDesktopSessionPermissionDB.update` sets beside them. -/
def updatedPermission (now : Int) (item : PermissionItem) : PermissionItem := { item with updatedOn := now }

/-- A row but for `updated_on`. -/
def PermissionItem.lasting (item : PermissionItem) : PermissionItem := { item with updatedOn := 0 }

/-- A permission that comes back as it was: it can be read, its texts are stripped, and its dates are whole
seconds. -/
structure PermissionItem.Kept (item : PermissionItem) : Prop where
  readable : item.toSessionPermissionRow.Readable
  ideaSessionId : StrippedOrEmpty item.ideaSessionId
  actorName : StrippedOrEmpty item.actorName
  ideaSessionOwner : StrippedOrEmpty item.ideaSessionOwner
  ideaSessionName : StrippedOrEmpty item.ideaSessionName
  ideaSessionInstanceType : StrippedOrEmpty item.ideaSessionInstanceType
  permissionProfileId : StrippedOrEmpty item.permissionProfileId
  ideaSessionCreatedOn : 1000 ∣ item.ideaSessionCreatedOn
  expiryDate : 1000 ∣ item.expiryDate

/-- The attributes of a permission that was read from a row. -/
def PermissionItem.readBack (item : PermissionItem) : PermissionItem where
  ideaSessionOwner := some (textOf item.ideaSessionOwner)
  ideaSessionName := some (textOf item.ideaSessionName)
  ideaSessionInstanceType := some (textOf item.ideaSessionInstanceType)
  ideaSessionState := item.ideaSessionState
  ideaSessionBaseOs := item.ideaSessionBaseOs
  ideaSessionType := item.ideaSessionType
  permissionProfileId := some (textOf item.permissionProfileId)
  actorType := item.actorType
  expiryDate := toDatetime item.expiryDate
  ideaSessionId := some (textOf (some (item.ideaSessionId.getD "")))
  actorName := some (textOf (some (item.actorName.getD "")))
  ideaSessionCreatedOn := toDatetime item.ideaSessionCreatedOn
  ideaSessionHibernationEnabled := item.ideaSessionHibernationEnabled
  createdOn := some (toMilliseconds (item.createdOn.map toDatetime))
  updatedOn := toDatetime item.updatedOn

variable {item : PermissionItem}

/-- Only a row that can be read is read, and its permission is written so. -/
theorem permissionItemOf_of_permissionOf {permission : Permission} (h : permissionOf item = .ok permission) :
    item.toSessionPermissionRow.Readable ∧ permissionItemOf permission = .ok item.readBack := by
  obtain ⟨p, hp, h⟩ := bind_eq_ok.mp h
  cases h
  refine ⟨readable_of_convert hp, ?_⟩
  simp only [SessionPermissions.convertDbDictToSessionPermissionObject, bind_eq_ok, required_eq_ok] at hp
  obtain ⟨os, hos, state, hstate, sessionType, htype, actorType, hactor, hp⟩ := hp
  cases hp
  simp [permissionItemOf, SessionPermissions.convertSessionPermissionObjectToDbDict, required,
    PermissionItem.readBack, hos, hstate, htype, hactor, Bind.bind, Except.bind, Pure.pure, Except.pure]

theorem exists_permissionOf (h : item.toSessionPermissionRow.Readable) :
    ∃ permission, permissionOf item = .ok permission := by
  obtain ⟨p, hp, -⟩ := exists_convert h (item.ideaSessionId.getD "", item.actorName.getD "")
  exact ⟨_, bind_eq_ok.mpr ⟨p, hp, rfl⟩⟩

variable {key : String × String}

/-- The parts of the key of a permission. -/
theorem keyOf_permissions : permissions.keyOf item = .ok key ↔
      item.ideaSessionId = some key.1 ∧ key.1 ≠ "" ∧ item.actorName = some key.2 ∧ key.2 ≠ "" := by
  simp only [permissions, bind_eq_ok, keyText_eq_ok]
  constructor
  · rintro ⟨id, ⟨hid, hid'⟩, actor, ⟨hactor, hactor'⟩, h⟩
    cases h
    exact ⟨hid, hid', hactor, hactor'⟩
  · rintro ⟨hid, hid', hactor, hactor'⟩
    exact ⟨key.1, ⟨hid, hid'⟩, key.2, ⟨hactor, hactor'⟩, rfl⟩

/-- What is written back is what was there exactly when the texts are stripped and the dates are whole
seconds. -/
theorem lasting_readBack (hkey : permissions.keyOf item = .ok key)
    (now : Int) : (permissions.set (some item) (updatedPermission now item.readBack)).lasting = item.lasting ↔
      StrippedOrEmpty item.ideaSessionId ∧ StrippedOrEmpty item.actorName ∧
        StrippedOrEmpty item.ideaSessionOwner ∧ StrippedOrEmpty item.ideaSessionName ∧
        StrippedOrEmpty item.ideaSessionInstanceType ∧ StrippedOrEmpty item.permissionProfileId ∧
        1000 ∣ item.ideaSessionCreatedOn ∧ 1000 ∣ item.expiryDate := by
  obtain ⟨hid, -, hactor, -⟩ := keyOf_permissions.mp hkey
  obtain ⟨⟨owner, name, instanceType, state, os, sessionType, profileId, actorType, expiry⟩, id, actor, created,
    hibernation, createdOn, updatedOn⟩ := item
  obtain rfl : id = some key.1 := hid
  obtain rfl : actor = some key.2 := hactor
  simp only [permissions, updatedPermission, PermissionItem.readBack, PermissionItem.lasting,
    PermissionItem.mk.injEq, SessionPermissionRow.mk.injEq, Option.getD_some, Option.bind_some, textOf_eq_self,
    toDatetime_eq_self, true_and, and_true]
  tauto

/-- **Which permissions come back as they were.** -/
theorem permission_unchanged_iff {created : Int} (h : permissions.WrittenBy (createdPermission created) key item) :
    permissions.Unchanged updatedPermission PermissionItem.lasting key item ↔ item.Kept := by
  obtain ⟨permission, attributes, -, hkey, rfl⟩ := RecordTable.writtenBy_iff.mp h
  generalize createdPermission created attributes = item at hkey ⊢
  rw [RecordTable.unchanged_iff]
  constructor
  · rintro ⟨p, attributes', hload, hdump, hrest⟩
    obtain ⟨hreadable, hback⟩ := permissionItemOf_of_permissionOf hload
    obtain rfl : item.readBack = attributes' := Except.ok.inj (hback.symm.trans hdump)
    obtain ⟨hid, hactor, howner, hname, htype, hprofile, hon, hexpiry⟩ := (lasting_readBack hkey 0).mp (hrest 0).2.1
    exact ⟨hreadable, hid, hactor, howner, hname, htype, hprofile, hon, hexpiry⟩
  · intro hkept
    obtain ⟨p, hload⟩ := exists_permissionOf hkept.readable
    have hlasting := fun now => (lasting_readBack hkey now).mpr ⟨hkept.ideaSessionId, hkept.actorName,
      hkept.ideaSessionOwner, hkept.ideaSessionName, hkept.ideaSessionInstanceType, hkept.permissionProfileId,
      hkept.ideaSessionCreatedOn, hkept.expiryDate⟩
    refine ⟨p, item.readBack, hload, (permissionItemOf_of_permissionOf hload).2, fun now => ⟨?_, hlasting now,
      exists_permissionOf hkept.readable⟩⟩
    -- the key is among the attributes that are as they were
    obtain ⟨hid, hid', hactor, hactor'⟩ := keyOf_permissions.mp hkey
    have hid₂ := congrArg (fun item : PermissionItem => item.ideaSessionId) (hlasting now)
    have hactor₂ := congrArg (fun item : PermissionItem => item.actorName) (hlasting now)
    exact keyOf_permissions.mpr ⟨hid₂.trans hid, hid', hactor₂.trans hactor, hactor'⟩

/-! ## Schedules -/

variable (hours : WorkingHours) (uuids : Uuids)

/-- `VirtualDesktopScheduleDB`. The times are among the attributes of a custom schedule only. -/
def schedules : RecordTable (String × String) ScheduleDict Schedule Exc where
  load item := convertDbDictToScheduleObject hours (some item)
  dump schedule := .ok (convertScheduleObjectToDbDict schedule)
  keyOf item := do return (item.dayOfWeek, ← keyText item.scheduleId)
  set old item :=
    if item.scheduleType = .customSchedule then item
    else { item with
      startUpTime := old.bind ScheduleDict.startUpTime
      shutDownTime := old.bind ScheduleDict.shutDownTime }
  missing := none

/-- What `VirtualDesktopScheduleDB.create` sets beside the attributes of the schedule. -/
def createdSchedule (uuid : String) (item : ScheduleDict) : ScheduleDict := { item with scheduleId := some uuid }

/-- `VirtualDesktopScheduleDB.update` sets nothing beside them. -/
def updatedSchedule (_now : Int) (item : ScheduleDict) : ScheduleDict := item

/-- A dictionary that was made from a schedule: it has a day or `None`, and no times unless it is custom. -/
structure FromSchedule (dict : ScheduleDict) : Prop where
  day : ∃ d, dict.dayOfWeek = dayText d
  times : dict.scheduleType ≠ .customSchedule → dict.startUpTime = none ∧ dict.shutDownTime = none

theorem fromSchedule_convert (schedule : Schedule) : FromSchedule (convertScheduleObjectToDbDict schedule) where
  day := ⟨schedule.dayOfWeek, rfl⟩
  times h := ⟨if_neg h, if_neg h⟩

/-- A schedule that comes back as it was: it has an id and a day, and its texts are stripped. -/
structure ScheduleKept (dict : ScheduleDict) : Prop where
  scheduleId : dict.scheduleId ≠ none ∧ Stripped dict.scheduleId
  dayOfWeek : dict.dayOfWeek ≠ "None"
  ideaSessionId : Stripped dict.ideaSessionId
  ideaSessionOwner : Stripped dict.ideaSessionOwner
  startUpTime : Stripped dict.startUpTime
  shutDownTime : Stripped dict.shutDownTime

/-- The dictionary of the schedule of a day without one. -/
def emptyDict : ScheduleDict := convertScheduleObjectToDbDict (getEmptySchedule none)

theorem parseDay_dayText (day : Option DayOfWeek) : parseDay (dayText day) = match day with
      | some d => .ok (some d)
      | none => .error (.other .valueError "value is not a valid enumeration member") := by
  cases day with
  | none => decide
  | some d => cases d <;> decide

theorem dayText_eq_none {day : Option DayOfWeek} : dayText day = "None" ↔ day = none := by
  cases day with
  | none => simp [dayText]
  | some d => cases d <;> simp [dayText, DayOfWeek.value]

variable {hours} {dict : ScheduleDict}

theorem schedule_of_blank (h : getAsString dict.scheduleId = none) :
    convertDbDictToScheduleObject hours (some dict) = .ok (getEmptySchedule none) := by
  simp [convertDbDictToScheduleObject, h]

theorem schedule_of_noDay (hours : WorkingHours) {id : String}
    (h : getAsString dict.scheduleId = some id) (hday : dict.dayOfWeek = dayText none) :
    ∃ e, convertDbDictToScheduleObject hours (some dict) = .error e := by
  simp [convertDbDictToScheduleObject, h, hday, parseDay_dayText, Bind.bind, Except.bind]

/-- What a dictionary with an id and a day is read as. -/
theorem schedule_of_day {id : String} {d : DayOfWeek}
    (h : getAsString dict.scheduleId = some id) (hday : dict.dayOfWeek = dayText (some d)) :
    convertDbDictToScheduleObject hours (some dict) = .ok
      { scheduleId := some id, ideaSessionId := getAsString dict.ideaSessionId,
        ideaSessionOwner := getAsString dict.ideaSessionOwner, dayOfWeek := some d,
        startUpTime := (timesOf hours dict).1, shutDownTime := (timesOf hours dict).2,
        scheduleType := dict.scheduleType } := by
  simp [convertDbDictToScheduleObject, h, hday, parseDay_dayText, Bind.bind, Except.bind, Pure.pure, Except.pure]

/-- The times that are stored again: those of a custom schedule. -/
theorem times_eq_self_iff (hours : WorkingHours)
    (htimes : dict.scheduleType ≠ .customSchedule → dict.startUpTime = none ∧ dict.shutDownTime = none) :
    ((if dict.scheduleType = .customSchedule then (timesOf hours dict).1 else none) = dict.startUpTime ↔
      Stripped dict.startUpTime) ∧
    ((if dict.scheduleType = .customSchedule then (timesOf hours dict).2 else none) = dict.shutDownTime ↔
      Stripped dict.shutDownTime) := by
  by_cases hcustom : dict.scheduleType = .customSchedule
  · rw [if_pos hcustom, if_pos hcustom, ← getAsString_eq_self, ← getAsString_eq_self]
    simp [timesOf, hcustom]
  · obtain ⟨hstart, hshut⟩ := htimes hcustom
    simp [if_neg hcustom, hstart, hshut, Stripped]

/-- The dictionary of the schedule that was read from a dictionary. -/
theorem convert_eq_self_iff (hours : WorkingHours) (hdict : FromSchedule dict) :
    (∃ schedule, convertDbDictToScheduleObject hours (some dict) = .ok schedule ∧
      convertScheduleObjectToDbDict schedule = dict) ↔ dict = emptyDict ∨ ScheduleKept dict := by
  obtain ⟨⟨day, hday⟩, htimes⟩ := hdict
  cases hid : getAsString dict.scheduleId with
  | none =>
    have hnot : ¬ ScheduleKept dict := fun h =>
      h.scheduleId.1 ((getAsString_eq_self.mpr h.scheduleId.2).symm.trans hid)
    rw [schedule_of_blank hid]
    constructor
    · rintro ⟨schedule, h, hdict⟩
      cases h
      exact .inl hdict.symm
    · rintro (h | h)
      · exact ⟨_, rfl, h.symm⟩
      · exact absurd h hnot
  | some id =>
    have hnot : dict ≠ emptyDict := by
      intro h
      rw [h] at hid
      exact absurd (hid.symm.trans (show getAsString emptyDict.scheduleId = none by decide)) (by simp)
    cases day with
    | none =>
      obtain ⟨e, he⟩ := schedule_of_noDay hours hid hday
      rw [he]
      constructor
      · rintro ⟨schedule, h, -⟩
        cases h
      · rintro (h | h)
        · exact absurd h hnot
        · exact absurd hday h.dayOfWeek
    | some d =>
      have hd : dict.dayOfWeek ≠ "None" := by
        rw [hday, Ne, dayText_eq_none]
        exact Option.some_ne_none d
      have hset : dict.scheduleId ≠ none := by
        intro h
        rw [h] at hid
        cases hid
      obtain ⟨hstart, hshut⟩ := times_eq_self_iff hours htimes
      rw [schedule_of_day hid hday]
      constructor
      · rintro ⟨schedule, h, hsame⟩
        cases h
        refine .inr ⟨⟨hset, getAsString_eq_self.mp (hid.trans ?_)⟩, hd, getAsString_eq_self.mp ?_,
          getAsString_eq_self.mp ?_, hstart.mp ?_, hshut.mp ?_⟩
        · exact congrArg ScheduleDict.scheduleId hsame
        · exact congrArg ScheduleDict.ideaSessionId hsame
        · exact congrArg ScheduleDict.ideaSessionOwner hsame
        · exact congrArg ScheduleDict.startUpTime hsame
        · exact congrArg ScheduleDict.shutDownTime hsame
      · rintro (h | h)
        · exact absurd h hnot
        · refine ⟨_, rfl, ?_⟩
          have hid' := (getAsString_eq_self.mpr h.scheduleId.2).symm.trans hid
          have hsession := getAsString_eq_self.mpr h.ideaSessionId
          have howner := getAsString_eq_self.mpr h.ideaSessionOwner
          have hstart' := hstart.mpr h.startUpTime
          have hshut' := hshut.mpr h.shutDownTime
          obtain ⟨dayOfWeek, scheduleId, sessionId, owner, type, startUp, shutDown⟩ := dict
          simp only [convertScheduleObjectToDbDict, ScheduleDict.mk.injEq]
          exact ⟨hday.symm, hid'.symm, hsession, howner, trivial, hstart', hshut'⟩

/-- A row of a schedule that a schedule makes again. -/
theorem set_eq_self_iff {item : ScheduleDict} (hitem : FromSchedule item) (schedule : Schedule) :
    (schedules hours).set (some item) (convertScheduleObjectToDbDict schedule) = item ↔
      convertScheduleObjectToDbDict schedule = item := by
  simp only [schedules, Option.bind_some]
  split
  · rfl
  · rename_i hcustom
    have hnone := (fromSchedule_convert schedule).times hcustom
    constructor
    · intro h
      have htype : item.scheduleType ≠ .customSchedule := by
        rw [← h]
        exact hcustom
      refine Eq.trans ?_ h
      rw [(hitem.times htype).1, (hitem.times htype).2]
      revert hnone
      generalize convertScheduleObjectToDbDict schedule = dict
      rintro ⟨hstart, hshut⟩
      obtain ⟨day, id, sessionId, owner, type, start, shut⟩ := dict
      obtain rfl : start = none := hstart
      obtain rfl : shut = none := hshut
      rfl
    · intro h
      rw [h]

/-- **Which schedules come back as they were.** Their id is drawn. -/
theorem schedule_unchanged_iff {n : Nat} {item : ScheduleDict}
    (h : (schedules hours).WrittenBy (createdSchedule (uuids.id n)) key item) :
    (schedules hours).Unchanged updatedSchedule id key item ↔ ScheduleKept item := by
  obtain ⟨schedule, attributes, hdump, hkey, rfl⟩ := RecordTable.writtenBy_iff.mp h
  cases hdump
  have hitem : FromSchedule (createdSchedule (uuids.id n) (convertScheduleObjectToDbDict schedule)) :=
    ⟨(fromSchedule_convert schedule).day, (fromSchedule_convert schedule).times⟩
  have hid : (createdSchedule (uuids.id n) (convertScheduleObjectToDbDict schedule)).scheduleId =
    some (uuids.id n) := rfl
  generalize createdSchedule (uuids.id n) (convertScheduleObjectToDbDict schedule) = item at hkey hitem hid ⊢
  have hnot : item ≠ emptyDict := by
    rintro rfl
    have hplain := uuids.plain n
    rw [← hid] at hplain
    exact absurd hplain (by decide)
  have hiff := convert_eq_self_iff hours hitem
  rw [or_iff_right hnot] at hiff
  rw [← hiff, RecordTable.unchanged_iff]
  constructor
  · rintro ⟨a, attributes, hload, hdump, hrest⟩
    cases hdump
    exact ⟨a, hload, (set_eq_self_iff hitem a).mp (hrest 0).2.1⟩
  · rintro ⟨a, hload, hsame⟩
    refine ⟨a, _, hload, rfl, fun now => ⟨?_, (set_eq_self_iff hitem a).mpr hsame, a, ?_⟩⟩
    · rw [hsame]
      exact hkey
    · rw [hsame]
      exact hload

end ContainRes.VirtualDesktop.Records
