import ContainRes.Text.Json
import ContainRes.VirtualDesktop.RecordTables

/-! # Sessions that are read and written back

The rows of the sessions table with all their attributes: the server, the software stack, the project and the
week of schedules stand in them as dictionaries, each read and written by its own converters.

* **`sessions`** — the table; **`session_unchanged_iff`** says which sessions come back as they were.
* **`StoredRecord`** — a row of one of the four tables; **`StoredRecord.Written`** is a row that `create` has put,
  and **`StoredRecord.Unchanged`** one that is written back as it was but for `updated_on`.
* **`StoredRecord.Kept`** — the texts without blanks around them, the whole seconds and the rest of what the
  converters agree on; no row of a server is among them, as its state is not read.
* **`unchanged_iff_kept`** — a row that was created is unchanged exactly when it is kept. -/

namespace ContainRes.VirtualDesktop.Records

open Effects Store Text
open Schedules SessionPermissions
open Sessions SoftwareStacks

variable {hours : WorkingHours}

/-! ## Sessions -/

/-- `VirtualDesktopSession` with all that is stored. -/
structure Session where
  owner : Option String
  ideaSessionId : Option String
  baseOs : Option BaseOS
  createdOn : Option Int
  updatedOn : Option Int
  locked : Option Bool
  server : Option VirtualDesktopServer
  softwareStack : Option SoftwareStack
  name : Option String
  description : Option String
  dcvSessionId : Option String
  sessionType : Option SessionType
  state : Option VirtualDesktopSessionState
  hibernationEnabled : Option Bool
  isLaunchedByAdmin : Option Bool
  schedule : Option (DayOfWeek → Option Schedule)
  project : Option SessionProject
  tags : Option (List Json)

/-- A row of the sessions table. -/
structure SessionItem where
  owner : Option String
  ideaSessionId : Option String
  createdOn : Option Int
  updatedOn : Int
  /-- The empty dictionary is `none`. -/
  server : Option ServerDict
  softwareStack : SoftwareStackDict
  baseOs : Option BaseOS
  name : Option String
  description : Option String
  dcvSessionId : Option String
  sessionType : Option SessionType
  state : Option VirtualDesktopSessionState
  locked : Bool
  hibernationEnabled : Option Bool
  isLaunchedByAdmin : Option Bool
  project : SessionProject
  schedule : DayOfWeek → ScheduleDict
  sessionTags : Option (List Json)

variable (numbers : NumberText)

/-- The project of a session as it is read. -/
def projectOf (project : SessionProject) : SessionProject where
  projectId := getAsString project.projectId
  title := getAsString project.title
  name := getAsString project.name

/-- `Utils.get_value_as_list`: an empty list counts as missing. -/
def listOf {α : Type} : Option (List α) → Option (List α)
  | some [] => none
  | list => list

/-- `convert_db_dict_to_session_object`. -/
def sessionOf (hours : WorkingHours) (item : SessionItem) : Except Exc Session := do
  let baseOs ← required item.baseOs (.other .valueError "None is not a valid VirtualDesktopBaseOS")
  let softwareStack ← SoftwareStacks.convertDbDictToSoftwareStackObject numbers item.softwareStack
  let sessionType ← required item.sessionType (.other .keyError "None")
  let state ← required item.state (.other .keyError "None")
  let week ← loadWeek hours fun d => some (item.schedule d)
  return {
    owner := getAsString item.owner
    ideaSessionId := getAsString item.ideaSessionId
    baseOs := some baseOs
    createdOn := item.createdOn.map toDatetime
    updatedOn := some (toDatetime item.updatedOn)
    locked := some item.locked
    server := item.server.map serverOf
    softwareStack := some softwareStack
    name := getAsString item.name
    description := some (textOf item.description)
    dcvSessionId := some (textOf item.dcvSessionId)
    sessionType := some sessionType
    state := some state
    hibernationEnabled := item.hibernationEnabled
    isLaunchedByAdmin := item.isLaunchedByAdmin
    schedule := some week
    project := some (projectOf item.project)
    tags := listOf item.sessionTags }

/-- The week of a session as dictionaries: no day may be missing. -/
def weekDicts (schedule : Option (DayOfWeek → Option Schedule)) : Except Exc (DayOfWeek → ScheduleDict) :=
  let week := schedule.getD fun _ => none
  if h : ∀ d ∈ DayOfWeek.all, (week d).isSome then
    .ok fun d => convertScheduleObjectToDbDict ((week d).get (h d d.mem_all))
  else .error (.other .attributeError "'NoneType' object has no attribute 'day_of_week'")

/-- `convert_session_object_to_db_dict`. The operating system is that of the software stack. -/
def sessionItemOf (session : Session) : Except Exc SessionItem := do
  let softwareStack ← required session.softwareStack
    (.other .attributeError "'NoneType' object has no attribute 'base_os'")
  let stackDict ← convertSoftwareStackObjectToDbDict numbers.str softwareStack
  let project ← required session.project
    (.other .attributeError "'NoneType' object has no attribute 'project_id'")
  let week ← weekDicts session.schedule
  return {
    owner := session.owner
    ideaSessionId := session.ideaSessionId
    createdOn := some (toMilliseconds session.createdOn)
    updatedOn := toMilliseconds session.updatedOn
    server := session.server.map serverDictOf
    softwareStack := stackDict
    baseOs := softwareStack.baseOs
    name := session.name
    description := session.description
    dcvSessionId := session.dcvSessionId
    sessionType := session.sessionType
    state := session.state
    locked := session.locked.getD false
    hibernationEnabled := session.hibernationEnabled
    isLaunchedByAdmin := session.isLaunchedByAdmin
    project := project
    schedule := week
    sessionTags := session.tags }

/-- `VirtualDesktopSessionDB`. -/
def sessions (hours : WorkingHours) : RecordTable (String × String) SessionItem Session Exc where
  load := sessionOf numbers hours
  dump := sessionItemOf numbers
  keyOf item := do return (← keyText item.owner, ← keyText item.ideaSessionId)
  set old item := { item with createdOn := old.bind SessionItem.createdOn }
  missing := some (.other .keyError "'Attributes'")

/-- What `VirtualDesktopSessionDB.create` sets beside the attributes of the session. -/
def createdSession (now : Int) (item : SessionItem) : SessionItem :=
  { item with createdOn := some now, updatedOn := now }

/-- What `VirtualDesktopSessionDB.update` sets beside them. -/
def updatedSession (now : Int) (item : SessionItem) : SessionItem := { item with updatedOn := now }

/-- A row but for `updated_on`. -/
def SessionItem.lasting (item : SessionItem) : SessionItem := { item with updatedOn := 0 }

/-- A software stack that comes back as it was in the row of its session. -/
structure StackKept (dict : SoftwareStackDict) : Prop where
  baseOs : dict.baseOs.isSome
  architecture : dict.architecture.isSome
  gpu : dict.gpu.isSome
  stackId : Stripped dict.stackId
  name : Stripped dict.name
  description : Stripped dict.description
  amiId : Stripped dict.amiId
  createdOn : 1000 ∣ dict.createdOn
  updatedOn : 1000 ∣ dict.updatedOn

/-- A server that comes back as it was in the row of its session. -/
structure ServerKept (dict : ServerDict) : Prop where
  state : dict.state = none
  instanceId : Stripped dict.instanceId
  instanceType : Stripped dict.instanceType
  ideaSessionId : Stripped dict.ideaSessionId
  ideaSessionOwner : Stripped dict.ideaSessionOwner

/-- A session that comes back as it was. -/
structure SessionKept (item : SessionItem) : Prop where
  owner : Stripped item.owner
  ideaSessionId : Stripped item.ideaSessionId
  server : ∀ dict, item.server = some dict → ServerKept dict
  softwareStack : StackKept item.softwareStack
  name : Stripped item.name
  description : StrippedOrEmpty item.description
  dcvSessionId : StrippedOrEmpty item.dcvSessionId
  sessionType : item.sessionType.isSome
  state : item.state.isSome
  projectId : Stripped item.project.projectId
  projectTitle : Stripped item.project.title
  projectName : Stripped item.project.name
  schedule : ∀ d, item.schedule d = emptyDict ∨ ScheduleKept (item.schedule d)
  sessionTags : item.sessionTags ≠ some []

/-! ### The software stack -/

variable {numbers}

/-- A dictionary whose amounts are texts of numbers. -/
structure FromStack (numbers : NumberText) (dict : SoftwareStackDict) : Prop where
  minStorage : ∃ q, dict.minStorageValue = numbers.str q
  minRam : ∃ q, dict.minRamValue = numbers.str q

variable {dict : SoftwareStackDict}

theorem fromStack_convert {softwareStack : SoftwareStack}
    (h : convertSoftwareStackObjectToDbDict numbers.str softwareStack = .ok dict) : FromStack numbers dict := by
  obtain ⟨minStorage, -, h⟩ := bind_eq_ok.mp h
  obtain ⟨minRam, -, h⟩ := bind_eq_ok.mp h
  cases h
  exact ⟨⟨_, rfl⟩, ⟨_, rfl⟩⟩

/-- The dictionary of a software stack that was read from a dictionary. -/
def stackBack (dict : SoftwareStackDict) : SoftwareStackDict :=
  { dict with
    stackId := getAsString dict.stackId
    name := getAsString dict.name
    description := getAsString dict.description
    amiId := getAsString dict.amiId
    createdOn := toDatetime dict.createdOn
    updatedOn := toDatetime dict.updatedOn }

theorem memoryOf_str (q : ℚ) (unit : SocaMemoryUnit) : memoryOf numbers (numbers.str q) unit = .ok ⟨q, unit⟩ := by
  simp [memoryOf, numbers.float_str]

/-- A dictionary is read as a stack when its enumerations are there, and the stack is written so. -/
theorem stack_of_row (hdict : FromStack numbers dict) {softwareStack : SoftwareStack}
    (h : SoftwareStacks.convertDbDictToSoftwareStackObject numbers dict = .ok softwareStack) :
    dict.baseOs.isSome ∧ dict.architecture.isSome ∧ dict.gpu.isSome ∧ softwareStack.baseOs = dict.baseOs ∧
      convertSoftwareStackObjectToDbDict numbers.str softwareStack = .ok (stackBack dict) := by
  obtain ⟨⟨storage, hstorage⟩, ⟨ram, hram⟩⟩ := hdict
  obtain ⟨baseOs, minStorage, minRam, architecture, gpu, hos, hminStorage, hminRam, harchitecture, hgpu, rfl⟩ :=
    (stackOfRow_eq_ok numbers).mp h
  rw [hstorage, memoryOf_str] at hminStorage
  rw [hram, memoryOf_str] at hminRam
  cases hminStorage
  cases hminRam
  refine ⟨by simp [hos], by simp [harchitecture], by simp [hgpu], hos.symm, ?_⟩
  simp [convertSoftwareStackObjectToDbDict, attributeOf, stackBack, hos, harchitecture, hgpu, hstorage, hram,
    Bind.bind, Except.bind, Pure.pure, Except.pure]

theorem exists_stack_of_row (hdict : FromStack numbers dict) (hos : dict.baseOs.isSome)
    (harchitecture : dict.architecture.isSome) (hgpu : dict.gpu.isSome) :
    ∃ softwareStack, SoftwareStacks.convertDbDictToSoftwareStackObject numbers dict = .ok softwareStack := by
  obtain ⟨⟨storage, hstorage⟩, ⟨ram, hram⟩⟩ := hdict
  obtain ⟨baseOs, hos⟩ := Option.isSome_iff_exists.mp hos
  obtain ⟨architecture, harchitecture⟩ := Option.isSome_iff_exists.mp harchitecture
  obtain ⟨gpu, hgpu⟩ := Option.isSome_iff_exists.mp hgpu
  refine ⟨_, (stackOfRow_eq_ok numbers).mpr ⟨baseOs, ⟨storage, dict.minStorageUnit⟩, ⟨ram, dict.minRamUnit⟩,
    architecture, gpu, hos, ?_, ?_, harchitecture, hgpu, rfl⟩⟩
  · rw [hstorage, memoryOf_str]
  · rw [hram, memoryOf_str]

/-- What is written back is what was there. -/
theorem stackBack_eq_self : stackBack dict = dict ↔
      Stripped dict.stackId ∧ Stripped dict.name ∧ Stripped dict.description ∧ Stripped dict.amiId ∧
        1000 ∣ dict.createdOn ∧ 1000 ∣ dict.updatedOn := by
  obtain ⟨os, id, name, description, createdOn, updatedOn, ami, enabled, _, _, _, _, architecture, gpu, projects⟩ :=
    dict
  simp only [stackBack, SoftwareStackDict.mk.injEq, getAsString_eq_self, toDatetime_eq_self, true_and, and_true]
  tauto

/-! ### The week -/

/-- A week is read when every day is. -/
theorem loadWeek_eq_ok {week : DayOfWeek → Option ScheduleDict} {loaded : DayOfWeek → Option Schedule} :
    loadWeek hours week = .ok loaded ↔
      ∃ s : DayOfWeek → Schedule, (∀ d, convertDbDictToScheduleObject hours (week d) = .ok (s d)) ∧
        loaded = fun d => some (s d) := by
  unfold loadWeek
  dsimp only
  constructor
  · intro h
    split at h
    · cases h
    · rename_i hnone
      cases h
      have hday : ∀ d, ∃ s, convertDbDictToScheduleObject hours (week d) = .ok s := by
        intro d
        have hd := List.findSome?_eq_none_iff.mp hnone d d.mem_all
        cases hload : convertDbDictToScheduleObject hours (week d) with
        | error e => simp [hload] at hd
        | ok s => exact ⟨s, rfl⟩
      choose s hs using hday
      refine ⟨s, hs, ?_⟩
      funext d
      rw [hs d]
      rfl
  · rintro ⟨s, hs, rfl⟩
    simp only [hs]
    rfl

theorem weekDicts_some (s : DayOfWeek → Schedule) :
    weekDicts (some fun d => some (s d)) = .ok fun d => convertScheduleObjectToDbDict (s d) := by
  simp [weekDicts]

theorem fromSchedule_weekDicts {schedule : Option (DayOfWeek → Option Schedule)} {week : DayOfWeek → ScheduleDict}
    (h : weekDicts schedule = .ok week) (d : DayOfWeek) : FromSchedule (week d) := by
  unfold weekDicts at h
  dsimp only at h
  split at h
  · cases h
    exact fromSchedule_convert _
  · cases h

/-! ### The row -/

theorem listOf_eq_self {α : Type} {list : Option (List α)} : listOf list = list ↔ list ≠ some [] := by
  unfold listOf
  split
  · simp
  · rename_i h
    exact ⟨fun _ => h, fun _ => rfl⟩

/-- A row that was made from a session. -/
structure FromSession (numbers : NumberText) (item : SessionItem) : Prop where
  softwareStack : FromStack numbers item.softwareStack
  baseOs : item.baseOs = item.softwareStack.baseOs
  schedule : ∀ d, FromSchedule (item.schedule d)

variable {item : SessionItem}

theorem fromSession_of_sessionItemOf {session : Session}
    (h : sessionItemOf numbers session = .ok item) : FromSession numbers item := by
  obtain ⟨softwareStack, -, h⟩ := bind_eq_ok.mp h
  obtain ⟨stackDict, hstack, h⟩ := bind_eq_ok.mp h
  obtain ⟨project, -, h⟩ := bind_eq_ok.mp h
  obtain ⟨week, hweek, h⟩ := bind_eq_ok.mp h
  cases h
  exact ⟨fromStack_convert hstack, (key_of_convert hstack).1.symm, fromSchedule_weekDicts hweek⟩

/-- The attributes of a session that was read from a row, with the week that was read. -/
def SessionItem.readBack (item : SessionItem) (week : DayOfWeek → Schedule) : SessionItem where
  owner := getAsString item.owner
  ideaSessionId := getAsString item.ideaSessionId
  createdOn := some (toMilliseconds (item.createdOn.map toDatetime))
  updatedOn := toDatetime item.updatedOn
  server := item.server.map fun dict => serverDictOf (serverOf dict)
  softwareStack := stackBack item.softwareStack
  baseOs := item.baseOs
  name := getAsString item.name
  description := some (textOf item.description)
  dcvSessionId := some (textOf item.dcvSessionId)
  sessionType := item.sessionType
  state := item.state
  locked := item.locked
  hibernationEnabled := item.hibernationEnabled
  isLaunchedByAdmin := item.isLaunchedByAdmin
  project := projectOf item.project
  schedule := fun d => convertScheduleObjectToDbDict (week d)
  sessionTags := listOf item.sessionTags

/-- A row that can be read: its enumerations are there, and so are those of its software stack. -/
structure SessionItem.Readable (item : SessionItem) : Prop where
  baseOs : item.softwareStack.baseOs.isSome
  architecture : item.softwareStack.architecture.isSome
  gpu : item.softwareStack.gpu.isSome
  sessionType : item.sessionType.isSome
  state : item.state.isSome

/-- What is read from a row, and how it is written. -/
theorem sessionItemOf_of_sessionOf (hitem : FromSession numbers item) {session : Session}
    (h : sessionOf numbers hours item = .ok session) : item.Readable ∧ ∃ week : DayOfWeek → Schedule,
      (∀ d, convertDbDictToScheduleObject hours (some (item.schedule d)) = .ok (week d)) ∧
        sessionItemOf numbers session = .ok (item.readBack week) := by
  obtain ⟨baseOs, hos, h⟩ := bind_eq_ok.mp h
  obtain ⟨softwareStack, hstack, h⟩ := bind_eq_ok.mp h
  obtain ⟨sessionType, htype, h⟩ := bind_eq_ok.mp h
  obtain ⟨state, hstate, h⟩ := bind_eq_ok.mp h
  obtain ⟨loaded, hweek, h⟩ := bind_eq_ok.mp h
  cases h
  rw [required_eq_ok] at hos htype hstate
  obtain ⟨hstackOs, harchitecture, hgpu, hsame, hdict⟩ := stack_of_row hitem.softwareStack hstack
  obtain ⟨week, hdays, rfl⟩ := loadWeek_eq_ok.mp hweek
  refine ⟨⟨hstackOs, harchitecture, hgpu, by simp [htype], by simp [hstate]⟩, week, hdays, ?_⟩
  refine bind_eq_ok.mpr ⟨softwareStack, rfl, bind_eq_ok.mpr ⟨_, hdict, bind_eq_ok.mpr ⟨_, rfl,
    bind_eq_ok.mpr ⟨_, weekDicts_some week, ?_⟩⟩⟩⟩
  simp [SessionItem.readBack, htype, hstate, hsame, hitem.baseOs, Pure.pure, Except.pure, Function.comp_def]

/-- A row that can be read, with every day of its week, is read. -/
theorem exists_sessionOf (hitem : FromSession numbers item) (hreadable : item.Readable)
    {week : DayOfWeek → Schedule}
    (hweek : ∀ d, convertDbDictToScheduleObject hours (some (item.schedule d)) = .ok (week d)) :
    ∃ session, sessionOf numbers hours item = .ok session := by
  obtain ⟨baseOs, hos⟩ := Option.isSome_iff_exists.mp (hitem.baseOs ▸ hreadable.baseOs)
  obtain ⟨softwareStack, hstack⟩ := exists_stack_of_row hitem.softwareStack hreadable.baseOs
    hreadable.architecture hreadable.gpu
  obtain ⟨sessionType, htype⟩ := Option.isSome_iff_exists.mp hreadable.sessionType
  obtain ⟨state, hstate⟩ := Option.isSome_iff_exists.mp hreadable.state
  exact ⟨_, bind_eq_ok.mpr ⟨baseOs, required_eq_ok.mpr hos, bind_eq_ok.mpr ⟨softwareStack, hstack,
    bind_eq_ok.mpr ⟨sessionType, required_eq_ok.mpr htype, bind_eq_ok.mpr ⟨state, required_eq_ok.mpr hstate,
      bind_eq_ok.mpr ⟨_, loadWeek_eq_ok.mpr ⟨week, hweek, rfl⟩, rfl⟩⟩⟩⟩⟩⟩

/-- The parts of the key of a session. -/
theorem keyOf_sessions {key : String × String} : (sessions numbers hours).keyOf item = .ok key ↔
      item.owner = some key.1 ∧ key.1 ≠ "" ∧ item.ideaSessionId = some key.2 ∧ key.2 ≠ "" := by
  simp only [sessions, bind_eq_ok, keyText_eq_ok]
  constructor
  · rintro ⟨owner, ⟨howner, howner'⟩, id, ⟨hid, hid'⟩, h⟩
    cases h
    exact ⟨howner, howner', hid, hid'⟩
  · rintro ⟨howner, howner', hid, hid'⟩
    exact ⟨key.1, ⟨howner, howner'⟩, key.2, ⟨hid, hid'⟩, rfl⟩

/-- The servers that are written back as they were. -/
theorem map_server_eq_self {server : Option ServerDict} :
    (server.map fun dict => serverDictOf (serverOf dict)) = server ↔ ∀ dict, server = some dict → ServerKept dict := by
  cases server with
  | none => simp
  | some dict =>
    rw [Option.map_some, Option.some.injEq, serverDictOf_serverOf]
    constructor
    · rintro ⟨hstate, hinstance, htype, hid, howner⟩ dict' h
      cases h
      exact ⟨hstate, hinstance, htype, hid, howner⟩
    · intro h
      obtain ⟨hstate, hinstance, htype, hid, howner⟩ := h dict rfl
      exact ⟨hstate, hinstance, htype, hid, howner⟩

theorem projectOf_eq_self {project : SessionProject} : projectOf project = project ↔
      Stripped project.projectId ∧ Stripped project.title ∧ Stripped project.name := by
  obtain ⟨projectId, title, name⟩ := project
  simp only [projectOf, SessionProject.mk.injEq, getAsString_eq_self]

/-- What is written back is what was there, attribute by attribute. -/
theorem lasting_readBack_session (numbers : NumberText) (hours : WorkingHours) (now : Int)
    {week : DayOfWeek → Schedule} :
    ((sessions numbers hours).set (some item) (updatedSession now (item.readBack week))).lasting = item.lasting ↔
      Stripped item.owner ∧ Stripped item.ideaSessionId ∧
        (∀ dict, item.server = some dict → ServerKept dict) ∧ stackBack item.softwareStack = item.softwareStack ∧
        Stripped item.name ∧ StrippedOrEmpty item.description ∧ StrippedOrEmpty item.dcvSessionId ∧
        (Stripped item.project.projectId ∧ Stripped item.project.title ∧ Stripped item.project.name) ∧
        (∀ d, convertScheduleObjectToDbDict (week d) = item.schedule d) ∧ item.sessionTags ≠ some [] := by
  obtain ⟨owner, id, createdOn, updatedOn, server, stack, os, name, description, dcv, sessionType, state, locked,
    hibernation, admin, project, schedule, tags⟩ := item
  simp only [sessions, updatedSession, SessionItem.readBack, SessionItem.lasting, SessionItem.mk.injEq,
    Option.bind_some, getAsString_eq_self, textOf_eq_self, map_server_eq_self, projectOf_eq_self, listOf_eq_self,
    funext_iff, true_and]

/-- **Which sessions come back as they were.** -/
theorem session_unchanged_iff {created : Int} {key : String × String}
    (h : (sessions numbers hours).WrittenBy (createdSession created) key item) :
    (sessions numbers hours).Unchanged updatedSession SessionItem.lasting key item ↔ SessionKept item := by
  obtain ⟨session, attributes, hdump, hkey, rfl⟩ := RecordTable.writtenBy_iff.mp h
  have hitem : FromSession numbers (createdSession created attributes) := by
    obtain ⟨hstack, hos, hweek⟩ := fromSession_of_sessionItemOf hdump
    exact ⟨hstack, hos, hweek⟩
  generalize createdSession created attributes = item at hkey hitem ⊢
  rw [RecordTable.unchanged_iff]
  constructor
  · rintro ⟨a, attributes', hload, hdump', hrest⟩
    obtain ⟨hreadable, week, hweek, hback⟩ := sessionItemOf_of_sessionOf hitem hload
    obtain rfl : item.readBack week = attributes' := Except.ok.inj (hback.symm.trans hdump')
    obtain ⟨howner, hid, hserver, hstack, hname, hdescription, hdcv, hproject, hdays, htags⟩ :=
      (lasting_readBack_session numbers hours 0).mp (hrest 0).2.1
    obtain ⟨hstackId, hstackName, hstackDescription, hami, hcreated, hupdated⟩ := stackBack_eq_self.mp hstack
    exact ⟨howner, hid, hserver, ⟨hreadable.baseOs, hreadable.architecture, hreadable.gpu, hstackId, hstackName,
      hstackDescription, hami, hcreated, hupdated⟩, hname, hdescription, hdcv, hreadable.sessionType,
      hreadable.state, hproject.1, hproject.2.1, hproject.2.2,
      fun d => (convert_eq_self_iff hours (hitem.schedule d)).mp ⟨week d, hweek d, hdays d⟩, htags⟩
  · intro hkept
    have hdays := fun d => (convert_eq_self_iff hours (hitem.schedule d)).mpr (hkept.schedule d)
    choose week hweek hsame using hdays
    have hstack := hkept.softwareStack
    have hreadable : item.Readable := ⟨hstack.baseOs, hstack.architecture, hstack.gpu, hkept.sessionType, hkept.state⟩
    obtain ⟨a, hload⟩ := exists_sessionOf hitem hreadable hweek
    obtain ⟨-, week', hweek', hback⟩ := sessionItemOf_of_sessionOf hitem hload
    obtain rfl : week' = week := funext fun d => Except.ok.inj ((hweek' d).symm.trans (hweek d))
    have hlasting := fun now => (lasting_readBack_session numbers hours now).mpr
      ⟨hkept.owner, hkept.ideaSessionId, hkept.server,
        stackBack_eq_self.mpr ⟨hstack.stackId, hstack.name, hstack.description, hstack.amiId, hstack.createdOn,
          hstack.updatedOn⟩, hkept.name, hkept.description, hkept.dcvSessionId,
        ⟨hkept.projectId, hkept.projectTitle, hkept.projectName⟩, hsame, hkept.sessionTags⟩
    refine ⟨a, _, hload, hback, fun now => ⟨?_, hlasting now, ?_⟩⟩
    · obtain ⟨howner, howner', hid, hid'⟩ := keyOf_sessions.mp hkey
      have howner₂ := congrArg (fun item : SessionItem => item.owner) (hlasting now)
      have hid₂ := congrArg (fun item : SessionItem => item.ideaSessionId) (hlasting now)
      exact keyOf_sessions.mpr ⟨howner₂.trans howner, howner', hid₂.trans hid, hid'⟩
    · -- what was put is a row that can be read again
      have hback' := fromSession_of_sessionItemOf hback
      have hagain : FromSession numbers (updatedSession now (item.readBack week')) :=
        ⟨hback'.softwareStack, hback'.baseOs, hback'.schedule⟩
      have hdays : ∀ d, convertDbDictToScheduleObject hours
          (some ((updatedSession now (item.readBack week')).schedule d)) = .ok (week' d) := fun d =>
        (congrArg (fun dict => convertDbDictToScheduleObject hours (some dict)) (hsame d)).trans (hweek d)
      exact exists_sessionOf hagain ⟨hreadable.baseOs, hreadable.architecture, hreadable.gpu,
        hreadable.sessionType, hreadable.state⟩ hdays

/-! ## All four -/

/-- A row of one of the four tables with its key. -/
inductive StoredRecord
  | session (key : String × String) (item : SessionItem)
  | server (key : String) (item : ServerItem)
  | permission (key : String × String) (item : PermissionItem)
  | schedule (key : String × String) (item : ScheduleDict)

namespace StoredRecord

/-- A row that `create` of its table has put. -/
def Written (numbers : NumberText) (hours : WorkingHours) (uuids : Uuids) : StoredRecord → Prop
  | session key item => ∃ now, (sessions numbers hours).WrittenBy (createdSession now) key item
  | server key item => ∃ ideaSessionId owner now, servers.WrittenBy (createdServer ideaSessionId owner now) key item
  | permission key item => ∃ now, permissions.WrittenBy (createdPermission now) key item
  | schedule key item => ∃ n, (schedules hours).WrittenBy (createdSchedule (uuids.id n)) key item

/-- A row that is written back as it was but for `updated_on`. -/
def Unchanged (numbers : NumberText) (hours : WorkingHours) : StoredRecord → Prop
  | session key item => (sessions numbers hours).Unchanged updatedSession SessionItem.lasting key item
  | server key item => servers.Unchanged updatedServer ServerItem.lasting key item
  | permission key item => permissions.Unchanged updatedPermission PermissionItem.lasting key item
  | schedule key item => (schedules hours).Unchanged updatedSchedule id key item

/-- A row on which the converters agree. -/
def Kept : StoredRecord → Prop
  | session _ item => SessionKept item
  | server _ _ => False
  | permission _ item => item.Kept
  | schedule _ item => ScheduleKept item

end StoredRecord

/-- **Which rows come back as they were.** -/
theorem unchanged_iff_kept (numbers : NumberText) (hours : WorkingHours) (uuids : Uuids) (record : StoredRecord)
    (h : record.Written numbers hours uuids) : record.Unchanged numbers hours ↔ record.Kept := by
  cases record with
  | session key item =>
    obtain ⟨now, h⟩ := h
    exact session_unchanged_iff h
  | server key item =>
    obtain ⟨ideaSessionId, owner, now, h⟩ := h
    exact iff_of_false (not_unchanged_server h) id
  | permission key item =>
    obtain ⟨now, h⟩ := h
    exact permission_unchanged_iff h
  | schedule key item =>
    obtain ⟨n, h⟩ := h
    exact schedule_unchanged_iff uuids h

/-! ## A permission and a server -/

/-- Texts of numbers in tally marks. -/
def unaryNumbers : NumberText where
  str q := String.ofList (List.replicate (Encodable.encode q) 'n')
  float text := Encodable.decode text.toList.length
  float_str q := by simp

/-- Nine to five. -/
def nineToFive : WorkingHours := ⟨"09:00", "17:00"⟩

/-- A permission of `bob` for a session of `alice` that does not expire. -/
def bobsPermission : Permission where
  ideaSessionId := some "s-1"
  ideaSessionOwner := some "alice"
  ideaSessionName := some "desktop"
  ideaSessionInstanceType := some "t3.large"
  ideaSessionState := some .ready
  ideaSessionBaseOs := some .amazonLinux2
  ideaSessionType := some .console
  permissionProfile := some (some "observer")
  actorType := some .user
  actorName := some "bob"
  expiryDate := none
  ideaSessionCreatedOn := some 1000
  ideaSessionHibernationEnabled := none
  createdOn := none
  updatedOn := none

/-- Its row, created a second and a half after the start of time. -/
def bobsItem : PermissionItem where
  ideaSessionOwner := some "alice"
  ideaSessionName := some "desktop"
  ideaSessionInstanceType := some "t3.large"
  ideaSessionState := some .ready
  ideaSessionBaseOs := some .amazonLinux2
  ideaSessionType := some .console
  permissionProfileId := some "observer"
  actorType := some .user
  expiryDate := 0
  ideaSessionId := some "s-1"
  actorName := some "bob"
  ideaSessionCreatedOn := 1000
  ideaSessionHibernationEnabled := false
  createdOn := some 1500
  updatedOn := 1500

theorem written_bobsItem : permissions.WrittenBy (createdPermission 1500) ("s-1", "bob") bobsItem :=
  RecordTable.writtenBy_iff.mpr ⟨bobsPermission, _, rfl, keyOf_permissions.mpr ⟨rfl, by decide, rfl, by decide⟩, rfl⟩

theorem kept_bobsItem : bobsItem.Kept where
  readable := by decide
  ideaSessionId := ⟨_, rfl, by decide⟩
  actorName := ⟨_, rfl, by decide⟩
  ideaSessionOwner := ⟨_, rfl, by decide⟩
  ideaSessionName := ⟨_, rfl, by decide⟩
  ideaSessionInstanceType := ⟨_, rfl, by decide⟩
  permissionProfileId := ⟨_, rfl, by decide⟩
  ideaSessionCreatedOn := by decide
  expiryDate := by decide

theorem unchanged_iff_kept_bob : (StoredRecord.permission ("s-1", "bob") bobsItem).Unchanged unaryNumbers nineToFive :=
  (unchanged_iff_kept unaryNumbers nineToFive Uuids.unary (.permission ("s-1", "bob") bobsItem)
    ⟨1500, written_bobsItem⟩).mpr kept_bobsItem

/-- The row of a server of `alice`. -/
def alicesServer : ServerItem :=
  createdServer (some "s-1") (some "alice") 1500
    { toServerDict := serverDictOf { instanceId := some "i-1", instanceType := some "t3.large" }
      createdOn := none
      updatedOn := none }

/-- Not every row that was created is written back as it was: the state of a server is lost. -/
theorem state_of_server_lost : ¬ ∀ record : StoredRecord, record.Written unaryNumbers nineToFive Uuids.unary →
      record.Unchanged unaryNumbers nineToFive := by
  intro h
  have hwritten : servers.WrittenBy (createdServer (some "s-1") (some "alice") 1500) "i-1" alicesServer :=
    RecordTable.writtenBy_iff.mpr ⟨{ instanceId := some "i-1", instanceType := some "t3.large" }, _, rfl,
      keyOf_servers.mpr ⟨rfl, by decide⟩, rfl⟩
  exact not_unchanged_server hwritten (h (.server "i-1" alicesServer) ⟨_, _, _, hwritten⟩)

end ContainRes.VirtualDesktop.Records
