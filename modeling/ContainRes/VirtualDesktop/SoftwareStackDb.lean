import ContainRes.VirtualDesktop.Listing
import ContainRes.VirtualDesktop.SessionPermissionDb
import Mathlib.Data.Rat.Denumerable
import Mathlib.Tactic.DeriveEncodable

/-! # Software stacks, and the sessions that carry one

`VirtualDesktopSoftwareStackDB`, and the rows of the sessions table with the copy of the stack that
`convert_session_object_to_db_dict` puts into each: the copy is made when the row is written, and is not
written again when the stack changes.

* **`SocaMemory`** — an amount in a unit, compared in bytes.
* **`SoftwareStack`**, **`SoftwareStackDict`** — a stack as an object and as the attributes of its row.
* **`StoredSession`** — a row of the sessions table; **`StoredSession.item`** its attributes by the key of
  a filter.
* **`scanSessions`**, **`listAllForSoftwareStack`** — the listings that look for a stack. -/

namespace ContainRes.VirtualDesktop.SoftwareStacks

open Store
open SessionPermissions

deriving instance Encodable for BaseOS

/-! ## Memory -/

inductive SocaMemoryUnit
  | bytes
  | kib
  | mib
  | gib
  | tib
  | kb
  | mb
  | gb
  | tb
  deriving DecidableEq, Repr, Encodable

/-- The bytes in a unit. -/
def SocaMemoryUnit.factor : SocaMemoryUnit → Nat
  | .bytes => 1
  | .kib => 1024
  | .mib => 1024 ^ 2
  | .gib => 1024 ^ 3
  | .tib => 1024 ^ 4
  | .kb => 1000
  | .mb => 1000 ^ 2
  | .gb => 1000 ^ 3
  | .tb => 1000 ^ 4

structure SocaMemory where
  value : ℚ
  unit : SocaMemoryUnit
  deriving DecidableEq, Repr

/-- `SocaMemory.bytes`, where `int` drops what is less than a byte. -/
def SocaMemory.bytes (m : SocaMemory) : Int :=
  let product := m.value * m.unit.factor
  product.num.tdiv product.den

/-! ## Stacks -/

/-- `VirtualDesktopGPU`. -/
inductive GPU
  | noGpu
  | nvidia
  | amd
  deriving DecidableEq, Repr, Encodable

/-- `VirtualDesktopArchitecture`. -/
inductive Architecture
  | x86_64
  | arm64
  deriving DecidableEq, Repr, Encodable

/-- `VirtualDesktopSoftwareStack`. A project is its id, and a date is in milliseconds. -/
structure SoftwareStack where
  stackId : Option String := none
  baseOs : Option BaseOS := none
  name : Option String := none
  description : Option String := none
  createdOn : Option Int := none
  updatedOn : Option Int := none
  amiId : Option String := none
  enabled : Option Bool := none
  minStorage : Option SocaMemory := none
  minRam : Option SocaMemory := none
  architecture : Option Architecture := none
  gpu : Option GPU := none
  projects : Option (List (Option String)) := some []
  deriving DecidableEq, Repr

/-- The attributes of a stack in the database. -/
structure SoftwareStackDict where
  baseOs : Option BaseOS
  stackId : Option String
  name : Option String
  description : Option String
  createdOn : Int
  updatedOn : Int
  amiId : Option String
  enabled : Option Bool
  minStorageValue : String
  minStorageUnit : SocaMemoryUnit
  minRamValue : String
  minRamUnit : SocaMemoryUnit
  architecture : Option Architecture
  gpu : Option GPU
  projects : List (Option String)
  deriving DecidableEq, Repr, Encodable

/-- An attribute of a value that may be missing. -/
def attributeOf {α β : Type} (name : String) (f : α → β) : Option α → Except Exc β
  | none => .error (.other .attributeError ("'NoneType' object has no attribute '" ++ name ++ "'"))
  | some a => .ok (f a)

/-- `convert_software_stack_object_to_db_dict`; `str` is the text of a number. -/
def convertSoftwareStackObjectToDbDict (str : ℚ → String) (softwareStack : SoftwareStack) :
    Except Exc SoftwareStackDict := do
  let minStorage ← attributeOf "value" id softwareStack.minStorage
  let minRam ← attributeOf "value" id softwareStack.minRam
  return {
    baseOs := softwareStack.baseOs
    stackId := softwareStack.stackId
    name := softwareStack.name
    description := softwareStack.description
    createdOn := toMilliseconds softwareStack.createdOn
    updatedOn := toMilliseconds softwareStack.updatedOn
    amiId := softwareStack.amiId
    enabled := softwareStack.enabled
    minStorageValue := str minStorage.value
    minStorageUnit := minStorage.unit
    minRamValue := str minRam.value
    minRamUnit := minRam.unit
    architecture := softwareStack.architecture
    gpu := softwareStack.gpu
    projects := softwareStack.projects.getD [] }

/-- A stack has a row form exactly when both of its amounts of memory are there. -/
theorem exists_convert_iff (str : ℚ → String) (softwareStack : SoftwareStack) :
    (∃ dict, convertSoftwareStackObjectToDbDict str softwareStack = .ok dict) ↔
      softwareStack.minStorage.isSome ∧ softwareStack.minRam.isSome := by
  cases hstorage : softwareStack.minStorage <;> cases hram : softwareStack.minRam <;>
    simp [convertSoftwareStackObjectToDbDict, attributeOf, hstorage, hram, Bind.bind, Except.bind,
      Pure.pure, Except.pure]

/-- The row form keeps the key. -/
theorem key_of_convert {str : ℚ → String} {softwareStack : SoftwareStack} {dict : SoftwareStackDict}
    (h : convertSoftwareStackObjectToDbDict str softwareStack = .ok dict) :
    dict.baseOs = softwareStack.baseOs ∧ dict.stackId = softwareStack.stackId := by
  obtain ⟨hstorage, hram⟩ := (exists_convert_iff str softwareStack).mp ⟨dict, h⟩
  obtain ⟨minStorage, hstorage⟩ := Option.isSome_iff_exists.mp hstorage
  obtain ⟨minRam, hram⟩ := Option.isSome_iff_exists.mp hram
  rw [convertSoftwareStackObjectToDbDict, hstorage, hram] at h
  rw [← Except.ok.inj h]
  exact ⟨rfl, rfl⟩

/-- The attributes of a row by the key of a filter. The values that no listing looks at are left to
`others`. -/
def SoftwareStackDict.item (others : SoftwareStackDict → String → Option AttributeValue)
    (row : SoftwareStackDict) (key : Option String) : Option AttributeValue :=
  key.bind fun key =>
    if key = "stack_id" then row.stackId.map .S
    else if key = "name" then row.name.map .S
    else if key = "projects" then some (.L (row.projects.filterMap id))
    else others row key

/-! ## Session rows -/

/-- The project in a session row. -/
structure SessionProject where
  projectId : Option String
  title : Option String
  name : Option String
  deriving DecidableEq, Repr, Encodable

/-- The attributes that `convert_session_object_to_db_dict` writes beside those of `StoredSession`. -/
def otherAttributes : List String :=
  ["created_on", "updated_on", "server", "base_os", "name", "description", "session_type", "state",
    "locked", "hibernation_enabled", "is_launched_by_admin", "monday_schedule", "tuesday_schedule",
    "wednesday_schedule", "thursday_schedule", "friday_schedule", "saturday_schedule",
    "sunday_schedule", "session_tags"]

/-- A row of the sessions table, as `convert_session_object_to_db_dict` writes it. -/
structure StoredSession where
  owner : String
  ideaSessionId : String
  dcvSessionId : Option String
  softwareStack : SoftwareStackDict
  project : SessionProject
  /-- The values of the other attributes by name. -/
  others : String → Option AttributeValue

/-- The texts of the maps in a session row. -/
structure RowTexts where
  softwareStack : JsonText SoftwareStackDict
  project : JsonText SessionProject

/-- Texts by the numbers of the maps. -/
def RowTexts.ofEncodable : RowTexts :=
  ⟨JsonText.ofEncodable SoftwareStackDict, JsonText.ofEncodable SessionProject⟩

variable (texts : RowTexts)

/-- The attributes of a row by name. -/
def StoredSession.attribute (row : StoredSession) (key : String) : Option AttributeValue :=
  if key = "owner" then some (.S row.owner)
  else if key = "idea_session_id" then some (.S row.ideaSessionId)
  else if key = "dcv_session_id" then row.dcvSessionId.map .S
  else if key = "software_stack" then some (.M (texts.softwareStack.text row.softwareStack))
  else if key = "project" then some (.M (texts.project.text row.project))
  else if key ∈ otherAttributes then row.others key
  else none

/-- The attributes of a row by the key of a filter. -/
def StoredSession.item (row : StoredSession) (key : Option String) : Option AttributeValue :=
  key.bind (row.attribute texts)

@[simp] theorem StoredSession.item_softwareStack (row : StoredSession) :
    row.item texts (some "software_stack") = some (.M (texts.softwareStack.text row.softwareStack)) := rfl

/-- The id of the stack is inside the map: no row has it as an attribute. -/
@[simp] theorem StoredSession.item_stackId (row : StoredSession) : row.item texts (some "stack_id") = none := rfl

/-- The rows that one scan reads for a request. -/
def scanSessions (decode : String → Except Exc (Option String)) (sessions : Paged StoredSession)
    (request : ListingRequest) : Except Exc (List StoredSession) :=
  scanDbRecords decode sessions (StoredSession.item texts) request

/-- The filter that `list_all_for_software_stack` appends: the whole row form of the stack. -/
def softwareStackFilter (dict : SoftwareStackDict) : SocaFilter :=
  { key := some "software_stack", eq := some (.M (texts.softwareStack.text dict)) }

def listAllForSoftwareStack (decode : String → Except Exc (Option String)) (str : ℚ → String)
    (sessions : Paged StoredSession) (request : ListingRequest) (softwareStack : SoftwareStack) :
    Except Exc (List StoredSession) := do
  let dict ← convertSoftwareStackObjectToDbDict str softwareStack
  scanSessions texts decode sessions
    { request with filters := some (request.filterList ++ [softwareStackFilter texts dict]) }

/-- A listing with a single filter, which has a key and is not the one for all, reads the first page. -/
theorem scanDbRecords_single {ρ : Type} (decode : String → Except Exc (Option String)) (table : Paged ρ)
    (item : ρ → Option String → Option AttributeValue) {filter : SocaFilter} (key : String)
    (hkey : filter.key = some key) (hall : filter.value ≠ some (.S "$all")) :
    scanDbRecords decode table item { filters := some [filter] } =
      .ok (table.first.filter fun row => (addFilter [] filter).holds (item row)) := by
  have hmissing : hasMissingKey (addFilter [] filter) = false := by
    unfold addFilter hasMissingKey
    rw [hkey]
    cases filter.eq <;> cases filter.value <;> cases filter.like <;> simp [putCondition, ScanFilter.set,
      ScanFilter.without]
  have hwithout : withoutAll [filter] = [filter] := by simp [withoutAll, hall]
  rw [scanDbRecords_eq]
  show tableScan table item (mergeFilters (withoutAll [filter])) none = _
  rw [hwithout]
  show tableScan table item (addFilter [] filter) none = _
  rw [tableScan, hmissing]
  rfl

/-- The listing for a stack: the rows of the first page that carry exactly its row form. -/
theorem listAllForSoftwareStack_eq (decode : String → Except Exc (Option String)) {str : ℚ → String}
    (sessions : Paged StoredSession) {softwareStack : SoftwareStack} {dict : SoftwareStackDict}
    (h : convertSoftwareStackObjectToDbDict str softwareStack = .ok dict) :
    listAllForSoftwareStack texts decode str sessions {} softwareStack =
      .ok (sessions.first.filter fun row => row.softwareStack = dict) := by
  rw [listAllForSoftwareStack, h]
  show scanSessions texts decode sessions { filters := some [softwareStackFilter texts dict] } = _
  rw [scanSessions, scanDbRecords_single decode sessions _ "software_stack" rfl (by simp [softwareStackFilter])]
  congr 1
  refine List.filter_congr fun row _ => ?_
  simp [addFilter, putCondition, softwareStackFilter]

/-- The row of a Windows stack without projects. -/
def windowsDict (name : String) : SoftwareStackDict where
  baseOs := some .windows
  stackId := some "ss-1"
  name := some name
  description := none
  createdOn := 0
  updatedOn := 0
  amiId := none
  enabled := none
  minStorageValue := toString (10 : ℚ)
  minStorageUnit := .gb
  minRamValue := toString (4 : ℚ)
  minRamUnit := .gb
  architecture := none
  gpu := none
  projects := []

end ContainRes.VirtualDesktop.SoftwareStacks
