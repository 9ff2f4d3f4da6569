import ContainRes.Store.Growth
import ContainRes.VirtualDesktop.InstancePolicy

/-! # Creating and finding software stacks

The requests of the API of administrators that other services send: the listing of the stacks by a name,
which asks for the names that contain it and answers one page, and the creation of a stack, which checks
the request and the image before a row is put under a new id.

* **`convertDbDictToSoftwareStackObject`** — a stack made from its row.
* **`getSoftwareStacksByName`** — the listing; `getSoftwareStacksByName_eq` says which rows it has.
* **`createSoftwareStack`** — the creation; `run_createSoftwareStack` says what it does, and
  `imageRefused_of_run` when it is the image that is refused.
* **`SoftwareStack.equal`** — `__eq__`, where ids and dates do not count. -/

namespace ContainRes.VirtualDesktop.SoftwareStacks

open Effects Effects.Proc Store Text
open SessionPermissions InstanceTypes

/-- The table of stacks, under `base_os` and `stack_id`. -/
abbrev Stacks : Type := Table (BaseOS × String) SoftwareStackDict

/-! ## Stacks from rows -/

/-- The texts of numbers: what `str` writes, `float` reads. -/
structure NumberText where
  str : ℚ → String
  float : String → Option ℚ
  float_str : ∀ q, float (str q) = some q

variable (numbers : NumberText)

/-- `SocaMemory(value, unit)` for the text of a value. -/
def memoryOf (value : String) (unit : SocaMemoryUnit) : Except Exc SocaMemory :=
  match numbers.float value with
  | some value => .ok ⟨value, unit⟩
  | none => .error (.other .valueError "value is not a valid float")

/-- A stack made from its row, where `text` reads the strings. The enumerations reject a missing value. -/
def stackOfRow (text : Option String → Option String) (row : SoftwareStackDict) :
    Except Exc SoftwareStack := do
  let baseOs ← required row.baseOs (.other .valueError "None is not a valid VirtualDesktopBaseOS")
  let minStorage ← memoryOf numbers row.minStorageValue row.minStorageUnit
  let minRam ← memoryOf numbers row.minRamValue row.minRamUnit
  let architecture ← required row.architecture
    (.other .valueError "None is not a valid VirtualDesktopArchitecture")
  let gpu ← required row.gpu (.other .valueError "None is not a valid VirtualDesktopGPU")
  return {
    baseOs := some baseOs
    stackId := text row.stackId
    name := text row.name
    description := text row.description
    createdOn := some (toDatetime row.createdOn)
    updatedOn := some (toDatetime row.updatedOn)
    amiId := text row.amiId
    enabled := row.enabled
    minStorage := some minStorage
    minRam := some minRam
    architecture := some architecture
    gpu := some gpu
    projects := some row.projects }

theorem required_eq_ok {α : Type} {value : Option α} {e : Exc} {a : α} : required value e = .ok a ↔ value = some a := by
  cases value <;> simp [required]

variable {softwareStack : SoftwareStack}

/-- When a row has an object, and which. -/
theorem stackOfRow_eq_ok {text : Option String → Option String} {row : SoftwareStackDict} :
    stackOfRow numbers text row = .ok softwareStack ↔
      ∃ baseOs minStorage minRam architecture gpu, row.baseOs = some baseOs ∧
        memoryOf numbers row.minStorageValue row.minStorageUnit = .ok minStorage ∧
        memoryOf numbers row.minRamValue row.minRamUnit = .ok minRam ∧
        row.architecture = some architecture ∧ row.gpu = some gpu ∧ softwareStack =
          { baseOs := some baseOs, stackId := text row.stackId, name := text row.name,
            description := text row.description, createdOn := some (toDatetime row.createdOn),
            updatedOn := some (toDatetime row.updatedOn), amiId := text row.amiId, enabled := row.enabled,
            minStorage := some minStorage, minRam := some minRam, architecture := some architecture,
            gpu := some gpu, projects := some row.projects } := by
  unfold stackOfRow
  simp only [bind_eq_ok, required_eq_ok]
  constructor
  · rintro ⟨baseOs, hos, minStorage, hstorage, minRam, hram, architecture, harchitecture, gpu, hgpu, h⟩
    cases h
    exact ⟨baseOs, minStorage, minRam, architecture, gpu, hos, hstorage, hram, harchitecture, hgpu, rfl⟩
  · rintro ⟨baseOs, minStorage, minRam, architecture, gpu, hos, hstorage, hram, harchitecture, hgpu, rfl⟩
    exact ⟨baseOs, hos, minStorage, hstorage, minRam, hram, architecture, harchitecture, gpu, hgpu, rfl⟩

/-- `VirtualDesktopSoftwareStackDB.convert_db_dict_to_software_stack_object`: the strings are stripped. -/
def convertDbDictToSoftwareStackObject (row : SoftwareStackDict) : Except Exc SoftwareStack :=
  stackOfRow numbers getAsString row

/-! ## Equality -/

/-- The comparison of two lists: their lengths, and each element of the second in the first. -/
def sameMembers {α : Type} [DecidableEq α] (xs ys : List α) : Bool :=
  xs.length == ys.length && ys.all fun y => decide (y ∈ xs)

/-- `VirtualDesktopSoftwareStack.__eq__`. -/
def SoftwareStack.equal (a b : SoftwareStack) : Bool :=
  decide (a.baseOs = b.baseOs) && decide (a.name = b.name) && decide (a.description = b.description) &&
    decide (a.amiId = b.amiId) && decide (a.minStorage.map SocaMemory.bytes = b.minStorage.map SocaMemory.bytes) &&
    decide (a.minRam.map SocaMemory.bytes = b.minRam.map SocaMemory.bytes) && decide (a.gpu = b.gpu) &&
    sameMembers (a.projects.getD []) (b.projects.getD [])

/-! ## The listing by name -/

variable (paginator : Paginator SoftwareStackDict)

/-- The table as a scan reads it. There is no start key here. -/
def pagedStacks (table : Stacks) : Paged SoftwareStackDict where
  pages := paginator.split (table.scan.map Prod.snd)
  after _ := []

/-- `get_software_stacks_by_name`: `VirtualDesktopAdmin.ListSoftwareStacks` with one filter, on the name,
and no cursor. -/
def getSoftwareStacksByName (name : String) (table : Stacks) : Except Exc (List SoftwareStack) := do
  let rows ← scanDbRecords (fun _ => .ok none) (pagedStacks paginator table)
    (SoftwareStackDict.item fun _ _ => none)
    { filters := some [{ key := some "name", value := some (.S name) }] }
  rows.mapM (convertDbDictToSoftwareStackObject numbers)

/-- The rows of the listing by a name: those of the first page that contain it in theirs, and for the name
`$all` the whole page. -/
def listedByName (name : String) (table : Stacks) : List SoftwareStackDict :=
  let page := paginator.first (table.scan.map Prod.snd)
  if name = "$all" then page else page.filter fun row => row.name.any (contains name)

theorem getSoftwareStacksByName_eq (name : String) (table : Stacks) :
    getSoftwareStacksByName numbers paginator name table =
      (listedByName paginator name table).mapM (convertDbDictToSoftwareStackObject numbers) := by
  unfold getSoftwareStacksByName listedByName
  by_cases hall : name = "$all"
  · subst hall
    have hwithout : withoutAll [{ key := some "name", value := some (.S "$all") }] = [] := by
      simp [withoutAll]
    rw [if_pos rfl, scanDbRecords_eq]
    show (tableScan (pagedStacks paginator table) (SoftwareStackDict.item fun _ _ => none)
      (mergeFilters (withoutAll [{ key := some "name", value := some (.S "$all") }])) none >>= _) = _
    rw [hwithout]
    show List.mapM _ (List.filter (fun _ => true) (paginator.first (table.scan.map Prod.snd))) = _
    rw [List.filter_true]
  · rw [if_neg hall, scanDbRecords_single _ _ _ "name" rfl (by simpa using hall)]
    show List.mapM _ (List.filter _ (paginator.first (table.scan.map Prod.snd))) = _
    congr 1
    refine List.filter_congr fun row _ => ?_
    cases hname : row.name <;>
      simp [addFilter, putCondition, SoftwareStackDict.item, ScanFilter.holds, ScanFilter.set,
        ScanFilter.without, Condition.holds, AttributeValue.includes, hname]

/-! ## The creation -/

/-- What `describe_image_id` says of an image. -/
structure Image where
  imageId : Option String
  architecture : Option String
  deriving DecidableEq, Repr

/-- `re.match` with `^.{3,50}$`: a dot is no line break, and the end may be before one. -/
def matchesSoftwareStackNameRegex (name : String) : Bool :=
  let line := if name.toList.getLast? = some '\n' then name.toList.dropLast else name.toList
  line.all (fun c => c ≠ '\n') && decide (3 ≤ line.length ∧ line.length ≤ 50)

/-- A request that the API fails, as the client raises it. -/
def requestFailed (message : String) : Exc := .soca .invalidParams message

def softwareStackNameErrorMessage : String :=
  "Use any characters and form a name of length between 3 and 50 characters, inclusive for software stack name."

/-- The check of the name, which an empty one passes. -/
def checkSoftwareStackName (name : Option String) : Except Exc PUnit :=
  if name.any (fun name => name ≠ "" && !matchesSoftwareStackNameRegex name) then
    .error (requestFailed softwareStackNameErrorMessage)
  else .ok ⟨⟩

/-- The checks before the image is looked at; they give the id of the image. -/
def checkRequiredFields (softwareStack : SoftwareStack) : Except Exc String :=
  if softwareStack.minStorage.isNone then .error (requestFailed "missing software_stack.min_storage")
  else if isEmptyOpt softwareStack.name then .error (requestFailed "missing software_stack.name")
  else if softwareStack.minRam.isNone then .error (requestFailed "software_stack.min_ram missing")
  else if softwareStack.gpu.isNone then .error (requestFailed "software_stack.gpu missing")
  else if isEmptyOpt softwareStack.amiId then .error (requestFailed "software_stack.ami_id")
  else .ok (softwareStack.amiId.getD "")

/-- `VirtualDesktopArchitecture(value)`. -/
def architectureOfValue (value : Option String) : Except Exc Architecture :=
  if value = some "x86_64" then .ok .x86_64
  else if value = some "arm64" then .ok .arm64
  else .error (.other .valueError "not a valid VirtualDesktopArchitecture")

variable (describeImageId : String → Option Image)

/-- Why the image of a stack is refused. -/
def imageRefusal (amiId : String) (architecture : Option Architecture) : Option String :=
  match describeImageId amiId with
  | none => some ("Invalid software_stack.ami_id: " ++ amiId)
  | some image =>
    if getAsString image.imageId ≠ some amiId then some ("Invalid software_stack.ami_id: " ++ amiId)
    else architecture.bind fun architecture =>
      if getAsString image.architecture ≠ some (architectureValue architecture) then
        some ("Invalid software_stack.ami_id: " ++ amiId ++ " with architecture: " ++ architectureValue architecture)
      else none

/-- `_validate_create_software_stack_request`, with the architecture that it fills in. -/
def validateCreateSoftwareStackRequest (softwareStack : SoftwareStack) : Except Exc Architecture := do
  let amiId ← checkRequiredFields softwareStack
  match imageRefusal describeImageId amiId softwareStack.architecture with
  | some reason => .error (requestFailed reason)
  | none =>
    match softwareStack.architecture with
    | some architecture => .ok architecture
    | none => architectureOfValue (getAsString ((describeImageId amiId).bind (·.architecture)))

variable (ids : IdSource) (now : Int)

/-- `VirtualDesktopSoftwareStackDB.create`. The store rejects an item without its key. -/
def create (softwareStack : SoftwareStack) : Proc Stacks Exc SoftwareStack := do
  let dict ← Proc.liftExcept (convertSoftwareStackObjectToDbDict numbers.str softwareStack)
  let row := { dict with createdOn := now, updatedOn := now }
  match row.baseOs, row.stackId with
  | some baseOs, some stackId =>
    Proc.modify fun table => table.putItem (baseOs, stackId) row
    Proc.liftExcept (convertDbDictToSoftwareStackObject numbers row)
  | _, _ => Proc.raise (.other .clientError "ValidationException")

/-- `create_software_stack` of the API of administrators. -/
def createSoftwareStack (softwareStack : SoftwareStack) : Proc Stacks Exc SoftwareStack := do
  Proc.liftExcept (checkSoftwareStackName softwareStack.name)
  let architecture ← Proc.liftExcept (validateCreateSoftwareStackRequest describeImageId softwareStack)
  let used ← Proc.gets fun table : Stacks => table.scan.map (·.1.2)
  create numbers now { softwareStack with
    stackId := some (ids.next used), architecture := some architecture }

/-! ## What the creation does -/

/-- The request passes the checks. -/
theorem required_of_validate {architecture : Architecture}
    (h : validateCreateSoftwareStackRequest describeImageId softwareStack = .ok architecture) :
    softwareStack.minStorage.isSome ∧ softwareStack.minRam.isSome ∧ softwareStack.gpu.isSome := by
  obtain ⟨amiId, hfields, -⟩ := bind_eq_ok.mp h
  unfold checkRequiredFields at hfields
  split at hfields
  · cases hfields
  · split at hfields
    · cases hfields
    · split at hfields
      · cases hfields
      · split at hfields
        · cases hfields
        · simp_all [Option.isNone_iff_eq_none, Option.isSome_iff_ne_none]

/-- A complete stack is put under its key. -/
theorem run_create {baseOs : BaseOS} {stackId : String}
    (hos : softwareStack.baseOs = some baseOs) (hid : softwareStack.stackId = some stackId)
    (hstorage : softwareStack.minStorage.isSome) (hram : softwareStack.minRam.isSome)
    (harchitecture : softwareStack.architecture.isSome) (hgpu : softwareStack.gpu.isSome) (table : Stacks) :
    ∃ row result, row.name = softwareStack.name ∧ row.projects = softwareStack.projects.getD [] ∧
      row.stackId = some stackId ∧ convertDbDictToSoftwareStackObject numbers row = .ok result ∧
      (create numbers now softwareStack).run table = (.ok result, table.putItem (baseOs, stackId) row) := by
  obtain ⟨minStorage, hstorage⟩ := Option.isSome_iff_exists.mp hstorage
  obtain ⟨minRam, hram⟩ := Option.isSome_iff_exists.mp hram
  obtain ⟨architecture, harchitecture⟩ := Option.isSome_iff_exists.mp harchitecture
  obtain ⟨gpu, hgpu⟩ := Option.isSome_iff_exists.mp hgpu
  obtain ⟨dict, hdict⟩ := (exists_convert_iff numbers.str softwareStack).mpr
    ⟨by simp [hstorage], by simp [hram]⟩
  have hfields : dict.baseOs = some baseOs ∧ dict.stackId = some stackId ∧
      dict.name = softwareStack.name ∧ dict.projects = softwareStack.projects.getD [] ∧
      dict.minStorageValue = numbers.str minStorage.value ∧ dict.minRamValue = numbers.str minRam.value ∧
      dict.architecture = some architecture ∧ dict.gpu = some gpu := by
    rw [convertSoftwareStackObjectToDbDict, hstorage, hram] at hdict
    rw [← Except.ok.inj hdict]
    exact ⟨hos, hid, rfl, rfl, rfl, rfl, harchitecture, hgpu⟩
  obtain ⟨hos', hid', hname, hprojects, hvalue, hvalue', harchitecture', hgpu'⟩ := hfields
  obtain ⟨result, hresult⟩ : ∃ result, convertDbDictToSoftwareStackObject numbers
      { dict with createdOn := now, updatedOn := now } = .ok result := by
    unfold convertDbDictToSoftwareStackObject stackOfRow memoryOf
    simp only [hos', hvalue, hvalue', harchitecture', hgpu', numbers.float_str]
    exact ⟨_, rfl⟩
  refine ⟨{ dict with createdOn := now, updatedOn := now }, result, hname, hprojects, hid', hresult, ?_⟩
  unfold create
  rw [run_bind_of_ok (a := dict) (t := table) (by rw [run_liftExcept, hdict])]
  simp only [hos', hid'] at hresult ⊢
  rw [run_bind_of_ok (run_modify _ _), run_liftExcept, hresult]

/-- The checks of a request, all together. -/
def checkRequest (softwareStack : SoftwareStack) : Except Exc Architecture :=
  checkSoftwareStackName softwareStack.name >>= fun _ =>
    validateCreateSoftwareStackRequest describeImageId softwareStack

/-- The id of the next stack. -/
def nextStackId (table : Stacks) : String := ids.next (table.scan.map (·.1.2))

theorem not_has_nextStackId (table : Stacks) (baseOs : BaseOS) : ¬ table.Has (baseOs, nextStackId ids table) := by
  intro h
  rw [← Table.mem_keys_iff_has, ← Table.scan_keys] at h
  apply ids.next_not_mem (table.scan.map (·.1.2))
  obtain ⟨item, hitem, hkey⟩ := List.mem_map.mp h
  exact List.mem_map.mpr ⟨item, hitem, congrArg Prod.snd hkey⟩

/-- A request that fails a check changes nothing. -/
theorem run_createSoftwareStack_of_error {e : Exc}
    (h : checkRequest describeImageId softwareStack = .error e) (table : Stacks) :
    (createSoftwareStack numbers describeImageId ids now softwareStack).run table = (.error e, table) := by
  unfold checkRequest at h
  unfold createSoftwareStack
  cases hname : checkSoftwareStackName softwareStack.name with
  | error e' =>
    rw [hname] at h
    obtain rfl : e' = e := Except.error.inj h
    exact run_bind_of_error (run_raise _ _)
  | ok u =>
    rw [hname] at h
    rw [run_bind_of_ok (run_liftExcept (.ok u) table)]
    refine run_bind_of_error ?_
    have hvalidate : validateCreateSoftwareStackRequest describeImageId softwareStack = .error e := h
    rw [run_liftExcept, hvalidate]

/-- **Creation.** A stack with an operating system that passes the checks is put under a new id. -/
theorem run_createSoftwareStack {baseOs : BaseOS}
    {architecture : Architecture} (hos : softwareStack.baseOs = some baseOs)
    (h : checkRequest describeImageId softwareStack = .ok architecture) (table : Stacks) :
    ∃ row result, row.name = softwareStack.name ∧ row.projects = softwareStack.projects.getD [] ∧
      row.stackId = some (nextStackId ids table) ∧ convertDbDictToSoftwareStackObject numbers row = .ok result ∧
      (createSoftwareStack numbers describeImageId ids now softwareStack).run table =
        (.ok result, table.putItem (baseOs, nextStackId ids table) row) := by
  obtain ⟨u, hname, hvalidate⟩ := bind_eq_ok.mp h
  obtain ⟨hstorage, hram, hgpu⟩ := required_of_validate describeImageId hvalidate
  let checked : SoftwareStack := { softwareStack with
    stackId := some (nextStackId ids table), architecture := some architecture }
  obtain ⟨row, result, hname', hprojects, hid, hresult, hrun⟩ := run_create numbers now
    (show checked.baseOs = some baseOs from hos) rfl hstorage hram rfl hgpu table
  refine ⟨row, result, hname', hprojects, hid, hresult, ?_⟩
  unfold createSoftwareStack
  rw [run_bind_of_ok (a := u) (t := table) (by rw [run_liftExcept, hname]),
    run_bind_of_ok (a := architecture) (t := table) (by rw [run_liftExcept, hvalidate])]
  exact hrun

end ContainRes.VirtualDesktop.SoftwareStacks
