import ContainRes.VirtualDesktop.InstanceTypes
import ContainRes.VirtualDesktop.SocaMemory

/-! # The root volume of a session

`validate_create_session_request` compares the root volume that is asked for with the largest one that the
configuration allows and with what the software stack and the memory of the instance need. The first comparison
takes the bare value and the second the bytes; the launch takes the integer part of the value, in gibibytes.

* **`technicalValidations`** — the checks after the instance type; those of the root volume are the last.
* **`validate`** — the whole validation; **`validate_eq_ok`** takes it apart.
* **`VolumeWithin`** — the volume that is launched respects the bounds.
* **`VolumeAgrees`** — what is asked for is not more than what is launched.
* **`volumeWithin_iff`** — the one holds for every storage that the stack may ask for exactly when the other does. -/

namespace ContainRes.VirtualDesktop.InstanceTypes

open Effects Numbers Text
open SessionPermissions SoftwareStacks
open SocaMemoryUnit (factor)

/-! ## The checks -/

/-- A create request with all that is read of it here. -/
structure VolumeRequest where
  session : SessionRequest
  type : Option SessionType
  /-- `server.root_volume_size`. -/
  rootVolumeSize : Option SocaMemory

/-- The environment of a request, with the setting `max_root_volume_memory` and the texts of what is printed. -/
structure VolumeServices where
  env : Environment
  maxRootVolumeMemory : Except Exc (Option ℤ)
  /-- `str` of a number. -/
  numberText : ℚ → String
  baseOsText : Option BaseOS → String

def getGpuManufacturer (info : InstanceInfo) : GPU :=
  let known := info.gpus.find? fun manufacturer =>
    lower manufacturer = lower (gpuValue .nvidia) || lower manufacturer = lower (gpuValue .amd)
  match known with
  | none => .noGpu
  | some manufacturer => if lower manufacturer = lower (gpuValue .nvidia) then .nvidia else .amd

def getArchitecture (info : InstanceInfo) : Option Architecture :=
  info.supportedArchitectures.findSome? fun architecture =>
    if architecture = architectureValue .arm64 then some .arm64
    else if architecture = architectureValue .x86_64 then some .x86_64
    else none

/-- `SocaMemory.__str__`. -/
def memoryText (numberText : ℚ → String) (memory : SocaMemory) : String :=
  numberText (SocaMemory.roundValue memory.value) ++ match memory.unit with
    | .bytes => "b"
    | .kib => "kib"
    | .mib => "mib"
    | .gib => "gib"
    | .tib => "tib"
    | .kb => "kb"
    | .mb => "mb"
    | .gb => "gb"
    | .tb => "tb"

/-- A value as it is printed, where it may be missing. -/
def memoryTextOrNone (numberText : ℚ → String) (memory : Option SocaMemory) : String :=
  (memory.map (memoryText numberText)).getD "None"

section Checks

variable (services : VolumeServices) (request : VolumeRequest) (valid : ValidSession)

/-- The check of the hibernation: not for Red Hat and CentOS, and for Windows up to 16 GiB of memory. -/
def checkHibernation : Except Rejection PUnit.{1} :=
  if valid.hibernationEnabled && (valid.softwareStack.baseOs = some .rhel7 ||
      valid.softwareStack.baseOs = some .rhel8 || valid.softwareStack.baseOs = some .rhel9 ||
      valid.softwareStack.baseOs = some .centos7) then
    .error (.failure ("OS " ++ services.baseOsText valid.softwareStack.baseOs ++
      " does not support Instance Hibernation"))
  else if valid.hibernationEnabled && valid.softwareStack.baseOs = some .windows then do
    let info ← raising (describe services.env.cache valid.instanceType)
    demand (((getInstanceRam info).asUnit .gib).value ≤ 16) ("OS " ++ services.baseOsText valid.softwareStack.baseOs ++
      " does not support Instance Hibernation for instances with RAM greater than 16GiB.")
  else .ok ⟨⟩

/-- The checks of the type of the session: with Windows, with the GPU and with the architecture. -/
def checkSessionType : Except Rejection PUnit.{1} := do
  demand (!(request.type = some .virtual && valid.softwareStack.baseOs = some .windows))
    (services.baseOsText valid.softwareStack.baseOs ++ " does not support Virtual Sessions")
  let info ← raising (describe services.env.cache valid.instanceType)
  demand (!(request.type = some .virtual && getGpuManufacturer info = .amd))
    ("Instance type: " ++ valid.instanceType ++ " with GPU " ++ gpuValue .amd ++ " does not support Virtual Sessions")
  demand (!(request.type = some .console && getArchitecture info = some .arm64))
    ("Instance type: " ++ valid.instanceType ++ " does not support Console Sessions")

/-- The size of the root volume, which is asked for. -/
def requestedVolume : Except Rejection SocaMemory :=
  match request.rootVolumeSize with
  | none => .error (.failure "missing session.server.root_volume_size")
  | some rootVolumeSize => .ok rootVolumeSize

/-- The check of the largest root volume. -/
def checkMaxRootVolume (rootVolumeSize : SocaMemory) : Except Rejection PUnit.{1} := do
  let maxRootVolumeSize ← raising services.maxRootVolumeMemory
  demand (!rootVolumeSize.gtNumber maxRootVolumeSize) ("root volume size: " ++
    memoryText services.numberText rootVolumeSize ++ " is greater than maximum allowed root volume size: " ++
    (maxRootVolumeSize.map toString).getD "None" ++ "GB.")

/-- The smallest root volume: the storage that the stack asks for, and for the hibernation the memory beside
it. -/
def minRootVolume : Except Rejection (Option SocaMemory) :=
  if valid.hibernationEnabled then do
    let info ← raising (describe services.env.cache valid.instanceType)
    match valid.softwareStack.minStorage with
    | none => raising (.error (.other .typeError "unsupported operand type(s) for +"))
    | some minStorage => return some (minStorage.add (getInstanceRam info))
  else return valid.softwareStack.minStorage

/-- The check of the smallest root volume. -/
def checkMinRootVolume (rootVolumeSize : SocaMemory) : Except Rejection PUnit.{1} := do
  let minRootVolume ← minRootVolume services valid
  demand (!rootVolumeSize.ltMemory minRootVolume) ("root volume size: " ++
    memoryText services.numberText rootVolumeSize ++ " is less than the minimum required root volume size: " ++
    memoryTextOrNone services.numberText minRootVolume ++ " when hibernation is " ++
    (if valid.hibernationEnabled then "enabled" else "disabled") ++ ".")

/-- The checks after the instance type up to those of the root volume. -/
def typeValidations : Except Rejection PUnit.{1} := do
  checkHibernation services valid
  checkSessionType services request valid

/-- The checks after the instance type. -/
def technicalValidations : Except Rejection PUnit.{1} := do
  typeValidations services request valid
  let rootVolumeSize ← requestedVolume request
  checkMaxRootVolume services rootVolumeSize
  checkMinRootVolume services valid rootVolumeSize

end Checks

/-- What the checks say, as an answer of the environment. -/
def reasonOf : Except Rejection PUnit.{1} → Except Exc (Option String)
  | .ok _ => .ok none
  | .error (.raised e) => .error e
  | .error (.failure reason) => .ok (some reason)

/-- `validate_create_session_request` with some of the last checks. -/
def validateWith (checks : ValidSession → Except Rejection PUnit.{1}) (env : Environment) (session : SessionRequest) :
    Except Rejection ValidSession :=
  validateCreateSessionRequest { env with technicalValidations := fun _ valid => reasonOf (checks valid) } session

/-- `validate_create_session_request`. -/
def validate (services : VolumeServices) (request : VolumeRequest) : Except Rejection ValidSession :=
  validateWith (technicalValidations services request) services.env request.session

/-- The part of the validation that comes before the root volume. -/
def validateTypes (services : VolumeServices) (request : VolumeRequest) : Except Rejection ValidSession :=
  validateWith (typeValidations services request) services.env request.session

/-! ## What the validation accepts -/

theorem reasonOf_eq_ok {r : Except Rejection PUnit.{1}} : reasonOf r = .ok none ↔ r = .ok ⟨⟩ := by
  rcases r with (e | reason) | u <;> simp [reasonOf]

variable {valid : ValidSession}

/-- **Validation.** What is valid passes the checks up to the type, and the last ones. -/
theorem validateWith_eq_ok {checks : ValidSession → Except Rejection PUnit.{1}} {env : Environment}
    {session : SessionRequest} : validateWith checks env session = .ok valid ↔
      validateWith (fun _ => .ok ⟨⟩) env session = .ok valid ∧ checks valid = .ok ⟨⟩ := by
  unfold validateWith validateCreateSessionRequest
  simp only [bind_eq_ok]
  cases session.hibernationEnabled with
  | none => simp
  | some hibernationEnabled =>
    simp only [bind_eq_ok, raising_eq_ok]
    constructor
    · rintro ⟨project, hproject, softwareStack, hstack, u, hbudget, instanceType, htype, v, hcheck, reason, hreason, h⟩
      cases reason with
      | some reason => cases h
      | none =>
        cases h
        exact ⟨⟨project, hproject, softwareStack, hstack, u, hbudget, instanceType, htype, v, hcheck, none, rfl,
          rfl⟩, reasonOf_eq_ok.mp hreason⟩
    · rintro ⟨⟨project, hproject, softwareStack, hstack, u, hbudget, instanceType, htype, v, hcheck, reason,
        hreason, h⟩, hchecks⟩
      cases hreason
      cases h
      exact ⟨project, hproject, softwareStack, hstack, u, hbudget, instanceType, htype, v, hcheck, none,
        reasonOf_eq_ok.mpr hchecks, rfl⟩

/-- The environment with another storage that the stacks ask for. -/
def Environment.withMinStorage (env : Environment) (minStorage : SocaMemory) : Environment :=
  { env with
    softwareStackDb := fun baseOs stackId =>
      (env.softwareStackDb baseOs stackId).map fun found =>
        found.map fun softwareStack => { softwareStack with minStorage := some minStorage } }

/-- A valid session of it. -/
def ValidSession.withMinStorage (valid : ValidSession) (minStorage : SocaMemory) : ValidSession :=
  { valid with softwareStack := { valid.softwareStack with minStorage := some minStorage } }

section MinStorage

variable {env : Environment} {session : SessionRequest} {minStorage : SocaMemory}

/-- The stack that is found is the same but for the storage. -/
theorem findSoftwareStack_withMinStorage (project : UserProject) :
    findSoftwareStack (env.withMinStorage minStorage) session project =
      (findSoftwareStack env session project).map fun softwareStack =>
        { softwareStack with minStorage := some minStorage } := by
  unfold findSoftwareStack
  cases session.softwareStack with
  | none => rfl
  | some stack =>
    obtain ⟨stackId, baseOs⟩ := stack
    cases stackId with
    | none => rfl
    | some stackId =>
      cases baseOs with
      | none => rfl
      | some baseOs =>
        dsimp only
        by_cases hempty : isEmpty stackId = true
        · rw [if_pos hempty, if_pos hempty]
          rfl
        · rw [if_neg hempty, if_neg hempty]
          dsimp only [Environment.withMinStorage]
          cases env.softwareStackDb baseOs stackId with
          | error e => rfl
          | ok found =>
            cases found with
            | none => rfl
            | some softwareStack =>
              dsimp only [Except.map, raising, Bind.bind, Except.bind, Option.map]
              cases demand _ _ <;> rfl

/-- The types that are valid do not depend on the storage. -/
theorem getValidInstanceTypes_withMinStorage (config : InstanceTypesConfig) (cache : InstanceTypeCache)
    (hibernationSupport : Bool) (softwareStack : SoftwareStack) (gpu : Option GPU) :
    getValidInstanceTypes config cache hibernationSupport
        (some { softwareStack with minStorage := some minStorage }) gpu =
      getValidInstanceTypes config cache hibernationSupport (some softwareStack) gpu := by
  have hgpu : gpuToCheck (some { softwareStack with minStorage := some minStorage }) gpu =
      gpuToCheck (some softwareStack) gpu := by
    cases gpu <;> rfl
  have hinfo : acceptsInfo hibernationSupport (some { softwareStack with minStorage := some minStorage }) gpu =
      acceptsInfo hibernationSupport (some softwareStack) gpu := by
    funext info
    unfold acceptsInfo
    rw [hgpu]
    rfl
  have haccepts : accepts config cache hibernationSupport
        (some { softwareStack with minStorage := some minStorage }) gpu =
      accepts config cache hibernationSupport (some softwareStack) gpu := by
    funext name
    unfold accepts
    rw [hinfo]
    rfl
  unfold getValidInstanceTypes
  induction cache.names with
  | nil => rfl
  | cons name names ih =>
    rw [validOf, validOf, haccepts, ih]

/-- **The storage.** The validation up to the type does not depend on the storage that a stack asks for. -/
theorem validateWith_withMinStorage :
    validateWith (fun _ => .ok ⟨⟩) (env.withMinStorage minStorage) session = .ok valid ↔
      ∃ old, validateWith (fun _ => .ok ⟨⟩) env session = .ok old ∧ valid = old.withMinStorage minStorage := by
  unfold validateWith validateCreateSessionRequest
  simp only [bind_eq_ok]
  cases session.hibernationEnabled with
  | none => simp
  | some hibernationEnabled =>
    simp only [bind_eq_ok, raising_eq_ok]
    have hfind : ∀ project, findSoftwareStack
        { env.withMinStorage minStorage with technicalValidations := fun _ _ => reasonOf (.ok ⟨⟩) } session project =
        (findSoftwareStack { env with technicalValidations := fun _ _ => reasonOf (.ok ⟨⟩) } session project).map
          fun softwareStack => { softwareStack with minStorage := some minStorage } := fun project =>
      findSoftwareStack_withMinStorage project
    constructor
    · rintro ⟨project, hproject, softwareStack, hstack, u, hbudget, instanceType, htype, v, hcheck, reason, hreason, h⟩
      cases hreason
      cases h
      rw [hfind] at hstack
      cases hold : findSoftwareStack { env with technicalValidations := fun _ _ => reasonOf (.ok ⟨⟩) } session
        project with
      | error e =>
        rw [hold] at hstack
        cases hstack
      | ok found =>
        rw [hold] at hstack
        cases hstack
        rw [checkInstanceType, getValidInstanceTypes_withMinStorage] at hcheck
        exact ⟨_, ⟨project, hproject, found, hold, u, hbudget, instanceType, htype, v, hcheck, none, rfl, rfl⟩, rfl⟩
    · rintro ⟨old, ⟨project, hproject, found, hold, u, hbudget, instanceType, htype, v, hcheck, reason, hreason, h⟩,
        rfl⟩
      cases hreason
      cases h
      refine ⟨project, hproject, { found with minStorage := some minStorage }, ?_, u, hbudget, instanceType, htype, v,
        ?_, none, rfl, rfl⟩
      · rw [hfind, hold]
        rfl
      · rw [checkInstanceType, getValidInstanceTypes_withMinStorage]
        exact hcheck

end MinStorage

/-! ## The bounds -/

/-- The services with another storage that the stacks ask for. -/
def VolumeServices.withMinStorage (services : VolumeServices) (minStorage : SocaMemory) : VolumeServices :=
  { services with env := services.env.withMinStorage minStorage }

/-- The bytes of the volume that is launched: `int_val()` gibibytes. -/
def launchedBytes (rootVolumeSize : SocaMemory) : ℤ := rootVolumeSize.intVal * factor .gib

/-- The bytes that a session needs: the storage, and for the hibernation the memory. -/
def neededBytes (valid : ValidSession) (minStorage ram : SocaMemory) : ℤ :=
  minStorage.bytes + if valid.hibernationEnabled then ram.bytes else 0

section Bounds

variable (services : VolumeServices) (request : VolumeRequest)

/-- **The volume that is launched** for a request that is accepted is within the setting, and has what a session
needs with a storage that the stack asks for. -/
def VolumeWithin (minStorage : SocaMemory) : Prop :=
  ∀ valid rootVolumeSize info, validate (services.withMinStorage minStorage) request = .ok valid →
    request.rootVolumeSize = some rootVolumeSize →
    describe services.env.cache valid.instanceType = .ok info →
    (∃ maxRootVolumeSize, services.maxRootVolumeMemory = .ok (some maxRootVolumeSize) ∧
      rootVolumeSize.intVal ≤ maxRootVolumeSize) ∧
    neededBytes valid minStorage (getInstanceRam info) ≤ launchedBytes rootVolumeSize

/-- **What is asked for agrees with what is launched**, unless the request is refused for another reason: the
bytes are at most those of the launched volume. With the hibernation they are compared with a sum that is rounded;
then they are fewer than what one byte more than the launched volume is in each unit that the sum may have. -/
def VolumeAgrees : Prop :=
  ∀ valid rootVolumeSize maxRootVolumeSize, validateTypes services request = .ok valid →
    request.rootVolumeSize = some rootVolumeSize →
    services.maxRootVolumeMemory = .ok (some maxRootVolumeSize) →
    rootVolumeSize.value ≤ maxRootVolumeSize →
    if valid.hibernationEnabled then
      ∀ unit, factor .mib ≤ factor unit →
        rootVolumeSize.bytes < (SocaMemory.asUnit ⟨(launchedBytes rootVolumeSize + 1 : ℤ), .bytes⟩ unit).bytes
    else rootVolumeSize.bytes ≤ launchedBytes rootVolumeSize

variable {services request}

theorem describe_of_typeValidations {u : PUnit} (h : typeValidations services request valid = .ok u) :
    ∃ info, describe services.env.cache valid.instanceType = .ok info := by
  obtain ⟨-, -, htype⟩ := bind_eq_ok.mp h
  obtain ⟨-, -, hinfo⟩ := bind_eq_ok.mp htype
  obtain ⟨info, hinfo, -⟩ := bind_eq_ok.mp hinfo
  exact ⟨info, raising_eq_ok.mp hinfo⟩

/-- The check of the largest root volume. -/
theorem checkMaxRootVolume_eq_ok {rootVolumeSize : SocaMemory} {u : PUnit} :
    checkMaxRootVolume services rootVolumeSize = .ok u ↔
      ∃ maxRootVolumeSize : ℤ, services.maxRootVolumeMemory = .ok (some maxRootVolumeSize) ∧
        rootVolumeSize.value ≤ maxRootVolumeSize := by
  unfold checkMaxRootVolume
  simp only [bind_eq_ok, raising_eq_ok, demand_eq_ok]
  constructor
  · rintro ⟨maxRootVolumeSize, hmax, hle⟩
    cases maxRootVolumeSize with
    | none => cases hle
    | some maxRootVolumeSize =>
      refine ⟨maxRootVolumeSize, hmax, ?_⟩
      simpa [SocaMemory.gtNumber] using hle
  · rintro ⟨maxRootVolumeSize, hmax, hle⟩
    refine ⟨some maxRootVolumeSize, hmax, ?_⟩
    simpa [SocaMemory.gtNumber] using hle

/-- The smallest root volume with a storage that the stack asks for. -/
def requiredVolume (valid : ValidSession) (minStorage ram : SocaMemory) : SocaMemory :=
  if valid.hibernationEnabled then minStorage.add ram else minStorage

/-- The check of the smallest root volume. -/
theorem checkMinRootVolume_eq_ok {minStorage rootVolumeSize : SocaMemory} {info : InstanceInfo}
    {u : PUnit} (hinfo : describe services.env.cache valid.instanceType = .ok info) :
    checkMinRootVolume (services.withMinStorage minStorage) (valid.withMinStorage minStorage) rootVolumeSize = .ok u ↔
      (requiredVolume valid minStorage (getInstanceRam info)).bytes ≤ rootVolumeSize.bytes := by
  have hmin : minRootVolume (services.withMinStorage minStorage) (valid.withMinStorage minStorage) =
      .ok (some (requiredVolume valid minStorage (getInstanceRam info))) := by
    have hdescribe : describe (services.withMinStorage minStorage).env.cache
        (valid.withMinStorage minStorage).instanceType = .ok info := hinfo
    unfold minRootVolume requiredVolume
    rw [hdescribe]
    show (if valid.hibernationEnabled = true then _ else _) = _
    split <;> rfl
  unfold checkMinRootVolume
  rw [hmin]
  simp only [bind_eq_ok, demand_eq_ok, Except.ok.injEq, exists_eq_left', SocaMemory.ltMemory, Bool.not_eq_true',
    decide_eq_false_iff_not, not_lt]

/-- **Acceptance.** When a request is accepted with a storage that the stack asks for. -/
theorem validate_eq_ok {minStorage : SocaMemory} : validate (services.withMinStorage minStorage) request = .ok valid ↔
      ∃ old rootVolumeSize info, ∃ maxRootVolumeSize : ℤ, validateTypes services request = .ok old ∧
        valid = old.withMinStorage minStorage ∧ request.rootVolumeSize = some rootVolumeSize ∧
        describe services.env.cache old.instanceType = .ok info ∧
        services.maxRootVolumeMemory = .ok (some maxRootVolumeSize) ∧ rootVolumeSize.value ≤ maxRootVolumeSize ∧
        (requiredVolume old minStorage (getInstanceRam info)).bytes ≤ rootVolumeSize.bytes := by
  have hrequested {r : SocaMemory} : requestedVolume request = .ok r ↔ request.rootVolumeSize = some r := by
    unfold requestedVolume
    cases request.rootVolumeSize <;> simp
  have htypes (old : ValidSession) : typeValidations (services.withMinStorage minStorage) request
      (old.withMinStorage minStorage) = typeValidations services request old := rfl
  unfold validate validateTypes
  rw [validateWith_eq_ok]
  constructor
  · rintro ⟨hvalid, hchecks⟩
    obtain ⟨old, hold, rfl⟩ := validateWith_withMinStorage.mp hvalid
    obtain ⟨u, hearly, hchecks⟩ := bind_eq_ok.mp hchecks
    obtain ⟨rootVolumeSize, hsize, hchecks⟩ := bind_eq_ok.mp hchecks
    obtain ⟨v, hmax, hmin⟩ := bind_eq_ok.mp hchecks
    obtain ⟨maxRootVolumeSize, hsetting, hle⟩ := checkMaxRootVolume_eq_ok.mp hmax
    rw [htypes] at hearly
    obtain ⟨info, hinfo⟩ := describe_of_typeValidations hearly
    exact ⟨old, rootVolumeSize, info, maxRootVolumeSize, validateWith_eq_ok.mpr ⟨hold, hearly⟩, rfl,
      hrequested.mp hsize, hinfo, hsetting, hle, (checkMinRootVolume_eq_ok hinfo).mp hmin⟩
  · rintro ⟨old, rootVolumeSize, info, maxRootVolumeSize, hold, rfl, hsize, hinfo, hsetting, hle, hmin⟩
    obtain ⟨hold, hearly⟩ := validateWith_eq_ok.mp hold
    refine ⟨validateWith_withMinStorage.mpr ⟨old, hold, rfl⟩, ?_⟩
    refine bind_eq_ok.mpr ⟨⟨⟩, (htypes old).trans hearly, ?_⟩
    refine bind_eq_ok.mpr ⟨rootVolumeSize, hrequested.mpr hsize, ?_⟩
    refine bind_eq_ok.mpr ⟨⟨⟩, checkMaxRootVolume_eq_ok.mpr ⟨maxRootVolumeSize, hsetting, hle⟩, ?_⟩
    exact (checkMinRootVolume_eq_ok hinfo).mpr hmin

/-! ## When the bounds are respected -/

theorem intVal_le {rootVolumeSize : SocaMemory} {n : ℤ} (h : rootVolumeSize.value ≤ n) : rootVolumeSize.intVal ≤ n := by
  have hle : truncate rootVolumeSize.value ≤ truncate (n : ℚ) := truncate_mono h
  rw [truncate_intCast] at hle
  exact hle

/-- A sum with an amount in mebibytes has a unit of at least a mebibyte. -/
theorem mib_le_largerUnit (minStorage : SocaMemory) (ram : ℚ) :
    factor .mib ≤ factor (minStorage.largerUnit ⟨ram, .mib⟩) := by
  rw [factor_largerUnit]
  exact le_max_right _ _

/-- Each such unit is the unit of a sum. -/
theorem largerUnit_eq {unit : SocaMemoryUnit} (hunit : factor .mib ≤ factor unit) (value ram : ℚ) :
    SocaMemory.largerUnit ⟨value, unit⟩ ⟨ram, .mib⟩ = unit := by
  cases unit with
  | mib => rfl
  | gib => rfl
  | tib => rfl
  | gb => rfl
  | tb => rfl
  | bytes => exact absurd hunit (by decide)
  | kib => exact absurd hunit (by decide)
  | kb => exact absurd hunit (by decide)
  | mb => exact absurd hunit (by decide)

theorem bytes_div_factor (n : ℤ) (unit : SocaMemoryUnit) : SocaMemory.bytes ⟨n / factor unit, unit⟩ = n := by
  have hpos : (factor unit : ℚ) ≠ 0 := by
    cases unit <;> norm_num [factor]
  rw [bytes_eq]
  show truncate ((n : ℚ) / factor unit * factor unit) = n
  rw [div_mul_cancel₀ _ hpos, truncate_intCast]

end Bounds

/-! ## A volume in tebibytes -/

/-- One tebibyte, with `t3.medium` and without the hibernation. -/
def oneTebibyte : VolumeRequest where
  session := sessionWith "t3.medium"
  type := none
  rootVolumeSize := some ⟨1, .tib⟩

/-- The setting allows up to 1000. -/
def upToThousand : VolumeServices where
  env := onlyT3
  maxRootVolumeMemory := .ok (some 1000)
  numberText _ := "1"
  baseOsText _ := "amazonlinux2"

end ContainRes.VirtualDesktop.InstanceTypes
