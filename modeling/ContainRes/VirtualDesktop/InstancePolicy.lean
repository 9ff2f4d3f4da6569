import ContainRes.VirtualDesktop.SoftwareStackDb

/-! # The instance types that are valid for a session

`VirtualDesktopControllerUtils.get_valid_instance_types`: of the instance types that EC2 describes, those
that the configuration allows by name or by family and does not deny, and that fit the software stack, the
hibernation of the session and its GPU.

* **`InstanceInfo`**, **`InstanceTypeCache`** — what EC2 says of an instance type, and the cache of it.
* **`accepts`** — the checks on one instance type, in their order.
* **`getValidInstanceTypes`** — the list.
* **`mem_getValidInstanceTypes`**, **`accepts_eq_some`** — which instance types are in it. -/

namespace ContainRes.VirtualDesktop.InstanceTypes

open Text
open SoftwareStacks

/-- What `describe_instance_types` answers for an instance type. -/
structure InstanceInfo where
  instanceType : String
  /-- `MemoryInfo.SizeInMiB`. -/
  sizeInMiB : ℚ
  hibernationSupported : Bool
  /-- `ProcessorInfo.SupportedArchitectures`. -/
  supportedArchitectures : List String
  /-- The `Manufacturer` of each entry of `GpuInfo.Gpus`. -/
  gpus : List String
  deriving DecidableEq, Repr

/-- The names in the order in which they were described, and the description by name. -/
structure InstanceTypeCache where
  names : List String
  info : String → Option InstanceInfo

/-- `_add_instance_data_to_cache`, for the descriptions of all pages. -/
def addInstanceDataToCache (described : List InstanceInfo) : InstanceTypeCache where
  names := described.map (·.instanceType)
  info name := described.reverse.find? fun info => info.instanceType = name

/-- The lists of `dcv_session.instance_types`. -/
structure InstanceTypesConfig where
  allow : List String
  deny : List String
  deriving DecidableEq, Repr

/-- `VirtualDesktopArchitecture.value`. -/
def architectureValue : Architecture → String
  | .x86_64 => "x86_64"
  | .arm64 => "arm64"

/-- `VirtualDesktopGPU.value`. -/
def gpuValue : GPU → String
  | .noGpu => "NO_GPU"
  | .nvidia => "NVIDIA"
  | .amd => "AMD"

/-- `instance_type_name.split('.')[0]`. -/
def familyOf (name : String) : String := ((splitChar '.' name).head?).getD ""

/-- Whether a list has an entry for the name or its family. Entries with a dot are names, the others are
families. -/
def listed (entries : List String) (name : String) : Bool :=
  (entries.filter fun entry => contains "." entry).contains name ||
    (entries.filter fun entry => !contains "." entry).contains (familyOf name)

def getInstanceRam (info : InstanceInfo) : SocaMemory := ⟨info.sizeInMiB, .mib⟩

/-- `min_ram > ram`; a missing amount is not greater. -/
def exceeds (minRam : Option SocaMemory) (ram : SocaMemory) : Bool :=
  match minRam with
  | none => false
  | some minRam => ram.bytes < minRam.bytes

/-- The GPU that is checked, if one is: the one that is asked for, or for Windows the one of the stack, or
for the other systems the one of the stack unless that is `NO_GPU`. -/
def gpuToCheck (softwareStack : Option SoftwareStack) (gpu : Option GPU) : Option (Option GPU) :=
  match gpu, softwareStack with
  | some gpu, _ => some (some gpu)
  | none, none => none
  | none, some stack =>
    if stack.baseOs = some .windows then some stack.gpu
    else if stack.gpu = some .noGpu then none
    else some stack.gpu

/-- Whether the GPUs are what is checked for. -/
def hasGpu (info : InstanceInfo) : Option GPU → Except Exc Bool
  | some .noGpu => .ok (info.gpus = [])
  | some gpu => .ok (info.gpus.any fun manufacturer => lower (gpuValue gpu) = lower manufacturer)
  | none =>
    if info.gpus = [] then .ok false
    else .error (.other .attributeError "'NoneType' object has no attribute 'value'")

variable (config : InstanceTypesConfig) (cache : InstanceTypeCache) (hibernationSupport : Bool)
  (softwareStack : Option SoftwareStack) (gpu : Option GPU)

/-- The description of a name. -/
def describe (name : String) : Except Exc InstanceInfo :=
  match cache.info name with
  | none => .error (.other .keyError name)
  | some info => .ok info

/-- Whether the architecture of a stack is supported. -/
def supportsArchitecture (info : InstanceInfo) : Option SoftwareStack → Except Exc Bool
  | none => .ok true
  | some stack =>
    match stack.architecture with
    | none => .error (.other .attributeError "'NoneType' object has no attribute 'value'")
    | some architecture => .ok (info.supportedArchitectures.contains (architectureValue architecture))

/-- The part of the checks that looks at the description. -/
def acceptsInfo (info : InstanceInfo) : Except Exc Bool :=
  if softwareStack.any fun stack => exceeds stack.minRam (getInstanceRam info) then .ok false
  else if hibernationSupport && !info.hibernationSupported then .ok false
  else do
    let supported ← supportsArchitecture info softwareStack
    if supported then
      match gpuToCheck softwareStack gpu with
      | none => .ok true
      | some gpu => hasGpu info gpu
    else .ok false

/-- The checks on one instance type: the description, if it is valid. -/
def accepts (name : String) : Except Exc (Option InstanceInfo) :=
  if softwareStack.any (fun stack => stack.baseOs = some .rhel8) && familyOf name = "g4dn" then .ok none
  else if !listed config.allow name then .ok none
  else if listed config.deny name then .ok none
  else do
    let info ← describe cache name
    let valid ← acceptsInfo hibernationSupport softwareStack gpu info
    return if valid then some info else none

/-- The loop over the names. -/
def validOf : List String → Except Exc (List InstanceInfo)
  | [] => .ok []
  | name :: rest => do
    let info ← accepts config cache hibernationSupport softwareStack gpu name
    let others ← validOf rest
    return info.toList ++ others

def getValidInstanceTypes : Except Exc (List InstanceInfo) :=
  validOf config cache hibernationSupport softwareStack gpu cache.names

/-! ## What is valid -/

variable {config cache hibernationSupport softwareStack gpu} {name : String} {info : InstanceInfo}

theorem mem_validOf {names : List String} {types : List InstanceInfo}
    (h : validOf config cache hibernationSupport softwareStack gpu names = .ok types) : info ∈ types ↔
      ∃ name ∈ names, accepts config cache hibernationSupport softwareStack gpu name = .ok (some info) := by
  induction names generalizing types with
  | nil =>
    cases h
    simp
  | cons first rest ih =>
    rw [validOf] at h
    cases hfirst : accepts config cache hibernationSupport softwareStack gpu first with
    | error e =>
      rw [hfirst] at h
      cases h
    | ok found =>
      cases hrest : validOf config cache hibernationSupport softwareStack gpu rest with
      | error e =>
        rw [hfirst, hrest] at h
        cases h
      | ok others =>
        rw [hfirst, hrest] at h
        cases h
        simp only [List.mem_append, Option.mem_toList, List.exists_mem_cons_iff, ih hrest, hfirst, Except.ok.injEq]

/-- **The valid instance types.** A description is in the list when it is that of a name that passes the
checks. -/
theorem mem_getValidInstanceTypes {types : List InstanceInfo}
    (h : getValidInstanceTypes config cache hibernationSupport softwareStack gpu = .ok types) : info ∈ types ↔
      ∃ name ∈ cache.names, accepts config cache hibernationSupport softwareStack gpu name = .ok (some info) :=
  mem_validOf h

theorem head?_splitOn {α : Type} [DecidableEq α] (a : α) (l : List α) :
    (l.splitOn a).head? = some (l.takeWhile (· ≠ a)) := by
  unfold List.splitOn
  induction l with
  | nil => rfl
  | cons x xs ih =>
    rw [List.splitOnP_cons_eq_if_modifyHead]
    by_cases hx : x = a
    · simp [hx]
    · rw [if_neg (by simpa using hx), List.head?_modifyHead, ih]
      simp [hx]

theorem toList_familyOf (name : String) : (familyOf name).toList = name.toList.takeWhile (· ≠ '.') := by
  simp [familyOf, splitChar, head?_splitOn]

theorem contains_dot_iff (s : String) : contains "." s = true ↔ '.' ∈ s.toList := by
  rw [contains_iff]
  exact List.singleton_infix_iff '.' s.toList

theorem contains_dot_familyOf (name : String) : contains "." (familyOf name) = false := by
  rw [← Bool.not_eq_true, contains_dot_iff, toList_familyOf]
  intro hmem
  simpa using List.mem_takeWhile_imp hmem

theorem familyOf_of_no_dot (h : contains "." name = false) : familyOf name = name := by
  rw [← String.toList_inj, toList_familyOf, List.takeWhile_eq_self_iff]
  intro c hc
  have hdot : '.' ∉ name.toList := by
    rw [← contains_dot_iff, h]
    exact Bool.false_ne_true
  simp only [decide_eq_true_eq]
  rintro rfl
  exact hdot hc

/-- A list has an entry for a name when it has the name or its family. -/
theorem listed_iff {entries : List String} : listed entries name = true ↔ name ∈ entries ∨ familyOf name ∈ entries := by
  simp only [listed, Bool.or_eq_true, List.contains_iff_mem, List.mem_filter, Bool.not_eq_true',
    contains_dot_familyOf, and_true]
  rcases hdot : contains "." name with _ | _
  · simp [familyOf_of_no_dot hdot]
  · simp

/-- What passes the checks on the description fits the stack, the hibernation and the GPU. -/
theorem acceptsInfo_true (h : acceptsInfo hibernationSupport softwareStack gpu info = .ok true) :
    (∀ stack ∈ softwareStack, exceeds stack.minRam (getInstanceRam info) = false) ∧
      (hibernationSupport = true → info.hibernationSupported = true) ∧
      supportsArchitecture info softwareStack = .ok true ∧
      ∀ checked ∈ gpuToCheck softwareStack gpu, hasGpu info checked = .ok true := by
  unfold acceptsInfo at h
  split at h
  · cases h
  · rename_i hram
    split at h
    · cases h
    · rename_i hhibernation
      cases harch : supportsArchitecture info softwareStack with
      | error e =>
        rw [harch] at h
        cases h
      | ok supported =>
        rw [harch] at h
        cases supported with
        | false => cases h
        | true =>
          refine ⟨?_, ?_, rfl, ?_⟩
          · intro stack hstack
            rw [Option.mem_def.mp hstack] at hram
            simpa using hram
          · intro hsupport
            simpa [hsupport] using hhibernation
          · intro checked hchecked
            simpa [Option.mem_def.mp hchecked, Bind.bind, Except.bind] using h

/-- What passes the checks is allowed and not denied, and its description passes too. -/
theorem accepts_eq_some (h : accepts config cache hibernationSupport softwareStack gpu name = .ok (some info)) :
    listed config.allow name = true ∧ listed config.deny name = false ∧
      (∀ stack ∈ softwareStack, stack.baseOs = some .rhel8 → familyOf name ≠ "g4dn") ∧
      cache.info name = some info ∧ acceptsInfo hibernationSupport softwareStack gpu info = .ok true := by
  unfold accepts at h
  split at h
  · cases h
  · rename_i hrhel
    split at h
    · cases h
    · rename_i hallow
      split at h
      · cases h
      · rename_i hdeny
        cases hinfo : cache.info name with
        | none =>
          rw [describe, hinfo] at h
          cases h
        | some found =>
          rw [describe, hinfo] at h
          cases hvalid : acceptsInfo hibernationSupport softwareStack gpu found with
          | error e =>
            simp only [Bind.bind, Except.bind, hvalid] at h
            cases h
          | ok valid =>
            simp only [Bind.bind, Except.bind, hvalid, pure, Except.pure, Except.ok.injEq] at h
            split at h
            · rename_i hok
              cases h
              refine ⟨by simpa using hallow, by simpa using hdeny, ?_, rfl, hok ▸ hvalid⟩
              intro stack hstack hos hfamily
              rw [Option.mem_def.mp hstack] at hrhel
              simp [hos, hfamily] at hrhel
            · cases h

end ContainRes.VirtualDesktop.InstanceTypes
