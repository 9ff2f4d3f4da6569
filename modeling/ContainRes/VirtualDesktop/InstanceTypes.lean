import ContainRes.Systems.Guarded
import ContainRes.VirtualDesktop.InstancePolicy
import ContainRes.VirtualDesktop.ReadIsolation

/-! # The instance types of sessions

The requests that give a session an instance type: `create_session` of both APIs and
`batch_create_sessions`, which validate the type, and `update_session`, which does not. A request carries
the configuration that is in force and the answers of the other services.

* **`validateCreateSessionRequest`** — the validation up to the instance type; the checks after it are an
  answer of the environment.
* **`createSession`**, **`updateSession`** — the requests; what they give a session is kept as `Setting`s.
* **`Setting.Allowed`**, **`Setting.WithinLists`** — the policy.
* **`settings_allowed`** — every setting of a run is within the policy, if every update asks for a type that is. -/

namespace ContainRes.VirtualDesktop.InstanceTypes

open Effects Store Systems Text
open SessionPermissions SoftwareStacks

/-! ## Requests -/

/-- What is read of a project of a user. -/
structure UserProject where
  projectId : Option String
  name : Option String
  enableBudgets : Option Bool
  /-- `budget.budget_name`. -/
  budgetName : Option String
  deriving DecidableEq, Repr

/-- The server of a request. -/
structure ServerRequest where
  instanceId : Option String := none
  instanceType : Option String := none
  deriving DecidableEq, Repr

/-- The key of a software stack in a request. -/
structure StackRequest where
  stackId : Option String
  baseOs : Option BaseOS
  deriving DecidableEq, Repr

/-- The session of a request. -/
structure SessionRequest where
  owner : Option String := none
  ideaSessionId : Option String := none
  projectId : Option String := none
  softwareStack : Option StackRequest := none
  hibernationEnabled : Option Bool := none
  server : Option ServerRequest := none
  deriving DecidableEq, Repr

/-- A session whose request is valid. -/
structure ValidSession where
  project : UserProject
  softwareStack : SoftwareStack
  hibernationEnabled : Bool
  instanceType : String
  deriving DecidableEq

/-- Why a request is not carried out: an exception, or a failure reason. -/
inductive Rejection
  | raised (e : Exc)
  | failure (reason : String)
  deriving DecidableEq

/-- The configuration that is in force, and the answers of the other services to a request. -/
structure Environment where
  config : InstanceTypesConfig
  cache : InstanceTypeCache
  softwareStackDb : BaseOS → String → Except Exc (Option SoftwareStack)
  getUserProjects : Option String → Except Exc (List UserProject)
  enforceProjectBudgets : Bool
  /-- Whether more is spent than the budget allows, for a budget that there is. -/
  isBudgetExceeded : String → Except Exc (Option Bool)
  /-- The failure reason of the checks that follow, on the operating system, the type of the session and
  the root volume. -/
  technicalValidations : SessionRequest → ValidSession → Except Exc (Option String)
  /-- `modify_instance_attribute` succeeds. -/
  modifyInstanceAttribute : String → String → Bool

/-! ## Validation -/

section Validation

variable (env : Environment) (session : SessionRequest)

/-- An exception of a service. -/
def raising {α : Type} : Except Exc α → Except Rejection α
  | .ok a => .ok a
  | .error e => .error (.raised e)

/-- A failure reason, unless a condition holds. -/
def demand (condition : Bool) (reason : String) : Except Rejection PUnit :=
  if condition then .ok ⟨⟩ else .error (.failure reason)

/-- A value as it is printed. -/
def textOrNone (value : Option String) : String := value.getD "None"

/-- The project of the user that the request names. -/
def findUserProject : Except Rejection UserProject := do
  demand (!isEmptyOpt session.projectId) "missing session.project.project_id"
  let projects ← raising (env.getUserProjects session.owner)
  match projects.find? fun project => project.projectId = session.projectId with
  | some project => .ok project
  | none => .error (.failure ("User " ++ textOrNone session.owner ++ " does not belong in project_id " ++
      textOrNone session.projectId))

/-- The software stack that the request names, which lists the project. -/
def findSoftwareStack (project : UserProject) : Except Rejection SoftwareStack :=
  match session.softwareStack with
  | none => .error (.failure "missing session.software_stack")
  | some stack =>
    match stack.stackId, stack.baseOs with
    | some stackId, some baseOs =>
      if isEmpty stackId then
        .error (.failure "missing session.software_stack.stack_id and/or session.software_stack.base_os")
      else do
        match ← raising (env.softwareStackDb baseOs stackId) with
        | none => .error (.failure ("Invalid session.software_stack.stack_id: " ++ stackId))
        | some found => do
          demand ((found.projects.getD []).contains project.projectId)
            ("session.software_stack.stack_id: " ++ textOrNone found.stackId ++
              " is not part of session.project.project_id: " ++ textOrNone project.projectId)
          return found
    | _, _ => .error (.failure "missing session.software_stack.stack_id and/or session.software_stack.base_os")

def UserProject.isBudgetsEnabled (project : UserProject) : Bool :=
  project.enableBudgets.getD false && !isEmptyOpt project.budgetName

/-- The budget of the project. -/
def checkBudget (project : UserProject) : Except Rejection PUnit :=
  if env.enforceProjectBudgets && project.isBudgetsEnabled then
    match getAsString project.budgetName with
    | none => .ok ⟨⟩
    | some budgetName => do
      let exceeded ← raising (env.isBudgetExceeded budgetName)
      demand (exceeded ≠ some true) ("Project " ++ budgetName ++
        " budget has been exceeded. Unable to start session. Contact your Administrator.")
  else .ok ⟨⟩

/-- `Utils.get_value_as_string('InstanceType', instance_type, '')`. -/
def typeName (info : InstanceInfo) : String := (getAsString (some info.instanceType)).getD ""

/-- The instance type is among the valid ones. -/
def checkInstanceType (hibernationEnabled : Bool) (softwareStack : SoftwareStack) (instanceType : String) :
    Except Rejection PUnit := do
  let types ← raising (getValidInstanceTypes env.config env.cache hibernationEnabled (some softwareStack) none)
  demand (types.any fun info => instanceType = typeName info)
    ("Invalid session.server.instance_type: " ++ instanceType ++ ". Not allowed for current configuration")

/-- The instance type of the request. -/
def requestedType : Except Rejection String :=
  match session.server with
  | none => .error (.failure "missing session.server.instance_type")
  | some server =>
    match server.instanceType with
    | none => .error (.failure "missing session.server.instance_type")
    | some instanceType => do
      demand (!isEmpty instanceType) "missing session.server.instance_type"
      return instanceType

def validateCreateSessionRequest : Except Rejection ValidSession := do
  let project ← findUserProject env session
  let softwareStack ← findSoftwareStack env session project
  checkBudget env project
  match session.hibernationEnabled with
  | none => .error (.failure "missing session.hibernation_enabled")
  | some hibernationEnabled => do
    let instanceType ← requestedType session
    checkInstanceType env hibernationEnabled softwareStack instanceType
    let valid : ValidSession := ⟨project, softwareStack, hibernationEnabled, instanceType⟩
    match ← raising (env.technicalValidations session valid) with
    | none => .ok valid
    | some reason => .error (.failure reason)

end Validation

/-! ## The sessions and their types -/

/-- A session in the table. -/
structure TypedSession where
  hibernationEnabled : Bool
  softwareStack : SoftwareStack
  instanceId : String
  instanceType : String
  deriving DecidableEq

/-- An instance type that a session was given, and what the policy looks at. -/
structure Setting where
  config : InstanceTypesConfig
  cache : InstanceTypeCache
  hibernationEnabled : Bool
  softwareStack : SoftwareStack
  instanceType : String

/-- The tables, and the settings in the order in which they were made. -/
structure State where
  sessions : Table (String × String) TypedSession
  /-- The instance types by the id of the instance. -/
  servers : Table String String
  settings : List Setting

/-- Who sends a request. -/
inductive Caller
  | admin
  /-- A user, and whether the quota leaves room for a session. -/
  | user (username : String) (withinQuota : Bool)

/-- A request to create a session: its id, the instance that is launched and whether its schedules are
stored. -/
structure CreateRequest where
  session : SessionRequest
  ideaSessionId : String
  launched : Except Exc String
  scheduled : Except Exc PUnit

/-- The session of a request in the name of its caller, if the caller may name its owner. -/
def inNameOf (caller : Caller) (session : SessionRequest) : Option SessionRequest :=
  match caller with
  | .admin => some session
  | .user username _ =>
    if ReadIsolation.validateOwner username session.owner then some { session with owner := some username }
    else none

/-- `provision_host_for_session` and `session_db.create`, for a valid session. -/
def createSessionImpl (env : Environment) (request : CreateRequest) (owner : Option String)
    (valid : ValidSession) : Proc State Exc PUnit :=
  match request.launched with
  -- the exception is the failure reason
  | .error _ => pure ⟨⟩
  | .ok instanceId => do
    Proc.modify fun s => { s with
      servers := s.servers.putItem instanceId valid.instanceType
      settings := s.settings ++
        [⟨env.config, env.cache, valid.hibernationEnabled, valid.softwareStack, valid.instanceType⟩] }
    Proc.liftExcept request.scheduled
    Proc.modify fun s => { s with
      sessions := s.sessions.putItem (owner.getD "", request.ideaSessionId)
        ⟨valid.hibernationEnabled, valid.softwareStack, instanceId, valid.instanceType⟩ }

/-- A session is validated and created. -/
def createValidated (env : Environment) (request : CreateRequest) (session : SessionRequest) :
    Proc State Exc PUnit :=
  match validateCreateSessionRequest env session with
  | .error (.raised e) => Proc.raise e
  | .error (.failure _) => pure ⟨⟩
  | .ok valid => createSessionImpl env request session.owner valid

/-- `create_session` of the API of the caller. -/
def createSession (env : Environment) (caller : Caller) (request : CreateRequest) : Proc State Exc PUnit :=
  match inNameOf caller request.session, caller with
  | none, _ => pure ⟨⟩
  | some _, .user _ false => pure ⟨⟩
  | some session, _ => createValidated env request session

def batchCreateSessions (env : Environment) (requests : List CreateRequest) : Proc State Exc PUnit :=
  Proc.forEach (fun request => createValidated env request request.session) requests

/-- The row that `_update_session` reads. -/
def oldSession (s : State) (session : SessionRequest) : Option TypedSession :=
  if isEmptyOpt session.owner || isEmptyOpt session.ideaSessionId then none
  else s.sessions.getItem (session.owner.getD "", session.ideaSessionId.getD "")

/-- The part of `_update_session` about the instance type. The server is looked up under the id that the
request names, and the type goes to the server of the session. -/
def updateInstanceType (env : Environment) (session : SessionRequest) (scheduled : Except Exc PUnit)
    (old : TypedSession) : Proc State Exc PUnit :=
  match session.server with
  | none => pure ⟨⟩
  | some server =>
    match server.instanceType with
    | none => pure ⟨⟩
    | some instanceType =>
      if isEmpty instanceType then pure ⟨⟩
      else if isEmptyOpt server.instanceId then Proc.raise (Exc.invalidParams "instance_id is required")
      else do
        let instanceId := server.instanceId.getD ""
        let oldType ← Proc.gets fun s : State => s.servers.getItem instanceId
        if oldType = none ∨ oldType = some instanceType then pure ⟨⟩
        else if old.hibernationEnabled then pure ⟨⟩
        else if env.modifyInstanceAttribute instanceId instanceType then do
          Proc.modify fun s => { s with
            settings := s.settings ++
              [⟨env.config, env.cache, old.hibernationEnabled, old.softwareStack, instanceType⟩] }
          Proc.liftExcept scheduled
          Proc.modify fun s => { s with
            sessions := s.sessions.putItem (session.owner.getD "", session.ideaSessionId.getD "")
              { old with instanceType }
            servers := s.servers.putItem old.instanceId instanceType }
        else pure ⟨⟩

/-- `update_session` of the API of the caller; the schedules of the session are stored or not. -/
def updateSession (env : Environment) (caller : Caller) (request : SessionRequest)
    (scheduled : Except Exc PUnit) : Proc State Exc PUnit :=
  match inNameOf caller request with
  | none => pure ⟨⟩
  | some session => do
    let old ← Proc.gets fun s => oldSession s session
    match old with
    | none => pure ⟨⟩
    | some old => updateInstanceType env session scheduled old

/-- A request with the environment in which it is carried out. -/
inductive Request
  | createSession (env : Environment) (caller : Caller) (request : CreateRequest)
  | batchCreateSessions (env : Environment) (requests : List CreateRequest)
  | updateSession (env : Environment) (caller : Caller) (session : SessionRequest)
      (scheduled : Except Exc PUnit)

/-- What a request does. -/
def perform : Request → Proc State Exc PUnit
  | .createSession env caller request => createSession env caller request
  | .batchCreateSessions env requests => batchCreateSessions env requests
  | .updateSession env caller session scheduled => updateSession env caller session scheduled

/-- Runs of requests, from tables without settings. -/
def requests : System State Request where
  init s := s.settings = []
  next s request := some ((perform request).run s).2

/-! ## The policy -/

/-- The type is among the valid ones for the session. -/
def Setting.Allowed (x : Setting) : Prop :=
  ∃ types, getValidInstanceTypes x.config x.cache x.hibernationEnabled (some x.softwareStack) none = .ok types ∧
    ∃ info ∈ types, x.instanceType = typeName info

/-- The type is that of a name that is allowed and not denied, with the memory that the stack asks for. -/
def Setting.WithinLists (x : Setting) : Prop :=
  ∃ name info, x.cache.info name = some info ∧ x.instanceType = typeName info ∧
    (name ∈ x.config.allow ∨ familyOf name ∈ x.config.allow) ∧
    ¬ (name ∈ x.config.deny ∨ familyOf name ∈ x.config.deny) ∧
    exceeds x.softwareStack.minRam (getInstanceRam info) = false

/-- What is valid is within the lists. -/
theorem Setting.Allowed.withinLists {x : Setting} (h : x.Allowed) : x.WithinLists := by
  obtain ⟨types, htypes, info, hinfo, htype⟩ := h
  obtain ⟨name, -, haccepts⟩ := (mem_getValidInstanceTypes htypes).mp hinfo
  obtain ⟨hallow, hdeny, -, hdescribed, hvalid⟩ := accepts_eq_some haccepts
  refine ⟨name, info, hdescribed, htype, listed_iff.mp hallow, ?_, (acceptsInfo_true hvalid).1 _ rfl⟩
  rw [← listed_iff, hdeny]
  exact Bool.false_ne_true

/-- The request asks a session for another type than its server has, and the session may change it. -/
structure Asks (s : State) (session : SessionRequest) (old : TypedSession) (instanceType : String) : Prop where
  found : oldSession s session = some old
  notHibernating : old.hibernationEnabled = false
  another : ∃ server ∈ session.server, server.instanceType = some instanceType ∧
    ∃ oldType ∈ s.servers.getItem (server.instanceId.getD ""), oldType ≠ instanceType

/-- Every update asks for a type that the policy allows the session. -/
def Compliant (s : State) : Request → Prop
  | .updateSession env caller request _ => ∀ session ∈ inNameOf caller request, ∀ old instanceType,
      Asks s session old instanceType →
        Setting.Allowed ⟨env.config, env.cache, old.hibernationEnabled, old.softwareStack, instanceType⟩
  | _ => True

/-! ## What a request keeps -/

section Validated

variable {env : Environment} {session : SessionRequest}

theorem raising_eq_ok {α : Type} {r : Except Exc α} {a : α} : raising r = .ok a ↔ r = .ok a := by
  cases r <;> simp [raising]

theorem demand_eq_ok {condition : Bool} {reason : String} {u : PUnit} :
    demand condition reason = .ok u ↔ condition = true := by
  cases condition <;> simp [demand]

/-- What passes the check of the type is allowed. -/
theorem checkInstanceType_ok {hibernationEnabled : Bool} {softwareStack : SoftwareStack}
    {instanceType : String} {u : PUnit}
    (h : checkInstanceType env hibernationEnabled softwareStack instanceType = .ok u) :
    Setting.Allowed ⟨env.config, env.cache, hibernationEnabled, softwareStack, instanceType⟩ := by
  rw [checkInstanceType] at h
  obtain ⟨types, htypes, hdemand⟩ := bind_eq_ok.mp h
  obtain ⟨info, hinfo, htype⟩ := List.any_eq_true.mp (demand_eq_ok.mp hdemand)
  exact ⟨types, raising_eq_ok.mp htypes, info, hinfo, of_decide_eq_true htype⟩

/-- **A valid request has an allowed type.** -/
theorem validateCreateSessionRequest_ok {valid : ValidSession}
    (h : validateCreateSessionRequest env session = .ok valid) : Setting.Allowed
      ⟨env.config, env.cache, valid.hibernationEnabled, valid.softwareStack, valid.instanceType⟩ := by
  rw [validateCreateSessionRequest] at h
  obtain ⟨project, -, h⟩ := bind_eq_ok.mp h
  obtain ⟨softwareStack, -, h⟩ := bind_eq_ok.mp h
  obtain ⟨-, -, h⟩ := bind_eq_ok.mp h
  split at h
  · cases h
  · obtain ⟨instanceType, -, h⟩ := bind_eq_ok.mp h
    obtain ⟨_, hchecked, h⟩ := bind_eq_ok.mp h
    obtain ⟨reason, -, h⟩ := bind_eq_ok.mp h
    -- the checks that follow only add a failure reason
    cases reason with
    | none =>
      cases h
      exact checkInstanceType_ok hchecked
    | some reason => cases h

end Validated

/-- Every setting so far is allowed. -/
def AllAllowed (s : State) : Prop := ∀ x ∈ s.settings, x.Allowed

theorem AllAllowed.append {s t : State} {x : Setting} (h : AllAllowed s) (hx : x.Allowed)
    (hsettings : t.settings = s.settings ++ [x]) : AllAllowed t := by
  intro y hy
  rw [hsettings, List.mem_append, List.mem_singleton] at hy
  rcases hy with hy | rfl
  · exact h y hy
  · exact hx

theorem AllAllowed.of_eq {s t : State} (h : AllAllowed s) (hsettings : t.settings = s.settings) : AllAllowed t := by
  rw [AllAllowed, hsettings]
  exact h

variable {env : Environment}

theorem keeps_createSessionImpl (request : CreateRequest) (owner : Option String) {valid : ValidSession}
    (hvalid : Setting.Allowed
      ⟨env.config, env.cache, valid.hibernationEnabled, valid.softwareStack, valid.instanceType⟩) :
    Keeps AllAllowed (createSessionImpl env request owner valid) := by
  unfold createSessionImpl
  split
  · exact Keeps.pure _
  · refine Keeps.bind (Keeps.modify fun s hs => hs.append hvalid rfl) fun _ => ?_
    exact Keeps.bind (Keeps.liftExcept _) fun _ => Keeps.modify fun s hs => hs.of_eq rfl

theorem keeps_createValidated (request : CreateRequest) (session : SessionRequest) :
    Keeps AllAllowed (createValidated env request session) := by
  unfold createValidated
  split
  · exact Keeps.raise _
  · exact Keeps.pure _
  · rename_i hvalid
    exact keeps_createSessionImpl request session.owner (validateCreateSessionRequest_ok hvalid)

theorem keeps_createSession (caller : Caller) (request : CreateRequest) :
    Keeps AllAllowed (createSession env caller request) := by
  unfold createSession
  split
  · exact Keeps.pure _
  · exact Keeps.pure _
  · exact keeps_createValidated request _

theorem keeps_batchCreateSessions (requests : List CreateRequest) :
    Keeps AllAllowed (batchCreateSessions env requests) :=
  Keeps.forEach fun request _ => keeps_createValidated request request.session

/-- An update keeps the policy in the states in which it asks for an allowed type. -/
theorem allAllowed_updateInstanceType {s : State} (h : AllAllowed s) {session : SessionRequest}
    {old : TypedSession} (scheduled : Except Exc PUnit) (hfound : oldSession s session = some old)
    (hallowed : ∀ instanceType, Asks s session old instanceType →
      Setting.Allowed ⟨env.config, env.cache, old.hibernationEnabled, old.softwareStack, instanceType⟩) :
    AllAllowed ((updateInstanceType env session scheduled old).run s).2 := by
  unfold updateInstanceType
  split
  · exact h
  · rename_i server hserver
    split
    · exact h
    · rename_i instanceType htype
      split
      · exact h
      · split
        · exact h
        · rw [Proc.run_bind]
          show AllAllowed (Proc.run (if _ then _ else _) s).2
          split
          · exact h
          · rename_i hother
            split
            · exact h
            · rename_i hnotHibernating
              split
              · have hasks : Asks s session old instanceType := by
                  refine ⟨hfound, by simpa using hnotHibernating, server, hserver, htype, ?_⟩
                  push Not at hother
                  obtain ⟨oldType, hold⟩ := Option.ne_none_iff_exists'.mp hother.1
                  refine ⟨oldType, hold, fun heq => hother.2 ?_⟩
                  rw [hold, heq]
                refine Keeps.run (Keeps.bind (Keeps.modify fun s hs => ?_) fun _ => ?_) h
                · exact hs.append (hallowed instanceType hasks) rfl
                · exact Keeps.bind (Keeps.liftExcept _) fun _ => Keeps.modify fun s hs => hs.of_eq rfl
              · exact h

/-- Every compliant request keeps the policy. -/
theorem allAllowed_perform {s : State} {request : Request} (h : AllAllowed s) (hguard : Compliant s request) :
    AllAllowed ((perform request).run s).2 := by
  cases request with
  | createSession env caller request => exact (keeps_createSession caller request).run h
  | batchCreateSessions env requests => exact (keeps_batchCreateSessions requests).run h
  | updateSession env caller request scheduled =>
    show AllAllowed ((updateSession env caller request scheduled).run s).2
    unfold updateSession
    split
    · exact h
    · rename_i session hsession
      rw [Proc.run_bind]
      cases hfound : oldSession s session with
      | none =>
        simp only [Proc.run_gets, hfound]
        exact h
      | some old =>
        simp only [Proc.run_gets, hfound]
        exact allAllowed_updateInstanceType h scheduled hfound fun instanceType hasks =>
          hguard session hsession old instanceType hasks

/-- **The policy binds the sessions.** In every state that compliant requests reach, each type that a
session was given is among those that were valid for it, and within the lists of the configuration. -/
theorem settings_allowed {s : State} (h : requests.Reach Compliant s) :
    ∀ x ∈ s.settings, x.Allowed ∧ x.WithinLists := by
  have hall : AllAllowed s := by
    refine h.invariant (fun s hs => ?_) fun s request t hs hguard hnext => ?_
    · intro x hx
      rw [show s.settings = [] from hs] at hx
      exact absurd hx List.not_mem_nil
    · cases hnext
      exact allAllowed_perform hs hguard
  intro x hx
  exact ⟨hall x hx, (hall x hx).withinLists⟩

/-! ## A type changed after the creation -/

/-- An instance type with its memory. -/
def ofMemory (instanceType : String) (sizeInMiB : ℚ) : InstanceInfo :=
  ⟨instanceType, sizeInMiB, false, ["x86_64"], []⟩

/-- A software stack that asks for 4 GB. -/
def amazonLinux : SoftwareStack where
  stackId := some "stack-1"
  baseOs := some .amazonLinux2
  minRam := some ⟨4, .gb⟩
  architecture := some .x86_64
  gpu := some .noGpu
  projects := some [some "project-1"]

/-- The family `t3` is allowed, and the family `m5` is not. -/
def onlyT3 : Environment where
  config := ⟨["t3"], []⟩
  cache := addInstanceDataToCache [ofMemory "t3.medium" 4096, ofMemory "t3.large" 8192, ofMemory "m5.large" 8192]
  softwareStackDb _ _ := .ok (some amazonLinux)
  getUserProjects _ := .ok [⟨some "project-1", some "genomics", none, none⟩]
  enforceProjectBudgets := false
  isBudgetExceeded _ := .ok none
  technicalValidations _ _ := .ok none
  modifyInstanceAttribute _ _ := true

/-- A session with a type. -/
def sessionWith (instanceType : String) : SessionRequest where
  owner := some "clara"
  projectId := some "project-1"
  softwareStack := some ⟨some "stack-1", some .amazonLinux2⟩
  hibernationEnabled := some false
  server := some { instanceType := some instanceType }

/-- A request for a session with `t3.medium`. -/
def create : Request :=
  .createSession onlyT3 (.user "clara" true)
    { session := sessionWith "t3.medium", ideaSessionId := "s1", launched := .ok "i-1", scheduled := .ok ⟨⟩ }

/-- A request for another type for the session. -/
def changeTo (instanceType : String) : Request :=
  .updateSession onlyT3 (.user "clara" true)
    { owner := some "clara"
      ideaSessionId := some "s1"
      server := some { instanceId := some "i-1", instanceType := some instanceType } } (.ok ⟨⟩)

/-- What the policy looks at for the session. -/
def settingOf (instanceType : String) : Setting :=
  ⟨onlyT3.config, onlyT3.cache, false, amazonLinux, instanceType⟩

/-- The state after the session is created. -/
def created : State :=
  ⟨(∅ : Table _ _).putItem ("clara", "s1") ⟨false, amazonLinux, "i-1", "t3.medium"⟩,
    (∅ : Table _ _).putItem "i-1" "t3.medium", [settingOf "t3.medium"]⟩

/-- The state after its type is changed. -/
def changed (instanceType : String) : State :=
  ⟨created.sessions.putItem ("clara", "s1") ⟨false, amazonLinux, "i-1", instanceType⟩,
    created.servers.putItem "i-1" instanceType, [settingOf "t3.medium", settingOf instanceType]⟩

theorem getValidInstanceTypes_onlyT3 : getValidInstanceTypes onlyT3.config onlyT3.cache false (some amazonLinux) none =
      .ok [ofMemory "t3.medium" 4096, ofMemory "t3.large" 8192] := by
  decide +kernel

theorem next_create : requests.next ⟨∅, ∅, []⟩ create = some created := by
  have hvalid : validateCreateSessionRequest onlyT3 (sessionWith "t3.medium") =
      .ok ⟨⟨some "project-1", some "genomics", none, none⟩, amazonLinux, false, "t3.medium"⟩ := by
    decide +kernel
  show some ((createValidated onlyT3 _ (sessionWith "t3.medium")).run _).2 = _
  rw [createValidated, hvalid]
  rfl

theorem next_changeTo_large : requests.next created (changeTo "t3.large") = some (changed "t3.large") := rfl

theorem next_changeTo_m5 : requests.next created (changeTo "m5.large") = some (changed "m5.large") := rfl

theorem reach_created {guard : State → Request → Prop} (h : guard ⟨∅, ∅, []⟩ create) :
    requests.Reach guard created := by
  have hinit : requests.init ⟨∅, ∅, []⟩ := rfl
  exact (System.Reach.init hinit).step h next_create

/-- A session may change to another type of the family. -/
theorem settings_allowed_large : (changed "t3.large").settings = [settingOf "t3.medium", settingOf "t3.large"] ∧
    ∀ x ∈ (changed "t3.large").settings, x.Allowed ∧ x.WithinLists := by
  refine ⟨rfl, settings_allowed ((reach_created trivial).step ?_ next_changeTo_large)⟩
  rintro session hsession old instanceType ⟨hfound, -, server, hserver, htype, -⟩
  cases Option.mem_def.mp hsession
  cases Option.mem_def.mp hserver
  cases htype
  rw [show oldSession created _ = some ⟨false, amazonLinux, "i-1", "t3.medium"⟩ from rfl] at hfound
  cases hfound
  exact ⟨_, getValidInstanceTypes_onlyT3, ofMemory "t3.large" 8192, by simp, rfl⟩

/-- **A type that is not allowed.** A session that was created with an allowed type is changed to one whose
family no list allows. -/
theorem changed_to_other_family : ¬ ∀ s, requests.Reachable s → ∀ x ∈ s.settings, x.Allowed := by
  intro hall
  have hreach : requests.Reachable (changed "m5.large") := (reach_created trivial).step trivial next_changeTo_m5
  obtain ⟨types, htypes, info, hinfo, htype⟩ := hall _ hreach (settingOf "m5.large") (by simp [changed])
  cases getValidInstanceTypes_onlyT3.symm.trans htypes
  simp only [List.mem_cons, List.not_mem_nil, or_false] at hinfo
  rcases hinfo with rfl | rfl <;> revert htype <;> decide

end ContainRes.VirtualDesktop.InstanceTypes
