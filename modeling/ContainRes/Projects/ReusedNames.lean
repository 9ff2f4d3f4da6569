import ContainRes.Projects.UniqueNames

/-! # Names that are used again

`create_project` with nothing running beside it, for a name that no project has. The role of a project is named
after it, and neither the deletion nor a new name of a project does anything about its role.

* **`createAlone`** — the method alone.
* **`CreatesRole`** — the call returns, and the role of the name carries what it should.
* **`RoleFree`** — the condition on what earlier projects of the name left in IAM.
* **`createsRole_iff`** — the role is right exactly under the condition; **`project_names`** joins this with the
  result for the interleavings. -/

namespace ContainRes.Projects

open Accounts Effects Store Systems Text Function

/-- `create_project` with nothing running beside it. -/
def createAlone (ids : IdSource) (settings : Stepwise.RoleSettings) (ctx : CreationContext) (project : Project) :
    Proc ServiceWorld Exc String :=
  (Stepwise.createProject settings ctx project).toProc (ServiceAccess.serve ids)

/-- A request that passes all checks, with policies that exist. -/
structure ValidCreation (settings : Stepwise.RoleSettings) (ctx : CreationContext) (project : Project)
    (name : String) (w : ServiceWorld) : Prop where
  named : project.name = some name
  nonblank : isEmpty name = false
  checked : checkNewProject { ctx with createVdiRole := fun _ _ => .ok () } name project = .ok ()
  requested : ∀ arn ∈ Stepwise.requestedPolicies project, arn ∈ w.iam.policies
  required : ∀ arn ∈ settings.requiredPolicyArns, arn ∈ w.iam.policies

/-- The VDI role of the name, if there is one, carries exactly the required policies and those of the
request. -/
def RoleCarries (settings : Stepwise.RoleSettings) (name : String) (requested : List String) (iam : Iam) : Prop :=
  ∀ role, iam.roles.getItem (Stepwise.getVdiRoleName settings (some name)) = some role → role.hasVdiPath = true →
    ∀ arn, arn ∈ role.policyArns ↔ arn ∈ settings.requiredPolicyArns ∨ arn ∈ requested

/-- The call returns, and leaves the role as it should be. -/
def CreatesRole (ids : IdSource) (settings : Stepwise.RoleSettings) (ctx : CreationContext) (project : Project)
    (name : String) (w : ServiceWorld) : Prop :=
  ∃ p w', (createAlone ids settings ctx project).run w = (.ok p, w') ∧
    RoleCarries settings name (Stepwise.requestedPolicies project) w'.iam

/-- What earlier projects of the name left: nothing when a role is to be created, and otherwise no role with
other policies than the required ones. -/
def RoleFree (settings : Stepwise.RoleSettings) (project : Project) (name : String) (w : ServiceWorld) : Prop :=
  if Stepwise.requestedPolicies project = [] then RoleCarries settings name [] w.iam
  else ¬ w.iam.roles.Has (Stepwise.getVdiRoleName settings (some name)) ∧
    ¬ w.iam.instanceProfiles.Has (Stepwise.getVdiRoleName settings (some name))

/-! ## The creation of the role -/

section Role

variable {ids : IdSource} {settings : Stepwise.RoleSettings} {rn : String} {w : ServiceWorld}

variable (ids) in
/-- A call of IAM that works. -/
theorem run_requireIam_of_ok {call : IamAccess} {iam' : Iam} (h : call.serve w.iam = (.ok ⟨⟩, iam'))
    (progress : Stepwise.RoleProgress) : ((Stepwise.requireIam call progress).toProc (ServiceAccess.serve ids)).run w =
      (.ok ⟨⟩, { w with iam := iam' }) := by
  unfold Stepwise.requireIam
  rw [Thread.toProc_bind, Proc.run_bind_of_ok (Thread.run_toProc_perform _ _ _)]
  simp only [ServiceAccess.serve, h]
  rfl

variable (ids) in
theorem run_requireIam_of_error {call : IamAccess} {e : IamError} (h : call.serve w.iam = (.error e, w.iam))
    (progress : Stepwise.RoleProgress) :
    ((Stepwise.requireIam call progress).toProc (ServiceAccess.serve ids)).run w = (.error progress, w) := by
  unfold Stepwise.requireIam
  rw [Thread.toProc_bind, Proc.run_bind_of_ok (Thread.run_toProc_perform _ _ _)]
  simp only [ServiceAccess.serve, h]
  rfl

theorem serve_createRole_of_free {iam : Iam} (h : ¬ iam.roles.Has rn) : (IamAccess.createRole rn).serve iam =
      (.ok ⟨⟩, { iam with roles := iam.roles.putItem rn ⟨true, []⟩ }) := if_neg h

theorem serve_createInstanceProfile_of_free {iam : Iam} (h : ¬ iam.instanceProfiles.Has rn) :
    (IamAccess.createInstanceProfile rn).serve iam =
      (.ok ⟨⟩, { iam with instanceProfiles := iam.instanceProfiles.putItem rn none }) := if_neg h

theorem serve_createInstanceProfile_of_taken {iam : Iam} (h : iam.instanceProfiles.Has rn) :
    (IamAccess.createInstanceProfile rn).serve iam = (.error .entityAlreadyExists, iam) := if_pos h

/-- What the attachment of policies to the role leaves. -/
structure Attached (rn : String) (role : Role) (policyArns : List String) (w w' : ServiceWorld) : Prop where
  policies : w'.iam.policies = w.iam.policies
  role : ∃ role', w'.iam.roles.getItem rn = some role' ∧
    ∀ arn, arn ∈ role'.policyArns ↔ arn ∈ role.policyArns ∨ arn ∈ policyArns

variable {policyArns : List String}

variable (ids) in
/-- Policies that exist are attached to a role that exists. -/
theorem run_attachPolicies (hpolicies : ∀ arn ∈ policyArns, arn ∈ w.iam.policies)
    {role : Role} (hrole : w.iam.roles.getItem rn = some role) (progress : Stepwise.RoleProgress) :
    ∃ progress' w', ((Stepwise.attachPolicies rn policyArns progress).toProc (ServiceAccess.serve ids)).run w =
      (.ok progress', w') ∧ Attached rn role policyArns w w' := by
  induction policyArns generalizing w role progress with
  | nil => exact ⟨progress, w, rfl, rfl, role, hrole, fun arn => by simp⟩
  | cons policyArn rest ih =>
    obtain ⟨role', hrole'⟩ : ∃ role' : Role, role'.policyArns = if policyArn ∈ role.policyArns
        then role.policyArns else role.policyArns ++ [policyArn] := ⟨⟨true, _⟩, rfl⟩
    have hserve : (IamAccess.attachRolePolicy rn policyArn).serve w.iam = (.ok ⟨⟩, { w.iam with
        roles := w.iam.roles.putItem rn { role with policyArns := role'.policyArns } }) := by
      simp only [IamAccess.serve, hrole]
      rw [if_neg (not_not.mpr (hpolicies policyArn List.mem_cons_self)), hrole']
    obtain ⟨progress', w', hrun, hattached⟩ := ih
      (w := { w with iam := { w.iam with
        roles := w.iam.roles.putItem rn { role with policyArns := role'.policyArns } } })
      (fun arn harn => hpolicies arn (List.mem_cons_of_mem _ harn)) (Table.getItem_putItem_self _ _ _)
      { progress with policiesAdded := progress.policiesAdded ++ [policyArn] }
    refine ⟨progress', w', ?_, hattached.policies, ?_⟩
    · rw [Stepwise.attachPolicies, Thread.toProc_bind, Proc.run_bind_of_ok (run_requireIam_of_ok ids hserve _)]
      exact hrun
    · obtain ⟨role'', hget, hmem⟩ := hattached.role
      refine ⟨role'', hget, fun arn => ?_⟩
      rw [hmem, hrole', List.mem_cons]
      split
      · next hold =>
          have : arn = policyArn → arn ∈ role.policyArns := fun heq => heq ▸ hold
          tauto
      · rw [List.mem_append, List.mem_singleton, or_assoc]

/-- The handler of a failed creation returns in no world. -/
theorem rollBackRole_fails (progress : Stepwise.RoleProgress) (p : PUnit) (w' : ServiceWorld) :
    ((Stepwise.rollBackRole rn progress).toProc (ServiceAccess.serve ids)).run w ≠ (.ok p, w') := by
  intro h
  unfold Stepwise.rollBackRole at h
  rw [Thread.toProc_bind] at h
  obtain ⟨_, _, -, h⟩ := Proc.returns_bind.mp h
  rw [Thread.toProc_bind] at h
  obtain ⟨_, _, -, h⟩ := Proc.returns_bind.mp h
  rw [Thread.toProc_bind] at h
  obtain ⟨_, _, -, h⟩ := Proc.returns_bind.mp h
  exact nomatch congrArg Prod.fst h

/-- A creation returns only when there is neither a role nor an instance profile of the name. -/
theorem free_of_createVdiRole {projectName : Option String} {p : PUnit}
    {w' : ServiceWorld} (h : ((Stepwise.createVdiRoleAndInstanceProfile settings projectName policyArns).toProc
      (ServiceAccess.serve ids)).run w = (.ok p, w')) :
    ¬ w.iam.roles.Has (Stepwise.getVdiRoleName settings projectName) ∧
      ¬ w.iam.instanceProfiles.Has (Stepwise.getVdiRoleName settings projectName) := by
  by_contra hfree
  -- a creation whose body fails ends in the handler
  have hfails : ∀ progress w'', ((Stepwise.createRoleAndProfile settings
      (Stepwise.getVdiRoleName settings projectName) policyArns).toProc (ServiceAccess.serve ids)).run w ≠
        (.error progress, w'') := by
    intro progress w'' hbody
    rw [Stepwise.createVdiRoleAndInstanceProfile, Thread.run_toProc_tryCatch_of_error _ hbody] at h
    exact rollBackRole_fails _ _ _ h
  by_cases hrole : w.iam.roles.Has (Stepwise.getVdiRoleName settings projectName)
  · refine hfails {} w ?_
    have hserve : (IamAccess.createRole (Stepwise.getVdiRoleName settings projectName)).serve w.iam =
        (.error .entityAlreadyExists, w.iam) := if_pos hrole
    rw [Stepwise.createRoleAndProfile, Thread.toProc_bind,
      Proc.run_bind_of_error (run_requireIam_of_error ids hserve _)]
  · -- the role is created, and the instance profile is there already
    have hprofile : w.iam.instanceProfiles.Has (Stepwise.getVdiRoleName settings projectName) := by
      by_contra hprofile
      exact hfree ⟨hrole, hprofile⟩
    refine hfails { isVdiRoleCreated := true } { w with iam := { w.iam with
      roles := w.iam.roles.putItem (Stepwise.getVdiRoleName settings projectName) ⟨true, []⟩ } } ?_
    have hrefused := run_requireIam_of_error ids (w := { w with iam := { w.iam with
      roles := w.iam.roles.putItem (Stepwise.getVdiRoleName settings projectName) ⟨true, []⟩ } })
      (serve_createInstanceProfile_of_taken hprofile) { isVdiRoleCreated := true }
    rw [Stepwise.createRoleAndProfile, Thread.toProc_bind,
      Proc.run_bind_of_ok (run_requireIam_of_ok ids (serve_createRole_of_free hrole) _), Thread.toProc_bind,
      Proc.run_bind_of_error hrefused]

variable (ids) in
/-- With neither a role nor an instance profile of the name, the role is created with its policies. -/
theorem run_createVdiRole_of_free {projectName : Option String}
    (hrole : ¬ w.iam.roles.Has (Stepwise.getVdiRoleName settings projectName))
    (hprofile : ¬ w.iam.instanceProfiles.Has (Stepwise.getVdiRoleName settings projectName))
    (hpolicies : ∀ arn ∈ policyArns, arn ∈ w.iam.policies)
    (hrequired : ∀ arn ∈ settings.requiredPolicyArns, arn ∈ w.iam.policies) :
    ∃ w', ((Stepwise.createVdiRoleAndInstanceProfile settings projectName policyArns).toProc
        (ServiceAccess.serve ids)).run w = (.ok ⟨⟩, w') ∧
      ∃ role, w'.iam.roles.getItem (Stepwise.getVdiRoleName settings projectName) = some role ∧
        ∀ arn, arn ∈ role.policyArns ↔ arn ∈ policyArns ∨ arn ∈ settings.requiredPolicyArns := by
  -- the two loops, from the world with an empty role
  obtain ⟨progress₁, w₁, hrun₁, hattached₁⟩ := run_attachPolicies ids
    (w := { w with iam := { w.iam with
      roles := w.iam.roles.putItem (Stepwise.getVdiRoleName settings projectName) ⟨true, []⟩
      instanceProfiles := w.iam.instanceProfiles.putItem (Stepwise.getVdiRoleName settings projectName) none } })
    hpolicies (Table.getItem_putItem_self _ _ _)
    { isVdiRoleCreated := true, isVdiInstanceProfileCreated := true }
  obtain ⟨role₁, hrole₁, hmem₁⟩ := hattached₁.role
  obtain ⟨progress₂, w₂, hrun₂, hattached₂⟩ := run_attachPolicies ids (w := w₁)
    (fun arn harn => by rw [hattached₁.policies]; exact hrequired arn harn) hrole₁ progress₁
  obtain ⟨role₂, hrole₂, hmem₂⟩ := hattached₂.role
  -- the answer of the last call is not looked at, and the call changes no role
  have hroles : ((IamAccess.addRoleToInstanceProfile (Stepwise.getVdiRoleName settings projectName)
      (Stepwise.getVdiRoleName settings projectName)).serve w₂.iam).2.roles = w₂.iam.roles := by
    unfold IamAccess.serve
    dsimp only
    split
    · rfl
    · split <;> rfl
  refine ⟨{ w₂ with iam := ((IamAccess.addRoleToInstanceProfile (Stepwise.getVdiRoleName settings projectName)
    (Stepwise.getVdiRoleName settings projectName)).serve w₂.iam).2 }, Thread.run_toProc_tryCatch_of_ok _ ?_,
    role₂, by rw [hroles]; exact hrole₂, fun arn => ?_⟩
  · have hcreated := run_requireIam_of_ok ids (w := { w with iam := { w.iam with
      roles := w.iam.roles.putItem (Stepwise.getVdiRoleName settings projectName) ⟨true, []⟩ } })
      (serve_createInstanceProfile_of_free hprofile) { isVdiRoleCreated := true }
    rw [Stepwise.createRoleAndProfile, Thread.toProc_bind,
      Proc.run_bind_of_ok (run_requireIam_of_ok ids (serve_createRole_of_free hrole) _), Thread.toProc_bind,
      Proc.run_bind_of_ok hcreated, Thread.toProc_bind, Proc.run_bind_of_ok hrun₁, Thread.toProc_bind,
      Proc.run_bind_of_ok hrun₂]
    rfl
  · rw [hmem₂, hmem₁]
    simp

end Role

/-! ## The method alone -/

section Alone

variable {ids : IdSource} {settings : Stepwise.RoleSettings} {ctx : CreationContext} {project : Project}
  {name : String} {w : ServiceWorld}

/-- The role part of the creation: nothing without policies. -/
def createRoleFor (ids : IdSource) (settings : Stepwise.RoleSettings) (ctx : CreationContext) (project : Project)
    (name : String) : Proc ServiceWorld Exc PUnit :=
  Proc.when (Stepwise.requestedPolicies project ≠ [])
    ((Stepwise.createVdiRoleAndInstanceProfile settings (some name)
      (ctx.setOrder.list (Stepwise.requestedPolicies project))).toProc (ServiceAccess.serve ids))

/-- The end of the creation: the row is put, and the project is enabled. -/
def storeAlone (ids : IdSource) (ctx : CreationContext) (project : Project) (name : String) :
    Proc ServiceWorld Exc String :=
  (Stepwise.perform (.putProject (newRow name project)) >>= fun projectId =>
    Stepwise.enableProject ctx.shortUuid projectId >>= fun _ => Stepwise.getProjectById projectId >>= fun row =>
      (match row with
        | none => Thread.raise (.soca .projectNotFound s!"project not found for project id: {projectId}")
        | some _ => pure projectId : ServiceThread Exc String)).toProc (ServiceAccess.serve ids)

/-- A valid request for a free name comes to the creation of the role. -/
theorem run_createAlone (hvalid : ValidCreation settings ctx project name w)
    (hfree : ∀ p, nameOf w.db.projects p ≠ some name) : (createAlone ids settings ctx project).run w =
      (createRoleFor ids settings ctx project name >>= fun _ => storeAlone ids ctx project name).run w := by
  have hrequire : ∀ (value message : String), isEmpty value = false →
      ((Stepwise.requireText value message).toProc (ServiceAccess.serve ids)).run w = (.ok ⟨⟩, w) := by
    intro value message hvalue
    unfold Stepwise.requireText
    rw [if_neg (by simp [hvalue])]
    rfl
  have hnone : (w.db.projects.scan.find? fun item => item.2.name = name) = none := by
    rw [List.find?_eq_none]
    intro item hitem hname
    refine hfree item.1 ?_
    rw [nameOf, Table.mem_scan.mp hitem, Option.map_some, of_decide_eq_true hname]
  have hfound : ((Stepwise.getProjectByName name).toProc (ServiceAccess.serve ids)).run w = (.ok none, w) := by
    unfold Stepwise.getProjectByName
    rw [Thread.toProc_bind, Proc.run_bind_of_ok (hrequire _ _ hvalid.nonblank)]
    show (Except.ok (w.db.projects.scan.find? fun item => item.2.name = name), w) = _
    rw [hnone]
  unfold createAlone Stepwise.createProject
  simp only [hvalid.named, Option.getD_some]
  rw [Thread.toProc_bind, Proc.run_bind_of_ok (hrequire _ _ hvalid.nonblank), Thread.toProc_bind,
    Proc.run_bind_of_ok hfound, Thread.toProc_bind, Thread.toProc_when,
    Proc.run_bind_of_ok (Proc.run_when_neg (by simp) w), Thread.toProc_bind, Thread.toProc_liftExcept,
    hvalid.checked]
  have hname : project.name.getD "" = name := by rw [hvalid.named]; rfl
  rw [Proc.run_bind_of_ok (Proc.run_liftExcept _ w), Thread.toProc_bind, Thread.toProc_when, hname]
  rfl

theorem run_getProjectById {p : String} (hp : isEmpty p = false) (w : ServiceWorld) :
    ((Stepwise.getProjectById p).toProc (ServiceAccess.serve ids)).run w = (.ok (w.db.projects.getItem p), w) := by
  unfold Stepwise.getProjectById Stepwise.requireText
  rw [if_neg (by simp [hp])]
  rfl

variable (ids) in
/-- A project that exists is enabled. -/
theorem run_enableProject {p : String} (hp : isEmpty p = false) {row : ProjectRow}
    (hrow : w.db.projects.getItem p = some row) (shortUuid : String) : ∃ w',
    ((Stepwise.enableProject shortUuid p).toProc (ServiceAccess.serve ids)).run w = (.ok ⟨⟩, w') ∧
      w'.db.projects.Has p ∧ w'.iam = w.iam := by
  refine ⟨{ w with db := { w.db with
    projects := w.db.projects.updateItem p fun row => { row with enabled := some true }
    sent := w.db.sent ++ [⟨.projectEnabled p, some p, some shortUuid⟩] } }, ?_,
    Table.has_updateItem.mpr (Table.Has.of_getItem hrow), rfl⟩
  unfold Stepwise.enableProject
  rw [Thread.toProc_bind, Proc.run_bind_of_ok (run_getProjectById hp w), hrow]
  dsimp only
  rw [Thread.toProc_bind, Proc.run_bind_of_ok (Thread.run_toProc_perform _ _ _)]
  simp only [ServiceAccess.serve, hrow, Option.map_some]
  rfl

variable (ids ctx project name) in
/-- The end of the creation returns, and does nothing in IAM. -/
theorem run_storeAlone (w : ServiceWorld) : ∃ p w',
    (storeAlone ids ctx project name).run w = (.ok p, w') ∧ w'.iam = w.iam := by
  have hid : isEmpty (ids.next w.issued) = false := ids.isEmpty_next _
  obtain ⟨w', henable, hhas, hiam⟩ := run_enableProject ids (w := { w with
    db := { w.db with projects := w.db.projects.putItem (ids.next w.issued) (newRow name project) }
    issued := ids.next w.issued :: w.issued }) hid (Table.getItem_putItem_self _ _ _) ctx.shortUuid
  obtain ⟨row, hrow⟩ := Table.has_iff.mp hhas
  refine ⟨ids.next w.issued, w', ?_, hiam⟩
  unfold storeAlone
  rw [Thread.toProc_bind, Proc.run_bind_of_ok (Thread.run_toProc_perform _ _ _), Thread.toProc_bind]
  dsimp only [ServiceAccess.serve]
  rw [Proc.run_bind_of_ok henable, Thread.toProc_bind, Proc.run_bind_of_ok (run_getProjectById hid w'), hrow]
  rfl

/-- **The role of a new project.** A valid request for a name that no project has returns and leaves the role
as it should be exactly when earlier projects left nothing in the way. -/
theorem createsRole_iff (hvalid : ValidCreation settings ctx project name w)
    (hfree : ∀ p, nameOf w.db.projects p ≠ some name) :
    CreatesRole ids settings ctx project name w ↔ RoleFree settings project name w := by
  unfold CreatesRole RoleFree
  rw [run_createAlone hvalid hfree]
  by_cases hpolicies : Stepwise.requestedPolicies project = []
  · -- no role is created
    obtain ⟨p, w', hstore, hiam⟩ := run_storeAlone ids ctx project name w
    have hrun : (createRoleFor ids settings ctx project name >>= fun _ =>
        storeAlone ids ctx project name).run w = (.ok p, w') := by
      rw [createRoleFor, Proc.run_bind_of_ok (Proc.run_when_neg (by simp [hpolicies]) w)]
      exact hstore
    rw [if_pos hpolicies, hpolicies, hrun]
    constructor
    · rintro ⟨p', w'', heq, hcarries⟩
      obtain ⟨-, rfl⟩ := Prod.mk.inj heq
      rwa [hiam] at hcarries
    · intro hcarries
      exact ⟨p, w', rfl, by rwa [hiam]⟩
  · rw [if_neg hpolicies]
    constructor
    · rintro ⟨p, w', hrun, -⟩
      obtain ⟨_, w₁, hrole, -⟩ := Proc.returns_bind.mp hrun
      exact free_of_createVdiRole
        ((Proc.run_when_pos (b := Stepwise.requestedPolicies project ≠ []) hpolicies w).symm.trans hrole)
    · rintro ⟨hnoRole, hnoProfile⟩
      have hmem : ∀ arn, arn ∈ ctx.setOrder.list (Stepwise.requestedPolicies project) ↔
          arn ∈ Stepwise.requestedPolicies project := ctx.setOrder.mem_list _
      obtain ⟨w₁, hrole, role, hget, harns⟩ := run_createVdiRole_of_free ids hnoRole hnoProfile
        (fun arn harn => hvalid.requested arn ((hmem arn).mp harn)) hvalid.required
      obtain ⟨p, w', hstore, hiam⟩ := run_storeAlone ids ctx project name w₁
      refine ⟨p, w', ?_, fun role' hrole' _ arn => ?_⟩
      · rw [createRoleFor, Proc.run_bind_of_ok ((Proc.run_when_pos hpolicies w).trans hrole)]
        exact hstore
      · rw [hiam, hget] at hrole'
        obtain rfl := Option.some.inj hrole'
        rw [harns, hmem, or_comm]

end Alone

/-! ## The result -/

/-- Every valid request for a name that no project has leaves the role as it should be. -/
def NamesReusable (ids : IdSource) (settings : Stepwise.RoleSettings) (w : ServiceWorld) : Prop :=
  ∀ ctx project name, ValidCreation settings ctx project name w → (∀ p, nameOf w.db.projects p ≠ some name) →
    CreatesRole ids settings ctx project name w

/-- A cluster without required policies. -/
def bareSettings : Stepwise.RoleSettings := ⟨"res", []⟩

/-- A request for a project `lab`. -/
def requestLab : ProjectCall :=
  .create acceptingCreation { projectId := none, name := some "lab", ldapGroups := some [], users := some [] }

/-- A request that is refused at once. -/
def refusedRequest : ProjectCall := .delete (Paginator.single _) plainTexts
  ⟨Db.empty, ⟨[], fun _ => []⟩, ⟨[], fun _ => []⟩⟩ none

/-- The first `n` calls are requests for `lab`. -/
def requestsForLab (n : ℕ) : ProjectCalls where
  shared := ⟨Db.empty, ⟨∅, ∅, []⟩, []⟩
  thread i := (if i < n then requestLab else refusedRequest).thread bareSettings

theorem init_requestsForLab (n : ℕ) : (projectCalls IdSource.longest bareSettings).init (requestsForLab n) := by
  refine ⟨⟨fun p q name hp => ?_, fun p name hp => ?_, fun p name hp => ?_⟩, fun i => ⟨_, rfl⟩⟩
  · cases hp
  · cases hp
  · cases hp

/-- The state after the accesses of the calls in an order. -/
def afterAccesses (n : ℕ) (order : List ℕ) : ProjectCalls :=
  ((projectCalls IdSource.longest bareSettings).exec (requestsForLab n) order).getD (requestsForLab n)

end ContainRes.Projects
