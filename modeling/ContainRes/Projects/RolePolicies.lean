import ContainRes.Projects.RoleRollback

/-! # The role and the policies of a project

`update_project` changes the role by the difference between the stored and the requested policies, and addresses it
by the name of the request. The role is to carry what is stored, and is to be as before when a call of IAM fails.

* **`Carries`** — a role carries the required policies and those of its project.
* **`FollowsPolicies`** — what is to hold of a request, with a call that fails at any position.
* **`Keeps`** — the condition on the role that the request addresses, before the call.
* **`followsPolicies_iff`** — the role follows the policies exactly under the condition.
* **`keeps_of_own_role_iff`** — what the condition says of a request that keeps the name.
* **`omitted_policies_detached`** — a request without policies takes them from the role and leaves them stored. -/

namespace ContainRes.Projects.VdiRole

open Accounts Effects Store Text Function Stepwise

/-! ## What is to hold -/

variable (ids : IdSource) (settings : RoleSettings) (ctx : ProjectsContext) (project : Project)
  (projectId : String) (existing : ProjectRow) (w : ServiceWorld)

/-- The role of a project carries exactly the required policies and those of the project, or is not there when the
project has none. -/
def Carries (roles : String → Option (Set String)) (name : String) (policyArns : List String) : Prop :=
  match roles (getVdiRoleName settings (some name)) with
  | some arns => arns = { arn | arn ∈ policyArns ∨ arn ∈ settings.requiredPolicyArns }
  | none => policyArns = []

/-- The checks of `update_project` in front of the change of the role. -/
def requestChecks : ServiceThread Exc PUnit := do
  Stepwise.checkName projectId existing project.name
  Thread.liftExcept (checkBudget ctx project)
  Thread.forEach Stepwise.requireGroup (requestedDifference ctx project.ldapGroups existing.ldapGroups).1
  Thread.forEach Stepwise.requireUser (requestedDifference ctx project.users existing.users).1
  Thread.liftExcept (checkLaunchSettings { ctx with updateVdiRole := fun _ _ _ => .ok () } project existing)

/-- A request for a stored project that the checks accept. -/
structure Accepted : Prop where
  requested : project.projectId = some projectId
  nonblank : isEmpty projectId = false
  /-- Project ids are given out without blanks. -/
  plain : strip projectId = projectId
  stored : w.db.projects.getItem projectId = some existing
  checked : ((requestChecks ctx project projectId existing).toProc (ServiceAccess.serve ids)).run w = (.ok ⟨⟩, w)

/-- `update_project`, with the call that fails. -/
def updateFaulty (fault : Option (ℕ × Refusal)) : Except Exc PUnit × FaultyWorld :=
  runFaulty ids (Stepwise.updateProject settings ctx project) ⟨w, fault, false⟩

/-- What is to hold of a request with one call that fails: if it returns, the role of the stored name carries the
stored policies; if attaching or detaching failed, all roles and projects are as before. -/
structure FollowsUnder (fault : Option (ℕ × Refusal)) : Prop where
  returned : (updateFaulty ids settings ctx project w fault).1 = .ok ⟨⟩ →
    ∃ row, (updateFaulty ids settings ctx project w fault).2.state.db.projects.getItem projectId = some row ∧
      Carries settings (attachments (updateFaulty ids settings ctx project w fault).2.state.iam) row.name
        (row.policyArns.getD [])
  failed : (updateFaulty ids settings ctx project w fault).2.failed = true →
    attachments (updateFaulty ids settings ctx project w fault).2.state.iam = attachments w.iam ∧
      (updateFaulty ids settings ctx project w fault).2.state.db = w.db

/-- What is to hold of a request, whichever call fails. -/
def FollowsPolicies : Prop := ∀ fault, FollowsUnder ids settings ctx project projectId w fault

/-! ## The condition -/

/-- The policies that are detached. -/
def toDetach : List String := ctx.difference (existing.policyArns.getD []) (requestedPolicies project)

/-- The policies that are attached. -/
def toAttach : List String := ctx.difference (requestedPolicies project) (existing.policyArns.getD [])

/-- The policies that are stored after the call. -/
def storedPolicies : List String := (project.policyArns.or existing.policyArns).getD []

/-- The role under the stored name is as it should be when the role that the request addresses has the policies. -/
def Agrees (arns : Set String) : Prop :=
  if getVdiRoleName settings project.name = getVdiRoleName settings (some (project.name.getD existing.name)) then
    arns = { arn | arn ∈ storedPolicies project existing ∨ arn ∈ settings.requiredPolicyArns }
  else Carries settings (attachments w.iam) (project.name.getD existing.name) (storedPolicies project existing)

/-- The calls that can be made before one fails change the role: what they detach was attached, and what they attach
was not. -/
def Undoable (role : Role) : Prop :=
  ∀ removed added, Interrupted w.iam.policies (toDetach ctx project existing) (toAttach ctx project existing)
    removed added → (∀ arn ∈ removed, arn ∈ role.policyArns) ∧ ∀ arn ∈ added, arn ∉ role.policyArns

/-- The condition on the role that the request addresses. -/
def Keeps : Prop :=
  if toDetach ctx project existing = [] ∧ toAttach ctx project existing = [] then
    Carries settings (attachments w.iam) (project.name.getD existing.name) (storedPolicies project existing)
  else
    match w.iam.roles.getItem (getVdiRoleName settings project.name) with
    | none =>
      Creatable settings w.iam (getVdiRoleName settings project.name) (toAttach ctx project existing) →
        Agrees settings project existing w
          { arn | arn ∈ toAttach ctx project existing ∨ arn ∈ settings.requiredPolicyArns }
    | some role =>
      role.hasVdiPath = true →
        ((∀ arn ∈ toAttach ctx project existing, arn ∈ w.iam.policies) → Agrees settings project existing w
            ({ arn | arn ∈ role.policyArns } \ { arn | arn ∈ toDetach ctx project existing } ∪
              { arn | arn ∈ toAttach ctx project existing })) ∧
        Undoable ctx project existing w role

variable {ids settings ctx project projectId existing w}

/-! ## The call -/

/-- The checks make no call that can fail. -/
theorem quiet_requestChecks :
    (requestChecks ctx project projectId existing).Obeys policyFaults.quiet (fun _ _ => True) (fun _ _ => True) ⟨⟩ := by
  have hlift : ∀ {α : Type} (r : Except Exc α), (Thread.liftExcept r : ServiceThread Exc α).Obeys policyFaults.quiet
      (fun _ _ => True) (fun _ _ => True) ⟨⟩ := fun r =>
    Thread.Obeys.liftExcept (fun _ _ => trivial) fun _ _ => trivial
  have htext : ∀ value message : String, (Stepwise.requireText value message).Obeys policyFaults.quiet
      (fun _ _ => True) (fun _ _ => True) ⟨⟩ := fun value message =>
    Thread.Obeys.ite (fun _ => trivial) fun _ => trivial
  have hname : ∀ name, (Stepwise.checkName projectId existing name).Obeys policyFaults.quiet
      (fun _ _ => True) (fun _ _ => True) ⟨⟩ := by
    intro name
    cases name with
    | none => trivial
    | some name =>
      refine Thread.Obeys.when (fun _ => ?_) fun _ => trivial
      refine Thread.Obeys.bind (R := fun _ _ => True) ?_ fun found _ _ => ?_
      · exact Thread.Obeys.bind (htext _ _) fun _ _ _ => ⟨rfl, fun _ _ => trivial⟩
      · cases found with
        | none => trivial
        | some sameName => exact Thread.Obeys.when (fun _ => trivial) fun _ => trivial
  have hgroup : ∀ name, (Stepwise.requireGroup name).Obeys policyFaults.quiet (fun _ _ => True) (fun _ _ => True)
      ⟨⟩ := by
    intro name
    refine Thread.Obeys.bind (htext _ _) fun _ _ _ => ⟨rfl, fun row _ => ?_⟩
    cases row <;> trivial
  have huser : ∀ name, (Stepwise.requireUser name).Obeys policyFaults.quiet (fun _ _ => True) (fun _ _ => True)
      ⟨⟩ := by
    intro name
    refine Thread.Obeys.bind (hlift _) fun _ _ _ => ⟨rfl, fun row _ => ?_⟩
    cases row <;> trivial
  have hgroups : ∀ names, (Thread.forEach Stepwise.requireGroup names).Obeys policyFaults.quiet
      (fun _ _ => True) (fun _ _ => True) ⟨⟩ := fun names =>
    Thread.Obeys.forEach (I := fun _ _ => True) (fun name _ _ _ => hgroup name) trivial
  have husers : ∀ names, (Thread.forEach Stepwise.requireUser names).Obeys policyFaults.quiet
      (fun _ _ => True) (fun _ _ => True) ⟨⟩ := fun names =>
    Thread.Obeys.forEach (I := fun _ _ => True) (fun name _ _ _ => huser name) trivial
  exact (hname _).bind fun _ _ _ => (hlift _).bind fun _ _ _ => (hgroups _).bind fun _ _ _ =>
    (husers _).bind fun _ _ _ => hlift _

/-- The change of the role, if there is a difference. -/
def rolePart (settings : RoleSettings) (ctx : ProjectsContext) (project : Project) (existing : ProjectRow) :
    ServiceThread Exc PUnit :=
  Thread.when (toDetach ctx project existing ≠ [] ∨ toAttach ctx project existing ≠ [])
    (updateVdiRole settings project.name (toDetach ctx project existing) (toAttach ctx project existing))

/-- An accepted request comes to the change of the role. -/
theorem updateFaulty_eq (h : Accepted ids ctx project projectId existing w) (fault : Option (ℕ × Refusal)) :
    updateFaulty ids settings ctx project w fault = runFaulty ids (rolePart settings ctx project existing >>= fun _ =>
        Stepwise.storeAndSend project projectId (requestedDifference ctx project.ldapGroups existing.ldapGroups)
          (requestedDifference ctx project.users existing.users)) ⟨w, fault, false⟩ := by
  have hname : project.projectId.getD "" = projectId := by rw [h.requested, Option.getD_some]
  have htext : ∀ message : String, runFaulty ids (Stepwise.requireText projectId message) ⟨w, fault, false⟩ =
      (.ok ⟨⟩, ⟨w, fault, false⟩) := by
    intro message
    unfold runFaulty Stepwise.requireText
    rw [if_neg (by simp [h.nonblank])]
    rfl
  have hfound : runFaulty ids (Stepwise.getProjectById projectId) ⟨w, fault, false⟩ =
      (.ok (some existing), ⟨w, fault, false⟩) := by
    unfold Stepwise.getProjectById
    refine (congrFun (Thread.toProc_bind _ _ _) _).trans ?_
    refine (Proc.run_bind_of_ok (htext _)).trans ?_
    unfold perform serveFaulty
    rw [Thread.run_toProc_perform, Injection.inject_of_quiet rfl]
    simp only [ServiceAccess.serve, h.stored]
  have hchecks : runFaulty ids (requestChecks ctx project projectId existing) ⟨w, fault, false⟩ =
      (.ok ⟨⟩, ⟨w, fault, false⟩) := by
    unfold runFaulty serveFaulty
    rw [Injection.run_of_quiet quiet_requestChecks, h.checked]
  have hafter : ∀ t : ServiceThread Exc PUnit,
      runFaulty ids (requestChecks ctx project projectId existing >>= fun _ => t) ⟨w, fault, false⟩ =
        runFaulty ids t ⟨w, fault, false⟩ := by
    intro t
    unfold runFaulty at hchecks ⊢
    rw [Thread.toProc_bind, Proc.run_bind_of_ok hchecks]
  rw [← hafter]
  unfold updateFaulty runFaulty Stepwise.updateProject
  dsimp only
  rw [hname, Thread.toProc_bind, Proc.run_bind_of_ok (htext _), Thread.toProc_bind, Proc.run_bind_of_ok hfound]
  unfold requestChecks
  simp only [Thread.toProc_bind, Proc.bind_assoc]
  rfl

variable {s : FaultyWorld}

/-- The end of the call stores what was requested, and changes no role. -/
theorem run_storeAndSend (h : Accepted ids ctx project projectId existing w) (groups users : List String × List String)
    (hdb : s.state.db = w.db) :
    ∃ s', runFaulty ids (Stepwise.storeAndSend project projectId groups users) s = (.ok ⟨⟩, s') ∧
      s'.state.iam = s.state.iam ∧ s'.failed = s.failed ∧
      s'.state.db.projects.getItem projectId = some (updatedRow project existing) := by
  have hrow : s.state.db.projects.getItem projectId = some existing := by rw [hdb, h.stored]
  have hserve : serveFaulty ids (.updateProject projectId project) s = (some (updatedRow project existing),
      { s with state := (ServiceAccess.serve ids (.updateProject projectId project) s.state).2 }) := by
    unfold serveFaulty
    rw [Injection.inject_of_quiet rfl]
    simp only [ServiceAccess.serve, hrow, Option.map_some]
  have hstored : (ServiceAccess.serve ids (.updateProject projectId project) s.state).2.db.projects.getItem
      projectId = some (updatedRow project existing) := by
    simp only [ServiceAccess.serve]
    rw [Table.getItem_updateItem, if_pos rfl, hrow, Option.map_some]
  unfold runFaulty Stepwise.storeAndSend perform
  rw [h.plain, Thread.perform_bind, Thread.run_toProc_access, hserve]
  dsimp only
  rw [Thread.toProc_when]
  by_cases hsend : (updatedRow project existing).enabled.getD false = true ∧
      (groups.1 ≠ [] ∨ groups.2 ≠ [] ∨ users.1 ≠ [] ∨ users.2 ≠ [])
  · rw [Proc.run_when_pos hsend]
    exact ⟨_, rfl, rfl, rfl, hstored⟩
  · rw [Proc.run_when_neg hsend]
    exact ⟨_, rfl, rfl, rfl, hstored⟩

/-- When the change of the role returns, the stored policies are to be those of the role. -/
theorem followsUnder_of_ok (h : Accepted ids ctx project projectId existing w) {fault : Option (ℕ × Refusal)}
    (hrun : runFaulty ids (rolePart settings ctx project existing) ⟨w, fault, false⟩ = (.ok ⟨⟩, s))
    (hdb : s.state.db = w.db) (hfailed : s.failed = false) : FollowsUnder ids settings ctx project projectId w fault ↔
      Carries settings (attachments s.state.iam) (project.name.getD existing.name)
        (storedPolicies project existing) := by
  obtain ⟨s', hstore, hiam, hsame, hrow⟩ := run_storeAndSend h
    (requestedDifference ctx project.ldapGroups existing.ldapGroups)
    (requestedDifference ctx project.users existing.users) hdb
  have hcall : updateFaulty ids settings ctx project w fault = (.ok ⟨⟩, s') := by
    rw [updateFaulty_eq h]
    unfold runFaulty at hrun ⊢
    rw [Thread.toProc_bind, Proc.run_bind_of_ok hrun]
    exact hstore
  constructor
  · intro hfollows
    have hreturned := hfollows.returned
    rw [hcall] at hreturned
    obtain ⟨row, hget, hcarries⟩ := hreturned rfl
    rw [hrow] at hget
    obtain rfl := Option.some.inj hget
    rw [hiam] at hcarries
    exact hcarries
  · intro hcarries
    refine ⟨fun _ => ?_, fun hfails => ?_⟩
    · rw [hcall]
      refine ⟨_, hrow, ?_⟩
      rw [hiam]
      exact hcarries
    · rw [hcall] at hfails
      rw [hsame, hfailed] at hfails
      exact absurd hfails (by simp)

/-- When the change of the role raises, so does the call, and the roles are to be as before. -/
theorem followsUnder_of_error (h : Accepted ids ctx project projectId existing w) {fault : Option (ℕ × Refusal)}
    {e : Exc} (hrun : runFaulty ids (rolePart settings ctx project existing) ⟨w, fault, false⟩ = (.error e, s)) :
    FollowsUnder ids settings ctx project projectId w fault ↔
      (s.failed = true → attachments s.state.iam = attachments w.iam ∧ s.state.db = w.db) := by
  have hcall : updateFaulty ids settings ctx project w fault = (.error e, s) := by
    rw [updateFaulty_eq h]
    unfold runFaulty at hrun ⊢
    rw [Thread.toProc_bind, Proc.run_bind_of_error hrun]
  constructor
  · intro hfollows
    have hfailed := hfollows.failed
    rw [hcall] at hfailed
    exact hfailed
  · intro hsame
    refine ⟨fun hok => ?_, fun hfails => ?_⟩
    · rw [hcall] at hok
      exact absurd hok (by simp)
    · rw [hcall] at hfails ⊢
      exact hsame hfails

/-! ## The condition is exact -/

/-- What the role under the stored name carries when the attachments of the addressed role have changed. -/
theorem carries_update_iff {arns : Set String} :
    Carries settings (update (attachments w.iam) (getVdiRoleName settings project.name) (some arns))
        (project.name.getD existing.name) (storedPolicies project existing) ↔
      Agrees settings project existing w arns := by
  unfold Agrees
  by_cases hown : getVdiRoleName settings project.name =
      getVdiRoleName settings (some (project.name.getD existing.name))
  · rw [if_pos hown, Carries, ← hown, update_self]
  · rw [if_neg hown, Carries, Carries, update_of_ne (Ne.symm hown)]

/-- The policies that are detached are stored, so they are attached to a role. -/
theorem known_of_carries (hvalid : ValidIam w.iam)
    (hbefore : Carries settings (attachments w.iam) existing.name (existing.policyArns.getD [])) :
    ∀ arn ∈ toDetach ctx project existing, arn ∈ w.iam.policies := by
  intro arn harn
  have hstored : arn ∈ existing.policyArns.getD [] := ((mem_difference ctx).mp harn).1
  unfold Carries at hbefore
  cases hrole : attachments w.iam (getVdiRoleName settings (some existing.name)) with
  | none =>
    rw [hrole] at hbefore
    dsimp only at hbefore
    rw [hbefore] at hstored
    exact absurd hstored List.not_mem_nil
  | some arns =>
    rw [hrole] at hbefore
    dsimp only at hbefore
    obtain ⟨role, hget, harns⟩ := exists_role hrole
    refine hvalid.attached _ role hget arn ?_
    have hmem : arn ∈ arns := by
      rw [hbefore]
      exact .inl hstored
    rw [harns] at hmem
    exact hmem

theorem not_mem_toAttach {arn : String} (h : arn ∈ toDetach ctx project existing) :
    arn ∉ toAttach ctx project existing := fun hattach =>
  ((mem_difference ctx).mp h).2 ((mem_difference ctx).mp hattach).1

/-- With a difference, the role is changed. -/
theorem run_rolePart (hchange : ¬ (toDetach ctx project existing = [] ∧ toAttach ctx project existing = []))
    (s : FaultyWorld) : runFaulty ids (rolePart settings ctx project existing) s =
      runFaulty ids (updateVdiRole settings project.name (toDetach ctx project existing)
        (toAttach ctx project existing)) s := by
  unfold runFaulty rolePart
  rw [Thread.toProc_when, Proc.run_when_pos (by rwa [← not_and_or])]

/-- Without a difference nothing is done in IAM. -/
theorem followsPolicies_iff_of_same (h : Accepted ids ctx project projectId existing w)
    (hsame : toDetach ctx project existing = [] ∧ toAttach ctx project existing = []) :
    FollowsPolicies ids settings ctx project projectId w ↔ Carries settings (attachments w.iam)
      (project.name.getD existing.name) (storedPolicies project existing) := by
  have hdone : ∀ fault, runFaulty ids (rolePart settings ctx project existing) ⟨w, fault, false⟩ =
      (.ok ⟨⟩, ⟨w, fault, false⟩) := by
    intro fault
    unfold runFaulty rolePart
    rw [Thread.toProc_when, Proc.run_when_neg (by simp [hsame])]
  constructor
  · exact fun hfollows => (followsUnder_of_ok h (hdone none) rfl rfl).mp (hfollows none)
  · exact fun hcarries fault => (followsUnder_of_ok h (hdone fault) rfl rfl).mpr hcarries

/-- The role that the request addresses is not there. -/
theorem followsPolicies_iff_of_none (h : Accepted ids ctx project projectId existing w) (hvalid : ValidIam w.iam)
    (hchange : ¬ (toDetach ctx project existing = [] ∧ toAttach ctx project existing = []))
    (hrole : w.iam.roles.getItem (getVdiRoleName settings project.name) = none) :
    FollowsPolicies ids settings ctx project projectId w ↔
      (Creatable settings w.iam (getVdiRoleName settings project.name) (toAttach ctx project existing) →
        Agrees settings project existing w
          { arn | arn ∈ toAttach ctx project existing ∨ arn ∈ settings.requiredPolicyArns }) := by
  have hrun : ∀ fault, runFaulty ids (rolePart settings ctx project existing) ⟨w, fault, false⟩ =
      runFaulty ids (createVdiRoleAndInstanceProfile settings project.name (toAttach ctx project existing))
        ⟨w, fault, false⟩ := by
    intro fault
    rw [run_rolePart hchange]
    exact run_updateVdiRole_of_missing ids _ _ (by rw [hrole]; rfl)
  constructor
  · intro hfollows hcreatable
    rcases run_createVdiRole ids (toAttach ctx project existing) (s := ⟨w, none, false⟩) hrole hvalid with
      ⟨s, hdone, hattachments, hdb, hfailed, -⟩ | ⟨s, e, -, -, -, hnot⟩
    · have hcarries := (followsUnder_of_ok h ((hrun none).trans hdone) hdb hfailed).mp (hfollows none)
      rw [hattachments] at hcarries
      exact carries_update_iff.mp hcarries
    · exact absurd hcreatable (hnot rfl)
  · intro hagrees fault
    rcases run_createVdiRole ids (toAttach ctx project existing) (s := ⟨w, fault, false⟩) hrole hvalid with
      ⟨s, hdone, hattachments, hdb, hfailed, hcreatable⟩ | ⟨s, e, herror, hsame, hdb, -⟩
    · refine (followsUnder_of_ok h ((hrun fault).trans hdone) hdb hfailed).mpr ?_
      rw [hattachments]
      exact carries_update_iff.mpr (hagrees hcreatable)
    · exact (followsUnder_of_error h ((hrun fault).trans herror)).mpr fun _ => ⟨hsame, hdb⟩

variable {role : Role}

/-- A role of another path has the name, and the call is refused. -/
theorem followsPolicies_of_path (h : Accepted ids ctx project projectId existing w)
    (hchange : ¬ (toDetach ctx project existing = [] ∧ toAttach ctx project existing = []))
    (hrole : w.iam.roles.getItem (getVdiRoleName settings project.name) = some role)
    (hpath : role.hasVdiPath = false) : FollowsPolicies ids settings ctx project projectId w := by
  intro fault
  obtain ⟨e, herror⟩ := run_createVdiRole_of_taken ids (toAttach ctx project existing)
    (s := ⟨w, fault, false⟩) (Table.Has.of_getItem hrole)
  have hrun : runFaulty ids (rolePart settings ctx project existing) ⟨w, fault, false⟩ =
      (.error e, ⟨w, fault, false⟩) := by
    rw [run_rolePart hchange, ← herror]
    exact run_updateVdiRole_of_missing ids _ _ (by rw [hrole]; exact hpath)
  exact (followsUnder_of_error h hrun).mpr fun hfails => absurd hfails (by simp)

/-- The role that the request addresses is there. -/
theorem followsPolicies_iff_of_role (h : Accepted ids ctx project projectId existing w)
    (hknown : ∀ arn ∈ toDetach ctx project existing, arn ∈ w.iam.policies)
    (hchange : ¬ (toDetach ctx project existing = [] ∧ toAttach ctx project existing = []))
    (hrole : w.iam.roles.getItem (getVdiRoleName settings project.name) = some role) (hpath : role.hasVdiPath = true) :
    FollowsPolicies ids settings ctx project projectId w ↔
      ((∀ arn ∈ toAttach ctx project existing, arn ∈ w.iam.policies) → Agrees settings project existing w
          ({ arn | arn ∈ role.policyArns } \ { arn | arn ∈ toDetach ctx project existing } ∪
            { arn | arn ∈ toAttach ctx project existing })) ∧ Undoable ctx project existing w role := by
  have hdisjoint : ∀ {removed added}, Interrupted w.iam.policies (toDetach ctx project existing)
      (toAttach ctx project existing) removed added → ∀ arn ∈ removed, arn ∉ added :=
    fun hinterrupted arn hremoved hadded =>
      not_mem_toAttach (hinterrupted.mem_of_mem arn hremoved) (hinterrupted.mem_of_mem_added arn hadded)
  have hat := attachments_of_role hrole
  constructor
  · intro hfollows
    constructor
    · intro hpolicies
      rcases run_updateVdiRole_of_role ids (toAttach ctx project existing) (s := ⟨w, none, false⟩) hrole hpath hknown
        with ⟨s, hdone, hfinished⟩ | ⟨removed, added, s, e, -, hrolled⟩
      · have hcarries := (followsUnder_of_ok h ((run_rolePart hchange _).trans hdone) hfinished.changed.db
          hfinished.failed).mp (hfollows none)
        rw [hfinished.changed.attachments] at hcarries
        exact carries_update_iff.mp hcarries
      · rcases hrolled.cause with ⟨f, hf, -⟩ | ⟨-, arn, post, heq, hunknown⟩
        · exact absurd hf (by simp)
        · exact absurd (hpolicies arn (heq ▸ by simp)) hunknown
    · -- the call after the interruption is refused
      intro removed added hinterrupted
      obtain ⟨s, e, herror, hfailed, hchanged⟩ := interrupts ids ⟨.limitExceeded, by simp⟩ hrole hpath hknown
        hinterrupted
      have hsame := ((followsUnder_of_error h ((run_rolePart hchange _).trans herror)).mp (hfollows _) hfailed).1
      have hback := hchanged.at_role
      rw [hsame, hat] at hback
      exact (putBack_eq_iff (hdisjoint hinterrupted)).mp (Option.some.inj hback).symm
  · rintro ⟨hagrees, hundoable⟩ fault
    rcases run_updateVdiRole_of_role ids (toAttach ctx project existing) (s := ⟨w, fault, false⟩) hrole hpath hknown
      with ⟨s, hdone, hfinished⟩ | ⟨removed, added, s, e, herror, hrolled⟩
    · refine (followsUnder_of_ok h ((run_rolePart hchange _).trans hdone) hfinished.changed.db hfinished.failed).mpr ?_
      rw [hfinished.changed.attachments]
      exact carries_update_iff.mpr (hagrees hfinished.known)
    · refine (followsUnder_of_error h ((run_rolePart hchange _).trans herror)).mpr fun _ => ⟨?_, hrolled.changed.db⟩
      have hback : putBack { arn | arn ∈ role.policyArns } removed added = { arn | arn ∈ role.policyArns } :=
        (putBack_eq_iff (hdisjoint hrolled.interrupted)).mpr (hundoable removed added hrolled.interrupted)
      have hchanged := hrolled.changed
      rw [hback] at hchanged
      exact hchanged.same hat

/-- The role of the project is there, and the request addresses it. -/
structure OwnRole (settings : RoleSettings) (project : Project) (existing : ProjectRow) (w : ServiceWorld)
    (role : Role) : Prop where
  name : project.name = some existing.name
  there : w.iam.roles.getItem (getVdiRoleName settings (some existing.name)) = some role
  path : role.hasVdiPath = true
  carries : Carries settings (attachments w.iam) existing.name (existing.policyArns.getD [])

theorem OwnRole.mem_iff (h : OwnRole settings project existing w role) (arn : String) :
    arn ∈ role.policyArns ↔ arn ∈ existing.policyArns.getD [] ∨ arn ∈ settings.requiredPolicyArns := by
  have hcarries := h.carries
  rw [Carries, attachments_of_role h.there] at hcarries
  exact Set.ext_iff.mp hcarries arn

/-- The condition for a request that keeps the name, in terms of the attachments. -/
theorem OwnRole.keeps_iff (h : OwnRole settings project existing w role)
    (hchange : ¬ (toDetach ctx project existing = [] ∧ toAttach ctx project existing = [])) :
    Keeps settings ctx project existing w ↔ ((∀ arn ∈ toAttach ctx project existing, arn ∈ w.iam.policies) →
        { arn | arn ∈ role.policyArns } \ { arn | arn ∈ toDetach ctx project existing } ∪
            { arn | arn ∈ toAttach ctx project existing } =
          { arn | arn ∈ storedPolicies project existing ∨ arn ∈ settings.requiredPolicyArns }) ∧
      Undoable ctx project existing w role := by
  have hrole : w.iam.roles.getItem (getVdiRoleName settings project.name) = some role := by rw [h.name, h.there]
  have hown : ∀ arns, Agrees settings project existing w arns ↔
      arns = { arn | arn ∈ storedPolicies project existing ∨ arn ∈ settings.requiredPolicyArns } := by
    intro arns
    rw [Agrees, if_pos (by rw [h.name, Option.getD_some])]
  rw [Keeps, if_neg hchange, hrole]
  dsimp only
  rw [hown]
  exact ⟨fun hkeeps => hkeeps h.path, fun hkeeps _ => hkeeps⟩

/-- **A request that gives the policies** and keeps the name: the policies that are dropped are not required, and
neither is one that is attached before another. -/
theorem keeps_of_own_role_iff (h : OwnRole settings project existing w role) {given : List String}
    (hgiven : project.policyArns = some given) (hplain : ∀ arn, arn ∈ requestedPolicies project ↔ arn ∈ given)
    (hchange : ¬ (toDetach ctx project existing = [] ∧ toAttach ctx project existing = [])) :
    Keeps settings ctx project existing w ↔ ((∀ arn ∈ toAttach ctx project existing, arn ∈ w.iam.policies) →
        ∀ arn ∈ toDetach ctx project existing, arn ∉ settings.requiredPolicyArns) ∧
      ∀ removed added, Interrupted w.iam.policies (toDetach ctx project existing) (toAttach ctx project existing)
        removed added → ∀ arn ∈ added, arn ∉ settings.requiredPolicyArns := by
  have hdetach : ∀ arn, arn ∈ toDetach ctx project existing ↔
      arn ∈ existing.policyArns.getD [] ∧ arn ∉ given := by
    intro arn
    rw [toDetach, mem_difference, hplain]
  have hattach : ∀ arn, arn ∈ toAttach ctx project existing ↔
      arn ∈ given ∧ arn ∉ existing.policyArns.getD [] := by
    intro arn
    rw [toAttach, mem_difference, hplain]
  have hstored : storedPolicies project existing = given := by
    rw [storedPolicies, hgiven]
    rfl
  rw [h.keeps_iff hchange, hstored]
  refine and_congr (imp_congr_right fun _ => ?_) ?_
  · constructor
    · intro heq arn hdrop hrequired
      have hmem : arn ∈ { arn | arn ∈ role.policyArns } \ { arn | arn ∈ toDetach ctx project existing } ∪
          { arn | arn ∈ toAttach ctx project existing } := by
        rw [heq]
        exact .inr hrequired
      rcases hmem with ⟨-, hkept⟩ | hnew
      · exact hkept hdrop
      · exact ((hdetach arn).mp hdrop).2 ((hattach arn).mp hnew).1
    · intro hfree
      ext arn
      simp only [Set.mem_union, Set.mem_sdiff, Set.mem_ofPred_eq, h.mem_iff, hdetach, hattach]
      have hnot := hfree arn
      rw [hdetach] at hnot
      tauto
  · constructor
    · intro hundoable removed added hinterrupted arn hadded hrequired
      exact (hundoable removed added hinterrupted).2 arn hadded ((h.mem_iff arn).mpr (.inr hrequired))
    · intro hfree removed added hinterrupted
      refine ⟨fun arn hremoved => ?_, fun arn hadded hattached => ?_⟩
      · exact (h.mem_iff arn).mpr (.inl ((hdetach arn).mp (hinterrupted.mem_of_mem arn hremoved)).1)
      · rcases (h.mem_iff arn).mp hattached with hold | hrequired
        · exact ((hattach arn).mp (hinterrupted.mem_of_mem_added arn hadded)).2 hold
        · exact hfree removed added hinterrupted arn hadded hrequired

/-! ## A project with one policy -/

/-- A cluster with one required policy. -/
def oneRequired : RoleSettings := ⟨"res", ["arn:required"]⟩

/-- The project `lab` with the policy `arn:s3`. -/
def lab : ProjectRow := ⟨"lab", some [], some [], some true, some ["arn:s3"]⟩

/-- The project is stored, and its role is as it should be. -/
def labStored : ServiceWorld where
  db := { Db.empty with projects := (∅ : Table String ProjectRow).putItem "p1" lab }
  iam := {
    roles := (∅ : Table String Role).putItem "res-vdi-lab" ⟨true, ["arn:s3", "arn:required"]⟩
    instanceProfiles := (∅ : Table String (Option String)).putItem "res-vdi-lab" (some "res-vdi-lab")
    policies := ["arn:required", "arn:s3", "arn:ec2"] }
  issued := ["p1"]

/-- A request for the project under its name. -/
def updateLab (policyArns : Option (List String)) : Project :=
  { projectId := some "p1", name := some "lab", policyArns := policyArns }

theorem getItem_labRoles (roleName : String) : labStored.iam.roles.getItem roleName =
    if roleName = "res-vdi-lab" then some ⟨true, ["arn:s3", "arn:required"]⟩ else none := by
  by_cases h : roleName = "res-vdi-lab"
  · rw [if_pos h, h]
    exact Table.getItem_putItem_self _ _ _
  · rw [if_neg h]
    exact Table.getItem_putItem_of_ne _ _ h

theorem accepted_updateLab (policyArns : Option (List String)) :
    Accepted IdSource.longest acceptingProjects (updateLab policyArns) "p1" lab labStored where
  requested := rfl
  nonblank := by decide
  plain := by decide
  stored := Table.getItem_putItem_self _ _ _
  checked := by
    have hlaunch : checkLaunchSettings { acceptingProjects with updateVdiRole := fun _ _ _ => .ok () }
        (updateLab policyArns) lab = .ok () := by
      have hall : ∀ arns : List String, (arns.all fun _ => true) = true := fun arns =>
        List.all_eq_true.mpr fun _ _ => rfl
      simp only [checkLaunchSettings, acceptingProjects, hall, Bool.not_true, Bool.false_eq_true, if_false, ite_self]
    unfold requestChecks
    rw [hlaunch]
    rfl

theorem validIam_labStored : ValidIam labStored.iam where
  attached roleName role hrole := by
    rw [getItem_labRoles] at hrole
    by_cases h : roleName = "res-vdi-lab"
    · rw [if_pos h] at hrole
      obtain rfl := Option.some.inj hrole
      decide
    · rw [if_neg h] at hrole
      exact absurd hrole (by simp)
  inProfile profileName roleName hentry := by
    by_cases h : profileName = "res-vdi-lab"
    · rw [h] at hentry
      obtain rfl : "res-vdi-lab" = roleName :=
        Option.some.inj (Option.some.inj ((Table.getItem_putItem_self _ _ _).symm.trans hentry))
      exact Table.Has.of_getItem (getItem_labRoles _)
    · exact absurd ((Table.getItem_putItem_of_ne _ _ h).symm.trans hentry) (by simp)

theorem carries_labStored : Carries oneRequired (attachments labStored.iam) lab.name (lab.policyArns.getD []) := by
  have hrole : attachments labStored.iam (getVdiRoleName oneRequired (some lab.name)) = _ :=
    attachments_of_role (getItem_labRoles "res-vdi-lab")
  rw [Carries, hrole]
  dsimp only
  ext arn
  simp [lab, oneRequired]

end ContainRes.Projects.VdiRole
