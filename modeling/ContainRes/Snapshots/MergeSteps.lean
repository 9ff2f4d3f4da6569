import ContainRes.Snapshots.ApplySnapshot

/-! # What the merge of a record does

For each of the tables of projects, permission profiles and software stacks: what is left when a record is
skipped, and when it is merged.

* **`nameFor`** — the name a record is created under.
* **`run_mergeProject`**, **`run_mergePermissionProfile`**, **`run_mergeSoftwareStack`** — what each merge has done
  when it returns. -/

namespace ContainRes.Snapshots

open Accounts (UserRow sanitized sanitizeUsername UserDao.convertFromDb)
open Effects Effects.Proc Store Text
open Projects (requestedDifference)
open VirtualDesktop VirtualDesktop.PermissionProfiles
open VirtualDesktop.SoftwareStacks

variable {services : Services} {dedupId : String} {env env' : Environment}

/-- The name that a record of this name is created under. -/
def nameFor (dedupId name : String) (taken : Bool) : String :=
  if taken then uniqueResourceIdGenerator name dedupId else name

variable {name : String}

theorem isEmpty_nameFor (h : isEmpty name = false) (dedupId : String) (taken : Bool) :
    isEmpty (nameFor dedupId name taken) = false := by
  unfold nameFor
  split
  · exact isEmpty_append_of_not_isEmpty (isEmpty_append_of_not_isEmpty h _) _
  · exact h

theorem run_of_orFailed {δ : Type} {c : EnvProc (Merged δ)} {result : Merged δ}
    (h : (orFailed c).run env = (.ok result, env')) (hresult : result ≠ .failed) : c.run env = (.ok result, env') := by
  unfold orFailed at h
  rw [run_tryCatch] at h
  rcases hc : c.run env with ⟨e | result', env''⟩ <;> rw [hc] at h
  · cases h
    exact absurd rfl hresult
  · exact h

theorem reads_getUser (username : Option String) : Reads (getUser services username) := by
  unfold getUser
  refine Reads.bind (Reads.liftExcept _) fun username => reads_answered (Reads.bind (Reads.gets _) fun user => ?_)
  cases user with
  | none => exact Reads.raise _
  | some user => exact Reads.pure _

/-! ## Projects -/

theorem name_of_findProject {projects : Table String ProjectRow} {found : String × ProjectRow}
    (h : findProject name projects = some found) :
    projects.getItem found.1 = some found.2 ∧ found.2.name = some name := by
  refine ⟨Table.mem_scan.mp (List.mem_of_find?_eq_some h), ?_⟩
  simpa using List.find?_some h

theorem run_getProjectByName (name : String) (env : Environment) : (getProjectByName services name).run env =
      if isEmpty name then (.error (.invalidParams "Either project_id or project_name is required"), env)
      else match services.fault env (.getProject name) with
        | some fault => (.error fault.exc, env)
        | none => match findProject name env.projects with
          | none => (.error (.soca .projectNotFound ("project not found for project name: " ++ name)), env)
          | some item => (.ok (convertFromDb item.1 item.2), env) := by
  unfold getProjectByName
  by_cases hname : isEmpty name = true
  · rw [if_pos hname, if_pos hname]
    rfl
  · rw [if_neg hname, if_neg hname]
    cases hfault : services.fault env (.getProject name) with
    | some fault => exact run_answered_of_fault hfault
    | none =>
      rw [run_answered_of_none hfault, run_bind_of_ok (run_gets _ _)]
      cases findProject name env.projects with
      | none => rfl
      | some item => rfl

variable {record : String × ProjectRow}

/-- What `resolve_record` of the projects finds, and what it makes of it. -/
theorem run_resolveProject
    {result : Option (String × ProjectRow)}
    (h : (resolveProject services dedupId name record).run env = (.ok result, env')) :
    env' = env ∧ isEmpty name = false ∧ match findProject name env.projects with
      | none => result = some record
      | some found =>
        ((convertFromDb found.1 found.2).equal (convertFromDb record.1 record.2) = true ∧ result = none) ∨
          (convertFromDb found.1 found.2).equal (convertFromDb record.1 record.2) = false ∧
            result = some (record.1,
              { record.2 with name := some (uniqueResourceIdGenerator name dedupId) }) := by
  unfold resolveProject at h
  rw [run_tryCatch, run_bind, run_getProjectByName] at h
  by_cases hname : isEmpty name = true
  · rw [if_pos hname] at h
    cases h
  · rw [if_neg hname] at h
    cases hfault : services.fault env (.getProject name) with
    | some fault =>
      -- a failure is no answer, so it is raised again
      rw [hfault] at h
      have hcode : fault.exc.errorCode ≠ some .projectNotFound := fun hcode =>
        fault.not_answer _ hcode (by simp [answerCodes])
      simp only [if_neg hcode] at h
      cases h
    | none =>
      rw [hfault] at h
      refine ⟨?_, by simpa using hname, ?_⟩ <;> cases hfound : findProject name env.projects with
      | none =>
        rw [hfound] at h
        cases h
        rfl
      | some found =>
        rw [hfound] at h
        by_cases hequal : (convertFromDb found.1 found.2).equal (convertFromDb record.1 record.2) = true
        · simp only [hequal, if_true] at h
          cases h
          simp [hequal]
        · simp only [hequal] at h
          cases h
          simp [hequal]

theorem not_has_nextProjectId (projects : Table String ProjectRow) :
    ¬ projects.Has (nextProjectId services projects) := by
  intro h
  rw [← Table.mem_keys_iff_has, ← Table.scan_keys] at h
  exact services.ids.next_not_mem _ h

/-- A project that is created has a new id and the name of the request, and there was none of that name. -/
theorem run_createProject {project created : Project}
    (h : (createProject services project).run env = (.ok created, env')) :
    isEmptyOpt project.name = false ∧ findProject (project.name.getD "") env.projects = none ∧
      created.projectId = some (nextProjectId services env.projects) ∧ created.name = getAsString project.name ∧
      AddsOne env.projects (nextProjectId services env.projects) (fun row => row.name = project.name)
        env'.projects := by
  unfold createProject at h
  by_cases hname : isEmptyOpt project.name = true
  · rw [if_pos hname] at h
    cases h
  · rw [if_neg hname] at h
    replace h := run_of_answered h
    rw [run_bind_of_ok (run_gets _ _)] at h
    cases hfound : findProject (project.name.getD "") env.projects with
    | some found =>
      rw [hfound] at h
      obtain ⟨_, _, hwhen, _⟩ := returns_bind.mp h
      exact absurd hwhen (by simp [Returns, run_when])
    | none =>
      rw [hfound] at h
      obtain ⟨⟨⟩, env₀, hwhen, hrest⟩ := returns_bind.mp h
      obtain rfl : env₀ = env := (Reads.whenRaise _).eq_of_run hwhen
      obtain ⟨⟨⟩, env₁, hcheck, hstore⟩ := returns_bind.mp hrest
      obtain rfl : env₁ = env₀ := (Reads.liftExcept _).eq_of_run hcheck
      cases hstore
      refine ⟨by simpa using hname, rfl, services.ids.getAsString_next _, ?_, ?_⟩
      · show getAsString (project.name.or none) = _
        rw [Option.or_none]
      · exact AddsOne.putItem (not_has_nextProjectId _) (Option.or_none (o := project.name))

variable {before : Table String ProjectRow}

/-- What an update of a project keeps: a table to which one row with the name of the request has been
added, under its id. It answers the project under that id. -/
theorem triple_updateProject {project : Project} {projectId : String} (hid : project.projectId = some projectId)
    (hname : project.name = some name) :
    Triple (fun env => AddsOne before projectId (fun row => row.name = some name) env.projects)
      (updateProject services project) (fun updated env => updated.projectId = getAsString (some projectId) ∧
        AddsOne before projectId (fun row => row.name = some name) env.projects)
      fun _ env => AddsOne before projectId (fun row => row.name = some name) env.projects := by
  unfold updateProject
  refine Triple.ite (fun _ => Triple.raise fun _ h => h) fun _ => triple_answered ?_ fun _ _ h => h
  refine Triple.bind_reads (Reads.gets _) (fun _ _ h => h) fun existing => ?_
  cases existing with
  | none => exact Triple.raise fun _ h => h
  | some existing =>
    refine Triple.bind_reads ?_ (fun _ _ h => h) fun _ =>
      Triple.bind_reads (Reads.liftExcept _) (fun _ _ h => h) fun _ =>
      Triple.bind_reads ?_ (fun _ _ h => h) fun _ => Triple.bind_reads ?_ (fun _ _ h => h) fun _ =>
      Triple.bind_reads (Reads.liftExcept _) (fun _ _ h => h) fun _ =>
      Triple.bind_reads (Reads.liftExcept _) (fun _ _ h => h) fun _ => ?_
    · exact Reads.when fun _ => Reads.bind (Reads.gets _) fun _ => Reads.whenRaise _
    · refine Reads.forEach fun groupName _ => ?_
      unfold getGroup
      exact Reads.ite (fun _ => Reads.raise _) fun _ =>
        Reads.bind (Reads.gets _) fun _ => Reads.whenRaise _
    · exact Reads.forEach fun username _ => Reads.bind (reads_getUser _) fun _ => Reads.pure _
    · -- the row is written under the same name
      unfold writeProject
      rw [hid]
      refine Triple.bind (Triple.modify fun env henv => henv.updateItem fun row _ => ?_) fun _ =>
        Triple.bind_reads (Reads.gets _) (fun _ _ h => h) fun row =>
        Triple.bind (Keeps.when fun _ => keeps_answered (Keeps.modify fun env henv => henv)) fun _ =>
          Triple.pure fun env henv => ⟨rfl, henv⟩
      show project.name.or row.name = some name
      rw [hname]
      rfl

/-- Groups and users are added to the row of the delta, or nothing is. -/
theorem triple_addGroupsAndUsersToProject {delta : MergedRecordDelta (String × ProjectRow)}
    (hid : getAsString (some delta.resolvedRecord.1) = some delta.resolvedRecord.1)
    (hname : getAsString delta.resolvedRecord.2.name = some name) :
    Triple (fun env => AddsOne before delta.resolvedRecord.1 (fun row => row.name = some name) env.projects)
      (addGroupsAndUsersToProject services delta) (fun delta' env => delta'.snapshotRecord = delta.snapshotRecord ∧
        delta'.resolvedRecord.1 = delta.resolvedRecord.1 ∧
        AddsOne before delta.resolvedRecord.1 (fun row => row.name = some name) env.projects) fun _ _ => False := by
  refine Triple.tryCatch (R := fun _ env =>
      AddsOne before delta.resolvedRecord.1 (fun row => row.name = some name) env.projects) ?_
    fun _ => Triple.pure fun env henv => ⟨rfl, rfl, henv⟩
  refine Triple.bind (triple_updateProject hid hname)
    fun updated => Triple.pure ?_
  rintro env ⟨hupdated, henv⟩
  refine ⟨rfl, ?_, henv⟩
  show updated.projectId.getD "" = _
  rw [hupdated, hid]
  rfl

/-- What is left of a project that was created when groups and users have been added to it. -/
theorem addGroupsAndUsers_of_created {created delta : MergedRecordDelta (String × ProjectRow)} {newName : String}
    (hid : created.resolvedRecord.1 = nextProjectId services before)
    (hname : created.resolvedRecord.2.name = some (strip newName)) (hblank : isEmpty newName = false)
    (hadds : AddsOne before (nextProjectId services before) (fun row => row.name = some (strip newName)) env.projects)
    (h : Returns (addGroupsAndUsersToProject services created) env delta env') :
    delta.snapshotRecord = created.snapshotRecord ∧ delta.resolvedRecord.1 = nextProjectId services before ∧
      AddsOne before (nextProjectId services before) (fun row => row.name = some (strip newName)) env'.projects := by
  have hstripped : getAsString (some (strip newName)) = some (strip newName) := by
    rw [← getAsString_of_nonblank hblank]
    exact getAsString_getAsString (some newName)
  rw [← hid] at hadds ⊢
  refine (triple_addGroupsAndUsersToProject ?_ ?_).of_ok hadds h
  · rw [hid]
    exact services.ids.getAsString_next _
  · rw [hname]
    exact hstripped

/-- What the part that creates has done when it returns. -/
theorem run_createProjectOfRecord
    {result : Merged (MergedRecordDelta (String × ProjectRow))}
    (h : (createProjectOfRecord services dedupId name record).run env = (.ok result, env'))
    (hrecord : record.2.name = some name) : match result with
    | .failed => True
    | .skipped => env' = env ∧ isEmpty name = false ∧ ∃ found, findProject name env.projects = some found ∧
        (convertFromDb found.1 found.2).equal (convertFromDb record.1 record.2) = true
    | .merged delta => isEmpty name = false ∧ delta.snapshotRecord = record ∧
        delta.resolvedRecord.1 = nextProjectId services env.projects ∧
        delta.resolvedRecord.2.name =
          some (strip (nameFor dedupId name (findProject name env.projects).isSome)) ∧
        (∀ found, findProject name env.projects = some found →
          (convertFromDb found.1 found.2).equal (convertFromDb record.1 record.2) = false) ∧
        AddsOne env.projects (nextProjectId services env.projects)
          (fun row => row.name =
            some (strip (nameFor dedupId name (findProject name env.projects).isSome))) env'.projects := by
  cases result with
  | failed => trivial
  | skipped =>
    obtain ⟨resolved, env₀, hresolve, hcreate⟩ := returns_bind.mp (run_of_orFailed h (by simp))
    obtain ⟨rfl, hblank, hfound⟩ := run_resolveProject hresolve
    cases resolved with
    | none =>
      cases hcreate
      refine ⟨rfl, hblank, ?_⟩
      cases hindex : findProject name env'.projects with
      | none =>
        rw [hindex] at hfound
        cases hfound
      | some found =>
        rw [hindex] at hfound
        rcases hfound with ⟨hequal, -⟩ | ⟨-, hnone⟩
        · exact ⟨found, rfl, hequal⟩
        · cases hnone
    | some resolved =>
      obtain ⟨created, env₁, -, hskip⟩ := returns_bind.mp hcreate
      cases hskip
  | merged delta =>
    obtain ⟨resolved, env₀, hresolve, hcreate⟩ := returns_bind.mp (run_of_orFailed h (by simp))
    obtain ⟨rfl, hblank, hfound⟩ := run_resolveProject hresolve
    cases resolved with
    | none => cases hcreate
    | some resolved =>
      obtain ⟨created, env₁, hrun, hdelta⟩ := returns_bind.mp hcreate
      cases hdelta
      obtain ⟨hnonblank, -, hid, hname, hadds⟩ := run_createProject hrun
      -- the record is created under the name of the resolved one
      obtain ⟨hresolved, hequal⟩ : resolved.2.name =
          some (nameFor dedupId name (findProject name env₀.projects).isSome) ∧
            ∀ found, findProject name env₀.projects = some found →
              (convertFromDb found.1 found.2).equal (convertFromDb record.1 record.2) = false := by
        cases hindex : findProject name env₀.projects with
        | none =>
          rw [hindex] at hfound
          cases hfound
          exact ⟨hrecord, fun found hfound => by cases hfound⟩
        | some found =>
          rw [hindex] at hfound
          rcases hfound with ⟨-, hnone⟩ | ⟨hequal, hsome⟩
          · cases hnone
          · cases hsome
            exact ⟨rfl, fun found' hfound' => by cases hfound'; exact hequal⟩
      have hproject : (projectToCreate services resolved).name =
          some (strip (nameFor dedupId name (findProject name env₀.projects).isSome)) := by
        show getAsString resolved.2.name = _
        rw [hresolved]
        exact getAsString_of_nonblank (isEmpty_nameFor hblank _ _)
      refine ⟨hblank, rfl, ?_, ?_, hequal, ?_⟩
      · show created.projectId.getD "" = _
        rw [hid]
        rfl
      · show created.name.or none = _
        rw [Option.or_none, hname, ← hproject]
        exact getAsString_getAsString resolved.2.name
      · rw [hproject] at hadds
        exact hadds

theorem eq_some_of_getD_ne {name : Option String} (h : name.getD "" ≠ "") : name = some (name.getD "") := by
  cases name with
  | none => exact absurd rfl h
  | some name => rfl

/-- **Projects.** A project that is skipped has no name, or an equal project of its name is there. One that is merged
is created under the next id, and under its name if no row has it. -/
theorem run_mergeProject {result : Merged (MergedRecordDelta (String × ProjectRow))}
    (h : (mergeProject services dedupId record).run env = (.ok result, env')) : match result with
    | .failed => True
    | .skipped => env' = env ∧ (record.2.name.getD "" = "" ∨ ∃ name found, record.2.name = some name ∧
        isEmpty name = false ∧ findProject name env.projects = some found ∧
          (convertFromDb found.1 found.2).equal (convertFromDb record.1 record.2) = true)
    | .merged delta => ∃ name, record.2.name = some name ∧ isEmpty name = false ∧ delta.snapshotRecord = record ∧
        delta.resolvedRecord.1 = nextProjectId services env.projects ∧
        (∀ found, findProject name env.projects = some found →
          (convertFromDb found.1 found.2).equal (convertFromDb record.1 record.2) = false) ∧
        AddsOne env.projects (nextProjectId services env.projects)
          (fun row => row.name =
            some (strip (nameFor dedupId name (findProject name env.projects).isSome))) env'.projects := by
  unfold mergeProject at h
  by_cases hname : record.2.name.getD "" = ""
  · rw [if_pos hname] at h
    cases h
    exact ⟨rfl, .inl hname⟩
  · rw [if_neg hname] at h
    obtain ⟨created, env₀, hrun, hrest⟩ := returns_bind.mp h
    have hrecord := eq_some_of_getD_ne hname
    have hresult := run_createProjectOfRecord hrun hrecord
    cases created with
    | failed =>
      cases hrest
      trivial
    | skipped =>
      cases hrest
      obtain ⟨rfl, hblank, found, hfound, hequal⟩ := hresult
      exact ⟨rfl, .inr ⟨_, found, hrecord, hblank, hfound, hequal⟩⟩
    | merged created =>
      obtain ⟨hblank, hsnapshot, hid, hcreated, hequal, hadds⟩ := hresult
      obtain ⟨delta', env₁, hupdate, hmerged⟩ := returns_bind.mp hrest
      cases hmerged
      obtain ⟨hsnapshot', hid', hafter⟩ :=
        addGroupsAndUsers_of_created hid hcreated (isEmpty_nameFor hblank _ _) hadds hupdate
      exact ⟨_, hrecord, hblank, hsnapshot'.trans hsnapshot, hid', hequal, hafter⟩

/-! ## Permission profiles -/

theorem run_getPermissionProfile (profileId : String) (env : Environment) :
    (getPermissionProfile services profileId).run env =
      if isEmpty profileId then (.error (requestFailed ("Invalid profile_id: " ++ profileId)), env)
      else match services.fault env (.getPermissionProfile profileId) with
        | some fault => (.error fault.exc, env)
        | none => match env.permissionProfiles.getItem profileId with
          | none => (.error (requestFailed ("Invalid profile_id: " ++ profileId)), env)
          | some row => (.ok (PermissionProfiles.convertDbDictToPermissionProfileObject services.types
              profileId row.read), env) := by
  unfold getPermissionProfile
  by_cases hid : isEmpty profileId = true
  · rw [if_pos hid, if_pos hid]
    rfl
  · rw [if_neg hid, if_neg hid]
    cases hfault : services.fault env (.getPermissionProfile profileId) with
    | some fault => exact run_answered_of_fault hfault
    | none =>
      rw [run_answered_of_none hfault, run_bind_of_ok (run_gets _ _)]
      cases env.permissionProfiles.getItem profileId with
      | none => rfl
      | some row => rfl

/-- The profile of the environment is equal to the one of the snapshot. -/
def SameProfile (types : PermissionTypes) (profileId : String) (existing row : ProfileRow) : Prop :=
  profileEqual (PermissionProfiles.convertDbDictToPermissionProfileObject types profileId existing.read)
    (convertDbDictToPermissionProfileObject types profileId row) = true

instance (types : PermissionTypes) (profileId : String) (existing row : ProfileRow) :
    Decidable (SameProfile types profileId existing row) :=
  inferInstanceAs (Decidable (_ = true))

/-- What `resolve_record` of the profiles finds, and what it makes of it. -/
theorem run_resolveProfile {record : String × ProfileRow} {result : Option (String × ProfileRow)}
    (hid : isEmpty record.1 = false) (h : (resolveProfile services dedupId record).run env = (.ok result, env')) :
    env' = env ∧ match env.permissionProfiles.getItem record.1 with
      | none => result = some record
      | some existing => (SameProfile services.types record.1 existing record.2 ∧ result = none) ∨
          ¬ SameProfile services.types record.1 existing record.2 ∧
            result = some (uniqueResourceIdGenerator record.1 dedupId, record.2) := by
  unfold resolveProfile at h
  rw [run_tryCatch, run_bind, run_getPermissionProfile, hid] at h
  cases hfault : services.fault env (.getPermissionProfile record.1) with
  | some fault =>
    rw [hfault] at h
    have hcode : fault.exc.errorCode ≠ some .invalidParams := fun hcode =>
      fault.not_answer _ hcode (by simp [answerCodes])
    simp only [Bool.false_eq_true, if_false, if_neg hcode] at h
    cases h
  | none =>
    rw [hfault] at h
    refine ⟨?_, ?_⟩ <;> cases hfound : env.permissionProfiles.getItem record.1 with
    | none =>
      rw [hfound] at h
      cases h
      rfl
    | some existing =>
      rw [hfound] at h
      by_cases hsame : SameProfile services.types record.1 existing record.2
      · have hequal := hsame
        unfold SameProfile at hequal
        simp only [Bool.false_eq_true, if_false, hequal, if_true] at h
        cases h
        simp [hsame]
      · have hequal := hsame
        unfold SameProfile at hequal
        simp only [Bool.false_eq_true, if_false, hequal] at h
        cases h
        simp [hsame]

/-- A profile that is created was not there. -/
theorem run_createPermissionProfile {profile created : PermissionProfile} {profileId : String}
    (hid : profile.profileId = some profileId) (hblank : isEmpty profileId = false)
    (h : (createPermissionProfile services profile).run env = (.ok created, env')) :
    AddsOne env.permissionProfiles profileId (fun _ => True) env'.permissionProfiles := by
  unfold createPermissionProfile at h
  replace h := run_of_answered h
  rw [hid, run_bind_of_ok (run_gets _ _)] at h
  have hne : profileId ≠ "" := by
    rintro rfl
    cases hblank
  by_cases hexisting : (env.permissionProfiles.getItem profileId).isSome
  · rw [show (some profileId).getD "" = profileId from rfl, if_pos ⟨hblank, hexisting⟩] at h
    cases h
  · rw [show (some profileId).getD "" = profileId from rfl, if_neg (by simp [hexisting]), if_neg hne] at h
    cases h
    exact AddsOne.putItem hexisting trivial

/-- **Permission profiles.** A profile that is skipped has no id, or an equal profile with its id is there. One that is
merged is created under its id if no row has it. -/
theorem run_mergePermissionProfile {record : String × ProfileRow}
    {result : Merged (MergedRecordDelta (String × ProfileRow))} (hid : record.1 = "" ∨ isEmpty record.1 = false)
    (h : (mergePermissionProfile services dedupId record).run env = (.ok result, env')) : match result with
    | .failed => True
    | .skipped => env' = env ∧ (record.1 = "" ∨ isEmpty record.1 = false ∧
        ∃ existing, env.permissionProfiles.getItem record.1 = some existing ∧
          SameProfile services.types record.1 existing record.2)
    | .merged delta => isEmpty record.1 = false ∧ delta.snapshotRecord = record ∧
        (∀ existing, env.permissionProfiles.getItem record.1 = some existing →
          ¬ SameProfile services.types record.1 existing record.2) ∧
        AddsOne env.permissionProfiles
          (nameFor dedupId record.1 (env.permissionProfiles.getItem record.1).isSome) (fun _ => True)
          env'.permissionProfiles := by
  unfold mergePermissionProfile at h
  by_cases hempty : record.1 = ""
  · rw [if_pos hempty] at h
    cases h
    exact ⟨rfl, .inl hempty⟩
  rw [if_neg hempty] at h
  by_cases hfailed : result = .failed
  · subst hfailed
    trivial
  have hblank := hid.resolve_left hempty
  obtain ⟨resolved, env₀, hresolve, hrest⟩ := returns_bind.mp (run_of_orFailed h hfailed)
  obtain ⟨rfl, hfound⟩ := run_resolveProfile hblank hresolve
  cases resolved with
  | none =>
    cases hrest
    refine ⟨rfl, .inr ⟨hblank, ?_⟩⟩
    cases hindex : env'.permissionProfiles.getItem record.1 with
    | none =>
      rw [hindex] at hfound
      cases hfound
    | some existing =>
      rw [hindex] at hfound
      rcases hfound with ⟨hequal, -⟩ | ⟨-, hnone⟩
      · exact ⟨existing, rfl, hequal⟩
      · cases hnone
  | some resolved =>
    obtain ⟨created, env₁, hcreate, hdelta⟩ := returns_bind.mp hrest
    cases hdelta
    -- the id of the resolved record is the one that is created
    obtain ⟨hresolved, hequal⟩ : resolved.1 =
        nameFor dedupId record.1 (env₀.permissionProfiles.getItem record.1).isSome ∧
          ∀ existing, env₀.permissionProfiles.getItem record.1 = some existing →
            ¬ SameProfile services.types record.1 existing record.2 := by
      cases hindex : env₀.permissionProfiles.getItem record.1 with
      | none =>
        rw [hindex] at hfound
        cases hfound
        exact ⟨rfl, fun existing hexisting => by cases hexisting⟩
      | some existing =>
        rw [hindex] at hfound
        rcases hfound with ⟨-, hnone⟩ | ⟨hequal, hsome⟩
        · cases hnone
        · cases hsome
          exact ⟨rfl, fun existing' hexisting => by cases hexisting; exact hequal⟩
    rw [← hresolved]
    exact ⟨hblank, rfl, hequal, run_createPermissionProfile rfl (hresolved ▸ isEmpty_nameFor hblank _ _) hcreate⟩

/-! ## Software stacks -/

/-- The stacks that the environment lists for a name. -/
def listedStacks (services : Services) (name : String) (table : Stacks) : Except Exc (List SoftwareStack) :=
  SoftwareStacks.getSoftwareStacksByName services.numbers services.stackPaginator name table

/-- One of the stacks that are listed is equal to the one of the snapshot. -/
def EqualListed (services : Services) (name : String) (entry : SoftwareStackDict) (table : Stacks) : Prop :=
  ∃ listed stack, listedStacks services name table = .ok listed ∧
    convertDbDictToSoftwareStackObject services.numbers entry = .ok stack ∧
    ∃ existing ∈ listed, existing.equal stack = true

/-- The entry that is created for a record, where some stacks were listed for its name or none. -/
def entryToCreate (dedupId name : String) (taken : Bool) (entry : SoftwareStackDict) : SoftwareStackDict :=
  { entry with name := some (nameFor dedupId name taken) }

/-- The stack is refused for its image. -/
def ImageRefused (services : Services) (entry : SoftwareStackDict) : Prop :=
  ∃ stack e, convertDbDictToSoftwareStackObject services.numbers entry = .ok stack ∧
    checkRequest services.describeImageId stack = .error e ∧ isInvalidAmi e = true

theorem run_getSoftwareStacksByName {listed : List SoftwareStack}
    (h : (getSoftwareStacksByName services name).run env = (.ok listed, env')) :
    env' = env ∧ listedStacks services name env.softwareStacks = .ok listed := by
  unfold getSoftwareStacksByName at h
  replace h := run_of_answered h
  rw [run_bind_of_ok (run_gets _ _), run_liftExcept, Prod.mk.injEq] at h
  exact ⟨h.2.symm, h.1⟩

/-- What `resolve_record` of the software stacks finds, and what it makes of it. -/
theorem run_resolveSoftwareStack {entry : SoftwareStackDict}
    {result : Option SoftwareStackDict} (hname : entry.name = some name)
    (h : (resolveSoftwareStack services dedupId name entry).run env = (.ok result, env')) :
    env' = env ∧ ((EqualListed services name entry env.softwareStacks ∧ result = none) ∨
      ∃ listed, listedStacks services name env.softwareStacks = .ok listed ∧
        ¬ EqualListed services name entry env.softwareStacks ∧
        result = some (entryToCreate dedupId name (!listed.isEmpty) entry)) := by
  obtain ⟨listed, env₀, hlist, hrest⟩ := returns_bind.mp h
  obtain ⟨rfl, hlisted⟩ := run_getSoftwareStacksByName hlist
  by_cases hempty : listed = []
  · rw [if_pos hempty] at hrest
    cases hrest
    refine ⟨rfl, .inr ⟨listed, hlisted, ?_, ?_⟩⟩
    · rintro ⟨listed', stack, hlisted', -, existing, hmem, -⟩
      rw [hlisted, hempty] at hlisted'
      cases hlisted'
      exact absurd hmem List.not_mem_nil
    · rw [hempty]
      show some entry = some { entry with name := some name }
      rw [← hname]
  · rw [if_neg hempty] at hrest
    obtain ⟨stack, env₁, hconvert, hresult⟩ := returns_bind.mp hrest
    unfold Returns at hconvert
    rw [run_liftExcept, Prod.mk.injEq] at hconvert
    obtain ⟨hstack, rfl⟩ := hconvert
    by_cases hany : listed.any fun existing => existing.equal stack
    · rw [if_pos hany] at hresult
      cases hresult
      refine ⟨rfl, .inl ⟨⟨listed, stack, hlisted, hstack, ?_⟩, rfl⟩⟩
      exact List.any_eq_true.mp hany
    · rw [if_neg hany] at hresult
      cases hresult
      refine ⟨rfl, .inr ⟨listed, hlisted, ?_, ?_⟩⟩
      · rintro ⟨listed', stack', hlisted', hstack', hexisting⟩
        rw [hlisted] at hlisted'
        rw [hstack] at hstack'
        cases hlisted'
        cases hstack'
        exact hany (List.any_eq_true.mpr hexisting)
      · rw [entryToCreate, nameFor, if_pos (by simpa using hempty)]

/-- What the creation of a stack for a record leaves. -/
theorem run_createStackOfRecord {record entry : SoftwareStackDict}
    {delta : MergedRecordDelta SoftwareStackDict}
    (h : (createStackOfRecord services record entry).run env = (.ok (.merged delta), env')) :
    delta.snapshotRecord = record ∧ ∃ baseOs, AddsOne env.softwareStacks
      (baseOs, nextStackId services.ids env.softwareStacks)
      (fun row => row.name = entry.name ∧ row.projects = entry.projects) env'.softwareStacks := by
  obtain ⟨stack, env₀, hconvert, hrest⟩ := returns_bind.mp h
  unfold Returns at hconvert
  rw [run_liftExcept, Prod.mk.injEq] at hconvert
  obtain ⟨hstack, rfl⟩ := hconvert
  obtain ⟨created, env₁, hcreate, hrest⟩ := returns_bind.mp hrest
  obtain ⟨dict, env₂, hdict, hdelta⟩ := returns_bind.mp hrest
  cases hdelta
  obtain rfl : env' = env₁ := (Reads.liftExcept _).eq_of_run hdict
  obtain ⟨baseOs, minStorage, minRam, architecture, gpu, -, -, -, -, -, rfl⟩ :=
    (stackOfRow_eq_ok services.numbers).mp hstack
  refine ⟨rfl, baseOs, ?_⟩
  -- the checks pass, or the creation would have raised
  have hrun := run_of_answered hcreate
  rw [run_zoom] at hrun
  cases hcheck : checkRequest services.describeImageId _ with
  | error e =>
    rw [run_createSoftwareStack_of_error services.numbers services.describeImageId services.ids
      services.now hcheck] at hrun
    cases hrun
  | ok architecture' =>
    obtain ⟨row, result, hname, hprojects, -, -, hput⟩ := run_createSoftwareStack services.numbers
      services.describeImageId services.ids services.now rfl hcheck env.softwareStacks
    rw [hput] at hrun
    cases hrun
    exact AddsOne.putItem (not_has_nextStackId services.ids env.softwareStacks baseOs) ⟨hname, hprojects⟩

variable {e : Exc}

/-- A row that has no object says nothing of an image. -/
theorem isInvalidAmi_of_stackOfRow {text : Option String → Option String} {row : SoftwareStackDict}
    (h : stackOfRow services.numbers text row = .error e) : isInvalidAmi e = false := by
  unfold stackOfRow memoryOf at h
  cases hos : row.baseOs with
  | none =>
    rw [hos] at h
    cases h
    rfl
  | some baseOs =>
    cases hstorage : services.numbers.float row.minStorageValue with
    | none =>
      rw [hos, hstorage] at h
      cases h
      rfl
    | some minStorage =>
      cases hram : services.numbers.float row.minRamValue with
      | none =>
        rw [hos, hstorage, hram] at h
        cases h
        rfl
      | some minRam =>
        cases harchitecture : row.architecture with
        | none =>
          rw [hos, hstorage, hram, harchitecture] at h
          cases h
          rfl
        | some architecture =>
          cases hgpu : row.gpu <;> rw [hos, hstorage, hram, harchitecture, hgpu] at h <;> cases h
          rfl

/-- An exception of a list is one of an element. -/
theorem exists_of_mapM_error {α β : Type} {f : α → Except Exc β} {xs : List α}
    (h : xs.mapM f = .error e) : ∃ x ∈ xs, f x = .error e := by
  induction xs with
  | nil => cases h
  | cons x xs ih =>
    rw [List.mapM_cons] at h
    cases hx : f x with
    | error e' =>
      rw [hx] at h
      cases h
      exact ⟨x, List.mem_cons_self, hx⟩
    | ok y =>
      rw [hx] at h
      cases hxs : xs.mapM f with
      | error e' =>
        obtain ⟨z, hz, he⟩ := ih (by
          rw [← h, hxs]
          rfl)
        exact ⟨z, List.mem_cons_of_mem x hz, he⟩
      | ok ys =>
        rw [hxs] at h
        cases h

theorem isInvalidAmi_fault (fault : Fault) : isInvalidAmi fault.exc = false := by
  have hcode : fault.exc.errorCode ≠ some .invalidParams := fun hcode =>
    fault.not_answer _ hcode (by simp [answerCodes])
  cases hexc : fault.exc with
  | other kind message => rfl
  | soca code message =>
    rw [hexc] at hcode
    cases code <;> first | rfl | exact absurd rfl hcode

/-- Neither the listing nor the conversion of the entry says anything of an image. -/
theorem isInvalidAmi_of_resolve {entry : SoftwareStackDict}
    (h : (resolveSoftwareStack services dedupId name entry).run env = (.error e, env')) : isInvalidAmi e = false := by
  unfold resolveSoftwareStack at h
  rw [run_bind] at h
  rcases hlist : (getSoftwareStacksByName services name).run env with ⟨e' | listed, env₀⟩ <;> rw [hlist] at h
  · cases h
    rcases run_answered_cases hlist with hlist | ⟨fault, hfault, -⟩
    · rw [run_bind_of_ok (run_gets _ _), run_liftExcept, Prod.mk.injEq] at hlist
      obtain ⟨row, -, hrow⟩ := exists_of_mapM_error
        ((getSoftwareStacksByName_eq services.numbers services.stackPaginator name _).symm.trans hlist.1)
      exact isInvalidAmi_of_stackOfRow hrow
    · cases hfault
      exact isInvalidAmi_fault fault
  · by_cases hempty : listed = []
    · simp only [if_pos hempty] at h
      cases h
    · simp only [if_neg hempty] at h
      rw [run_bind, run_liftExcept] at h
      cases hstack : convertDbDictToSoftwareStackObject services.numbers entry with
      | error e' =>
        rw [hstack] at h
        cases h
        exact isInvalidAmi_of_stackOfRow hstack
      | ok stack =>
        rw [hstack] at h
        by_cases hany : listed.any fun existing => existing.equal stack
        · simp only [if_pos hany] at h
          cases h
        · simp only [if_neg hany] at h
          cases h

/-- The creation says something of the image only where the request is refused for it. -/
theorem imageRefused_of_create {record entry : SoftwareStackDict}
    (h : (createStackOfRecord services record entry).run env = (.error e, env'))
    (hami : isInvalidAmi e = true) : env' = env ∧ ImageRefused services entry := by
  unfold createStackOfRecord at h
  rw [run_bind, run_liftExcept] at h
  cases hstack : convertDbDictToSoftwareStackObject services.numbers entry with
  | error e' =>
    rw [hstack] at h
    cases h
    exact absurd hami (by rw [isInvalidAmi_of_stackOfRow hstack]; simp)
  | ok stack =>
    rw [hstack] at h
    obtain ⟨baseOs, minStorage, minRam, architecture, gpu, -, -, -, -, -, hfields⟩ :=
      (stackOfRow_eq_ok services.numbers).mp hstack
    have hos : stack.baseOs = some baseOs := by rw [hfields]
    have hcreate : ∀ result env₀, (createSoftwareStack services stack).run env = (result, env₀) →
        (∃ fault : Fault, result = .error fault.exc) ∨
          (∃ e', checkRequest services.describeImageId stack = .error e' ∧ result = .error e' ∧ env₀ = env) ∨
          ∃ row created, SoftwareStacks.convertDbDictToSoftwareStackObject services.numbers row = .ok created ∧
            result = .ok created := by
      intro result env₀ hrun
      rcases run_answered_cases hrun with hrun | ⟨fault, hfault, -⟩
      · rw [run_zoom] at hrun
        cases hcheck : checkRequest services.describeImageId stack with
        | error e' =>
          rw [run_createSoftwareStack_of_error services.numbers services.describeImageId services.ids
            services.now hcheck] at hrun
          cases hrun
          exact .inr (.inl ⟨e', rfl, rfl, rfl⟩)
        | ok architecture' =>
          obtain ⟨row, created, -, -, -, hcreated, hput⟩ := run_createSoftwareStack services.numbers
            services.describeImageId services.ids services.now hos hcheck env.softwareStacks
          rw [hput] at hrun
          cases hrun
          exact .inr (.inr ⟨row, created, hcreated, rfl⟩)
      · exact .inl ⟨fault, hfault⟩
    change ((createSoftwareStack services stack >>= fun created =>
      Proc.liftExcept (convertSoftwareStackObjectToDbDict services.numbers.str created) >>= fun dict =>
        pure (.merged ⟨record, dict⟩) : EnvProc (Merged (MergedRecordDelta SoftwareStackDict))).run env) = _ at h
    rw [run_bind] at h
    rcases hrun : (createSoftwareStack services stack).run env with ⟨result, env₀⟩
    rw [hrun] at h
    rcases hcreate result env₀ hrun with ⟨fault, rfl⟩ | ⟨e', hcheck, rfl, rfl⟩ | ⟨row, created, hcreated, rfl⟩
    · cases h
      exact absurd hami (by rw [isInvalidAmi_fault]; simp)
    · cases h
      exact ⟨rfl, stack, e, hstack, hcheck, hami⟩
    · -- a stack that was created has a row form
      obtain ⟨_, storage, ram, _, _, -, -, -, -, -, rfl⟩ := (stackOfRow_eq_ok services.numbers).mp hcreated
      cases h

variable {mappings : List (String × String)} {record : SoftwareStackDict}

/-- The body of the loop, where the record has a name. -/
theorem run_mergeSoftwareStack_named (hrecord : record.name = some name) (hname : name ≠ "")
    (env : Environment) : (mergeSoftwareStack services dedupId mappings record).run env = (Proc.tryCatch
        (resolveSoftwareStack services dedupId name (resolveProjectIds mappings record) >>= fun resolved =>
          match resolved with
          | none => pure .skipped
          | some resolved => createStackOfRecord services record resolved)
        fun e => if isInvalidAmi e then pure .skipped else if e.isSoca then Proc.raise e
          else pure .failed).run env := by
  obtain rfl : record.name.getD "" = name := by
    rw [hrecord]
    rfl
  exact congrArg (fun c : EnvProc _ => c.run env) (if_neg hname)

theorem run_mergeSoftwareStack_nameless (hname : record.name.getD "" = "") (env : Environment) :
    (mergeSoftwareStack services dedupId mappings record).run env = (.ok .skipped, env) :=
  congrArg (fun c : EnvProc _ => c.run env) (if_pos hname)

/-- What a failure of the body becomes. -/
theorem not_ok_of_not_ami {result : Merged (MergedRecordDelta SoftwareStackDict)} (hami : isInvalidAmi e = false)
    (h : (if isInvalidAmi e then pure .skipped else if e.isSoca then Proc.raise e else pure .failed :
      EnvProc _).run env = (.ok result, env')) : result = .failed := by
  rw [hami, if_neg (by simp)] at h
  by_cases hsoca : e.isSoca
  · rw [if_pos hsoca] at h
    cases h
  · rw [if_neg hsoca] at h
    cases h
    rfl

/-- **Software stacks.** A stack that is skipped has no name, or an equal one is listed for its name, or its image is
refused. One that is merged is created under a new id, with its projects resolved, and under its name if nothing was
listed for it. -/
theorem run_mergeSoftwareStack {result : Merged (MergedRecordDelta SoftwareStackDict)} :
    (mergeSoftwareStack services dedupId mappings record).run env = (.ok result, env') → match result with
    | .failed => True
    | .skipped => env' = env ∧ (record.name.getD "" = "" ∨ ∃ name, record.name = some name ∧ name ≠ "" ∧
        (EqualListed services name (resolveProjectIds mappings record) env.softwareStacks ∨
          ∃ listed, listedStacks services name env.softwareStacks = .ok listed ∧ ImageRefused services
              (entryToCreate dedupId name (!listed.isEmpty) (resolveProjectIds mappings record))))
    | .merged delta => ∃ name listed baseOs, record.name = some name ∧ name ≠ "" ∧ delta.snapshotRecord = record ∧
        listedStacks services name env.softwareStacks = .ok listed ∧
        ¬ EqualListed services name (resolveProjectIds mappings record) env.softwareStacks ∧
        AddsOne env.softwareStacks (baseOs, nextStackId services.ids env.softwareStacks)
          (fun row => row.name = some (nameFor dedupId name (!listed.isEmpty)) ∧
            row.projects = record.projects.map (resolveProjectId mappings)) env'.softwareStacks := by
  intro h
  by_cases hne : record.name.getD "" = ""
  · rw [run_mergeSoftwareStack_nameless hne] at h
    cases h
    exact ⟨rfl, .inl hne⟩
  have hrecord := eq_some_of_getD_ne hne
  rw [run_mergeSoftwareStack_named hrecord hne, run_tryCatch, run_bind] at h
  rcases hresolve : (resolveSoftwareStack services dedupId (record.name.getD "")
    (resolveProjectIds mappings record)).run env with ⟨e | resolved, env₀⟩ <;> rw [hresolve] at h
  · obtain rfl := not_ok_of_not_ami (isInvalidAmi_of_resolve hresolve) h
    trivial
  obtain ⟨rfl, ⟨hequal, rfl⟩ | ⟨listed, hlisted, hequal, rfl⟩⟩ := run_resolveSoftwareStack
    (show (resolveProjectIds mappings record).name = some _ from hrecord) hresolve
  · cases h
    exact ⟨rfl, .inr ⟨_, hrecord, hne, .inl hequal⟩⟩
  simp only at h
  rcases hcreate : (createStackOfRecord services record (entryToCreate dedupId (record.name.getD "")
    (!listed.isEmpty) (resolveProjectIds mappings record))).run env₀ with ⟨e | created, env₁⟩ <;>
    rw [hcreate] at h
  · by_cases hami : isInvalidAmi e = true
    · obtain ⟨rfl, hrefused⟩ := imageRefused_of_create hcreate hami
      simp only [if_pos hami] at h
      cases h
      exact ⟨rfl, .inr ⟨_, hrecord, hne, .inr ⟨listed, hlisted, hrefused⟩⟩⟩
    · obtain rfl := not_ok_of_not_ami (by simpa using hami) h
      trivial
  · cases h
    -- a creation that returns is one of a delta
    obtain ⟨delta, rfl⟩ : ∃ delta, result = .merged delta := by
      obtain ⟨stack, env₂, -, hrest⟩ := returns_bind.mp hcreate
      obtain ⟨created, env₃, -, hrest⟩ := returns_bind.mp hrest
      obtain ⟨dict, env₄, -, hdelta⟩ := returns_bind.mp hrest
      cases hdelta
      exact ⟨_, rfl⟩
    obtain ⟨hsnapshot, baseOs, hadds⟩ := run_createStackOfRecord hcreate
    exact ⟨_, listed, baseOs, hrecord, hne, hsnapshot, hlisted, hequal, hadds⟩

end ContainRes.Snapshots
