import ContainRes.Projects.Updates
import ContainRes.Snapshots.MergeSteps

/-! # An apply that completes

The mergers run one after the other, each from what the one before left. Each changes the table of its own
records only.

* **`applies_iff`** — an apply that completes, taken apart into the runs of the mergers.
* **`Completes.growsProjects`**, **`Completes.growsProfiles`**, **`Completes.growsStacks`** — a merge only
  adds to its table, one row for each delta.
* **`keeps_mergeUser`**, **`keeps_mergePermissionProfile`**, … — what does not depend on the table of a
  merger is kept by it. -/

namespace ContainRes.Snapshots

open Accounts (UserRow UserDao.convertFromDb)
open Effects Effects.Proc Store Text
open VirtualDesktop VirtualDesktop.PermissionProfiles
open VirtualDesktop.SoftwareStacks

variable {services : Services} {dedupId : String} {env env' : Environment}

/-- A table is merged when its merger succeeds. -/
theorem returns_mergeTable {δ : Type} {table : String} {record : List δ → Deltas → Deltas}
    {merge : EnvProc (List δ × Bool)} {s s' : ApplyState} {u : PUnit} : Returns (mergeTable table record merge) s u s' ↔
      ∃ deltas env, merge.run s.environment = (.ok (deltas, true), env) ∧ s' = ⟨env, record deltas s.deltas⟩ := by
  unfold mergeTable
  rw [returns_bind]
  constructor
  · rintro ⟨⟨deltas, success⟩, s₁, hzoom, hrest⟩
    obtain ⟨⟨⟩, s₂, hmodify, hwhen⟩ := returns_bind.mp hrest
    unfold Returns at hzoom
    rw [run_zoom, Prod.mk.injEq] at hzoom
    cases hmodify
    cases success with
    | false => exact absurd hwhen (by simp [Returns, run_when])
    | true =>
      obtain rfl := (Reads.whenRaise _).eq_of_run hwhen
      refine ⟨deltas, (merge.run s.environment).2, Prod.ext hzoom.1 rfl, ?_⟩
      rw [← hzoom.2]
  · rintro ⟨deltas, env, hmerge, rfl⟩
    refine ⟨(deltas, true), ⟨env, s.deltas⟩, ?_, ?_⟩
    · unfold Returns
      rw [run_zoom_of hmerge]
    · exact returns_bind.mpr ⟨⟨⟩, _, rfl, run_when_neg Bool.noConfusion _⟩

/-- The merge of the profiles asks for the permission types first. -/
theorem completes_mergePermissionProfiles {records : List (String × ProfileRow)}
    {deltas : List (MergedRecordDelta (String × ProfileRow))} :
    (mergePermissionProfiles services dedupId records).run env = (.ok (deltas, true), env') ↔
      services.fault env .getBasePermissions = none ∧
        Completes (mergePermissionProfile services dedupId) records env deltas env' := by
  unfold mergePermissionProfiles Completes
  rw [run_bind, run_tryCatch]
  cases hfault : services.fault env .getBasePermissions with
  | some fault =>
    rw [run_answered_of_fault hfault]
    constructor
    · intro h
      cases h
    · rintro ⟨h, -⟩
      cases h
  | none =>
    rw [run_answered_of_none hfault]
    exact ⟨fun h => ⟨rfl, h⟩, And.right⟩

variable {snapshot : Snapshot}

/-- **The mergers of an apply that completes.** -/
theorem applies_iff {deltas : Deltas} : Applies services dedupId snapshot env deltas env' ↔ ∃ env₁ env₂ env₃ env₄,
      Completes (mergeUser services) snapshot.users.scan env deltas.users env₁ ∧
      (services.fault env₁ .getBasePermissions = none ∧
        Completes (mergePermissionProfile services dedupId) snapshot.permissionProfiles.scan env₁
          deltas.permissionProfiles env₂) ∧
      Completes (mergeProject services dedupId) snapshot.projects.scan env₂ deltas.projects env₃ ∧
      Completes (mergeSoftwareStack services dedupId (projectIdMappings deltas.projects))
        (snapshot.softwareStacks.scan.map Prod.snd) env₃ deltas.softwareStacks env₄ ∧
      (mergeClusterSettings services dedupId snapshot.sharedStorage).run env₄ =
        (.ok (deltas.fileSystems, true), env') := by
  unfold Applies mergeTables
  constructor
  · intro h
    obtain ⟨⟨⟩, s₁, hfirst, h₁⟩ := returns_bind.mp h
    obtain ⟨users, env₁, husers, rfl⟩ := returns_mergeTable.mp hfirst
    obtain ⟨⟨⟩, s₂, hsecond, h₂⟩ := returns_bind.mp h₁
    obtain ⟨profiles, env₂, hprofiles, rfl⟩ := returns_mergeTable.mp hsecond
    obtain ⟨⟨⟩, s₃, hthird, h₃⟩ := returns_bind.mp h₂
    obtain ⟨projects, env₃, hprojects, rfl⟩ := returns_mergeTable.mp hthird
    obtain ⟨projectDeltas, s₃', hgets, h₄⟩ := returns_bind.mp h₃
    cases hgets
    obtain ⟨⟨⟩, s₄, hfourth, h₅⟩ := returns_bind.mp h₄
    obtain ⟨stackDeltas, env₄, hstacks, rfl⟩ := returns_mergeTable.mp hfourth
    obtain ⟨fileSystems, env₅, hsettings, hlast⟩ := returns_mergeTable.mp h₅
    cases hlast
    exact ⟨env₁, env₂, env₃, env₄, husers, completes_mergePermissionProfiles.mp hprofiles, hprojects,
      hstacks, hsettings⟩
  · rintro ⟨env₁, env₂, env₃, env₄, husers, hprofiles, hprojects, hstacks, hsettings⟩
    refine returns_bind.mpr ⟨⟨⟩, _, returns_mergeTable.mpr ⟨_, _, husers, rfl⟩, ?_⟩
    refine returns_bind.mpr ⟨⟨⟩, _, returns_mergeTable.mpr
      ⟨_, _, completes_mergePermissionProfiles.mpr hprofiles, rfl⟩, ?_⟩
    refine returns_bind.mpr ⟨⟨⟩, _, returns_mergeTable.mpr ⟨_, _, hprojects, rfl⟩, ?_⟩
    refine returns_bind.mpr ⟨_, _, rfl, ?_⟩
    refine returns_bind.mpr ⟨⟨⟩, _, returns_mergeTable.mpr ⟨_, _, hstacks, rfl⟩, ?_⟩
    exact returns_mergeTable.mpr ⟨_, _, hsettings, rfl⟩

/-- What an apply leaves, and its deltas. -/
def applied (services : Services) (dedupId : String) (snapshot : Snapshot) (env : Environment) : ApplyState :=
  ((mergeTables services dedupId snapshot).run ⟨env, {}⟩).2

/-- Whether an apply completes. -/
def appliesWell (services : Services) (dedupId : String) (snapshot : Snapshot) (env : Environment) : Bool :=
  ((mergeTables services dedupId snapshot).run ⟨env, {}⟩).1.isOk

theorem applies_applied (h : appliesWell services dedupId snapshot env = true) :
    Applies services dedupId snapshot env (applied services dedupId snapshot env).deltas
      (applied services dedupId snapshot env).environment := by
  unfold appliesWell at h
  unfold Applies applied
  rcases hrun : (mergeTables services dedupId snapshot).run ⟨env, {}⟩ with ⟨e | ⟨⟨⟩⟩, s⟩
  · rw [hrun] at h
    cases h
  · rfl

/-! ## What a merger does not touch -/

section

variable {I : Environment → Prop}

theorem keeps_setRole (hI : ∀ env users, I env → I { env with users := users }) (username role : String)
    (isSudo : Bool) : Keeps I (setRole username role isSudo) := by
  refine Keeps.bind (Keeps.gets _) fun user => ?_
  cases user with
  | none => exact Keeps.raise _
  | some user => exact Keeps.when fun _ => Keeps.modify fun env henv => hI env _ henv

/-- The role of a user is written by the methods of the accounts service, once their checks pass. -/
theorem keeps_applyRole (hI : ∀ env users, I env → I { env with users := users }) (user : User) :
    Keeps I (applyRole services user) := by
  unfold applyRole addAdminUser removeAdminUser
  split
  · split
    · exact Keeps.raise _
    · exact keeps_answered (keeps_setRole hI _ _ _)
  · split
    · exact Keeps.raise _
    · split
      · exact Keeps.raise _
      · exact keeps_answered (keeps_setRole hI _ _ _)

/-- The merge of a user keeps what does not depend on the users. -/
theorem keeps_mergeUser (hI : ∀ env users, I env → I { env with users := users })
    (record : String × UserRow) : Keeps I (mergeUser services record) := by
  refine Keeps.bind (Keeps.tryCatch (Keeps.bind (Keeps.of_reads (reads_getUser _)) fun _ => Keeps.pure _)
    fun e => Keeps.ite (fun _ => Keeps.pure _) fun _ => Keeps.ite (fun _ => Keeps.raise _) fun _ =>
      Keeps.pure _) fun found => ?_
  cases found with
  | skipped => exact Keeps.pure _
  | failed => exact Keeps.pure _
  | merged existing =>
    refine Keeps.ite (fun _ => Keeps.pure _) fun _ => Keeps.tryCatch ?_ fun _ => Keeps.pure _
    exact Keeps.bind (Keeps.gets _) fun original => Keeps.bind (keeps_applyRole hI _) fun _ => Keeps.pure _

/-- The merge of a profile keeps what does not depend on the profiles. -/
theorem keeps_mergePermissionProfile
    (hI : ∀ env profiles, I env → I { env with permissionProfiles := profiles })
    (record : String × ProfileRow) : Keeps I (mergePermissionProfile services dedupId record) := by
  refine Keeps.ite (fun _ => Keeps.pure _) fun _ => Keeps.tryCatch ?_ fun _ => Keeps.pure _
  have hget : Keeps I (getPermissionProfile services record.1) := by
    refine Keeps.ite (fun _ => Keeps.raise _) fun _ => keeps_answered (Keeps.bind (Keeps.gets _) fun row => ?_)
    cases row with
    | none => exact Keeps.raise _
    | some row => exact Keeps.pure _
  refine Keeps.bind (Keeps.tryCatch (Keeps.bind hget fun _ => Keeps.ite (fun _ => Keeps.pure _)
    fun _ => Keeps.pure _) fun _ => Keeps.ite (fun _ => Keeps.pure _) fun _ => Keeps.raise _) fun resolved => ?_
  cases resolved with
  | none => exact Keeps.pure _
  | some resolved =>
    refine Keeps.bind (keeps_answered (Keeps.bind (Keeps.gets _) fun _ => ?_)) fun _ => Keeps.pure _
    refine Keeps.ite (fun _ => Keeps.raise _) fun _ => Keeps.ite (fun _ => Keeps.raise _) fun _ => ?_
    exact Keeps.bind (Keeps.modify fun env henv => hI env _ henv) fun _ => Keeps.pure _

/-- The merge of a stack keeps what does not depend on the stacks. -/
theorem keeps_mergeSoftwareStack (hI : ∀ env table, I env → I { env with softwareStacks := table })
    (mappings : List (String × String)) (record : SoftwareStackDict) :
    Keeps I (mergeSoftwareStack services dedupId mappings record) := by
  refine Keeps.ite (fun _ => Keeps.pure _) fun _ => Keeps.tryCatch ?_ fun _ => Keeps.ite (fun _ => Keeps.pure _)
    fun _ => Keeps.ite (fun _ => Keeps.raise _) fun _ => Keeps.pure _
  refine Keeps.bind (Keeps.bind (keeps_answered (Keeps.bind (Keeps.gets _) fun _ => Keeps.liftExcept _))
    fun listed => Keeps.ite (fun _ => Keeps.pure _) fun _ => Keeps.bind (Keeps.liftExcept _) fun _ =>
      Keeps.ite (fun _ => Keeps.pure _) fun _ => Keeps.pure _) fun resolved => ?_
  cases resolved with
  | none => exact Keeps.pure _
  | some resolved =>
    exact Keeps.bind (Keeps.liftExcept _) fun _ => Keeps.bind
      (keeps_answered (Keeps.zoom fun env henv => hI env _ henv)) fun _ =>
        Keeps.bind (Keeps.liftExcept _) fun _ => Keeps.pure _

/-- The creation of a project keeps what depends neither on the projects nor on what is sent. -/
theorem keeps_createProject
    (hI : ∀ env projects sent, I env → I { env with projects := projects, sent := sent }) (project : Project) :
    Keeps I (createProject services project) := by
  refine Keeps.ite (fun _ => Keeps.raise _) fun _ => keeps_answered (Keeps.bind (Keeps.gets _) fun _ => ?_)
  refine Keeps.bind (Keeps.when fun _ => Keeps.raise _) fun _ => Keeps.bind (Keeps.liftExcept _) fun _ => ?_
  exact Keeps.bind (Keeps.gets _) fun projectId => Keeps.bind
    (Keeps.modify fun env henv => hI env _ _ henv) fun _ => Keeps.pure _

/-- So does the update of a project. -/
theorem keeps_updateProject
    (hI : ∀ env projects sent, I env → I { env with projects := projects, sent := sent }) (project : Project) :
    Keeps I (updateProject services project) := by
  refine Keeps.ite (fun _ => Keeps.raise _) fun _ => keeps_answered (Keeps.bind (Keeps.gets _) fun existing => ?_)
  cases existing with
  | none => exact Keeps.raise _
  | some existing =>
    refine Keeps.bind (Keeps.when fun _ => Keeps.bind (Keeps.gets _) fun _ => Keeps.when fun _ =>
      Keeps.raise _) fun _ => Keeps.bind (Keeps.liftExcept _) fun _ => Keeps.bind ?_ fun _ =>
      Keeps.bind ?_ fun _ => Keeps.bind (Keeps.liftExcept _) fun _ => Keeps.bind (Keeps.liftExcept _) fun _ => ?_
    · refine Keeps.forEach fun groupName _ => Keeps.ite (fun _ => Keeps.raise _) fun _ => ?_
      exact Keeps.bind (Keeps.gets _) fun _ => Keeps.when fun _ => Keeps.raise _
    · exact Keeps.forEach fun username _ => Keeps.bind (Keeps.of_reads (reads_getUser _)) fun _ => Keeps.pure _
    · refine Keeps.bind (Keeps.modify fun env henv => hI env _ env.sent henv) fun _ =>
        Keeps.bind (Keeps.gets _) fun _ => Keeps.bind (Keeps.when fun _ => keeps_answered ?_) fun _ => Keeps.pure _
      exact Keeps.modify fun env henv => hI env env.projects _ henv

/-- The merge of a project keeps what depends neither on the projects nor on what is sent. -/
theorem keeps_mergeProject
    (hI : ∀ env projects sent, I env → I { env with projects := projects, sent := sent })
    (record : String × ProjectRow) : Keeps I (mergeProject services dedupId record) := by
  have hget : ∀ name, Keeps I (getProjectByName services name) := by
    intro name
    refine Keeps.ite (fun _ => Keeps.raise _) fun _ => keeps_answered (Keeps.bind (Keeps.gets _) fun found => ?_)
    cases found with
    | none => exact Keeps.raise _
    | some found => exact Keeps.pure _
  refine Keeps.ite (fun _ => Keeps.pure _) fun _ => Keeps.bind (Keeps.tryCatch (Keeps.bind ?_ fun resolved => ?_)
    fun _ => Keeps.pure _) fun result => ?_
  · exact Keeps.tryCatch (Keeps.bind (hget _) fun _ => Keeps.ite (fun _ => Keeps.pure _) fun _ => Keeps.pure _)
      fun _ => Keeps.ite (fun _ => Keeps.pure _) fun _ => Keeps.raise _
  · cases resolved with
    | none => exact Keeps.pure _
    | some resolved => exact Keeps.bind (keeps_createProject hI _) fun _ => Keeps.pure _
  · cases result with
    | skipped => exact Keeps.pure _
    | failed => exact Keeps.pure _
    | merged delta =>
      exact Keeps.bind (Keeps.tryCatch (Keeps.bind (keeps_updateProject hI _) fun _ => Keeps.pure _)
        fun _ => Keeps.pure _) fun _ => Keeps.pure _

section Settings

variable (honboard : ∀ name provider id details, Keeps I (onboardFileSystem services name provider id details))
  (hadd : ∀ name project, Keeps I (addFileSystemToProject services name project))

include honboard hadd

theorem keeps_onboardOfRecord (names : List (Option String)) (name provider id : String) (details : FileSystemEntry) :
    Keeps I (onboardOfRecord services dedupId names name provider id details) := by
  refine Keeps.bind (Keeps.tryCatch (Keeps.bind (keeps_answered (Keeps.of_reads (reads_getFileSystem name)))
    fun _ => Keeps.pure _) fun _ => Keeps.ite (fun _ => Keeps.pure _) fun _ => Keeps.ite (fun _ => Keeps.raise _)
      fun _ => Keeps.pure _) fun found => ?_
  cases found with
  | skipped => exact Keeps.pure _
  | failed => exact Keeps.pure _
  | merged already =>
    refine Keeps.tryCatch (Keeps.bind (honboard _ _ _ _) fun _ => Keeps.bind ?_ fun _ => Keeps.pure _) fun _ =>
      Keeps.ite (fun _ => Keeps.pure _) fun _ => Keeps.ite (fun _ => Keeps.raise _) fun _ => Keeps.pure _
    exact Keeps.forEach fun project _ => Keeps.when fun _ => Keeps.tryCatch (hadd _ _) fun _ => Keeps.pure _

/-- The merge of the settings keeps what its requests keep. -/
theorem keeps_mergeClusterSettings_of (settings : Option SharedStorage) :
    Keeps I (mergeClusterSettings services dedupId settings) := by
  have hloop : ∀ onboarded names (items : List (String × StorageSetting)) accessible,
      Keeps I (mergeFileSystems services dedupId onboarded names accessible items) := by
    intro onboarded names items
    -- the induction is on the file systems that are left
    induction items with
    | nil => exact fun _ => Keeps.pure _
    | cons item items ih =>
      intro accessible
      refine Keeps.bind ?_ fun result => ?_
      · unfold mergeFileSystem
        cases mergeable item with
        | none => exact Keeps.pure _
        | some found =>
          cases hid : (found.1.fileSystemIds found.2).join with
          | none =>
            simp only [hid]
            exact Keeps.pure _
          | some id =>
            simp only [hid]
            refine Keeps.ite (fun _ => Keeps.pure _) fun _ =>
              Keeps.bind (keeps_onboardOfRecord honboard hadd names item.1 found.2 id found.1) fun merged => ?_
            cases merged <;> exact Keeps.pure _
      · obtain ⟨merged, accessible'⟩ := result
        cases merged with
        | skipped => exact ih accessible'
        | failed => exact Keeps.pure _
        | merged delta => exact Keeps.bind (ih accessible') fun _ => Keeps.pure _
  refine Keeps.bind (keeps_answered (Keeps.bind (Keeps.gets _) fun _ => Keeps.liftExcept _)) fun onboarded =>
    Keeps.bind (keeps_answered (Keeps.gets _)) fun names => ?_
  cases settings with
  | none => exact Keeps.raise _
  | some details => exact hloop onboarded names details.scan services.fileSystemsInVpc

end Settings

/-- The merge of the settings keeps what does not depend on them. -/
theorem keeps_mergeClusterSettings (hI : ∀ env storage, I env → I { env with sharedStorage := storage })
    (settings : Option SharedStorage) : Keeps I (mergeClusterSettings services dedupId settings) := by
  refine keeps_mergeClusterSettings_of (fun name provider id details => ?_) (fun name project => ?_) settings
  · unfold onboardFileSystem
    cases requestKeys.lookup provider with
    | none => exact Keeps.pure _
    | some keys =>
      refine keeps_answered (Keeps.bind (Keeps.forEach fun _ _ => Keeps.liftExcept _) fun _ =>
        Keeps.bind (Keeps.gets _) fun storage => Keeps.bind (Keeps.liftExcept _) fun _ =>
          Keeps.bind (Keeps.liftExcept _) fun _ => ?_)
      exact Keeps.modify fun env henv => hI env _ henv
  · refine keeps_answered (Keeps.ite (fun _ => Keeps.raise _) fun _ => Keeps.ite (fun _ => Keeps.raise _) fun _ => ?_)
    exact Keeps.bind (Keeps.of_reads (reads_getFileSystem _)) fun _ => Keeps.when fun _ =>
      Keeps.modify fun env henv => hI env _ henv

end

/-! ## What a merger adds -/

/-- The merge of the projects adds one row for each delta, under the id that the delta has. -/
theorem growsProjects {records : List (String × ProjectRow)}
    {deltas : List (MergedRecordDelta (String × ProjectRow))}
    (h : Completes (mergeProject services dedupId) records env deltas env') :
    Grows env.projects (deltas.map fun delta => delta.resolvedRecord.1) env'.projects := by
  refine h.accumulate
    (R := fun s deltas t => Grows s.projects (deltas.map fun delta => delta.resolvedRecord.1) t.projects)
    (fun s => Grows.refl s.projects) (fun s u t first rest hfirst hrest => ?_)
    (fun record _ s t hskip => ?_) fun record _ s t delta hmerged => ?_
  · rw [List.map_append]
    exact hfirst.trans hrest
  · obtain ⟨rfl, -⟩ := run_mergeProject hskip
    exact Grows.refl _
  · obtain ⟨name, -, -, -, hid, -, hadds⟩ := run_mergeProject hmerged
    rw [List.map_singleton, hid]
    exact hadds.grows

/-- The merge of the profiles adds one row for each delta. -/
theorem growsProfiles {records : List (String × ProfileRow)}
    {deltas : List (MergedRecordDelta (String × ProfileRow))}
    (hids : ∀ record ∈ records, record.1 = "" ∨ isEmpty record.1 = false)
    (h : Completes (mergePermissionProfile services dedupId) records env deltas env') :
    ∃ keys, keys.length = deltas.length ∧ Grows env.permissionProfiles keys env'.permissionProfiles := by
  refine h.accumulate (R := fun s deltas t => ∃ keys : List String, keys.length = deltas.length ∧
      Grows s.permissionProfiles keys t.permissionProfiles)
    (fun s => ⟨[], rfl, Grows.refl _⟩) ?_ (fun record hmem s t hskip => ?_) fun record hmem s t delta hmerged => ?_
  · rintro s u t first rest ⟨keys, hlength, hfirst⟩ ⟨later, hlength', hrest⟩
    exact ⟨keys ++ later, by simp [hlength, hlength'], hfirst.trans hrest⟩
  · obtain ⟨rfl, -⟩ := run_mergePermissionProfile (hids record hmem) hskip
    exact ⟨[], rfl, Grows.refl _⟩
  · obtain ⟨-, -, -, hadds⟩ := run_mergePermissionProfile (hids record hmem) hmerged
    exact ⟨[_], rfl, hadds.grows⟩

variable {mappings : List (String × String)}

/-- The merge of the stacks adds one row for each delta. -/
theorem growsStacks {records : List SoftwareStackDict}
    {deltas : List (MergedRecordDelta SoftwareStackDict)}
    (h : Completes (mergeSoftwareStack services dedupId mappings) records env deltas env') :
    ∃ keys, keys.length = deltas.length ∧ Grows env.softwareStacks keys env'.softwareStacks := by
  refine h.accumulate (R := fun s deltas t => ∃ keys : List (SessionPermissions.BaseOS × String),
      keys.length = deltas.length ∧ Grows s.softwareStacks keys t.softwareStacks)
    (fun s => ⟨[], rfl, Grows.refl _⟩) ?_ (fun record _ s t hskip => ?_) fun record _ s t delta hmerged => ?_
  · rintro s u t first rest ⟨keys, hlength, hfirst⟩ ⟨later, hlength', hrest⟩
    exact ⟨keys ++ later, by simp [hlength, hlength'], hfirst.trans hrest⟩
  · obtain ⟨rfl, -⟩ := run_mergeSoftwareStack hskip
    exact ⟨[], rfl, Grows.refl _⟩
  · obtain ⟨name, listed, baseOs, -, -, -, -, -, hadds⟩ := run_mergeSoftwareStack hmerged
    exact ⟨[_], rfl, hadds.grows⟩

/-! ## The tables between the mergers -/

variable {users : List MergedUserDelta}

/-- Users and profiles are merged before the projects are looked at. -/
theorem projects_before {env₁ env₂ : Environment}
    {profiles : List (MergedRecordDelta (String × ProfileRow))}
    (husers : Completes (mergeUser services) snapshot.users.scan env users env₁)
    (hprofiles : Completes (mergePermissionProfile services dedupId) snapshot.permissionProfiles.scan env₁
      profiles env₂) : env₂.projects = env.projects := by
  have h₁ : env₁.projects = env.projects := husers.keeps (I := fun e => e.projects = env.projects) rfl
    fun record _ => keeps_mergeUser (fun _ _ h => h) record
  exact hprofiles.keeps (I := fun e => e.projects = env.projects) h₁
    fun record _ => keeps_mergePermissionProfile (fun _ _ h => h) record

variable {fileSystems : List (MergedRecordDelta (String × FileSystemEntry))}

/-- Stacks and settings are merged after the projects are. -/
theorem projects_after {env₃ env₄ : Environment}
    {stackDeltas : List (MergedRecordDelta SoftwareStackDict)}
    (hstacks : Completes (mergeSoftwareStack services dedupId mappings)
      (snapshot.softwareStacks.scan.map Prod.snd) env₃ stackDeltas env₄)
    (hsettings : (mergeClusterSettings services dedupId snapshot.sharedStorage).run env₄ =
      (.ok (fileSystems, true), env')) : env'.projects = env₃.projects := by
  have h₄ : env₄.projects = env₃.projects := hstacks.keeps (I := fun e => e.projects = env₃.projects) rfl
    fun record _ => keeps_mergeSoftwareStack (fun _ _ h => h) mappings record
  exact (keeps_mergeClusterSettings (I := fun e => e.projects = env₃.projects) (fun _ _ h => h) _).of_ok h₄
    hsettings

theorem profiles_before {env₁ : Environment}
    (husers : Completes (mergeUser services) snapshot.users.scan env users env₁) :
    env₁.permissionProfiles = env.permissionProfiles :=
  husers.keeps (I := fun e => e.permissionProfiles = env.permissionProfiles) rfl
    fun record _ => keeps_mergeUser (fun _ _ h => h) record

/-- Projects, stacks and settings are merged after the profiles are. -/
theorem profiles_after
    {env₂ env₃ env₄ : Environment} {projects : List (MergedRecordDelta (String × ProjectRow))}
    {stackDeltas : List (MergedRecordDelta SoftwareStackDict)}
    (hprojects : Completes (mergeProject services dedupId) snapshot.projects.scan env₂ projects env₃)
    (hstacks : Completes (mergeSoftwareStack services dedupId mappings)
      (snapshot.softwareStacks.scan.map Prod.snd) env₃ stackDeltas env₄)
    (hsettings : (mergeClusterSettings services dedupId snapshot.sharedStorage).run env₄ =
      (.ok (fileSystems, true), env')) : env'.permissionProfiles = env₂.permissionProfiles := by
  have h₃ : env₃.permissionProfiles = env₂.permissionProfiles :=
    hprojects.keeps (I := fun e => e.permissionProfiles = env₂.permissionProfiles) rfl
      fun record _ => keeps_mergeProject (fun _ _ _ h => h) record
  have h₄ : env₄.permissionProfiles = env₂.permissionProfiles :=
    hstacks.keeps (I := fun e => e.permissionProfiles = env₂.permissionProfiles) h₃
      fun record _ => keeps_mergeSoftwareStack (fun _ _ h => h) mappings record
  exact (keeps_mergeClusterSettings (I := fun e => e.permissionProfiles = env₂.permissionProfiles)
    (fun _ _ h => h) _).of_ok h₄ hsettings

/-- The stacks are as they were when they are looked at. -/
theorem stacks_before {env₁ env₂ env₃ : Environment}
    {profiles : List (MergedRecordDelta (String × ProfileRow))}
    {projects : List (MergedRecordDelta (String × ProjectRow))}
    (husers : Completes (mergeUser services) snapshot.users.scan env users env₁)
    (hprofiles : Completes (mergePermissionProfile services dedupId) snapshot.permissionProfiles.scan env₁
      profiles env₂) (hprojects : Completes (mergeProject services dedupId) snapshot.projects.scan env₂ projects env₃) :
    env₃.softwareStacks = env.softwareStacks := by
  have h₁ : env₁.softwareStacks = env.softwareStacks :=
    husers.keeps (I := fun e => e.softwareStacks = env.softwareStacks) rfl
      fun record _ => keeps_mergeUser (fun _ _ h => h) record
  have h₂ : env₂.softwareStacks = env.softwareStacks :=
    hprofiles.keeps (I := fun e => e.softwareStacks = env.softwareStacks) h₁
      fun record _ => keeps_mergePermissionProfile (fun _ _ h => h) record
  exact hprojects.keeps (I := fun e => e.softwareStacks = env.softwareStacks) h₂
    fun record _ => keeps_mergeProject (fun _ _ _ h => h) record

/-- The settings are merged after the stacks are. -/
theorem stacks_after {env₄ : Environment}
    (hsettings : (mergeClusterSettings services dedupId snapshot.sharedStorage).run env₄ =
      (.ok (fileSystems, true), env')) : env'.softwareStacks = env₄.softwareStacks :=
  (keeps_mergeClusterSettings (I := fun e => e.softwareStacks = env₄.softwareStacks) (fun _ _ h => h) _).of_ok
    rfl hsettings

/-! ## Services that answer everything -/

/-- A text of a fraction in tally marks. -/
def tallies (q : ℚ) : String :=
  String.ofList ((if q.num < 0 then ['-'] else []) ++ List.replicate q.num.natAbs 'n' ++
    List.replicate q.den 'd')

/-- The number of a text in tally marks. -/
def readTallies (text : String) : ℚ :=
  let marks := text.toList
  mkRat ((if '-' ∈ marks then -1 else 1) * (marks.count 'n' : Int)) (marks.count 'd')

theorem readTallies_tallies (q : ℚ) : readTallies (tallies q) = q := by
  have hn : List.count 'n' (tallies q).toList = q.num.natAbs := by
    simp [tallies, List.count_replicate]
    split <;> rfl
  have hd : List.count 'd' (tallies q).toList = q.den := by
    simp [tallies, List.count_replicate]
    split <;> rfl
  have hsign : ('-' ∈ (tallies q).toList) ↔ q.num < 0 := by
    simp [tallies, List.mem_replicate]
  unfold readTallies
  simp only [hn, hd, hsign]
  refine (congrArg (mkRat · q.den) ?_).trans (Rat.mkRat_self q)
  split <;> omega

/-- Ten is written as a float is; other numbers are written in tally marks. -/
def floatTexts : NumberText where
  str q := if q = 10 then "10.0" else tallies q
  float text := if text = "10.0" then some 10 else some (readTallies text)
  float_str q := by
    by_cases hq : q = 10
    · simp [hq]
    · have hne : tallies q ≠ "10.0" := by
        intro h
        have hmem : '1' ∈ (tallies q).toList := by simp [h]
        simp [tallies, List.mem_replicate] at hmem
      rw [if_neg hq, if_neg hne, readTallies_tallies]

/-- Services that answer every request, and find the image `ami-1` only. -/
def answeringServices : Services where
  fault _ _ := none
  ctx := Projects.acceptingProjects
  createVdiRole _ _ := .ok ()
  getLdapGroup _ := .ok ()
  types := ⟨[⟨"builtin", none, none⟩], by decide⟩
  numbers := floatTexts
  ids := IdSource.longest
  shortUuid := "m"
  stackPaginator := Paginator.single _
  projectPaginator := Paginator.single _
  describeImageId imageId := if imageId = "ami-1" then some ⟨some "ami-1", some "x86_64"⟩ else none
  administratorUsername := "clusteradmin"
  fileSystemsInVpc := []
  describeFileSystem _ _ := .ok ()
  now := 0

/-- An environment without anything. -/
def Environment.empty : Environment := ⟨∅, ∅, ∅, ∅, ∅, ∅, []⟩

/-- A snapshot without anything. -/
def Snapshot.empty : Snapshot := ⟨∅, ∅, ∅, ∅, some ∅⟩

/-- A stack named `linux` that lists `projects`. -/
def linuxStack (amiId : String) (projects : List (Option String)) : SoftwareStackDict where
  baseOs := some .amazonLinux2
  stackId := some "s1"
  name := some "linux"
  description := some "linux"
  createdOn := 0
  updatedOn := 0
  amiId := some amiId
  enabled := some true
  minStorageValue := "10.0"
  minStorageUnit := .gib
  minRamValue := "10.0"
  minRamUnit := .gib
  architecture := some .x86_64
  gpu := some .noGpu
  projects := projects

end ContainRes.Snapshots
