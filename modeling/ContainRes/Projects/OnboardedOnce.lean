import ContainRes.Projects.FileSystemMappings
import ContainRes.Snapshots.CompletedApply

/-! # File systems that are onboarded once

No request and no snapshot onboards a file system of AWS under a second name, when the local configuration has
followed the requests before it.

* **`OnboardedOnce`** — no id is registered under two names.
* **`keeps_onboardFileSystem`**, … — the methods of `SharedFilesystemService`.
* **`onboardedOnce_of_exec`** — every run of requests keeps it; **`onboardedOnce_mergeTables`** — so does every apply. -/

namespace ContainRes.Projects

open Effects Store Text
open Accounts (DbProc)
open Snapshots (ApplyState Environment EnvProc FileSystemEntry Services SharedStorage Snapshot StorageSetting
  getFileSystem sharedFileSystems)

/-- The file system with the id is onboarded under the name. -/
def Registered (storage : SharedStorage) (name id : String) : Prop :=
  ∃ entry, storage.getItem name = some (.fileSystem entry) ∧ entry.projects.isSome ∧
    entry.provider.bind entry.fileSystemIds = some (some id)

/-- **No file system is onboarded under two names.** -/
def OnboardedOnce (storage : SharedStorage) : Prop :=
  ∀ id name other, Registered storage name id → Registered storage other id → name = other

variable {storage storage' : SharedStorage} {name : String}

theorem OnboardedOnce.mono (h : OnboardedOnce storage)
    (hsub : ∀ name id, Registered storage' name id → Registered storage name id) : OnboardedOnce storage' :=
  fun id name other hname hother => h id name other (hsub name id hname) (hsub other id hother)

/-- The projects of a file system are written. -/
theorem OnboardedOnce.putProjects {entry : FileSystemEntry} (h : OnboardedOnce storage)
    (hitem : storage.getItem name = some (.fileSystem entry)) (hsome : entry.projects.isSome) (projects : List String) :
    OnboardedOnce (storage.putItem name (.fileSystem { entry with projects := some projects })) := by
  refine h.mono fun other id ⟨found, hfound, hprojects, hid⟩ => ?_
  rw [Table.getItem_putItem] at hfound
  split at hfound
  · next heq =>
    cases hfound
    exact ⟨entry, heq ▸ hitem, hsome, hid⟩
  · exact ⟨found, hfound, hprojects, hid⟩

/-- What offboarding leaves was onboarded. -/
theorem OnboardedOnce.offboard (h : OnboardedOnce storage) :
    OnboardedOnce (storage.filterMapItems (offboardedSetting name)) := by
  refine h.mono fun other id ⟨found, hfound, hprojects, hid⟩ => ?_
  rw [Table.getItem_filterMapItems] at hfound
  obtain ⟨setting, hsetting, hleft⟩ := Option.bind_eq_some_iff.mp hfound
  cases setting with
  | value =>
    change (if startsWith other name then none else some StorageSetting.value) = some (.fileSystem found) at hleft
    split at hleft <;> cases hleft
  | fileSystem entry =>
    change (if startsWith (other ++ ".") name then none else some (StorageSetting.fileSystem _)) = _ at hleft
    split at hleft
    · cases hleft
    · cases hleft
      -- a value that is left is the one that was there
      obtain ⟨provider, hprovider, hids⟩ := Option.bind_eq_some_iff.mp hid
      dsimp only at hprojects hprovider hids
      refine ⟨entry, hsetting, ?_, Option.bind_eq_some_iff.mpr ⟨provider, ?_, ?_⟩⟩
      · split at hprojects
        · cases hprojects
        · exact hprojects
      · split at hprovider
        · cases hprovider
        · exact hprovider
      · split at hids
        · cases hids
        · split at hids
          · simp at hids
          · exact hids

/-- A file system whose id is not registered is onboarded. -/
theorem OnboardedOnce.onboard {id : String} {entry : FileSystemEntry} (h : OnboardedOnce storage)
    (hentry : entry.provider.bind entry.fileSystemIds = some (some id)) (hnew : ∀ other, ¬ Registered storage other id) :
    OnboardedOnce (storage.putItem name (.fileSystem entry)) := by
  have hcases : ∀ {other i}, Registered (storage.putItem name (.fileSystem entry)) other i →
      (other = name ∧ i = id) ∨ Registered storage other i := by
    rintro other i ⟨found, hfound, hprojects, hid⟩
    rw [Table.getItem_putItem] at hfound
    split at hfound
    · next heq =>
      cases hfound
      rw [hentry] at hid
      cases hid
      exact .inl ⟨heq, rfl⟩
    · exact .inr ⟨found, hfound, hprojects, hid⟩
  intro i first second hfirst hsecond
  rcases hcases hfirst with ⟨rfl, rfl⟩ | hold <;> rcases hcases hsecond with ⟨rfl, hi⟩ | hold'
  · rfl
  · exact absurd hold' (hnew second)
  · exact absurd (hi ▸ hold) (hnew first)
  · exact h i first second hold hold'

/-! ## The methods -/

/-- What is registered under a name is among the ids that are asked for. -/
theorem not_registered_of_checkOnboarding {services : Services} {id : String} {details : FileSystemEntry} {u : PUnit}
    (h : Snapshots.checkOnboarding services name id details storage = .ok u) (other : String) :
    ¬ Registered storage other id := by
  rintro ⟨entry, hitem, hprojects, hid⟩
  unfold Snapshots.checkOnboarding at h
  by_cases hempty : id = "" ∨ name = "" ∨ details.texts "title" = some ""
  · rw [if_pos hempty] at h
    cases h
  · rw [if_neg hempty] at h
    by_cases hany : ((sharedFileSystems storage).any fun item => item.1 = name) = true
    · dsimp only at h
      rw [if_pos hany] at h
      cases h
    · dsimp only at h
      rw [if_neg hany] at h
      obtain ⟨ids, hids, hrest⟩ := bind_eq_ok.mp h
      have hmem : some id ∈ ids := by
        refine (mem_of_mapM hids).mpr ⟨(other, entry), List.mem_filterMap.mpr ⟨_, Table.mem_scan.mpr hitem, ?_⟩, ?_⟩
        · simp only [hprojects, if_true]
        · rw [Snapshots.fileSystemId, hid]
          rfl
      rw [if_pos hmem] at hrest
      cases hrest

variable {services : Services}

/-- The invariant of the settings of an environment. -/
def EnvOnboardedOnce (env : Environment) : Prop := OnboardedOnce env.sharedStorage

theorem keeps_onboardFileSystem (provider id : String) (details : FileSystemEntry) :
    Keeps EnvOnboardedOnce (Snapshots.onboardFileSystem services name provider id details) := by
  unfold Snapshots.onboardFileSystem
  cases Snapshots.requestKeys.lookup provider with
  | none => exact Keeps.pure _
  | some keys =>
    refine Snapshots.keeps_answered (Keeps.bind (Keeps.forEach fun _ _ => Keeps.liftExcept _) fun _ =>
      Keeps.of_state fun env henv => ?_)
    rw [Proc.run_bind_of_ok (Proc.run_gets _ env)]
    cases hcheck : Snapshots.checkOnboarding services name id details env.sharedStorage with
    | error e => exact henv
    | ok u =>
      rw [Proc.run_bind_of_ok (Proc.run_liftExcept _ env)]
      cases services.describeFileSystem provider id with
      | error e => exact henv
      | ok u =>
        refine OnboardedOnce.onboard henv ?_ fun other => not_registered_of_checkOnboarding hcheck other
        simp [Snapshots.onboardedEntry]

/-- What follows a file system that was found writes its projects only. -/
theorem keeps_getFileSystem {k : FileSystemEntry → EnvProc PUnit}
    (hk : ∀ entry, entry.projects.isSome → ∀ env, EnvOnboardedOnce env →
      env.sharedStorage.getItem name = some (.fileSystem entry) → EnvOnboardedOnce ((k entry).run env).2) :
    Keeps EnvOnboardedOnce (getFileSystem name >>= k) := by
  refine Keeps.of_state fun env henv => ?_
  rcases hget : (getFileSystem name).run env with ⟨e | entry, env'⟩
  · rw [Proc.run_bind_of_error hget, (Snapshots.reads_getFileSystem name).eq_of_run hget]
    exact henv
  · obtain ⟨rfl, hitem, names, hnames⟩ := run_getFileSystem_ok hget
    rw [Proc.run_bind_of_ok hget]
    exact hk entry (hnames ▸ rfl) env' henv hitem

theorem keeps_updateMapping (project : String) :
    Keeps EnvOnboardedOnce (updateFilesystemToProjectMapping name project) := by
  refine keeps_getFileSystem fun entry hsome env henv hitem => ?_
  rw [Proc.run_when]
  split
  · exact OnboardedOnce.putProjects henv hitem hsome _
  · exact henv

theorem keeps_addFileSystemToProject (project : String) :
    Keeps EnvOnboardedOnce (Snapshots.addFileSystemToProject services name project) := by
  rw [addFileSystemToProject_eq]
  exact Snapshots.keeps_answered (Keeps.ite (fun _ => Keeps.raise _) fun _ => Keeps.ite (fun _ => Keeps.raise _)
    fun _ => keeps_updateMapping project)

theorem keeps_removeFilesystem (project : String) :
    Keeps EnvOnboardedOnce (removeFilesystemFromProject name project) := by
  refine Keeps.ite (fun _ => Keeps.raise _) fun _ => Keeps.ite (fun _ => Keeps.raise _) fun _ =>
    keeps_getFileSystem fun entry hsome env henv hitem => ?_
  cases entry.projects.getD [] with
  | nil => exact henv
  | cons first rest =>
    dsimp only
    rw [Proc.run_when]
    split
    · exact OnboardedOnce.putProjects henv hitem hsome _
    · exact henv

/-! ## Runs -/

theorem keeps_onStorage {c : EnvProc PUnit} (hc : Keeps EnvOnboardedOnce c) :
    Keeps (fun s => OnboardedOnce s.storage) (onStorage c) :=
  Keeps.zoom fun s hs => hc.run (s := storageOnly s.storage) hs

/-- **One request.** -/
theorem keeps_proc (op : MappingOp) : Keeps (fun s => OnboardedOnce s.storage) op.proc := by
  have hdb {α : Type} (c : DbProc α) : Keeps (fun s => OnboardedOnce s.storage) (onDb c) := Keeps.zoom fun s hs => hs
  cases op with
  | createProject ctx project filesystemNames =>
    refine Keeps.bind (Keeps.liftExcept _) fun _ => Keeps.bind (hdb _) fun _ =>
      Keeps.forEach fun filesystem _ => Keeps.bind (keeps_onStorage (keeps_updateMapping _)) fun _ =>
        Keeps.modify fun s hs => ?_
    unfold MappingState.add
    split <;> exact hs
  | updateProject ctx project => exact hdb _
  | deleteProject paginator texts w request => exact hdb _
  | addFilesystem services filesystem project =>
    refine Keeps.bind (keeps_onStorage (keeps_addFileSystemToProject project)) fun _ => Keeps.modify fun s hs => ?_
    unfold MappingState.add
    split <;> exact hs
  | removeFilesystem filesystem project =>
    exact Keeps.bind (keeps_onStorage (keeps_removeFilesystem project)) fun _ => Keeps.modify fun s hs => hs
  | onboardFilesystem services filesystem provider id details =>
    exact keeps_onStorage (keeps_onboardFileSystem provider id details)
  | offboardFilesystem filesystem =>
    exact Keeps.bind (keeps_onStorage (Keeps.modify fun env henv => OnboardedOnce.offboard henv)) fun _ =>
      Keeps.modify fun s hs => hs

/-- **In every run** of requests, each returning or raising, no file system is onboarded under two names. -/
theorem onboardedOnce_of_exec (ops : List MappingOp) (s : MappingState) : OnboardedOnce s.storage →
    ∀ t ∈ mappings.exec s ops, OnboardedOnce t.storage := by
  induction ops generalizing s with
  | nil =>
    rintro hs t ⟨⟩
    exact hs
  | cons op ops ih =>
    intro hs t ht
    exact ih (op.proc.run s).2.forget ((keeps_proc op).run hs) t ht

/-- A request that onboards `fs-1` from the VPC. -/
def onboardFs1 (name : String) : MappingOp :=
  .onboardFilesystem { Snapshots.answeringServices with fileSystemsInVpc := ["fs-1"] } name "efs" "fs-1"
    ⟨none, none, none, fun _ => none, some⟩

/-- The second request for `fs-1` is refused. -/
theorem onboardedOnce_fs1 : ∃ t ∈ mappings.exec ⟨Accounts.Db.empty, ∅, []⟩ [onboardFs1 "home", onboardFs1 "scratch"],
    OnboardedOnce t.storage ∧ projectsSetting t.storage "home" = some [] ∧
      projectsSetting t.storage "scratch" = none := by
  have hempty : OnboardedOnce ∅ := fun _ _ _ ⟨_, hitem, _⟩ => absurd hitem (by simp)
  exact ⟨_, rfl, onboardedOnce_of_exec [onboardFs1 "home", onboardFs1 "scratch"] ⟨Accounts.Db.empty, ∅, []⟩
    hempty _ rfl, by decide, by decide⟩

/-- **An apply**, whatever the snapshot and the faults, onboards no file system under a second name. -/
theorem onboardedOnce_mergeTables (dedupId : String) (snapshot : Snapshot) :
    Keeps (fun s : ApplyState => OnboardedOnce s.environment.sharedStorage)
      (Snapshots.mergeTables services dedupId snapshot) := by
  have htable : ∀ {δ : Type} {table record} {merge : EnvProc (List δ × Bool)}, Keeps EnvOnboardedOnce merge →
      Keeps (fun s : ApplyState => OnboardedOnce s.environment.sharedStorage)
        (Snapshots.mergeTable table record merge) := fun hmerge =>
    Keeps.bind (Keeps.zoom fun s hs => hmerge.run (s := s.environment) hs) fun _ =>
      Keeps.bind (Keeps.modify fun _ hs => hs) fun _ => Keeps.when fun _ => Keeps.raise _
  refine Keeps.bind (htable (keeps_mergeAll fun record => Snapshots.keeps_mergeUser (fun _ _ h => h) record)) fun _ =>
    Keeps.bind (htable ?_) fun _ =>
      Keeps.bind (htable (keeps_mergeAll fun record => Snapshots.keeps_mergeProject (fun _ _ _ h => h) record))
        fun _ => Keeps.bind (Keeps.gets _) fun _ =>
          Keeps.bind (htable (keeps_mergeAll fun record => Snapshots.keeps_mergeSoftwareStack (fun _ _ h => h) _ record))
            fun _ => htable ?_
  · refine Keeps.bind (Keeps.tryCatch (Snapshots.keeps_answered (Keeps.pure _)) fun _ => Keeps.pure _) fun answer => ?_
    exact Keeps.ite (fun _ => keeps_mergeAll fun record =>
      Snapshots.keeps_mergePermissionProfile (fun _ _ h => h) record) fun _ => Keeps.pure _
  · exact Snapshots.keeps_mergeClusterSettings_of (fun _ provider id details =>
      keeps_onboardFileSystem provider id details) (fun _ project => keeps_addFileSystemToProject project) _

end ContainRes.Projects
