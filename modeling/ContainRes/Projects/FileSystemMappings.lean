import ContainRes.Projects.Creation
import ContainRes.Projects.ProjectDeletion
import ContainRes.Projects.Updates
import ContainRes.Snapshots.ApplySnapshot

/-! # The projects of the file systems

A file system of the shared storage has a setting with the names of the projects that it was added to,
while the projects are kept by id in a table of their own. This file follows the setting through the
requests that create, update and delete projects, add and remove file systems, and onboard and offboard
them.

* **`updateFilesystemToProjectMapping`**, **`removeFilesystemFromProject`**, **`offboardFilesystem`** — the
  methods of `SharedFilesystemService` that write the setting; adding and onboarding are those of the
  snapshots.
* **`mappings`** — the system, with the pairs of a file system and a project id that were added as ghost
  state.
* **`MappingsFollow`** — the names in a setting are those of the projects that were added.
* **`Following`** — the condition on a step; `mappings_follow` is the result for its runs, and
  `new_project_has_old_filesystem` a run on which the property fails. -/

namespace ContainRes.Projects

open Accounts Effects Store Systems Text Function
open Snapshots (Environment EnvProc FileSystemEntry Services SharedStorage StorageSetting getFileSystem
  sharedFileSystems)

/-! ## The methods of `SharedFilesystemService` -/

def updateProjectsForFilesystem (name : String) (entry : FileSystemEntry) (projects : List String) :
    EnvProc PUnit :=
  Proc.modify fun env => { env with
    sharedStorage := env.sharedStorage.putItem name (.fileSystem { entry with projects := some projects }) }

def updateFilesystemToProjectMapping (name project : String) : EnvProc PUnit := do
  let entry ← getFileSystem name
  let projects := entry.projects.getD []
  Proc.when (project ∉ projects) (updateProjectsForFilesystem name entry (projects ++ [project]))

/-- `remove_filesystem_from_project(request)`. The configuration has `None` in the place of an empty list. -/
def removeFilesystemFromProject (name project : String) : EnvProc PUnit :=
  if isEmpty name then Proc.raise (.invalidParams "filesystem_name is required")
  else if isEmpty project then Proc.raise (.invalidParams "project_name is required")
  else do
    let entry ← getFileSystem name
    match entry.projects.getD [] with
    | [] => Proc.raise (.other .typeError "argument of type 'NoneType' is not iterable")
    | first :: rest =>
      Proc.when (project ∈ first :: rest)
        (updateProjectsForFilesystem name entry ((first :: rest).erase project))

/-- Whether the entry under the path `path` of the settings of `other` is deleted with those of `name`: the
key begins with `shared-storage.` and the name. -/
def deletedWith (name other path : String) : Bool := startsWith (other ++ "." ++ path) name

/-- What offboarding `name` leaves of the settings under `other`. -/
def offboardedSetting (name other : String) : StorageSetting → Option StorageSetting
  | .value => if startsWith other name then none else some .value
  | .fileSystem entry =>
    if startsWith (other ++ ".") name then none
    else some (.fileSystem {
      provider := if deletedWith name other "provider" then none else entry.provider
      scope := if deletedWith name other "scope" then none else entry.scope
      projects := if deletedWith name other "projects" then none else entry.projects
      fileSystemIds := fun provider =>
        if deletedWith name other (provider ++ ".") then none
        else if deletedWith name other (provider ++ ".file_system_id") then
          (entry.fileSystemIds provider).map fun _ => none
        else entry.fileSystemIds provider
      texts := fun path => if deletedWith name other path then none else entry.texts path })

/-- `offboard_filesystem(request)`: `delete_config_entries` deletes every entry whose key begins with that
of the file system. -/
def offboardFilesystem (name : String) : EnvProc PUnit :=
  Proc.modify fun env => { env with
    sharedStorage := env.sharedStorage.filterMapItems (offboardedSetting name) }

/-- Adding a file system is updating the mapping, after the checks of the request. -/
theorem addFileSystemToProject_eq (services : Services) (name project : String) :
    Snapshots.addFileSystemToProject services name project =
      Snapshots.answered services (.addFileSystemToProject name project)
        (if isEmpty name then Proc.raise (.invalidParams "filesystem_name is required")
        else if isEmpty project then Proc.raise (.invalidParams "project_name is required")
        else updateFilesystemToProjectMapping name project) := rfl

/-! ## The setting of a file system -/

/-- The setting `projects` of a file system. -/
def projectsSetting (storage : SharedStorage) (name : String) : Option (List String) :=
  match storage.getItem name with
  | some (.fileSystem entry) => entry.projects
  | _ => none

section Methods

variable {name project : String} {env env' : Environment} {r : Except Exc PUnit}

/-- A file system that is found has a setting. -/
theorem run_getFileSystem_ok {entry : FileSystemEntry} (h : (getFileSystem name).run env = (.ok entry, env')) :
    env' = env ∧ env.sharedStorage.getItem name = some (.fileSystem entry) ∧ ∃ names, entry.projects = some names := by
  unfold getFileSystem at h
  rw [Proc.run_bind_of_ok (Proc.run_gets _ env)] at h
  split at h
  · cases h
  · cases hfind : (sharedFileSystems env.sharedStorage).find? fun item => item.1 = name with
    | none =>
      rw [hfind] at h
      cases h
    | some item =>
      rw [hfind] at h
      obtain ⟨other, found⟩ := item
      have hother : other = name := by simpa using List.find?_some hfind
      obtain ⟨⟨key, setting⟩, hscan, hentry⟩ := List.mem_filterMap.mp (List.mem_of_find?_eq_some hfind)
      cases h
      cases setting with
      | value => cases hentry
      | fileSystem stored =>
        dsimp only at hentry
        split at hentry
        · next hsome =>
            cases hentry
            exact ⟨rfl, hother ▸ Table.mem_scan.mp hscan, Option.isSome_iff_exists.mp hsome⟩
        · cases hentry

theorem mem_sharedFileSystems {storage : SharedStorage} {names : List String}
    (h : projectsSetting storage name = some names) : ∃ entry, (name, entry) ∈ sharedFileSystems storage := by
  unfold projectsSetting at h
  split at h
  · next entry hitem =>
      refine ⟨entry, List.mem_filterMap.mpr ⟨_, Table.mem_scan.mpr hitem, ?_⟩⟩
      simp only [h, Option.isSome_some, if_true]
  · cases h

variable {services : Services}

/-- What is onboarded had no setting. -/
theorem projectsSetting_of_checkOnboarding {id : String} {details : FileSystemEntry}
    {storage : SharedStorage} {u : PUnit} (h : Snapshots.checkOnboarding services name id details storage = .ok u) :
    projectsSetting storage name = none := by
  cases hsetting : projectsSetting storage name with
  | none => rfl
  | some names =>
    obtain ⟨entry, hmem⟩ := mem_sharedFileSystems hsetting
    have hany : ((sharedFileSystems storage).any fun item => item.1 = name) = true :=
      List.any_eq_true.mpr ⟨_, hmem, decide_eq_true rfl⟩
    simp only [Snapshots.checkOnboarding, hany, if_true] at h
    by_cases hempty : id = "" ∨ name = "" ∨ details.texts "title" = some ""
    · rw [if_pos hempty] at h
      cases h
    · rw [if_neg hempty] at h
      cases h

theorem projectsSetting_putItem (storage : SharedStorage) (entry : FileSystemEntry) :
    projectsSetting (storage.putItem name (.fileSystem entry)) =
      update (projectsSetting storage) name entry.projects := by
  funext other
  unfold projectsSetting
  rw [Table.getItem_putItem, update_apply]
  by_cases heq : other = name
  · rw [if_pos heq, if_pos heq]
  · rw [if_neg heq, if_neg heq]

/-- **One call of `update_filesystem_to_project_mapping`** fails without an effect, or lists the project. -/
theorem run_updateMapping_cases (h : (updateFilesystemToProjectMapping name project).run env = (r, env')) :
    ((∃ e, r = .error e) ∧ env' = env) ∨ r = .ok ⟨⟩ ∧ ∃ names, projectsSetting env.sharedStorage name = some names ∧
      projectsSetting env'.sharedStorage = update (projectsSetting env.sharedStorage) name
        (some (if project ∈ names then names else names ++ [project])) := by
  unfold updateFilesystemToProjectMapping at h
  rcases hget : (getFileSystem name).run env with ⟨e | entry, s⟩
  · rw [Proc.run_bind_of_error hget] at h
    cases h
    exact .inl ⟨⟨e, rfl⟩, (Snapshots.reads_getFileSystem name).eq_of_run hget⟩
  · obtain ⟨hs, hitem, names, hnames⟩ := run_getFileSystem_ok hget
    rw [hs] at hget
    rw [Proc.run_bind_of_ok hget, Proc.run_when] at h
    simp only [hnames, Option.getD_some] at h
    have hsetting : projectsSetting env.sharedStorage name = some names := by
      unfold projectsSetting
      rw [hitem]
      exact hnames
    refine .inr ?_
    by_cases hmem : project ∈ names
    · rw [if_neg (not_not_intro hmem)] at h
      cases h
      refine ⟨rfl, names, hsetting, ?_⟩
      rw [if_pos hmem, ← hsetting, update_eq_self]
    · rw [if_pos hmem] at h
      cases h
      refine ⟨rfl, names, hsetting, ?_⟩
      rw [if_neg hmem]
      exact projectsSetting_putItem _ _

/-- **One call of `add_filesystem_to_project`** fails without an effect, or lists the project. -/
theorem run_addFileSystem_cases (h : (Snapshots.addFileSystemToProject services name project).run env = (r, env')) :
    ((∃ e, r = .error e) ∧ env' = env) ∨ r = .ok ⟨⟩ ∧ isEmpty project = false ∧ ∃ names,
      projectsSetting env.sharedStorage name = some names ∧
      projectsSetting env'.sharedStorage = update (projectsSetting env.sharedStorage) name
        (some (if project ∈ names then names else names ++ [project])) := by
  rw [addFileSystemToProject_eq] at h
  rcases Snapshots.run_answered_cases h with h | ⟨fault, hr, henv⟩
  · split at h
    · cases h
      exact .inl ⟨⟨_, rfl⟩, rfl⟩
    · split at h
      · cases h
        exact .inl ⟨⟨_, rfl⟩, rfl⟩
      · next hblank =>
          rcases run_updateMapping_cases h with hsame | ⟨hok, hlisted⟩
          · exact .inl hsame
          · exact .inr ⟨hok, by simpa using hblank, hlisted⟩
  · exact .inl ⟨⟨_, hr⟩, henv⟩

/-- **One call of `remove_filesystem_from_project`** fails without an effect, or takes the project out. -/
theorem run_removeFilesystem_cases (h : (removeFilesystemFromProject name project).run env = (r, env')) :
    ((∃ e, r = .error e) ∧ env' = env) ∨ r = .ok ⟨⟩ ∧ ∃ names, projectsSetting env.sharedStorage name = some names ∧
      projectsSetting env'.sharedStorage = update (projectsSetting env.sharedStorage) name
        (some (names.erase project)) := by
  unfold removeFilesystemFromProject at h
  split at h
  · cases h
    exact .inl ⟨⟨_, rfl⟩, rfl⟩
  · split at h
    · cases h
      exact .inl ⟨⟨_, rfl⟩, rfl⟩
    · rcases hget : (getFileSystem name).run env with ⟨e | entry, s⟩
      · rw [Proc.run_bind_of_error hget] at h
        cases h
        exact .inl ⟨⟨e, rfl⟩, (Snapshots.reads_getFileSystem name).eq_of_run hget⟩
      · obtain ⟨hs, hitem, names, hnames⟩ := run_getFileSystem_ok hget
        rw [hs] at hget
        rw [Proc.run_bind_of_ok hget] at h
        simp only [hnames, Option.getD_some] at h
        have hsetting : projectsSetting env.sharedStorage name = some names := by
          unfold projectsSetting
          rw [hitem]
          exact hnames
        cases names with
        | nil =>
          cases h
          exact .inl ⟨⟨_, rfl⟩, rfl⟩
        | cons first rest =>
          dsimp only at h
          rw [Proc.run_when] at h
          refine .inr ?_
          split at h
          · cases h
            exact ⟨rfl, _, hsetting, projectsSetting_putItem _ _⟩
          · next hnot =>
              cases h
              refine ⟨rfl, _, hsetting, ?_⟩
              rw [List.erase_of_not_mem hnot, ← hsetting, update_eq_self]

/-- **One call that onboards a file system** changes no setting, or gives a file system that had none the
empty one. -/
theorem projectsSetting_onboard {provider id : String} {details : FileSystemEntry}
    (h : (Snapshots.onboardFileSystem services name provider id details).run env = (r, env')) :
    projectsSetting env'.sharedStorage = projectsSetting env.sharedStorage ∨
      projectsSetting env.sharedStorage name = none ∧ projectsSetting env'.sharedStorage =
          update (projectsSetting env.sharedStorage) name (some []) := by
  unfold Snapshots.onboardFileSystem at h
  split at h
  · cases h
    exact .inl rfl
  · next keys hkeys =>
      rcases Snapshots.run_answered_cases h with h | ⟨fault, -, rfl⟩
      · rw [Proc.run_bind] at h
        have hreads : Reads (σ := Environment) (Proc.forEach (fun key => Proc.liftExcept
            (Snapshots.requiredKey key (details.texts key) >>= fun _ => .ok PUnit.unit)) keys) :=
          Reads.forEach fun _ _ => Reads.liftExcept _
        rcases hloop : (Proc.forEach (fun key => Proc.liftExcept
            (Snapshots.requiredKey key (details.texts key) >>= fun _ => .ok PUnit.unit)) keys).run env
          with ⟨e | u, s⟩
        · have hs : s = env := hreads.eq_of_run hloop
          rw [hloop] at h
          cases h
          exact .inl (by rw [hs])
        · have hs : s = env := hreads.eq_of_run hloop
          rw [hloop, hs] at h
          dsimp only at h
          rw [Proc.run_bind_of_ok (Proc.run_gets _ env)] at h
          cases hcheck : Snapshots.checkOnboarding services name id details env.sharedStorage with
          | error e =>
            rw [Proc.run_bind_of_error (by rw [Proc.run_liftExcept, hcheck])] at h
            cases h
            exact .inl rfl
          | ok u =>
            rw [Proc.run_bind_of_ok (by rw [Proc.run_liftExcept, hcheck])] at h
            cases hdescribe : services.describeFileSystem provider id >>= fun _ => Except.ok PUnit.unit with
            | error e =>
              rw [Proc.run_bind_of_error (by rw [Proc.run_liftExcept, hdescribe])] at h
              cases h
              exact .inl rfl
            | ok u =>
              rw [Proc.run_bind_of_ok (by rw [Proc.run_liftExcept, hdescribe])] at h
              cases h
              exact .inr ⟨projectsSetting_of_checkOnboarding hcheck, projectsSetting_putItem _ _⟩
      · exact .inl rfl

end Methods

/-! ## The system -/

/-- `re.match(PROJECT_ID_REGEX, name)` for `^[a-z0-9-]{3,18}$`, whose end also matches in front of a final
newline. -/
def matchesProjectIdRegex (name : String) : Bool :=
  let chars := name.toList
  let body := if chars.getLast? = some '\n' then chars.dropLast else chars
  3 ≤ body.length && body.length ≤ 18 && body.all fun c => c.isLower || c.isDigit || c == '-'

/-- The check of the name in `ProjectsAPI.create_project`. -/
def validateProjectName : Option String → Except Exc PUnit
  | none => .error (.other .typeError "expected string or bytes-like object")
  | some name =>
    if matchesProjectIdRegex name then .ok ⟨⟩
    else .error (.soca .invalidParams ("Only use lowercase alphabets, numbers, and hyphens (-) for project id. " ++
      "Must be between 3 and 18 characters long."))

/-- The database of the cluster manager, the settings of the shared storage, and the pairs of a file system
and a project id that were added and not removed since. -/
structure MappingState where
  db : Db
  storage : SharedStorage
  added : List (String × String)

/-- A procedure on the database. -/
def onDb {α : Type} (c : DbProc α) : Proc MappingState Exc α :=
  Proc.zoom MappingState.db (fun db s => { s with db := db }) c

/-- The settings without the other tables of an environment. -/
def storageOnly (storage : SharedStorage) : Environment := ⟨∅, ∅, ∅, ∅, ∅, storage, []⟩

/-- A procedure on the settings. -/
def onStorage {α : Type} (c : EnvProc α) : Proc MappingState Exc α :=
  Proc.zoom (fun s => storageOnly s.storage) (fun env s => { s with storage := env.sharedStorage }) c

variable {s : MappingState}

theorem run_onStorage {α : Type} {c : EnvProc α} {r : Except Exc α} {env : Environment}
    (h : c.run (storageOnly s.storage) = (r, env)) :
    (onStorage c).run s = (r, { s with storage := env.sharedStorage }) := Proc.run_zoom_of h

/-- The name of a project. -/
def nameOf (projects : Table String ProjectRow) (p : String) : Option String :=
  (projects.getItem p).map ProjectRow.name

/-- The project that a name stands for. -/
def idOf (projects : Table String ProjectRow) (name : String) : Option String :=
  (projects.scan.find? fun item => item.2.name = name).map Prod.fst

/-- The project of a name was added to a file system. -/
def MappingState.add (s : MappingState) (filesystem project : String) : MappingState :=
  match idOf s.db.projects project with
  | none => s
  | some p => { s with added := s.added ++ [(filesystem, p)] }

/-- The project of a name was removed from a file system. -/
def MappingState.remove (s : MappingState) (filesystem project : String) : MappingState :=
  { s with added := s.added.filter fun pair => (pair.1, some pair.2) ≠ (filesystem, idOf s.db.projects project) }

/-- A file system is gone. -/
def MappingState.offboard (s : MappingState) (filesystem : String) : MappingState :=
  { s with added := s.added.filter fun pair => pair.1 ≠ filesystem }

/-- What was added to a project that is gone is forgotten. -/
def MappingState.forget (s : MappingState) : MappingState :=
  { s with added := s.added.filter fun pair => (nameOf s.db.projects pair.2).isSome }

/-- A request. -/
inductive MappingOp
  /-- `ProjectsAPI.create_project`. -/
  | createProject (ctx : CreationContext) (project : Project) (filesystemNames : List String)
  | updateProject (ctx : ProjectsContext) (project : Project)
  | deleteProject (paginator : Paginator (String × String)) (texts : ListingTexts) (w : ProjectsWorld)
      (request : Option DeleteProjectRequest)
  | addFilesystem (services : Services) (filesystem project : String)
  | removeFilesystem (filesystem project : String)
  | onboardFilesystem (services : Services) (filesystem provider id : String) (details : FileSystemEntry)
  | offboardFilesystem (filesystem : String)

/-- What a request runs. -/
def MappingOp.proc : MappingOp → Proc MappingState Exc PUnit
  | .createProject ctx project filesystemNames => do
    Proc.liftExcept (validateProjectName project.name)
    let _ ← onDb (Projects.createProject ctx project)
    Proc.forEach (fun filesystem => do
      onStorage (updateFilesystemToProjectMapping filesystem (project.name.getD ""))
      Proc.modify fun s => s.add filesystem (project.name.getD "")) filesystemNames
  | .updateProject ctx project => onDb (Projects.updateProject ctx project)
  | .deleteProject paginator texts w request => onDb (Projects.deleteProject paginator texts w request)
  | .addFilesystem services filesystem project => do
    onStorage (Snapshots.addFileSystemToProject services filesystem project)
    Proc.modify fun s => s.add filesystem project
  | .removeFilesystem filesystem project => do
    onStorage (removeFilesystemFromProject filesystem project)
    Proc.modify fun s => s.remove filesystem project
  | .onboardFilesystem services filesystem provider id details =>
    onStorage (Snapshots.onboardFileSystem services filesystem provider id details)
  | .offboardFilesystem filesystem => do
    onStorage (Projects.offboardFilesystem filesystem)
    Proc.modify fun s => s.offboard filesystem

/-- Projects have different names, blank ones apart, and ids without white space around them. -/
structure NamesOk (name : String → Option String) : Prop where
  unique : ∀ p q text, name p = some text → name q = some text → isEmpty text = false → p = q
  plain : ∀ p text, name p = some text → strip p = p

/-- The requests, from a state in which no project was added to a file system. Whether a request returns or
raises, the next one starts from what it left. -/
def mappings : System MappingState MappingOp where
  init s := NamesOk (nameOf s.db.projects) ∧ s.added = [] ∧
    ∀ filesystem names, projectsSetting s.storage filesystem = some names → names = []
  next s op := some (op.proc.run s).2.forget

/-! ## The claim and the condition -/

/-- The names in the settings are those of the projects that were added.

* A name in the setting of a file system is that of a project that was added to it.
* A project that was added is in the setting.
* A project whose name is in the setting was added. -/
structure MappingsFollow (s : MappingState) : Prop where
  listed : ∀ filesystem names, projectsSetting s.storage filesystem = some names → ∀ name ∈ names,
    ∃ p, nameOf s.db.projects p = some name ∧ (filesystem, p) ∈ s.added
  kept : ∀ filesystem p name, (filesystem, p) ∈ s.added → nameOf s.db.projects p = some name →
    ∃ names, projectsSetting s.storage filesystem = some names ∧ name ∈ names
  own : ∀ filesystem names p name, projectsSetting s.storage filesystem = some names → name ∈ names →
    nameOf s.db.projects p = some name → (filesystem, p) ∈ s.added

/-- The name is in no setting. -/
def Unlisted (s : MappingState) (name : String) : Prop :=
  ∀ filesystem names, projectsSetting s.storage filesystem = some names → name ∉ names

/-- The condition on a step.

* The project that is renamed or deleted is in no setting.
* The project that is added exists.
* The settings that are offboarded with a file system are its own, or empty. -/
def Following (s : MappingState) : MappingOp → Prop
  | .updateProject _ project => ∀ p name, project.projectId = some p →
      nameOf s.db.projects p = some name → project.name.getD name ≠ name → Unlisted s name
  | .deleteProject _ _ _ request => ∀ request' p row, request = some request' →
      (findProject request').run s.db = (.ok (some (p, row)), s.db) → Unlisted s row.name
  | .addFilesystem _ _ project => ∃ p, nameOf s.db.projects p = some project
  | .offboardFilesystem filesystem => ∀ other names, other ≠ filesystem →
      projectsSetting s.storage other = some names → names ≠ [] → deletedWith filesystem other "projects" = false
  | _ => True

/-! ## What ties the names to the projects -/

/-- The invariant, on the names of the projects, the settings and the pairs that were added. -/
structure MappingOk (name : String → Option String) (setting : String → Option (List String))
    (added : List (String × String)) : Prop where
  names : NamesOk name
  listed : ∀ filesystem names, setting filesystem = some names → names.Nodup ∧
    ∀ text ∈ names, isEmpty text = false ∧ ∃ p, name p = some text ∧ (filesystem, p) ∈ added
  kept : ∀ filesystem p, (filesystem, p) ∈ added → ∃ text names,
    name p = some text ∧ setting filesystem = some names ∧ text ∈ names

namespace MappingOk

variable {name : String → Option String} {setting setting' : String → Option (List String)}
  {added : List (String × String)} {filesystem p text : String} {names : List String}

/-- A project whose name is in no setting was added to no file system. -/
theorem not_added (h : MappingOk name setting added) (hp : name p = some text)
    (hunlisted : ∀ filesystem names, setting filesystem = some names → text ∉ names) (filesystem : String) :
    (filesystem, p) ∉ added := by
  intro hadded
  obtain ⟨text', names, hp', hsetting, hmem⟩ := h.kept filesystem p hadded
  obtain rfl : text = text' := Option.some.inj (hp.symm.trans hp')
  exact hunlisted filesystem names hsetting hmem

/-- A project that was added to no file system gets a name that no other one has. -/
theorem setName (h : MappingOk name setting added) (hfree : ∀ filesystem, (filesystem, p) ∉ added)
    (hplain : strip p = p) (hnew : isEmpty text = false → ∀ q, q ≠ p → name q ≠ some text) :
    MappingOk (update name p (some text)) setting added where
  names := by
    constructor
    · intro q r text' hq hr hblank
      rw [update_apply] at hq hr
      split at hq <;> split at hr
      · next hqp hrp => rw [hqp, hrp]
      · next hqp hrp =>
          rw [← Option.some.inj hq] at hr hblank
          exact absurd hr (hnew hblank r hrp)
      · next hqp hrp =>
          rw [← Option.some.inj hr] at hq hblank
          exact absurd hq (hnew hblank q hqp)
      · exact h.names.unique q r text' hq hr hblank
    · intro q text' hq
      rw [update_apply] at hq
      split at hq
      · next hqp => rw [hqp, hplain]
      · exact h.names.plain q text' hq
  listed filesystem names hsetting := by
    obtain ⟨hnodup, hall⟩ := h.listed filesystem names hsetting
    refine ⟨hnodup, fun text' hmem => ?_⟩
    obtain ⟨hblank, q, hq, hadded⟩ := hall text' hmem
    have hne : q ≠ p := by
      rintro rfl
      exact hfree filesystem hadded
    exact ⟨hblank, q, by rw [update_of_ne hne, hq], hadded⟩
  kept filesystem q hadded := by
    have hne : q ≠ p := by
      rintro rfl
      exact hfree filesystem hadded
    obtain ⟨text', names, hq, hrest⟩ := h.kept filesystem q hadded
    exact ⟨text', names, by rw [update_of_ne hne, hq], hrest⟩

/-- A project that was added to no file system is deleted. -/
theorem dropName (h : MappingOk name setting added) (hfree : ∀ filesystem, (filesystem, p) ∉ added) :
    MappingOk (update name p none) setting added where
  names := by
    have hold : ∀ {q text'}, update name p none q = some text' → name q = some text' := by
      intro q text' hq
      rw [update_apply] at hq
      split at hq
      · cases hq
      · exact hq
    exact ⟨fun q r text' hq hr => h.names.unique q r text' (hold hq) (hold hr),
      fun q text' hq => h.names.plain q text' (hold hq)⟩
  listed filesystem names hsetting := by
    obtain ⟨hnodup, hall⟩ := h.listed filesystem names hsetting
    refine ⟨hnodup, fun text' hmem => ?_⟩
    obtain ⟨hblank, q, hq, hadded⟩ := hall text' hmem
    have hne : q ≠ p := by
      rintro rfl
      exact hfree filesystem hadded
    exact ⟨hblank, q, by rw [update_of_ne hne, hq], hadded⟩
  kept filesystem q hadded := by
    have hne : q ≠ p := by
      rintro rfl
      exact hfree filesystem hadded
    obtain ⟨text', names, hq, hrest⟩ := h.kept filesystem q hadded
    exact ⟨text', names, by rw [update_of_ne hne, hq], hrest⟩

/-- An existing project is added to a file system. -/
theorem add (h : MappingOk name setting added) (hp : name p = some text) (hblank : isEmpty text = false)
    (hsetting : setting filesystem = some names) :
    MappingOk name (update setting filesystem (some (if text ∈ names then names else names ++ [text])))
      (added ++ [(filesystem, p)]) where
  names := h.names
  listed other names' hother := by
    rw [update_apply] at hother
    split at hother
    · next heq =>
        obtain ⟨hnodup, hall⟩ := h.listed filesystem names hsetting
        rw [heq, ← Option.some.inj hother]
        have hold : ∀ text' ∈ names, isEmpty text' = false ∧
            ∃ q, name q = some text' ∧ (filesystem, q) ∈ added ++ [(filesystem, p)] := by
          intro text' hmem
          obtain ⟨hblank', q, hq, hadded⟩ := hall text' hmem
          exact ⟨hblank', q, hq, List.mem_append_left _ hadded⟩
        split
        · exact ⟨hnodup, hold⟩
        · next hnot =>
            refine ⟨?_, fun text' hmem => ?_⟩
            · rw [List.nodup_append]
              refine ⟨hnodup, List.nodup_singleton text, fun a ha b hb => ?_⟩
              rintro rfl
              rw [List.mem_singleton] at hb
              exact hnot (hb ▸ ha)
            · rcases List.mem_append.mp hmem with hmem | hmem
              · exact hold text' hmem
              · rw [List.mem_singleton.mp hmem]
                exact ⟨hblank, p, hp, List.mem_append_right _ List.mem_cons_self⟩
    · obtain ⟨hnodup, hall⟩ := h.listed other names' hother
      refine ⟨hnodup, fun text' hmem => ?_⟩
      obtain ⟨hblank', q, hq, hadded⟩ := hall text' hmem
      exact ⟨hblank', q, hq, List.mem_append_left _ hadded⟩
  kept other q hadded := by
    -- the setting lists what it listed before, and the project
    have hlists : ∀ text', text' ∈ names ∨ text' = text →
        text' ∈ if text ∈ names then names else names ++ [text] := by
      intro text' hmem
      split
      · next hin => exact hmem.elim id fun heq => heq ▸ hin
      · exact List.mem_append.mpr (hmem.imp id fun heq => List.mem_singleton.mpr heq)
    rcases List.mem_append.mp hadded with hadded | hadded
    · obtain ⟨text', names', hq, hother, hmem⟩ := h.kept other q hadded
      by_cases heq : other = filesystem
      · subst heq
        obtain rfl : names = names' := Option.some.inj (hsetting.symm.trans hother)
        exact ⟨text', _, hq, update_self _ _ _, hlists text' (.inl hmem)⟩
      · exact ⟨text', names', hq, by rw [update_of_ne heq, hother], hmem⟩
    · obtain ⟨rfl, rfl⟩ := Prod.mk.inj (List.mem_singleton.mp hadded)
      exact ⟨text, _, hp, update_self _ _ _, hlists text (.inr rfl)⟩

/-- A name is taken out of a setting, and its project is not added any more. -/
theorem remove (h : MappingOk name setting added) (hsetting : setting filesystem = some names)
    {found : Option String} (hfound : ∀ q, found = some q → name q = some text)
    (hexists : found = none → ∀ q, name q ≠ some text) :
    MappingOk name (update setting filesystem (some (names.erase text)))
      (added.filter fun pair => (pair.1, some pair.2) ≠ (filesystem, found)) where
  names := h.names
  listed other names' hother := by
    rw [update_apply] at hother
    split at hother
    · next heq =>
        obtain ⟨hnodup, hall⟩ := h.listed filesystem names hsetting
        rw [heq, ← Option.some.inj hother]
        refine ⟨hnodup.erase text, fun text' hmem => ?_⟩
        obtain ⟨hne, hmem⟩ := (List.Nodup.mem_erase_iff hnodup).mp hmem
        obtain ⟨hblank, q, hq, hadded⟩ := hall text' hmem
        refine ⟨hblank, q, hq, List.mem_filter.mpr ⟨hadded, decide_eq_true fun hpair => ?_⟩⟩
        have hq' := hfound q (Prod.mk.inj hpair).2.symm
        exact hne (Option.some.inj (hq.symm.trans hq'))
    · next hne =>
        obtain ⟨hnodup, hall⟩ := h.listed other names' hother
        refine ⟨hnodup, fun text' hmem => ?_⟩
        obtain ⟨hblank, q, hq, hadded⟩ := hall text' hmem
        exact ⟨hblank, q, hq, List.mem_filter.mpr ⟨hadded, decide_eq_true fun hpair => hne (Prod.mk.inj hpair).1⟩⟩
  kept other q hpair := by
    obtain ⟨hadded, hne⟩ := List.mem_filter.mp hpair
    obtain ⟨text', names', hq, hother, hmem⟩ := h.kept other q hadded
    by_cases heq : other = filesystem
    · subst heq
      obtain rfl : names = names' := Option.some.inj (hsetting.symm.trans hother)
      refine ⟨text', _, hq, update_self _ _ _, ?_⟩
      refine (List.Nodup.mem_erase_iff (h.listed other names hsetting).1).mpr ⟨?_, hmem⟩
      -- the project of the name that is taken out is not added any more
      rintro rfl
      cases hcase : found with
      | none => exact hexists hcase q hq
      | some r =>
        have hblank := ((h.listed other names hsetting).2 text' hmem).1
        have hr := h.names.unique q r text' hq (hfound r hcase) hblank
        rw [hcase, hr] at hne
        exact absurd rfl (of_decide_eq_true hne)
    · exact ⟨text', names', hq, by rw [update_of_ne heq, hother], hmem⟩

/-- A file system without a setting gets the empty one. -/
theorem onboard (h : MappingOk name setting added) (hnone : setting filesystem = none) :
    MappingOk name (update setting filesystem (some [])) added where
  names := h.names
  listed other names hother := by
    rw [update_apply] at hother
    split at hother
    · rw [← Option.some.inj hother]
      exact ⟨List.nodup_nil, fun _ hmem => absurd hmem List.not_mem_nil⟩
    · exact h.listed other names hother
  kept other q hadded := by
    obtain ⟨text, names, hq, hother, hmem⟩ := h.kept other q hadded
    have hne : other ≠ filesystem := by
      rintro rfl
      rw [hnone] at hother
      cases hother
    exact ⟨text, names, hq, by rw [update_of_ne hne, hother], hmem⟩

/-- The settings of a file system are deleted, and with them at most empty ones of others. -/
theorem offboard (h : MappingOk name setting added)
    (hless : ∀ other names, setting' other = some names → other ≠ filesystem ∧ setting other = some names)
    (hmore : ∀ other names, other ≠ filesystem → setting other = some names → names ≠ [] →
      setting' other = some names) : MappingOk name setting' (added.filter fun pair => pair.1 ≠ filesystem) where
  names := h.names
  listed other names hother := by
    obtain ⟨hne, hother⟩ := hless other names hother
    obtain ⟨hnodup, hall⟩ := h.listed other names hother
    refine ⟨hnodup, fun text hmem => ?_⟩
    obtain ⟨hblank, q, hq, hadded⟩ := hall text hmem
    exact ⟨hblank, q, hq, List.mem_filter.mpr ⟨hadded, decide_eq_true hne⟩⟩
  kept other q hpair := by
    obtain ⟨hadded, hne⟩ := List.mem_filter.mp hpair
    obtain ⟨text, names, hq, hother, hmem⟩ := h.kept other q hadded
    exact ⟨text, names, hq, hmore other names (of_decide_eq_true hne) hother (List.ne_nil_of_mem hmem), hmem⟩

theorem filter_added (h : MappingOk name setting added) : (added.filter fun pair => (name pair.2).isSome) = added := by
  refine List.filter_eq_self.mpr ?_
  rintro ⟨filesystem, p⟩ hadded
  obtain ⟨text, names, hp, -⟩ := h.kept filesystem p hadded
  rw [hp]
  rfl

end MappingOk

/-! ## One request -/

section Requests

variable {projects : Table String ProjectRow} {text filesystem : String}

theorem nameOf_updateItem {p : String} {row : ProjectRow} (hrow : projects.getItem p = some row)
    (change : ProjectRow → ProjectRow) :
    nameOf (projects.updateItem p change) = update (nameOf projects) p (some (change row).name) := by
  funext q
  unfold nameOf
  rw [Table.getItem_updateItem, update_apply]
  by_cases heq : q = p
  · rw [if_pos heq, if_pos heq, hrow]
    rfl
  · rw [if_neg heq, if_neg heq]

theorem nameOf_deleteItem (p : String) : nameOf (projects.deleteItem p) = update (nameOf projects) p none := by
  funext q
  unfold nameOf
  rw [Table.getItem_deleteItem, update_apply]
  by_cases heq : q = p
  · rw [if_pos heq, if_pos heq]
    rfl
  · rw [if_neg heq, if_neg heq]

theorem nameOf_created (ctx : CreationContext) (db : Db) (name : String) (project : Project) :
    nameOf (created ctx db name project).projects =
      update (nameOf db.projects) (nextProjectId ctx db.projects) (some name) := by
  funext q
  unfold nameOf
  rw [getItem_created, update_apply]
  by_cases heq : q = nextProjectId ctx db.projects
  · rw [if_pos heq, if_pos heq]
    rfl
  · rw [if_neg heq, if_neg heq]

theorem nameOf_eq_some {p : String} (h : nameOf projects p = some text) :
    ∃ row, projects.getItem p = some row ∧ row.name = text :=
  Option.map_eq_some_iff.mp h

theorem nameOf_idOf {p : String} (h : idOf projects text = some p) : nameOf projects p = some text := by
  obtain ⟨⟨q, row⟩, hfind, rfl⟩ := Option.map_eq_some_iff.mp h
  have hname : row.name = text := by simpa using List.find?_some hfind
  unfold nameOf
  rw [Table.mem_scan.mp (List.mem_of_find?_eq_some hfind), Option.map_some, hname]

theorem nameOf_ne_of_idOf (h : idOf projects text = none) (q : String) : nameOf projects q ≠ some text := by
  intro hq
  obtain ⟨row, hrow, hname⟩ := nameOf_eq_some hq
  have hnone := List.find?_eq_none.mp (Option.map_eq_none_iff.mp h) (q, row) (Table.mem_scan.mpr hrow)
  exact hnone (decide_eq_true hname)

/-- The invariant of a state. -/
def StateOk (s : MappingState) : Prop :=
  MappingOk (nameOf s.db.projects) (projectsSetting s.storage) s.added

theorem stateOk_onDb {α : Type} {c : DbProc α}
    (h : MappingOk (nameOf (c.run s.db).2.projects) (projectsSetting s.storage) s.added) :
    StateOk ((onDb c).run s).2 := h

/-- A file system is added to an existing project, by a call that lists its name or fails. -/
theorem keeps_add {c : EnvProc PUnit} (hc : ∀ env r env', c.run env = (r, env') → ((∃ e, r = .error e) ∧ env' = env) ∨
      r = .ok ⟨⟩ ∧ isEmpty text = false ∧ ∃ names, projectsSetting env.sharedStorage filesystem = some names ∧
        projectsSetting env'.sharedStorage = update (projectsSetting env.sharedStorage) filesystem
          (some (if text ∈ names then names else names ++ [text]))) :
    Keeps (fun s => StateOk s ∧ ∃ p, nameOf s.db.projects p = some text)
      (onStorage c >>= fun _ => Proc.modify fun s : MappingState => s.add filesystem text) := by
  refine Keeps.of_state fun s hs => ?_
  obtain ⟨hok, p, hp⟩ := hs
  rcases hrun : c.run (storageOnly s.storage) with ⟨r, env'⟩
  rcases hc _ r env' hrun with ⟨⟨e, rfl⟩, rfl⟩ | ⟨rfl, hblank, names, hsetting, hsetting'⟩
  · rw [Proc.run_bind_of_error (run_onStorage hrun)]
    exact ⟨hok, p, hp⟩
  · rw [Proc.run_bind_of_ok (run_onStorage hrun), Proc.run_modify]
    cases hid : idOf s.db.projects text with
    | none => exact absurd hp (nameOf_ne_of_idOf hid p)
    | some q =>
      have hadd : ({ s with storage := env'.sharedStorage } : MappingState).add filesystem text =
          { s with storage := env'.sharedStorage, added := s.added ++ [(filesystem, q)] } := by
        simp only [MappingState.add, hid]
      rw [hadd]
      refine ⟨?_, p, hp⟩
      show MappingOk (nameOf s.db.projects) (projectsSetting env'.sharedStorage) _
      rw [hsetting']
      exact MappingOk.add hok (nameOf_idOf hid) hblank hsetting

/-- A project is created and added to file systems. -/
theorem keeps_createProject (ctx : CreationContext) (project : Project) (filesystemNames : List String) :
    Keeps StateOk (MappingOp.createProject ctx project filesystemNames).proc := by
  -- after the creation there is a project of the name
  have hcreate : Triple StateOk (onDb (Projects.createProject ctx project))
      (fun _ s => (StateOk s ∧ ∃ p, nameOf s.db.projects p = some (project.name.getD "")) ∧
        isEmpty (project.name.getD "") = false) fun _ => StateOk := by
    intro s hs
    rcases hrun : (Projects.createProject ctx project).run s.db with ⟨r, db'⟩
    have hzoom : (onDb (Projects.createProject ctx project)).run s = (r, { s with db := db' }) := Proc.run_zoom_of hrun
    rw [hzoom]
    rcases run_createProject_cases hrun with ⟨⟨e, rfl⟩, rfl⟩ | ⟨name, hname, hblank, rfl, hnew, rfl⟩
    · exact hs
    · obtain ⟨hfresh, -, hstrip⟩ := nextProjectId_spec ctx s.db.projects
      have hnone : nameOf s.db.projects (nextProjectId ctx s.db.projects) = none := by
        unfold nameOf
        rw [Table.not_has_iff.mp hfresh, Option.map_none]
      have hfree : ∀ filesystem, (filesystem, nextProjectId ctx s.db.projects) ∉ s.added := by
        intro filesystem hadded
        obtain ⟨text, names, hp, -⟩ := MappingOk.kept hs filesystem _ hadded
        rw [hnone] at hp
        cases hp
      have hok : StateOk { s with db := created ctx s.db name project } := by
        show MappingOk (nameOf (created ctx s.db name project).projects) _ _
        rw [nameOf_created]
        refine MappingOk.setName hs hfree hstrip fun _ q _ hq => ?_
        obtain ⟨row, hrow, htext⟩ := nameOf_eq_some hq
        exact hnew q row hrow htext
      rw [hname, Option.getD_some]
      refine ⟨⟨hok, nextProjectId ctx s.db.projects, ?_⟩, hblank⟩
      show nameOf (created ctx s.db name project).projects _ = _
      rw [nameOf_created, update_self]
  have hloop : ∀ u : String, Triple (fun s : MappingState =>
      (StateOk s ∧ ∃ p, nameOf s.db.projects p = some (project.name.getD "")) ∧ isEmpty (project.name.getD "") = false)
      (Proc.forEach (fun filesystem => do
        onStorage (updateFilesystemToProjectMapping filesystem (project.name.getD ""))
        Proc.modify fun s => s.add filesystem (project.name.getD "")) filesystemNames)
      (fun _ => StateOk) fun _ => StateOk := by
    intro u s hs
    have hadd : ∀ filesystem ∈ filesystemNames,
        Keeps (fun s => StateOk s ∧ ∃ p, nameOf s.db.projects p = some (project.name.getD ""))
          (onStorage (updateFilesystemToProjectMapping filesystem (project.name.getD "")) >>= fun _ =>
            Proc.modify fun s : MappingState => s.add filesystem (project.name.getD "")) :=
      fun filesystem _ => keeps_add fun env r env' hrun =>
        (run_updateMapping_cases hrun).imp id fun hlisted => ⟨hlisted.1, hs.2, hlisted.2⟩
    have hkeep := Keeps.forEach hadd
    exact (hkeep.conseq (fun _ ht => ht) (fun _ _ ht => ht.1) fun _ _ ht => ht.1) s hs.1
  exact Triple.bind (Keeps.liftExcept _) fun _ => Triple.bind hcreate hloop

theorem stateOk_updateProject (h : StateOk s) {ctx : ProjectsContext} {project : Project}
    (hfollow : Following s (.updateProject ctx project)) :
    StateOk ((MappingOp.updateProject ctx project).proc.run s).2 := by
  refine stateOk_onDb ?_
  rcases hrun : (Projects.updateProject ctx project).run s.db with ⟨r, db'⟩
  have hplain : ∀ p, s.db.projects.Has p → strip p = p := by
    intro p hp
    obtain ⟨row, hrow⟩ := Table.has_iff.mp hp
    exact h.names.plain p row.name (by rw [nameOf, hrow, Option.map_some])
  rcases projects_updateProject hplain hrun with hsame | ⟨p, row, hid, hrow, hafter, hnew⟩
  · show MappingOk (nameOf db'.projects) _ _
    rw [hsame]
    exact h
  · show MappingOk (nameOf db'.projects) _ _
    have hname : nameOf s.db.projects p = some row.name := by rw [nameOf, hrow, Option.map_some]
    rw [hafter, nameOf_updateItem hrow]
    by_cases hkeep : project.name.getD row.name = row.name
    · have hsame : update (nameOf s.db.projects) p (some (updatedRow project row).name) =
          nameOf s.db.projects := by
        rw [show (updatedRow project row).name = row.name from hkeep, ← hname, update_eq_self]
      rw [hsame]
      exact h
    · have hfree := MappingOk.not_added h hname (hfollow p row.name hid hname hkeep)
      refine MappingOk.setName h hfree (h.names.plain p _ hname) fun hblank q hqp hq => ?_
      obtain ⟨other, hother, htext⟩ := nameOf_eq_some hq
      cases hrequested : project.name with
      | none =>
        rw [hrequested, Option.getD_none] at hkeep
        exact hkeep rfl
      | some name =>
        have hupdated : (updatedRow project row).name = name := by
          show project.name.getD row.name = name
          rw [hrequested, Option.getD_some]
        rw [hrequested, Option.getD_some] at hkeep
        rw [hupdated] at hblank htext
        exact hnew name hrequested hblank (fun heq => hkeep heq.symm) q other hother htext

theorem stateOk_deleteProject (h : StateOk s) {paginator : Paginator (String × String)}
    {texts : ListingTexts} {w : ProjectsWorld} {request : Option DeleteProjectRequest}
    (hfollow : Following s (.deleteProject paginator texts w request)) :
    StateOk ((MappingOp.deleteProject paginator texts w request).proc.run s).2 := by
  refine stateOk_onDb ?_
  rcases hrun : (Projects.deleteProject paginator texts w request).run s.db with ⟨r, db'⟩
  rcases projects_deleteProject hrun with hsame | ⟨request', p, row, q, hrequest, hfind, hq, hafter⟩
  · show MappingOk (nameOf db'.projects) _ _
    rw [hsame]
    exact h
  · show MappingOk (nameOf db'.projects) _ _
    have hrow := (getItem_of_findProject hfind).2
    have hname : nameOf s.db.projects p = some row.name := by rw [nameOf, hrow, Option.map_some]
    have hqp : q = p := by
      unfold getAsString at hq
      rw [Option.bind_some] at hq
      split at hq
      · cases hq
      · rw [← Option.some.inj hq, h.names.plain p _ hname]
    rw [hafter, hqp, nameOf_deleteItem]
    exact MappingOk.dropName h (MappingOk.not_added h hname (hfollow request' p row hrequest hfind))

theorem stateOk_removeFilesystem (h : StateOk s) :
    StateOk ((MappingOp.removeFilesystem filesystem text).proc.run s).2 := by
  unfold MappingOp.proc
  rcases hrun : (removeFilesystemFromProject filesystem text).run (storageOnly s.storage)
    with ⟨r, env'⟩
  rcases run_removeFilesystem_cases hrun with ⟨⟨e, rfl⟩, rfl⟩ | ⟨rfl, names, hsetting, hsetting'⟩
  · rw [Proc.run_bind_of_error (run_onStorage hrun)]
    exact h
  · rw [Proc.run_bind_of_ok (run_onStorage hrun), Proc.run_modify]
    show MappingOk (nameOf s.db.projects) (projectsSetting env'.sharedStorage) _
    rw [hsetting']
    exact MappingOk.remove h hsetting (fun q hq => nameOf_idOf hq) fun hnone q => nameOf_ne_of_idOf hnone q

theorem stateOk_onboardFilesystem (h : StateOk s) {services : Services}
    {provider id : String} {details : FileSystemEntry} :
    StateOk ((MappingOp.onboardFilesystem services filesystem provider id details).proc.run s).2 := by
  unfold MappingOp.proc
  rcases hrun : (Snapshots.onboardFileSystem services filesystem provider id details).run
    (storageOnly s.storage) with ⟨r, env'⟩
  rw [run_onStorage hrun]
  show MappingOk (nameOf s.db.projects) (projectsSetting env'.sharedStorage) s.added
  rcases projectsSetting_onboard hrun with hsame | ⟨hnone, hsetting⟩
  · rw [hsame]
    exact h
  · rw [hsetting]
    exact MappingOk.onboard h hnone

/-- What is left of the settings was there before, and is not of the file system that was offboarded. -/
theorem projectsSetting_offboarded {storage : SharedStorage} {other : String} {names : List String}
    (h : projectsSetting (storage.filterMapItems (offboardedSetting filesystem)) other = some names) :
    other ≠ filesystem ∧ projectsSetting storage other = some names := by
  unfold projectsSetting at h ⊢
  rw [Table.getItem_filterMapItems] at h
  cases hitem : storage.getItem other with
  | none =>
    rw [hitem] at h
    cases h
  | some setting =>
    rw [hitem, Option.bind_some] at h
    cases setting with
    | value =>
      unfold offboardedSetting at h
      split at h <;> simp_all
    | fileSystem entry =>
      by_cases hgone : startsWith (other ++ ".") filesystem = true
      · simp [offboardedSetting, hgone] at h
      · simp only [offboardedSetting, hgone, Bool.false_eq_true, if_false] at h
        split at h
        · cases h
        · refine ⟨?_, h⟩
          rintro rfl
          -- the keys of a file system begin with its name
          refine hgone (List.isPrefixOf_iff_prefix.mpr ?_)
          rw [String.toList_append]
          exact List.prefix_append _ _

/-- A setting whose key does not begin with that of the file system stays. -/
theorem projectsSetting_offboarded_of_not_deleted {storage : SharedStorage} {other : String}
    {names : List String} (h : projectsSetting storage other = some names)
    (hkey : deletedWith filesystem other "projects" = false) :
    projectsSetting (storage.filterMapItems (offboardedSetting filesystem)) other = some names := by
  have hgone : startsWith (other ++ ".") filesystem = false := by
    by_contra hstarts
    rw [Bool.not_eq_false] at hstarts
    have hbegins := List.isPrefixOf_iff_prefix.mp hstarts
    have hall : deletedWith filesystem other "projects" = true := by
      refine List.isPrefixOf_iff_prefix.mpr (hbegins.trans ?_)
      rw [String.toList_append (s := other ++ ".")]
      exact List.prefix_append _ _
    rw [hkey] at hall
    cases hall
  unfold projectsSetting at h ⊢
  rw [Table.getItem_filterMapItems]
  cases hitem : storage.getItem other with
  | none =>
    rw [hitem] at h
    cases h
  | some setting =>
    rw [hitem] at h
    cases setting with
    | value => cases h
    | fileSystem entry =>
      simp only [Option.bind_some, offboardedSetting, hgone, hkey, Bool.false_eq_true, if_false]
      exact h

theorem stateOk_offboardFilesystem (h : StateOk s) (hfollow : Following s (.offboardFilesystem filesystem)) :
    StateOk ((MappingOp.offboardFilesystem filesystem).proc.run s).2 := by
  show MappingOk (nameOf s.db.projects)
    (projectsSetting (s.storage.filterMapItems (offboardedSetting filesystem))) _
  exact MappingOk.offboard h (fun _ _ hother => projectsSetting_offboarded hother)
    fun other names hne hother hnonempty =>
      projectsSetting_offboarded_of_not_deleted hother (hfollow other names hne hother hnonempty)

/-- **One request that follows.** -/
theorem StateOk.next {s t : MappingState} (h : StateOk s) {op : MappingOp} (hfollow : Following s op)
    (hnext : mappings.next s op = some t) : StateOk t := by
  have hrun : StateOk (op.proc.run s).2 := by
    cases op with
    | createProject ctx project filesystemNames =>
      exact (keeps_createProject ctx project filesystemNames).run h
    | updateProject ctx project => exact stateOk_updateProject h hfollow
    | deleteProject paginator texts w request => exact stateOk_deleteProject h hfollow
    | addFilesystem services filesystem project =>
      exact ((keeps_add fun env r env' hrun => run_addFileSystem_cases hrun).run ⟨h, hfollow⟩).1
    | removeFilesystem filesystem project => exact stateOk_removeFilesystem h
    | onboardFilesystem services filesystem provider id details => exact stateOk_onboardFilesystem h
    | offboardFilesystem filesystem => exact stateOk_offboardFilesystem h hfollow
  obtain rfl : (op.proc.run s).2.forget = t := Option.some.inj hnext
  show MappingOk _ _ _
  unfold MappingState.forget
  rw [MappingOk.filter_added hrun]
  exact hrun

/-- The invariant gives the claim. -/
theorem StateOk.mappingsFollow (h : StateOk s) : MappingsFollow s where
  listed filesystem names hsetting name hmem := ((h.listed filesystem names hsetting).2 name hmem).2
  kept filesystem p name hadded hp := by
    obtain ⟨text, names, hp', hsetting, hmem⟩ := h.kept filesystem p hadded
    obtain rfl : text = name := Option.some.inj (hp'.symm.trans hp)
    exact ⟨names, hsetting, hmem⟩
  own filesystem names p name hsetting hmem hp := by
    obtain ⟨hblank, q, hq, hadded⟩ := (h.listed filesystem names hsetting).2 name hmem
    rw [h.names.unique p q name hp hq hblank]
    exact hadded

end Requests

/-! ## A project under an old name -/

/-- Other services that accept everything. -/
def acceptingCreation : CreationContext where
  toProjectsContext := acceptingProjects
  getLdapGroup _ := .ok ()
  createVdiRole _ _ := .ok ()
  ids := IdSource.longest
  shortUuid := "m"

/-- One file system, onboarded and added to no project. -/
def oneFileSystem : MappingState :=
  ⟨Db.empty, (∅ : SharedStorage).putItem "fs1"
    (.fileSystem ⟨some "efs", some ["project"], some [], fun _ => none, fun _ => none⟩), []⟩

/-- A request that creates the project `lab` and adds it to file systems. -/
def createLab (filesystemNames : List String) : MappingOp :=
  .createProject acceptingCreation
    { projectId := none, name := some "lab", ldapGroups := some [], users := some [] } filesystemNames

/-- A request that deletes the project `lab`, of which no session is left. -/
def deleteLab : MappingOp :=
  .deleteProject (Paginator.single _) plainTexts
    ⟨Db.empty, ⟨[], fun _ => []⟩, ⟨[], fun _ => []⟩⟩ (some { projectName := some "lab" })

theorem exec_mappings (s : MappingState) (ops : List MappingOp) :
    mappings.exec s ops = some (ops.foldl (fun s op => (op.proc.run s).2.forget) s) := by
  induction ops generalizing s with
  | nil => rfl
  | cons op ops ih => exact ih _

/-- What a list of requests leaves of the file system that is there first. -/
def afterRequests (ops : List MappingOp) : MappingState :=
  ops.foldl (fun s op => (op.proc.run s).2.forget) oneFileSystem

theorem init_oneFileSystem : mappings.init oneFileSystem := by
  refine ⟨⟨fun p q text hp => ?_, fun p text hp => ?_⟩, rfl, fun filesystem names hsetting => ?_⟩
  · cases hp
  · cases hp
  · by_cases heq : filesystem = "fs1"
    · subst heq
      cases hsetting
      rfl
    · have hnone : projectsSetting oneFileSystem.storage filesystem = none := by
        unfold projectsSetting oneFileSystem
        rw [Table.getItem_putItem_of_ne _ _ heq]
        rfl
      rw [hnone] at hsetting
      cases hsetting

end ContainRes.Projects
