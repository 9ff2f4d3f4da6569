import ContainRes.Snapshots.RecordMergers

/-! # Applying a snapshot

The file systems of a snapshot, which are onboarded if they are in the VPC and not onboarded yet, and the
order in which the tables are merged. The deltas of a table are recorded when its merger returns.

* **`onboardFileSystem`** — `onboard_efs_filesystem` and its siblings.
* **`mergeFileSystems`** — the loop of the merger of cluster settings, with the ids that are left.
* **`mergeTables`** — the mergers in the order of their dependencies.
* **`Applies`** — an apply that completes; `Applies.runs` gives the run of each merger. -/

namespace ContainRes.Snapshots

open Accounts (UserRow)
open Effects Effects.Proc Store Text
open VirtualDesktop VirtualDesktop.SoftwareStacks

variable (services : Services) (dedupId : String)

/-! ## File systems -/

/-- The file systems of `_list_shared_filesystems`: the settings with projects. -/
def sharedFileSystems (storage : SharedStorage) : List (String × FileSystemEntry) :=
  storage.scan.filterMap fun item =>
    match item.2 with
    | .value => none
    | .fileSystem entry => if entry.projects.isSome then some (item.1, entry) else none

/-- `get_filesystem_id`: the section of the provider has to be there. -/
def fileSystemId (entry : FileSystemEntry) : Except Exc (Option String) :=
  SessionPermissions.required (entry.provider.bind entry.fileSystemIds)
    (.other .attributeError "'NoneType' object has no attribute 'get'")

/-- The ids of the file systems that are onboarded. -/
def onboardedIds (storage : SharedStorage) : Except Exc (List (Option String)) :=
  (sharedFileSystems storage).mapM fun item => fileSystemId item.2

def getFileSystem (name : String) : EnvProc FileSystemEntry := do
  let shared ← Proc.gets fun env => sharedFileSystems env.sharedStorage
  if shared = [] then Proc.raise (.soca .noSharedFilesystemFound "did not find any shared filesystem")
  else match shared.find? fun item => item.1 = name with
    | none => Proc.raise (.soca .filesystemNotFound ("could not find filesystem " ++ name))
    | some (_, entry) => return entry

theorem reads_getFileSystem (name : String) : Reads (getFileSystem name) := by
  refine Reads.bind (Reads.gets _) fun shared => Reads.ite (fun _ => Reads.raise _) fun _ => ?_
  cases shared.find? fun item => item.1 = name with
  | none => exact Reads.raise _
  | some item => exact Reads.pure _

/-- An entry of a dictionary that has to be there. -/
def requiredKey {α : Type} (key : String) (value : Option α) : Except Exc α :=
  SessionPermissions.required value (.other .keyError key)

/-- The texts that a request to onboard is made from, by provider. -/
def requestKeys : List (String × List String) :=
  [("efs", ["title", "mount_dir"]),
    ("fsx_netapp_ontap", ["title", "mount_dir", "mount_drive", "fsx_netapp_ontap.svm.svm_id",
      "fsx_netapp_ontap.volume.volume_id", "fsx_netapp_ontap.volume.cifs_share_name"]),
    ("fsx_lustre", ["title", "mount_dir"])]

/-- The checks of `onboard_efs_filesystem` and its siblings. -/
def checkOnboarding (name id : String) (details : FileSystemEntry) (storage : SharedStorage) :
    Except Exc PUnit := do
  if id = "" ∨ name = "" ∨ details.texts "title" = some "" then
    throw (.soca .invalidParams "needed parameters cannot be empty")
  if (sharedFileSystems storage).any fun item => item.1 = name then
    throw (.soca .invalidParams (name ++ " already exists"))
  let onboarded ← onboardedIds storage
  if some id ∈ onboarded then
    throw (.soca .filesystemAlreadyOnboarded (id ++ " has already been onboarded"))
  if id ∉ services.fileSystemsInVpc then
    throw (.soca .filesystemNotInVpc (id ++ " not part of the env's VPC thus not accessible"))

/-- The settings that are written for a file system, over those that stand under its name. -/
def onboardedEntry (provider id : String) (keys : List String) (details : FileSystemEntry)
    (old : Option StorageSetting) : FileSystemEntry where
  provider := some provider
  scope := some ["project"]
  projects := some []
  fileSystemIds other :=
    if other = provider then some (some id)
    else match old with
      | some (.fileSystem entry) => entry.fileSystemIds other
      | _ => none
  texts key :=
    if key ∈ keys then details.texts key
    else match old with
      | some (.fileSystem entry) => entry.texts key
      | _ => none

/-- `onboard_efs_filesystem` and its siblings; with a provider that has none, nothing is onboarded. -/
def onboardFileSystem (name provider id : String) (details : FileSystemEntry) : EnvProc PUnit :=
  match requestKeys.lookup provider with
  | none => pure ⟨⟩
  | some keys => answered services (.onboardFileSystem name) do
      Proc.forEach (fun key => Proc.liftExcept (requiredKey key (details.texts key) >>= fun _ => .ok ⟨⟩)) keys
      let storage ← Proc.gets Environment.sharedStorage
      Proc.liftExcept (checkOnboarding services name id details storage)
      Proc.liftExcept (services.describeFileSystem provider id >>= fun _ => .ok ⟨⟩)
      let entry := onboardedEntry provider id keys details (storage.getItem name)
      Proc.modify fun env => { env with sharedStorage := env.sharedStorage.putItem name (.fileSystem entry) }

/-- `get_names_of_projects_in_env`: the names on the first page of the projects. -/
def projectNames (projects : Table String ProjectRow) : List (Option String) :=
  (services.projectPaginator.first projects.scan).map fun item => (convertFromDb item.1 item.2).name

def addFileSystemToProject (name project : String) : EnvProc PUnit :=
  answered services (.addFileSystemToProject name project) do
    if isEmpty name then Proc.raise (.invalidParams "filesystem_name is required")
    else if isEmpty project then Proc.raise (.invalidParams "project_name is required")
    else do
      let entry ← getFileSystem name
      let projects := entry.projects.getD []
      Proc.when (project ∉ projects) (Proc.modify fun env => { env with
        sharedStorage := env.sharedStorage.putItem name
          (.fileSystem { entry with projects := some (projects ++ [project]) }) })

/-- `_add_filesystem_to_projects`: a project that is not there is skipped, and what is raised is logged
only. -/
def addFileSystemToProjects (name : String) (details : FileSystemEntry) (names : List (Option String)) :
    EnvProc PUnit :=
  Proc.forEach (fun project => Proc.when (some project ∈ names) (Proc.tryCatch (addFileSystemToProject services name
        (if some (uniqueResourceIdGenerator project dedupId) ∈ names then
          uniqueResourceIdGenerator project dedupId else project))
      fun _ => pure ⟨⟩)) (details.projects.getD [])

/-- The file system of the settings that is looked at: the settings with a provider and the scope of
projects. -/
def mergeable (item : String × StorageSetting) : Option (FileSystemEntry × String) :=
  match item.2 with
  | .value => none
  | .fileSystem details =>
    match details.provider with
    | none => none
    | some provider =>
      if provider ≠ "" ∧ "project" ∈ details.scope.getD [] then some (details, provider) else none

/-- Whether the environment has a file system of that name. -/
def hasFileSystem (name : String) : EnvProc (Merged Bool) :=
  Proc.tryCatch (answered services (.getFileSystem name) (getFileSystem name) >>= fun _ => pure (.merged true))
    fun e =>
      if e.errorCode = some .noSharedFilesystemFound ∨ e.errorCode = some .filesystemNotFound then
        pure (.merged false)
      else if e.isSoca then Proc.raise e
      else pure .failed

/-- The part of the body of the loop that onboards. The settings are there at once for the wait that
follows the onboarding. -/
def onboardOfRecord (names : List (Option String)) (name provider id : String) (details : FileSystemEntry) :
    EnvProc (Merged (MergedRecordDelta (String × FileSystemEntry))) := do
  match ← hasFileSystem services name with
  | .skipped => pure .skipped
  | .failed => pure .failed
  | .merged already =>
    let nameToUse := if already then uniqueResourceIdGenerator name dedupId else name
    Proc.tryCatch
      (do
        onboardFileSystem services nameToUse provider id details
        addFileSystemToProjects services dedupId nameToUse details names
        return .merged ⟨(name, details), (nameToUse, details)⟩)
      fun e =>
        if e.errorCode = some .filesystemAlreadyOnboarded ∨ e.errorCode = some .filesystemNotInVpc then
          pure .skipped
        else if e.isSoca then Proc.raise e
        else pure .failed

/-- The body of `FileSystemsClusterSettingTableMerger.merge`, with the ids that are accessible and not
merged yet. -/
def mergeFileSystem (onboarded : List (Option String)) (names : List (Option String))
    (accessible : List String) (item : String × StorageSetting) :
    EnvProc (Merged (MergedRecordDelta (String × FileSystemEntry)) × List String) :=
  match mergeable item with
  | none => pure (.skipped, accessible)
  | some (details, provider) =>
    match (details.fileSystemIds provider).join with
    | none => pure (.failed, accessible)
    | some id =>
      if some id ∈ onboarded ∨ id ∉ accessible then pure (.skipped, accessible)
      else onboardOfRecord services dedupId names item.1 provider id details >>= fun
        | .skipped => pure (.skipped, accessible)
        | .failed => pure (.failed, accessible)
        | .merged delta => pure (.merged delta, accessible.erase id)

/-- The loop of `FileSystemsClusterSettingTableMerger.merge`. -/
def mergeFileSystems (onboarded : List (Option String)) (names : List (Option String)) :
    List String → List (String × StorageSetting) →
      EnvProc (List (MergedRecordDelta (String × FileSystemEntry)) × Bool)
  | _, [] => pure ([], true)
  | accessible, item :: items =>
    mergeFileSystem services dedupId onboarded names accessible item >>= fun
      | (.skipped, accessible) => mergeFileSystems onboarded names accessible items
      | (.failed, _) => pure ([], false)
      | (.merged delta, accessible) =>
        mergeFileSystems onboarded names accessible items >>= fun rest =>
          pure (delta :: rest.1, rest.2)

/-- `FileSystemsClusterSettingTableMerger.merge`. -/
def mergeClusterSettings (settings : Option SharedStorage) :
    EnvProc (List (MergedRecordDelta (String × FileSystemEntry)) × Bool) := do
  let onboarded ← answered services .listFileSystems
    (Proc.gets Environment.sharedStorage >>= fun storage => Proc.liftExcept (onboardedIds storage))
  let names ← answered services .listProjects
    (Proc.gets fun env => projectNames services env.projects)
  match settings with
  | none => Proc.raise (.other .attributeError "'dict' object has no attribute 'as_plain_ordered_dict'")
  | some details => mergeFileSystems services dedupId onboarded names services.fileSystemsInVpc details.scan

/-! ## The tables -/

/-- The deltas of the tables that have been merged. -/
structure Deltas where
  users : List MergedUserDelta := []
  permissionProfiles : List (MergedRecordDelta (String × ProfileRow)) := []
  projects : List (MergedRecordDelta (String × ProjectRow)) := []
  softwareStacks : List (MergedRecordDelta SoftwareStackDict) := []
  fileSystems : List (MergedRecordDelta (String × FileSystemEntry)) := []

/-- The environment and the deltas that are recorded. -/
structure ApplyState where
  environment : Environment
  deltas : Deltas

/-- A merger is run, its deltas are recorded, and one that did not succeed is reported. -/
def mergeTable {δ : Type} (table : String) (record : List δ → Deltas → Deltas)
    (merge : EnvProc (List δ × Bool)) : Proc ApplyState Exc PUnit := do
  let result ← Proc.zoom ApplyState.environment (fun env s => { s with environment := env }) merge
  Proc.modify fun s => { s with deltas := record result.1 s.deltas }
  Proc.when (result.2 = false) (Proc.raise (.soca .tableMergeFailed
    ("Apply Snapshot failed to apply " ++ table ++ ". Initiating rollback.")))

/-- The loop of `merge_transformed_data_for_all_tables`. -/
def mergeTables (snapshot : Snapshot) : Proc ApplyState Exc PUnit := do
  mergeTable "accounts.users" (fun deltas d => { d with users := deltas })
    (mergeAll (mergeUser services) snapshot.users.scan)
  mergeTable "vdc.controller.permission-profiles" (fun deltas d => { d with permissionProfiles := deltas })
    (mergePermissionProfiles services dedupId snapshot.permissionProfiles.scan)
  mergeTable "projects" (fun deltas d => { d with projects := deltas })
    (mergeAll (mergeProject services dedupId) snapshot.projects.scan)
  let projectDeltas ← Proc.gets fun s : ApplyState => s.deltas.projects
  mergeTable "vdc.controller.software-stacks" (fun deltas d => { d with softwareStacks := deltas })
    (mergeAll (mergeSoftwareStack services dedupId (projectIdMappings projectDeltas))
      (snapshot.softwareStacks.scan.map Prod.snd))
  mergeTable "cluster-settings" (fun deltas d => { d with fileSystems := deltas })
    (mergeClusterSettings services dedupId snapshot.sharedStorage)

/-- **An apply that completes**, with its deltas and what it leaves. -/
def Applies (snapshot : Snapshot) (env : Environment) (deltas : Deltas) (env' : Environment) : Prop :=
  (mergeTables services dedupId snapshot).run ⟨env, {}⟩ = (.ok ⟨⟩, ⟨env', deltas⟩)

end ContainRes.Snapshots
