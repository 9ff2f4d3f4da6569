import ContainRes.Snapshots.ApplySnapshot
import ContainRes.Store.PagedScan

/-! # The file systems of the VPC

`SharedFilesystemService.list_file_systems_in_vpc` lists the file systems that can be onboarded. It looks at the
first page of each description, and it reads the file systems of the environment itself from the settings of EFS.

* **`listFileSystemsInVpc`** — the listing; **`validateFilesystem`** is the check of a request to onboard.
* **`ListsExactly`** — the listing is right, and a request is accepted for what it lists.
* **`Listable`** — the condition on the inventory and the settings.
* **`listsExactly_iff`** — the listing is right exactly under the condition. -/

namespace ContainRes.Projects.VpcFileSystems

open Effects Snapshots Store
open VirtualDesktop (SessionPermissions.required)

/-! ## The inventory -/

/-- A file system of EFS. Its mount targets are in one VPC. -/
structure Efs where
  fileSystemId : String
  lifeCycleState : String
  /-- The `VpcId` of each mount target. -/
  mountTargets : List String
  oneVpc : ∀ a ∈ mountTargets, ∀ b ∈ mountTargets, a = b
  deriving DecidableEq

/-- The values of `FileSystemType`. -/
inductive FileSystemType
  | ontap | lustre | windows | openzfs
  deriving DecidableEq, Repr

/-- A file system of FSx, with what the other descriptions say of it. -/
structure Fsx where
  fileSystemId : String
  fileSystemType : FileSystemType
  lifecycle : String
  /-- The `VpcId` of the first of its subnets. -/
  vpcId : String
  /-- The virtual machines with their `Lifecycle`. -/
  storageVirtualMachines : List (String × String)
  /-- The volumes with their `Lifecycle`. -/
  volumes : List (String × String)
  deriving DecidableEq, Repr

/-- The file systems of the account, as `describe_file_systems` pages them. -/
structure Inventory (κ : Type) where
  efs : PagedRows κ Efs
  fsx : PagedRows κ Fsx
  nodup_efs : (efs.rows.map Efs.fileSystemId).Nodup
  nodup_fsx : (fsx.rows.map Fsx.fileSystemId).Nodup

/-- The settings that the listing reads. -/
structure Settings where
  /-- `cluster.network.vpc_id`. -/
  vpcId : Option String
  sharedStorage : SharedStorage

/-! ## The listing -/

variable {κ : Type} [DecidableEq κ] (inventory : Inventory κ) (settings : Settings)

/-- `get_config_entry(key)['value']`. -/
def configValue (entry : Option String) : Except Exc String :=
  SessionPermissions.required entry (.other .typeError "'NoneType' object is not subscriptable")

/-- The entry `shared-storage.{name}.efs.file_system_id`. -/
def efsEntry (name : String) : Option String :=
  match settings.sharedStorage.getItem name with
  | some (.fileSystem entry) => (entry.fileSystemIds "efs").join
  | _ => none

def listUnonboardedEfsFileSystems (onboardedFilesystemIds : List (Option String)) : Except Exc (List Efs) := do
  let home ← configValue (efsEntry settings "home")
  let internal ← configValue (efsEntry settings "internal")
  let envVpcId ← configValue settings.vpcId
  return (inventory.efs.read none).1.filter fun efs =>
    efs.lifeCycleState = "available" ∧ efs.mountTargets.head? = some envVpcId ∧
      some efs.fileSystemId ∉ onboardedFilesystemIds ∧ efs.fileSystemId ∉ [home, internal]

/-- `FSxONTAPFileSystem`. -/
structure OntapFileSystem where
  filesystem : Fsx
  svm : List (String × String)
  volume : List (String × String)

/-- The answer for a file system of ONTAP: what has been created of it. -/
def ontapFileSystem (fsx : Fsx) : OntapFileSystem where
  filesystem := fsx
  svm := fsx.storageVirtualMachines.filter fun svm => svm.2 = "CREATED"
  volume := fsx.volumes.filter fun volume => volume.2 = "CREATED"

def listUnonboardedOntapFileSystems (onboardedFilesystemIds : List (Option String)) :
    Except Exc (List OntapFileSystem) := do
  let envVpcId ← configValue settings.vpcId
  return ((inventory.fsx.read none).1.filter fun fsx =>
    (fsx.fileSystemType = .ontap ∧ fsx.lifecycle = "AVAILABLE" ∧ envVpcId = fsx.vpcId ∧
      some fsx.fileSystemId ∉ onboardedFilesystemIds) ∧
        fsx.storageVirtualMachines ≠ [] ∧ fsx.volumes ≠ []).map ontapFileSystem

def listUnonboardedLustreFileSystems (onboardedFilesystemIds : List (Option String)) :
    Except Exc (List Fsx) := do
  let envVpcId ← configValue settings.vpcId
  return (inventory.fsx.read none).1.filter fun fsx =>
    fsx.fileSystemType = .lustre ∧ fsx.lifecycle = "AVAILABLE" ∧ envVpcId = fsx.vpcId ∧
      some fsx.fileSystemId ∉ onboardedFilesystemIds

/-- `ListFileSystemInVPCResult`. -/
structure Listing where
  efs : List Efs
  fsxOntap : List OntapFileSystem
  fsxLustre : List Fsx

/-- The ids of what is listed. -/
def Listing.ids (listing : Listing) : List String :=
  listing.efs.map Efs.fileSystemId ++ listing.fsxOntap.map (fun fs => fs.filesystem.fileSystemId) ++
    listing.fsxLustre.map Fsx.fileSystemId

/-- The three listings, without what is onboarded. -/
def unonboarded (onboardedFilesystemIds : List (Option String)) : Except Exc Listing := do
  let efs ← listUnonboardedEfsFileSystems inventory settings onboardedFilesystemIds
  let fsxOntap ← listUnonboardedOntapFileSystems inventory settings onboardedFilesystemIds
  let fsxLustre ← listUnonboardedLustreFileSystems inventory settings onboardedFilesystemIds
  return ⟨efs, fsxOntap, fsxLustre⟩

def listFileSystemsInVpc : Except Exc Listing := do
  unonboarded inventory settings (← onboardedIds settings.sharedStorage)

/-- `_validate_filesystem_present_in_vpc_and_not_onboarded(filesystem_id)`. -/
def validateFilesystem (filesystemId : String) : Except Exc Bool := do
  let onboarded ← onboardedIds settings.sharedStorage
  if some filesystemId ∈ onboarded then
    throw (.soca .filesystemAlreadyOnboarded (filesystemId ++ " has already been onboarded"))
  let listing ← unonboarded inventory settings onboarded
  if filesystemId ∈ listing.ids then return true
  throw (.soca .filesystemNotInVpc (filesystemId ++ " not part of the env's VPC thus not accessible"))

/-! ## What is asked of the listing -/

/-- The `file_system_id` of the provider of a file system. -/
def ownId (entry : FileSystemEntry) : Option (Option String) := entry.provider.bind entry.fileSystemIds

/-- The file system is onboarded. -/
def Onboarded (id : String) : Prop := ∃ item ∈ sharedFileSystems settings.sharedStorage, ownId item.2 = some (some id)

/-- The file system is the home or the internal one of the environment, whatever its provider. -/
def IsOwn (id : String) : Prop :=
  ∃ name ∈ ["home", "internal"], ∃ entry,
    settings.sharedStorage.getItem name = some (.fileSystem entry) ∧ ownId entry = some (some id)

/-- An available file system of EFS in the VPC that is not onboarded. -/
def EfsCandidate (efs : Efs) : Prop :=
  efs.lifeCycleState = "available" ∧ (∃ vpcId ∈ efs.mountTargets, settings.vpcId = some vpcId) ∧
    ¬ Onboarded settings efs.fileSystemId

/-- An available file system of FSx in the VPC that is not onboarded. -/
def FsxCandidate (type : FileSystemType) (fsx : Fsx) : Prop :=
  fsx.fileSystemType = type ∧ fsx.lifecycle = "AVAILABLE" ∧ settings.vpcId = some fsx.vpcId ∧
    ¬ Onboarded settings fsx.fileSystemId

/-- The file system is to be listed. -/
def EfsWanted (efs : Efs) : Prop := EfsCandidate settings efs ∧ ¬ IsOwn settings efs.fileSystemId

def FsxWanted (type : FileSystemType) (fsx : Fsx) : Prop :=
  FsxCandidate settings type fsx ∧ ¬ IsOwn settings fsx.fileSystemId

open Classical in
/-- **The listing is exact**: it returns what is to be listed of each kind, each once, and a request to onboard is
accepted for what is listed. -/
def ListsExactly : Prop :=
  ∃ listing, listFileSystemsInVpc inventory settings = .ok listing ∧
    listing.efs.Perm (inventory.efs.rows.filter fun efs => EfsWanted settings efs) ∧
    (listing.fsxOntap.map OntapFileSystem.filesystem).Perm
      (inventory.fsx.rows.filter fun fsx => FsxWanted settings .ontap fsx) ∧
    listing.fsxLustre.Perm (inventory.fsx.rows.filter fun fsx => FsxWanted settings .lustre fsx) ∧
    ∀ id, validateFilesystem inventory settings id = .ok true ↔ id ∈ listing.ids

/-- The settings that the listing cannot do without are there. -/
structure Configured : Prop where
  vpcId : settings.vpcId.isSome
  home : (efsEntry settings "home").isSome
  internal : (efsEntry settings "internal").isSome
  /-- The section of the provider of each file system that is onboarded. -/
  sections : ∀ item ∈ sharedFileSystems settings.sharedStorage, (ownId item.2).isSome

/-- **The condition.** The home and the internal file system are the ones in the settings of EFS, what is to be listed
is on the first pages, the available file systems of ONTAP in the VPC have virtual machines and volumes, and no
candidate of FSx is the home or the internal file system (unless it lacks them). -/
structure Listable : Prop where
  configured : Configured settings
  efs : ∀ fs ∈ inventory.efs.pages.headD [], EfsCandidate settings fs →
    (IsOwn settings fs.fileSystemId ↔
      efsEntry settings "home" = some fs.fileSystemId ∨ efsEntry settings "internal" = some fs.fileSystemId)
  ontap : ∀ fs ∈ inventory.fsx.pages.headD [], FsxCandidate settings .ontap fs →
    (IsOwn settings fs.fileSystemId ↔ ¬ (fs.storageVirtualMachines ≠ [] ∧ fs.volumes ≠ []))
  lustre : ∀ fs ∈ inventory.fsx.pages.headD [], FsxCandidate settings .lustre fs → ¬ IsOwn settings fs.fileSystemId
  efsPages : ∀ fs ∈ inventory.efs.pages.tail.flatten, ¬ EfsWanted settings fs
  fsxPages : ∀ fs ∈ inventory.fsx.pages.tail.flatten, ¬ FsxWanted settings .ontap fs ∧ ¬ FsxWanted settings .lustre fs

/-! ## What is listed -/

variable {inventory settings}

theorem configValue_eq_ok {entry : Option String} {value : String} :
    configValue entry = .ok value ↔ entry = some value := by
  cases entry <;> simp [configValue, SessionPermissions.required]

/-- The ids of what is onboarded are read when every provider has its section. -/
theorem onboardedIds_eq_ok {storage : SharedStorage} {ids : List (Option String)}
    (h : onboardedIds storage = .ok ids) (id : String) :
    some id ∈ ids ↔ ∃ item ∈ sharedFileSystems storage, ownId item.2 = some (some id) := by
  rw [mem_of_mapM h]
  refine exists_congr fun item => and_congr_right fun _ => ?_
  show fileSystemId item.2 = _ ↔ ownId item.2 = _
  unfold fileSystemId ownId
  cases item.2.provider.bind item.2.fileSystemIds <;> simp [SessionPermissions.required]

theorem onboardedIds_isOk {storage : SharedStorage} :
    (∃ ids, onboardedIds storage = .ok ids) ↔ ∀ item ∈ sharedFileSystems storage, (ownId item.2).isSome := by
  unfold onboardedIds
  induction sharedFileSystems storage with
  | nil => exact iff_of_true ⟨[], rfl⟩ fun _ hitem => absurd hitem List.not_mem_nil
  | cons item items ih =>
    rw [List.forall_mem_cons, ← ih, List.mapM_cons]
    unfold fileSystemId ownId
    cases item.2.provider.bind item.2.fileSystemIds with
    | none => simp [SessionPermissions.required, Bind.bind, Except.bind]
    | some id =>
      simp only [SessionPermissions.required, bind_eq_ok, Option.isSome_some, true_and, Except.ok.injEq]
      constructor
      · rintro ⟨_, _, _, ids, hids, -⟩
        exact ⟨ids, hids⟩
      · rintro ⟨ids, hids⟩
        exact ⟨_, _, rfl, ids, hids, rfl⟩

/-- The page that is read is the first one. -/
theorem read_none_fst {α : Type} (t : PagedRows κ α) : (t.read none).1 = t.pages.headD [] := by
  rw [PagedRows.read_none]
  cases hpages : t.pages with
  | nil => exact absurd hpages t.pages_ne_nil
  | cons page pages => simp [PagedRows.page, hpages]

omit [DecidableEq κ] in
theorem rows_eq {α : Type} (t : PagedRows κ α) : t.rows = t.pages.headD [] ++ t.pages.tail.flatten := by
  unfold PagedRows.rows
  cases hpages : t.pages with
  | nil => exact absurd hpages t.pages_ne_nil
  | cons page pages => rfl

/-- The file system of EFS passes the filters of its listing. -/
def EfsListed (settings : Settings) (efs : Efs) : Prop :=
  EfsCandidate settings efs ∧
    ¬ (efsEntry settings "home" = some efs.fileSystemId ∨ efsEntry settings "internal" = some efs.fileSystemId)

def OntapListed (settings : Settings) (fsx : Fsx) : Prop :=
  FsxCandidate settings .ontap fsx ∧ fsx.storageVirtualMachines ≠ [] ∧ fsx.volumes ≠ []

open Classical in
/-- What is listed of the first pages. -/
noncomputable def listed (inventory : Inventory κ) (settings : Settings) : Listing where
  efs := (inventory.efs.pages.headD []).filter fun efs => EfsListed settings efs
  fsxOntap := ((inventory.fsx.pages.headD []).filter fun fsx => OntapListed settings fsx).map ontapFileSystem
  fsxLustre := (inventory.fsx.pages.headD []).filter fun fsx => FsxCandidate settings .lustre fsx

/-- All mount targets are in the VPC of the first one. -/
theorem head_mountTargets_eq (efs : Efs) (vpcId : String) :
    efs.mountTargets.head? = some vpcId ↔ vpcId ∈ efs.mountTargets := by
  constructor
  · exact List.mem_of_head?
  · intro hmem
    cases htargets : efs.mountTargets with
    | nil => rw [htargets] at hmem; exact absurd hmem List.not_mem_nil
    | cons target targets =>
      have hfirst : target ∈ efs.mountTargets := by rw [htargets]; exact List.mem_cons_self
      rw [List.head?_cons, efs.oneVpc target hfirst vpcId hmem]

/-- **The listings do not fail and list this** when the settings are there. -/
theorem unonboarded_eq {ids : List (Option String)} (hids : ∀ id, some id ∈ ids ↔ Onboarded settings id)
    (h : Configured settings) : unonboarded inventory settings ids = .ok (listed inventory settings) := by
  obtain ⟨vpcId, hvpcId⟩ := Option.isSome_iff_exists.mp h.vpcId
  obtain ⟨home, hhome⟩ := Option.isSome_iff_exists.mp h.home
  obtain ⟨internal, hinternal⟩ := Option.isSome_iff_exists.mp h.internal
  have hefs : listUnonboardedEfsFileSystems inventory settings ids = .ok (listed inventory settings).efs := by
    unfold listUnonboardedEfsFileSystems
    rw [hhome, hinternal, hvpcId, read_none_fst]
    refine congrArg Except.ok (List.filter_congr fun efs _ => decide_eq_decide.mpr ?_)
    unfold EfsListed EfsCandidate
    rw [head_mountTargets_eq, hids, hhome, hinternal, hvpcId]
    simp [and_assoc, eq_comm]
  have hontap : listUnonboardedOntapFileSystems inventory settings ids =
      .ok (listed inventory settings).fsxOntap := by
    unfold listUnonboardedOntapFileSystems
    rw [hvpcId, read_none_fst]
    refine congrArg (fun l => Except.ok (List.map _ l)) (List.filter_congr fun fsx _ => decide_eq_decide.mpr ?_)
    unfold OntapListed FsxCandidate
    rw [hids, hvpcId, Option.some_inj]
  have hlustre : listUnonboardedLustreFileSystems inventory settings ids =
      .ok (listed inventory settings).fsxLustre := by
    unfold listUnonboardedLustreFileSystems
    rw [hvpcId, read_none_fst]
    refine congrArg Except.ok (List.filter_congr fun fsx _ => decide_eq_decide.mpr ?_)
    unfold FsxCandidate
    rw [hids, hvpcId, Option.some_inj]
  unfold unonboarded
  rw [hefs, hontap, hlustre]
  rfl

/-- A listing comes of settings that are there. -/
theorem Configured.of_ok {listing : Listing} (h : listFileSystemsInVpc inventory settings = .ok listing) :
    Configured settings := by
  unfold listFileSystemsInVpc unonboarded listUnonboardedEfsFileSystems at h
  simp only [bind_eq_ok, configValue_eq_ok] at h
  obtain ⟨ids, hids, _, ⟨home, hhome, internal, hinternal, vpcId, hvpcId, -⟩, -⟩ := h
  exact ⟨hvpcId ▸ rfl, hhome ▸ rfl, hinternal ▸ rfl, onboardedIds_isOk.mp ⟨ids, hids⟩⟩

omit [DecidableEq κ] in
/-- What is listed is not onboarded. -/
theorem not_onboarded_of_listed {id : String} (h : id ∈ (listed inventory settings).ids) : ¬ Onboarded settings id := by
  simp only [Listing.ids, listed, List.mem_append, List.mem_map, List.mem_filter, decide_eq_true_iff] at h
  obtain (⟨efs, ⟨-, hefs⟩, rfl⟩ | ⟨_, ⟨fsx, ⟨-, hfsx⟩, rfl⟩, rfl⟩) | ⟨fsx, ⟨-, hfsx⟩, rfl⟩ := h
  · exact hefs.1.2.2
  · exact hfsx.1.2.2.2
  · exact hfsx.2.2.2

/-- The listing and the check of a request, when the settings are there. -/
theorem listFileSystemsInVpc_eq (h : Configured settings) :
    listFileSystemsInVpc inventory settings = .ok (listed inventory settings) ∧
      ∀ id, validateFilesystem inventory settings id = .ok true ↔ id ∈ (listed inventory settings).ids := by
  obtain ⟨ids, hids⟩ := onboardedIds_isOk.mpr h.sections
  have hlisted : unonboarded inventory settings ids = .ok (listed inventory settings) :=
    unonboarded_eq (onboardedIds_eq_ok hids) h
  constructor
  · unfold listFileSystemsInVpc
    rw [hids]
    exact hlisted
  · intro id
    unfold validateFilesystem
    rw [hids]
    by_cases honboarded : some id ∈ ids
    · have hnot : id ∉ (listed inventory settings).ids := fun hmem =>
        not_onboarded_of_listed hmem ((onboardedIds_eq_ok hids id).mp honboarded)
      simp [Bind.bind, Except.bind, throw, throwThe, MonadExceptOf.throw, honboarded, hnot]
    · simp [Bind.bind, Except.bind, Pure.pure, Except.pure, honboarded, hlisted, throw, throwThe, MonadExceptOf.throw]

/-- A filter of the first part of a list has all that another one finds in the whole list. -/
theorem filter_perm_iff {α : Type} {page rest : List α} {p q : α → Prop} [DecidablePred p] [DecidablePred q]
    (h : (page ++ rest).Nodup) : (page.filter p).Perm ((page ++ rest).filter q) ↔
      (∀ a ∈ page, p a ↔ q a) ∧ ∀ a ∈ rest, ¬ q a := by
  have hpage : page.Nodup := (List.nodup_append.mp h).1
  have hdisjoint : ∀ a ∈ rest, a ∉ page := fun a hrest hpage => (List.nodup_append.mp h).2.2 a hpage a hrest rfl
  rw [List.perm_ext_iff_of_nodup (hpage.filter _) (h.filter _)]
  simp only [List.mem_filter, List.mem_append, decide_eq_true_iff]
  constructor
  · intro hiff
    refine ⟨fun a ha => ?_, fun a ha hq => hdisjoint a ha ((hiff a).mpr ⟨Or.inr ha, hq⟩).1⟩
    have := hiff a
    simpa [ha] using this
  · rintro ⟨hfirst, hrest⟩ a
    constructor
    · rintro ⟨ha, hp⟩
      exact ⟨Or.inl ha, (hfirst a ha).mp hp⟩
    · rintro ⟨ha | ha, hq⟩
      · exact ⟨ha, (hfirst a ha).mpr hq⟩
      · exact absurd hq (hrest a ha)

variable (inventory settings)

/-- **The listing is exact under the condition and only then.** -/
theorem listsExactly_iff : ListsExactly inventory settings ↔ Listable inventory settings := by
  classical
  have hnodupEfs : (inventory.efs.pages.headD [] ++ inventory.efs.pages.tail.flatten).Nodup := by
    rw [← rows_eq]
    exact List.Nodup.of_map _ inventory.nodup_efs
  have hnodupFsx : (inventory.fsx.pages.headD [] ++ inventory.fsx.pages.tail.flatten).Nodup := by
    rw [← rows_eq]
    exact List.Nodup.of_map _ inventory.nodup_fsx
  have hexact : ListsExactly inventory settings ↔ Configured settings ∧
      (listed inventory settings).efs.Perm (inventory.efs.rows.filter fun efs => EfsWanted settings efs) ∧
      ((listed inventory settings).fsxOntap.map OntapFileSystem.filesystem).Perm
        (inventory.fsx.rows.filter fun fsx => FsxWanted settings .ontap fsx) ∧
      (listed inventory settings).fsxLustre.Perm
        (inventory.fsx.rows.filter fun fsx => FsxWanted settings .lustre fsx) := by
    constructor
    · rintro ⟨listing, hlisting, hefs, hontap, hlustre, -⟩
      have hconfigured := Configured.of_ok hlisting
      rw [(listFileSystemsInVpc_eq hconfigured).1] at hlisting
      cases hlisting
      exact ⟨hconfigured, hefs, hontap, hlustre⟩
    · rintro ⟨hconfigured, hefs, hontap, hlustre⟩
      obtain ⟨hlisting, hvalidate⟩ := @listFileSystemsInVpc_eq κ _ inventory settings hconfigured
      exact ⟨_, hlisting, hefs, hontap, hlustre, hvalidate⟩
  have hmap : (listed inventory settings).fsxOntap.map OntapFileSystem.filesystem =
      (inventory.fsx.pages.headD []).filter fun fsx => OntapListed settings fsx := by
    show List.map _ (List.map _ _) = _
    rw [List.map_map]
    exact List.map_id _
  rw [hexact, hmap, rows_eq, rows_eq]
  unfold listed
  rw [filter_perm_iff hnodupEfs, filter_perm_iff hnodupFsx, filter_perm_iff hnodupFsx]
  constructor
  · rintro ⟨hconfigured, ⟨hefs, hefsPages⟩, ⟨hontap, hontapPages⟩, hlustre, hlustrePages⟩
    refine ⟨hconfigured, fun fs hfs hcandidate => ?_, fun fs hfs hcandidate => ?_, fun fs hfs hcandidate => ?_,
      hefsPages, fun fs hfs => ⟨hontapPages fs hfs, hlustrePages fs hfs⟩⟩
    · have hiff := hefs fs hfs
      unfold EfsListed EfsWanted at hiff
      tauto
    · have hiff := hontap fs hfs
      unfold OntapListed FsxWanted at hiff
      tauto
    · exact ((hlustre fs hfs).mp hcandidate).2
  · intro h
    refine ⟨h.configured, ⟨fun fs hfs => ?_, h.efsPages⟩, ⟨fun fs hfs => ?_, fun fs hfs => (h.fsxPages fs hfs).1⟩,
      fun fs hfs => ?_, fun fs hfs => (h.fsxPages fs hfs).2⟩
    · unfold EfsListed EfsWanted
      exact and_congr_right fun hcandidate => not_congr (h.efs fs hfs hcandidate).symm
    · unfold OntapListed FsxWanted
      exact and_congr_right fun hcandidate => by rw [h.ontap fs hfs hcandidate, not_not]
    · exact ⟨fun hcandidate => ⟨hcandidate, h.lustre fs hfs hcandidate⟩, And.left⟩

/-- An environment with a home on FSx for Lustre and an internal file system on EFS. -/
def lustreHomeSettings : Settings where
  vpcId := some "vpc-1"
  sharedStorage :=
    let own (provider id : String) : StorageSetting :=
      .fileSystem ⟨some provider, some ["cluster"], none, fun key => if key = provider then some (some id) else none,
        fun _ => none⟩
    (Table.putItem ∅ "home" (own "fsx_lustre" "fs-1")).putItem "internal" (own "efs" "fs-2")

/-- Its file systems, and one of EFS that can be onboarded. -/
def lustreHomeInventory : Inventory ℕ where
  efs := {
    pages := [[⟨"fs-2", "available", ["vpc-1"], by decide⟩, ⟨"fs-3", "available", ["vpc-1"], by decide⟩]]
    pages_ne_nil := List.cons_ne_nil _ _
    lastKey := id
    lastKey_injective := Function.injective_id }
  fsx := {
    pages := [[⟨"fs-1", .lustre, "AVAILABLE", "vpc-1", [], []⟩]]
    pages_ne_nil := List.cons_ne_nil _ _
    lastKey := id
    lastKey_injective := Function.injective_id }
  nodup_efs := by decide
  nodup_fsx := by decide

/-- Nothing can be listed there: the settings have no section of EFS for the home. -/
theorem not_listsExactly_lustreHome : ¬ ListsExactly lustreHomeInventory lustreHomeSettings := by
  rintro ⟨listing, hlisting, -⟩
  exact absurd (Configured.of_ok hlisting).home (by decide)

end ContainRes.Projects.VpcFileSystems
