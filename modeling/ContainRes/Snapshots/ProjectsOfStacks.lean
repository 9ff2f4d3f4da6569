import ContainRes.Snapshots.CompletedApply

/-! # The projects of the stacks of a snapshot

A stack of a snapshot names its projects by the ids that they have there. The merger of stacks maps such an
id through the deltas of the merger of projects, which has a delta for a project that it created and none for
one that the environment already had; an id without a delta stays as it is.

* **`Represents`** — the project of the environment that stands for a project of the snapshot.
* **`CreatesStack`** — the stack that the merger creates for a record.
* **`Carried`** — the ids that arrive at the project that stands for theirs.
* **`projects_of_created_stacks`** — a stack that is created lists the projects that stand for the ones of
  its record exactly when each of these is carried. -/

namespace ContainRes.Snapshots

open Accounts (UserRow)
open Effects Effects.Proc Store Text
open VirtualDesktop VirtualDesktop.SoftwareStacks

variable (services : Services) (dedupId : String) (snapshot : Snapshot) (env : Environment)

/-- The environment when the projects of the snapshot are merged. -/
def beforeProjects : Environment :=
  ((mergePermissionProfiles services dedupId snapshot.permissionProfiles.scan).run
    ((mergeAll (mergeUser services) snapshot.users.scan).run env).2).2

/-- The environment when the stacks of the snapshot are merged. -/
def beforeStacks : Environment :=
  ((mergeAll (mergeProject services dedupId) snapshot.projects.scan).run
    (beforeProjects services dedupId snapshot env)).2

/-- The merge of the projects comes to the project `snapshotId` of the snapshot in the environment `u`. -/
def ReachesProject (snapshotId : String) (row : ProjectRow) (u : Environment) : Prop :=
  Reaches (mergeProject services dedupId) snapshot.projects.scan (beforeProjects services dedupId snapshot env)
    (snapshotId, row) u

/-- The first project of an environment with the name of a row is equal to it. -/
def EqualFound (snapshotId : String) (row : ProjectRow) (u : Environment)
    (found : String × ProjectRow) : Prop :=
  ∃ name, row.name = some name ∧ name ≠ "" ∧ findProject name u.projects = some found ∧
    (convertFromDb found.1 found.2).equal (convertFromDb snapshotId row) = true

/-- The project `projectId` of the environment stands for the project `snapshotId` of the snapshot: it was
created for it, or it was there and equal. -/
def Represents (snapshotId projectId : String) : Prop :=
  ∃ row u, ReachesProject services dedupId snapshot env snapshotId row u ∧
    ((∃ delta w, (mergeProject services dedupId (snapshotId, row)).run u = (.ok (.merged delta), w) ∧
        delta.resolvedRecord.1 = projectId) ∨ ∃ found, EqualFound snapshotId row u found ∧ found.1 = projectId)

/-- The project `snapshotId` has a name, and when it is merged no equal project is there under another
id. -/
def Carried (snapshotId : String) : Prop :=
  ∃ row u, row.name.getD "" ≠ "" ∧ ReachesProject services dedupId snapshot env snapshotId row u ∧
    ∀ found, EqualFound snapshotId row u found → found.1 = snapshotId

/-- The merger of stacks creates the stack `key` for a record. -/
def CreatesStack (mappings : List (String × String)) (record : SoftwareStackDict)
    (key : SessionPermissions.BaseOS × String) : Prop :=
  ∃ u delta w, Reaches (mergeSoftwareStack services dedupId mappings)
      (snapshot.softwareStacks.scan.map Prod.snd) (beforeStacks services dedupId snapshot env) record u ∧
    (mergeSoftwareStack services dedupId mappings record).run u = (.ok (.merged delta), w) ∧
    w.softwareStacks.Has key ∧ ¬ u.softwareStacks.Has key

variable {services dedupId snapshot env} {env' : Environment} {deltas : Deltas}

/-- The projects and the stacks of an apply that completes. -/
theorem Applies.projects_and_stacks (h : Applies services dedupId snapshot env deltas env') :
    Completes (mergeProject services dedupId) snapshot.projects.scan
        (beforeProjects services dedupId snapshot env) deltas.projects (beforeStacks services dedupId snapshot env) ∧
      ∃ env₄, Completes (mergeSoftwareStack services dedupId (projectIdMappings deltas.projects))
          (snapshot.softwareStacks.scan.map Prod.snd) (beforeStacks services dedupId snapshot env)
          deltas.softwareStacks env₄ ∧ (beforeProjects services dedupId snapshot env).projects = env.projects ∧
        (beforeStacks services dedupId snapshot env).softwareStacks = env.softwareStacks ∧
        env'.projects = (beforeStacks services dedupId snapshot env).projects ∧
        env'.softwareStacks = env₄.softwareStacks := by
  obtain ⟨env₁, env₂, env₃, env₄, husers, ⟨htypes, hprofiles⟩, hprojects, hstacks, hsettings⟩ := applies_iff.mp h
  have hrun := completes_mergePermissionProfiles.mpr ⟨htypes, hprofiles⟩
  obtain rfl : beforeProjects services dedupId snapshot env = env₂ := by
    unfold beforeProjects
    rw [show (mergeAll (mergeUser services) snapshot.users.scan).run env = _ from husers, hrun]
  obtain rfl : beforeStacks services dedupId snapshot env = env₃ := by
    unfold beforeStacks
    rw [show (mergeAll (mergeProject services dedupId) snapshot.projects.scan).run _ = _ from hprojects]
  exact ⟨hprojects, env₄, hstacks, projects_before husers hprofiles,
    stacks_before husers hprofiles hprojects, projects_after hstacks hsettings, stacks_after hsettings⟩

/-! ## The mapping of the ids -/

theorem mem_of_lookup {pairs : List (String × String)} {key value : String}
    (h : pairs.lookup key = some value) : (key, value) ∈ pairs := by
  obtain ⟨before, after, rfl, -⟩ := List.lookup_eq_some_iff.mp h
  simp

theorem mem_projectIdMappings {projects : List (MergedRecordDelta (String × ProjectRow))}
    {snapshotId projectId : String} : (snapshotId, projectId) ∈ projectIdMappings projects ↔
      ∃ delta ∈ projects, delta.snapshotRecord.1 = snapshotId ∧ delta.resolvedRecord.1 = projectId := by
  unfold projectIdMappings
  rw [List.mem_reverse, List.mem_map]
  simp only [Prod.mk.injEq]

section

variable {row : ProjectRow} {u : Environment} {snapshotId projectId : String}

/-- A delta with the id of a project of the snapshot is left by the step of that project. -/
theorem ReachesProject.step_of_delta (h : Applies services dedupId snapshot env deltas env')
    (hreaches : ReachesProject services dedupId snapshot env snapshotId row u)
    {delta : MergedRecordDelta (String × ProjectRow)} (hdelta : delta ∈ deltas.projects)
    (hid : delta.snapshotRecord.1 = snapshotId) :
    ∃ w, (mergeProject services dedupId (snapshotId, row)).run u = (.ok (.merged delta), w) := by
  obtain ⟨record, v, w, later, rest, hrecord, hrun, -⟩ := h.projects_and_stacks.1.exists_of_mem hdelta
  obtain ⟨name, -, -, hsnapshot, -⟩ := run_mergeProject hrun
  -- the keys of a table are there once, so the record of the delta is the one of the project
  have hnodup : snapshot.projects.scan.Nodup := snapshot.projects.nodup_scan_keys.of_map
  obtain rfl : record = (snapshotId, row) := by
    have hmem := hrecord.mem
    have hmem' := Reaches.mem hreaches
    obtain ⟨key, value⟩ := record
    obtain rfl : key = snapshotId := by rw [← hid, hsnapshot]
    rw [Table.mem_scan] at hmem hmem'
    rw [hmem] at hmem'
    cases hmem'
    rfl
  rw [Reaches.unique hnodup hreaches hrecord]
  exact ⟨w, hrun⟩

/-- The id of a project that is created is mapped to the new id. -/
theorem ReachesProject.resolve_of_merged (h : Applies services dedupId snapshot env deltas env')
    (hreaches : ReachesProject services dedupId snapshot env snapshotId row u)
    {delta : MergedRecordDelta (String × ProjectRow)} {w : Environment}
    (hrun : (mergeProject services dedupId (snapshotId, row)).run u = (.ok (.merged delta), w)) :
    resolveProjectId (projectIdMappings deltas.projects) (some snapshotId) = some delta.resolvedRecord.1 := by
  obtain ⟨name, -, -, hsnapshot, hid, -⟩ := run_mergeProject hrun
  have hmem : delta ∈ deltas.projects := by
    obtain ⟨w', later, rest, -, hskip | ⟨delta', hdelta', hrun'⟩⟩ := h.projects_and_stacks.1.of_reaches hreaches
    · rw [hrun] at hskip
      cases hskip
    · rw [hrun] at hrun'
      cases hrun'
      exact hdelta'
  have hlookup : (projectIdMappings deltas.projects).lookup snapshotId = some delta.resolvedRecord.1 := by
    cases hfound : (projectIdMappings deltas.projects).lookup snapshotId with
    | none =>
      have hpair := mem_projectIdMappings.mpr ⟨delta, hmem, congrArg Prod.fst hsnapshot, rfl⟩
      exact absurd (List.lookup_eq_none_iff.mp hfound _ hpair) (by simp)
    | some value =>
      obtain ⟨delta', hdelta', hkey, rfl⟩ := mem_projectIdMappings.mp (mem_of_lookup hfound)
      obtain ⟨w', hrun'⟩ := hreaches.step_of_delta h hdelta' hkey
      rw [hrun] at hrun'
      cases hrun'
      rfl
  unfold resolveProjectId
  rw [Option.bind_some, hlookup]
  refine if_neg ?_
  rw [hid]
  exact services.ids.next_ne _

/-- The id of a project that is skipped stays. -/
theorem ReachesProject.resolve_of_skipped (h : Applies services dedupId snapshot env deltas env')
    (hreaches : ReachesProject services dedupId snapshot env snapshotId row u)
    (hrun : (mergeProject services dedupId (snapshotId, row)).run u = (.ok .skipped, u)) :
    resolveProjectId (projectIdMappings deltas.projects) (some snapshotId) = some snapshotId := by
  have hlookup : (projectIdMappings deltas.projects).lookup snapshotId = none := by
    cases hfound : (projectIdMappings deltas.projects).lookup snapshotId with
    | none => rfl
    | some value =>
      obtain ⟨delta, hdelta, hkey, -⟩ := mem_projectIdMappings.mp (mem_of_lookup hfound)
      obtain ⟨w, hmerged⟩ := hreaches.step_of_delta h hdelta hkey
      rw [hrun] at hmerged
      cases hmerged
  unfold resolveProjectId
  rw [Option.bind_some, hlookup]

/-- The step of a project that is reached: it is created, or an equal one is found, or it has no name. -/
theorem ReachesProject.step (h : Applies services dedupId snapshot env deltas env')
    (hreaches : ReachesProject services dedupId snapshot env snapshotId row u) :
    (∃ delta w, (mergeProject services dedupId (snapshotId, row)).run u = (.ok (.merged delta), w) ∧
        ∀ found, ¬ EqualFound snapshotId row u found) ∨
      (mergeProject services dedupId (snapshotId, row)).run u = (.ok .skipped, u) ∧
        (row.name.getD "" = "" ∨ ∃ found, EqualFound snapshotId row u found) := by
  obtain ⟨w, later, rest, -, hskip | ⟨delta, -, hrun⟩⟩ := h.projects_and_stacks.1.of_reaches hreaches
  · obtain ⟨rfl, hnone | ⟨name, found, hname, hblank, hfound, hequal⟩⟩ := run_mergeProject hskip
    · exact .inr ⟨hskip, .inl hnone⟩
    · exact .inr ⟨hskip, .inr ⟨found, name, hname, ne_empty_of_not_isEmpty hblank, hfound, hequal⟩⟩
  · refine .inl ⟨delta, w, hrun, ?_⟩
    rintro found ⟨name, hname, -, hfound, hequal⟩
    obtain ⟨name', hname', -, -, -, hnone, -⟩ := run_mergeProject hrun
    rw [hname] at hname'
    cases hname'
    rw [hnone found hfound] at hequal
    cases hequal

/-- **One id.** The id of a project is mapped to a project that stands for it exactly when it is
carried. -/
theorem represents_resolve_iff (h : Applies services dedupId snapshot env deltas env') :
    (∃ projectId, resolveProjectId (projectIdMappings deltas.projects) (some snapshotId) = some projectId ∧
        Represents services dedupId snapshot env snapshotId projectId) ↔
      Carried services dedupId snapshot env snapshotId := by
  constructor
  · rintro ⟨projectId, hresolve, row, u, hreaches, hrepresents⟩
    rcases hreaches.step h with ⟨delta, w, hrun, hnone⟩ | ⟨hskip, hcase⟩
    · obtain ⟨name, hname, hblank, -⟩ := run_mergeProject hrun
      refine ⟨row, u, ?_, hreaches, fun found hfound => absurd hfound (hnone found)⟩
      rw [show row.name = some name from hname, Option.getD_some]
      exact ne_empty_of_not_isEmpty hblank
    · -- the id stayed, so the equal project has it
      rw [hreaches.resolve_of_skipped h hskip] at hresolve
      cases hresolve
      rcases hrepresents with ⟨delta, w, hrun, -⟩ | ⟨found, hfound, hid⟩
      · rw [hskip] at hrun
        cases hrun
      · obtain ⟨name, hname, hne, hfind, hequal⟩ := hfound
        refine ⟨row, u, by rwa [hname, Option.getD_some], hreaches, ?_⟩
        rintro found' ⟨name', hname', -, hfind', -⟩
        rw [hname] at hname'
        cases hname'
        rw [hfind] at hfind'
        cases hfind'
        exact hid
  · rintro ⟨row, u, hname, hreaches, hcarried⟩
    rcases hreaches.step h with ⟨delta, w, hrun, -⟩ | ⟨hskip, hnone | ⟨found, hfound⟩⟩
    · exact ⟨_, hreaches.resolve_of_merged h hrun, row, u, hreaches, .inl ⟨delta, w, hrun, rfl⟩⟩
    · exact absurd hnone hname
    · exact ⟨snapshotId, hreaches.resolve_of_skipped h hskip, row, u, hreaches,
        .inr ⟨found, hfound, hcarried found hfound⟩⟩

/-- A project that stands for one of the snapshot is a project of the environment in the end. -/
theorem Represents.has (h : Applies services dedupId snapshot env deltas env')
    (hrepresents : Represents services dedupId snapshot env snapshotId projectId) : env'.projects.Has projectId := by
  obtain ⟨hprojects, env₄, -, -, -, hafter, -⟩ := h.projects_and_stacks
  obtain ⟨row, u, hreaches, hcase⟩ := hrepresents
  obtain ⟨w, later, rest, hlater, hstep⟩ := hprojects.of_reaches hreaches
  have hkept : ∀ key, w.projects.Has key → env'.projects.Has key := by
    intro key hkey
    rw [hafter]
    exact ((growsProjects hlater).has key).mpr (.inl hkey)
  rcases hcase with ⟨delta, w', hrun, rfl⟩ | ⟨found, ⟨name, hname, hne, hfound, hequal⟩, rfl⟩
  · obtain ⟨name, -, -, -, hid, -, hadds⟩ := run_mergeProject hrun
    obtain rfl : w = w' := by
      rcases hstep with hskip | ⟨delta', -, hrun'⟩
      · rw [hrun] at hskip
        cases hskip
      · rw [hrun] at hrun'
        cases hrun'
        rfl
    rw [hid]
    exact hkept _ ((hadds.grows.has _).mpr (.inr (List.mem_singleton.mpr rfl)))
  · have hu : u.projects.Has found.1 := Table.Has.of_getItem (name_of_findProject hfound).1
    rcases hstep with hskip | ⟨delta, -, hrun⟩
    · obtain ⟨rfl, -⟩ := run_mergeProject hskip
      exact hkept _ hu
    · obtain ⟨name', -, -, -, -, -, hadds⟩ := run_mergeProject hrun
      exact hkept _ ((hadds.grows.has _).mpr (.inl hu))

end

/-! ## The stacks that are created -/

/-- The projects of a stack are the ones that stand for the projects of its record. -/
def ProjectsFollow (services : Services) (dedupId : String) (snapshot : Snapshot) (env : Environment)
    (projects created : List (Option String)) : Prop :=
  List.Forall₂ (fun before after => ∃ snapshotId projectId, before = some snapshotId ∧
    after = some projectId ∧ Represents services dedupId snapshot env snapshotId projectId) projects created

/-- The ids of a record, mapped, are the projects that stand for theirs exactly when each is carried. -/
theorem projectsFollow_iff (h : Applies services dedupId snapshot env deltas env') (projects : List (Option String)) :
    ProjectsFollow services dedupId snapshot env projects
        (projects.map (resolveProjectId (projectIdMappings deltas.projects))) ↔
      ∀ projectId ∈ projects, ∃ snapshotId, projectId = some snapshotId ∧
        Carried services dedupId snapshot env snapshotId := by
  unfold ProjectsFollow
  induction projects with
  | nil => simp
  | cons first rest ih =>
    rw [List.map_cons, List.forall₂_cons, List.forall_mem_cons, ih]
    refine and_congr_left fun _ => ?_
    constructor
    · rintro ⟨snapshotId, projectId, rfl, hresolve, hrepresents⟩
      exact ⟨snapshotId, rfl, (represents_resolve_iff h).mp ⟨projectId, hresolve, hrepresents⟩⟩
    · rintro ⟨snapshotId, rfl, hcarried⟩
      obtain ⟨projectId, hresolve, hrepresents⟩ := (represents_resolve_iff h).mpr hcarried
      exact ⟨snapshotId, projectId, rfl, hresolve, hrepresents⟩

/-- The stack of a record: its projects are those of the record, mapped. -/
theorem CreatesStack.row (h : Applies services dedupId snapshot env deltas env')
    {record : SoftwareStackDict} {key : SessionPermissions.BaseOS × String}
    (hcreates : CreatesStack services dedupId snapshot env (projectIdMappings deltas.projects) record key) :
    ∃ row, env'.softwareStacks.getItem key = some row ∧
      row.projects = record.projects.map (resolveProjectId (projectIdMappings deltas.projects)) := by
  obtain ⟨-, env₄, hstacks, -, -, -, hafter⟩ := h.projects_and_stacks
  obtain ⟨u, delta, w, hreaches, hrun, hhas, hnew⟩ := hcreates
  obtain ⟨w', later, rest, hlater, hstep⟩ := hstacks.of_reaches hreaches
  obtain rfl : w = w' := by
    rcases hstep with hskip | ⟨delta', -, hrun'⟩
    · rw [hrun] at hskip
      cases hskip
    · rw [hrun] at hrun'
      cases hrun'
      rfl
  obtain ⟨name, listed, baseOs, -, -, -, -, -, hadds⟩ := run_mergeSoftwareStack hrun
  obtain ⟨row, hrow, -, hprojects⟩ := hadds.item
  obtain rfl : key = (baseOs, nextStackId services.ids u.softwareStacks) :=
    List.mem_singleton.mp (hadds.grows.mem_of_has hhas hnew)
  obtain ⟨keys, -, hgrows⟩ := growsStacks hlater
  refine ⟨row, ?_, hprojects⟩
  rw [hafter]
  exact hgrows.kept _ row hrow

/-- A stack that the environment did not have was created for a record. -/
theorem exists_createsStack (h : Applies services dedupId snapshot env deltas env')
    {key : SessionPermissions.BaseOS × String} (hhas : env'.softwareStacks.Has key)
    (hnew : ¬ env.softwareStacks.Has key) : ∃ record ∈ snapshot.softwareStacks.scan.map Prod.snd,
      CreatesStack services dedupId snapshot env (projectIdMappings deltas.projects) record key := by
  obtain ⟨-, env₄, hstacks, -, hbefore, -, hafter⟩ := h.projects_and_stacks
  rw [hafter] at hhas
  rw [← hbefore] at hnew
  obtain ⟨record, u, w, hreaches, hu, hw, hskip | ⟨delta, hrun⟩⟩ :=
    hstacks.exists_step (I := fun u => ¬ u.softwareStacks.Has key) hnew (not_not_intro hhas)
  · -- a record that is skipped adds no stack
    obtain ⟨rfl, -⟩ := run_mergeSoftwareStack hskip
    exact absurd hu hw
  · exact ⟨record, hreaches.mem, u, delta, w, hreaches, hrun, not_not.mp hw, hu⟩

/-- **The projects of the stacks.** In an apply that completes, each new stack was created for a record,
and its projects are the projects of the environment that stand for those of the record exactly when each
of these is carried: it has a name, and no equal project was there under another id. -/
theorem projects_of_created_stacks (h : Applies services dedupId snapshot env deltas env') :
    (∀ key, env'.softwareStacks.Has key → ¬ env.softwareStacks.Has key →
      ∃ record ∈ snapshot.softwareStacks.scan.map Prod.snd,
        CreatesStack services dedupId snapshot env (projectIdMappings deltas.projects) record key) ∧ ∀ record key,
      CreatesStack services dedupId snapshot env (projectIdMappings deltas.projects) record key →
      ∃ row, env'.softwareStacks.getItem key = some row ∧
        ((ProjectsFollow services dedupId snapshot env record.projects row.projects ∧
            ∀ projectId ∈ row.projects, ∃ k, projectId = some k ∧ env'.projects.Has k) ↔
          ∀ projectId ∈ record.projects, ∃ snapshotId, projectId = some snapshotId ∧
            Carried services dedupId snapshot env snapshotId) := by
  refine ⟨fun key hhas hnew => exists_createsStack h hhas hnew, fun record key hcreates => ?_⟩
  obtain ⟨row, hrow, hprojects⟩ := hcreates.row h
  refine ⟨row, hrow, ?_⟩
  rw [hprojects, ← projectsFollow_iff h]
  refine ⟨And.left, fun hfollow => ⟨hfollow, fun projectId hmem => ?_⟩⟩
  -- a project that stands for another is one of the environment
  obtain ⟨i, hi, rfl⟩ := List.getElem_of_mem hmem
  obtain ⟨snapshotId, k, -, hk, hrepresents⟩ := hfollow.get (i := i) (by simpa using hi) hi
  exact ⟨k, hk, hrepresents.has h⟩

/-! ## A project that is there under another id -/

/-- The project `genomics` under an id. -/
def genomics (projectId : String) : Table String ProjectRow :=
  (∅ : Table String ProjectRow).putItem projectId
    { name := some "genomics", title := some "Genomics", enabled := some true }

/-- The project is there under the id `p-new`. -/
def hasGenomics : Environment := { Environment.empty with projects := genomics "p-new" }

/-- The snapshot has the project under the id `p-old`, and a stack of it. -/
def genomicsSnapshot : Snapshot :=
  { Snapshot.empty with
    projects := genomics "p-old"
    softwareStacks := (∅ : Stacks).putItem (.amazonLinux2, "s1") (linuxStack "ami-1" [some "p-old"]) }

/-- What the apply of the snapshot leaves. -/
def genomicsApplied : ApplyState := applied answeringServices "d" genomicsSnapshot hasGenomics

theorem applies_genomics : Applies answeringServices "d" genomicsSnapshot hasGenomics genomicsApplied.deltas
      genomicsApplied.environment :=
  applies_applied (by decide +kernel)

/-- The stack that is created. -/
def genomicsStack : SoftwareStackDict :=
  { linuxStack "ami-1" [some "p-old"] with stackId := some "u" }

theorem projects_of_created_stacks_genomics : ∃ record ∈ genomicsSnapshot.softwareStacks.scan.map Prod.snd,
      CreatesStack answeringServices "d" genomicsSnapshot hasGenomics
        (projectIdMappings genomicsApplied.deltas.projects) record (.amazonLinux2, "u") :=
  (projects_of_created_stacks applies_genomics).1 (.amazonLinux2, "u") (by decide +kernel) (by decide +kernel)

/-- **A stale id.** The stack that is created lists the id that the project has in the snapshot, and the
environment has no project with that id. -/
theorem stale_project_of_created_stack :
    Applies answeringServices "d" genomicsSnapshot hasGenomics genomicsApplied.deltas genomicsApplied.environment ∧
      (∃ record, CreatesStack answeringServices "d" genomicsSnapshot hasGenomics
        (projectIdMappings genomicsApplied.deltas.projects) record (.amazonLinux2, "u")) ∧
      genomicsApplied.environment.softwareStacks.getItem (.amazonLinux2, "u") = some genomicsStack ∧
      some "p-old" ∈ genomicsStack.projects ∧ ¬ genomicsApplied.environment.projects.Has "p-old" := by
  have hhas : genomicsApplied.environment.softwareStacks.Has (.amazonLinux2, "u") := by decide +kernel
  refine ⟨applies_genomics, ?_, by decide +kernel, by decide, by decide +kernel⟩
  obtain ⟨record, -, hcreates⟩ := exists_createsStack applies_genomics hhas (by decide +kernel)
  exact ⟨record, hcreates⟩

end ContainRes.Snapshots
