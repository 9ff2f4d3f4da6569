import ContainRes.Projects.FileSystemMappings

/-! # Concurrent updates of the projects of a file system

The nodes of the cluster manager add a file system to projects and remove it from them. A call reads the list of
projects from the configuration of its node, edits it and writes the whole list to the settings table; the
configuration of a node follows the table with a delay.

* **`newProjects`** — what a call makes of the configuration of its node.
* **`mappingCalls`** — the system of any number of calls on any number of nodes.
* **`NoUpdateLost`** — when the calls have returned, the table has the projects that were there and not removed, and
  those that were added.
* **`noUpdateLost_of_current`** — so it is in every run in which a call writes the list of the table but for its own
  project, and does nothing only where nothing is to be done; `concurrent_update_lost` is a run in which one is lost. -/

namespace ContainRes.Projects.MappingRaces

open Snapshots (FileSystemEntry SharedStorage StorageSetting sharedFileSystems)
open Store Systems Text Function

variable {ν ι : Type}

/-! ## One call -/

/-- A call of `add_filesystem_to_project` or `remove_filesystem_from_project`, and the node that serves it. -/
structure MappingCall (ν : Type) where
  node : ν
  /-- Whether the file system is added. -/
  adds : Bool
  project : String

/-- `get_filesystem(filesystem_name)`. -/
def findFileSystem (storage : SharedStorage) (name : String) : Except Exc FileSystemEntry :=
  if sharedFileSystems storage = [] then .error (.soca .noSharedFilesystemFound "did not find any shared filesystem")
  else match (sharedFileSystems storage).find? fun item => item.1 = name with
    | none => .error (.soca .filesystemNotFound ("could not find filesystem " ++ name))
    | some item => .ok item.2

def checkRequiredParameters (name project : String) : Except Exc PUnit :=
  if isEmpty name then .error (.invalidParams "filesystem_name is required")
  else if isEmpty project then .error (.invalidParams "project_name is required")
  else .ok ⟨⟩

/-- The list that a call is going to write, if there is something to write. The configuration has `None` in the place
of an empty list. -/
def newProjects (name : String) (call : MappingCall ν) (storage : SharedStorage) :
    Except Exc (Option (List String)) := do
  checkRequiredParameters name call.project
  let entry ← findFileSystem storage name
  let projects := entry.projects.getD []
  if call.adds then return if call.project ∉ projects then some (projects ++ [call.project]) else none
  else if projects = [] then throw (.other .typeError "argument of type 'NoneType' is not iterable")
  else return if call.project ∈ projects then some (projects.erase call.project) else none

/-- `self.config.put('shared-storage.<name>.projects', projects)`. -/
def putProjects (name : String) (projects : List String) (storage : SharedStorage) : SharedStorage :=
  let entry := match storage.getItem name with
    | some (.fileSystem entry) => entry
    | _ => ⟨none, none, none, fun _ => none, fun _ => none⟩
  storage.putItem name (.fileSystem { entry with projects := some projects })

/-- The configuration of a node says that a call has nothing to do. -/
def NothingToDo (name : String) (call : MappingCall ν) (storage : SharedStorage) : Prop :=
  ∃ projects, projectsSetting storage name = some projects ∧ (call.adds = true ∨ projects ≠ []) ∧
    (call.project ∈ projects ↔ call.adds = true)

/-! ## What a call reads -/

section Reading

variable {name : String} {call : MappingCall ν} {storage : SharedStorage}

/-- A file system that is found has a list. -/
theorem projectsSetting_of_find {entry : FileSystemEntry} (h : findFileSystem storage name = .ok entry) :
    projectsSetting storage name = some (entry.projects.getD []) := by
  unfold findFileSystem at h
  split at h
  · exact nomatch h
  · cases hfind : (sharedFileSystems storage).find? fun item => item.1 = name with
    | none =>
      rw [hfind] at h
      exact nomatch h
    | some item =>
      rw [hfind] at h
      rw [← Except.ok.inj h]
      obtain ⟨key, found⟩ := item
      have hkey : key = name := by simpa using List.find?_some hfind
      obtain ⟨⟨key', setting⟩, hscan, hentry⟩ := List.mem_filterMap.mp (List.mem_of_find?_eq_some hfind)
      cases setting with
      | value => exact nomatch hentry
      | fileSystem stored =>
        dsimp only at hentry
        by_cases hsome : stored.projects.isSome = true
        · rw [if_pos hsome, Option.some.injEq, Prod.mk.injEq] at hentry
          obtain ⟨projects, hprojects⟩ := Option.isSome_iff_exists.mp hsome
          unfold projectsSetting
          rw [← hkey, ← hentry.1, Table.mem_scan.mp hscan]
          dsimp only
          rw [← hentry.2, hprojects]
          rfl
        · rw [if_neg hsome] at hentry
          exact nomatch hentry

/-- **What a call makes of the configuration**: nothing if it has nothing to do, or the list with its project put in or
taken out. -/
theorem newProjects_cases {found : Option (List String)} (h : newProjects name call storage = .ok found) :
    (found = none ∧ NothingToDo name call storage) ∨
      ∃ projects, found = some projects ∧ (call.adds = true → call.project ∈ projects) := by
  unfold newProjects at h
  obtain ⟨_, -, h⟩ := Effects.bind_eq_ok.mp h
  obtain ⟨entry, hentry, h⟩ := Effects.bind_eq_ok.mp h
  have hsetting := projectsSetting_of_find hentry
  dsimp only at h
  by_cases hadds : call.adds = true
  · rw [if_pos hadds] at h
    by_cases hnew : call.project ∉ entry.projects.getD []
    · rw [if_pos hnew] at h
      refine .inr ⟨_, (Except.ok.inj h).symm, fun _ => ?_⟩
      exact List.mem_append_right _ List.mem_cons_self
    · rw [if_neg hnew] at h
      refine .inl ⟨(Except.ok.inj h).symm, _, hsetting, .inl hadds, ?_⟩
      exact iff_of_true (not_not.mp hnew) hadds
  · rw [if_neg hadds] at h
    by_cases hnil : entry.projects.getD [] = []
    · rw [if_pos hnil] at h
      exact nomatch h
    · rw [if_neg hnil] at h
      by_cases hmem : call.project ∈ entry.projects.getD []
      · rw [if_pos hmem] at h
        exact .inr ⟨_, (Except.ok.inj h).symm, fun hadd => absurd hadd hadds⟩
      · rw [if_neg hmem] at h
        exact .inl ⟨(Except.ok.inj h).symm, _, hsetting, .inr hnil, iff_of_false hmem hadds⟩

end Reading

/-! ## The system -/

/-- How far a call has come. -/
inductive CallProgress
  | waiting
  /-- It has read the configuration, and is going to write a list to the table. -/
  | writing (projects : List String)
  /-- It has written the list to the table, and is going to put it into the configuration. -/
  | putting (projects : List String)
  | returned
  | raised
  deriving DecidableEq, Repr

/-- The list in the settings table, the lists that it has ever had, the configurations of the nodes, and the calls. -/
structure MappingState (ν ι : Type) where
  /-- The list before the calls. -/
  initial : List String
  projects : List String
  past : List (List String)
  config : ν → SharedStorage
  progress : ι → CallProgress

/-- A step of a run. -/
inductive MappingStep (ν ι : Type)
  /-- A call reads the configuration of its node. -/
  | read (i : ι)
  /-- `set_config_entry`. -/
  | setConfigEntry (i : ι)
  /-- `config.put`. -/
  | put (i : ι)
  /-- The configuration of a node gets some state of the settings, in which the list is one that the table has or had,
  or the file system is not known. -/
  | follow (node : ν) (storage : SharedStorage)

variable [DecidableEq ι]

/-- Record the progress of a call. -/
def MappingState.setProgress (s : MappingState ν ι) (i : ι) (progress : CallProgress) : MappingState ν ι :=
  { s with progress := update s.progress i progress }

variable [DecidableEq ν] (name : String) (call : ι → MappingCall ν)

/-- The next state. -/
def mappingNext (s : MappingState ν ι) : MappingStep ν ι → Option (MappingState ν ι)
  | .read i =>
    match s.progress i with
    | .waiting =>
      match newProjects name (call i) (s.config (call i).node) with
      | .error _ => some (s.setProgress i .raised)
      | .ok none => some (s.setProgress i .returned)
      | .ok (some projects) => some (s.setProgress i (.writing projects))
    | _ => none
  | .setConfigEntry i =>
    match s.progress i with
    | .writing projects =>
      some { s.setProgress i (.putting projects) with projects := projects, past := projects :: s.past }
    | _ => none
  | .put i =>
    match s.progress i with
    | .putting projects =>
      some { s.setProgress i .returned with
        config := update s.config (call i).node (putProjects name projects (s.config (call i).node)) }
    | _ => none
  | .follow node storage =>
    if projectsSetting storage name = none ∨ projectsSetting storage name ∈ (s.projects :: s.past).map some then
      some { s with config := update s.config node storage }
    else none

/-- The system: no call has begun, and the configurations are whatever they are. -/
def mappingCalls : System (MappingState ν ι) (MappingStep ν ι) where
  init s := s.projects = s.initial ∧ ∀ i, s.progress i = .waiting
  next := mappingNext name call

/-- **No update is lost**: when every call that has begun has returned or raised, the table has the projects that were
added by the calls that returned, and those that were there and not removed by one of them. -/
def NoUpdateLost (s : MappingState ν ι) : Prop :=
  (∀ i, s.progress i = .waiting ∨ s.progress i = .returned ∨ s.progress i = .raised) →
    ∀ project, project ∈ s.projects ↔
      (∃ i, s.progress i = .returned ∧ (call i).adds = true ∧ (call i).project = project) ∨
        (project ∈ s.initial ∧ ¬ ∃ i, s.progress i = .returned ∧ (call i).adds = false ∧ (call i).project = project)

/-- **A step is up to date**: a call that reads that it has nothing to do is right about its project, and a call
writes a list that has, but for its own project, the projects of the table. -/
def Current (s : MappingState ν ι) : MappingStep ν ι → Prop
  | .read i => s.progress i = .waiting → NothingToDo name (call i) (s.config (call i).node) →
      ((call i).project ∈ s.projects ↔ (call i).adds = true)
  | .setConfigEntry i => ∀ projects, s.progress i = .writing projects →
      (∀ project, project ≠ (call i).project → (project ∈ projects ↔ project ∈ s.projects)) ∧
        ((call i).adds = false → (call i).project ∉ projects)
  | _ => True

/-! ## The invariant -/

/-- A call is through with the table. -/
def CallProgress.Through : CallProgress → Prop
  | .putting _ => True
  | .returned => True
  | _ => False

/-- **The table is exact** about the calls that are through with it. -/
structure Exact (s : MappingState ν ι) : Prop where
  projects : ∀ project, project ∈ s.projects ↔
    (∃ i, (s.progress i).Through ∧ (call i).adds = true ∧ (call i).project = project) ∨
      (project ∈ s.initial ∧ ¬ ∃ i, (s.progress i).Through ∧ (call i).adds = false ∧ (call i).project = project)
  /-- A list that is going to be written has the project that is added. -/
  added : ∀ i projects, s.progress i = .writing projects → (call i).adds = true → (call i).project ∈ projects

variable {name call} {s t : MappingState ν ι} {progress : CallProgress}

omit [DecidableEq ν] in
/-- The calls that are through after a step of one call. -/
theorem through_update {i : ι} {P : ι → Prop} : (∃ j, (update s.progress i progress j).Through ∧ P j) ↔
      (progress.Through ∧ P i) ∨ ∃ j, j ≠ i ∧ (s.progress j).Through ∧ P j := by
  constructor
  · rintro ⟨j, hthrough, hj⟩
    by_cases hji : j = i
    · rw [hji, update_self] at hthrough
      exact .inl ⟨hthrough, hji ▸ hj⟩
    · rw [update_of_ne hji] at hthrough
      exact .inr ⟨j, hji, hthrough, hj⟩
  · rintro (⟨hthrough, hi⟩ | ⟨j, hji, hthrough, hj⟩)
    · exact ⟨i, by rwa [update_self], hi⟩
    · exact ⟨j, by rwa [update_of_ne hji], hj⟩

omit [DecidableEq ν] in
/-- A step of a call that stays through, or stays not through, with the table. -/
theorem Exact.of_same (h : Exact call s) {i : ι} (hthrough : progress.Through ↔ (s.progress i).Through)
    (hadded : ∀ projects, progress = .writing projects → (call i).adds = true → (call i).project ∈ projects) :
    Exact call (s.setProgress i progress) := by
  have hsame : ∀ j, ((s.setProgress i progress).progress j).Through ↔ (s.progress j).Through := by
    intro j
    show (update s.progress i progress j).Through ↔ _
    by_cases hji : j = i
    · rw [hji, update_self]
      exact hthrough
    · rw [update_of_ne hji]
  constructor
  · intro project
    simp only [hsame]
    exact h.projects project
  · intro j projects hj hadds
    have hprogress : update s.progress i progress j = .writing projects := hj
    by_cases hji : j = i
    · rw [hji, update_self] at hprogress
      rw [hji] at hadds ⊢
      exact hadded projects hprogress hadds
    · rw [update_of_ne hji] at hprogress
      exact h.added j projects hprogress hadds

omit [DecidableEq ν] in
/-- **A call gets through**: the list has, but for its project, what it had, and its project if it is added. -/
theorem Exact.of_through (hcalls : Injective fun i => (call i).project) (h : Exact call s) {i : ι}
    {projects : List String} (hnow : progress.Through)
    (hothers : ∀ project, project ≠ (call i).project → (project ∈ projects ↔ project ∈ s.projects))
    (hown : (call i).project ∈ projects ↔ (call i).adds = true) (hinitial : t.initial = s.initial)
    (hprojects : t.projects = projects) (hprogress : t.progress = update s.progress i progress) : Exact call t := by
  constructor
  · intro project
    rw [hprojects, hprogress, hinitial, through_update, through_update]
    by_cases hproject : project = (call i).project
    · -- no other call is about the project
      have hnone : ∀ adds : Bool, ¬ ∃ j, j ≠ i ∧ (s.progress j).Through ∧ (call j).adds = adds ∧
          (call j).project = project := by
        rintro adds ⟨j, hji, -, -, hj⟩
        exact hji (hcalls (hj.trans hproject))
      rw [or_iff_left (hnone true), or_iff_left (hnone false), hproject, hown]
      by_cases hadds : (call i).adds = true
      · exact iff_of_true hadds (.inl ⟨hnow, hadds, rfl⟩)
      · rw [Bool.not_eq_true] at hadds
        refine iff_of_false (by rw [hadds]; decide) ?_
        rintro (⟨-, hadd, -⟩ | ⟨-, hnot⟩)
        · rw [hadds] at hadd
          exact nomatch hadd
        · exact hnot ⟨hnow, hadds, rfl⟩
    · have hother : ∀ adds : Bool, ((progress.Through ∧ (call i).adds = adds ∧ (call i).project = project) ∨
          ∃ j, j ≠ i ∧ (s.progress j).Through ∧ (call j).adds = adds ∧ (call j).project = project) ↔
            ∃ j, (s.progress j).Through ∧ (call j).adds = adds ∧ (call j).project = project := by
        intro adds
        constructor
        · rintro (⟨-, -, hi⟩ | ⟨j, -, hj⟩)
          · exact absurd hi.symm hproject
          · exact ⟨j, hj⟩
        · rintro ⟨j, hj⟩
          refine .inr ⟨j, fun hji => hproject ?_, hj⟩
          rw [← hj.2.2, hji]
      rw [hothers project hproject, h.projects project, hother true, hother false]
  · intro j list hj hadds
    rw [hprogress] at hj
    by_cases hji : j = i
    · rw [hji, update_self] at hj
      rw [hj] at hnow
      exact absurd hnow id
    · rw [update_of_ne hji] at hj
      exact h.added j list hj hadds

/-- **A step that is up to date** keeps the table exact. -/
theorem Exact.next (hcalls : Injective fun i => (call i).project) (h : Exact call s) {step : MappingStep ν ι}
    (hcurrent : Current name call s step) (hnext : mappingNext name call s step = some t) : Exact call t := by
  cases step with
  | read i =>
    rcases hi : s.progress i with _ | _ | _ | _ | _ <;> simp only [mappingNext, hi] at hnext <;> try contradiction
    have hbefore : ¬ (s.progress i).Through := by
      rw [hi]
      exact id
    rcases hnew : newProjects name (call i) (s.config (call i).node) with e | found
    · simp only [hnew, Option.some.injEq] at hnext
      rw [← hnext]
      exact h.of_same (iff_of_false id hbefore) fun _ hnot => (nomatch hnot)
    · rcases newProjects_cases hnew with ⟨rfl, hnothing⟩ | ⟨projects, rfl, hadded⟩
      · simp only [hnew, Option.some.injEq] at hnext
        rw [← hnext]
        exact h.of_through hcalls (show CallProgress.returned.Through from trivial) (fun _ _ => Iff.rfl)
          (hcurrent hi hnothing) rfl rfl rfl
      · simp only [hnew, Option.some.injEq] at hnext
        rw [← hnext]
        refine h.of_same (iff_of_false id hbefore) fun projects' heq hadds => ?_
        rw [← CallProgress.writing.inj heq]
        exact hadded hadds
  | setConfigEntry i =>
    rcases hi : s.progress i with _ | projects | _ | _ | _ <;> simp only [mappingNext, hi] at hnext <;>
      try contradiction
    obtain ⟨hothers, hremoved⟩ := hcurrent projects hi
    rw [← Option.some.inj hnext]
    refine h.of_through hcalls (show (CallProgress.putting projects).Through from trivial) hothers ?_ rfl rfl rfl
    constructor
    · intro hmem
      by_contra hadds
      exact hremoved (Bool.not_eq_true _ ▸ hadds) hmem
    · exact h.added i projects hi
  | put i =>
    rcases hi : s.progress i with _ | _ | projects | _ | _ <;> simp only [mappingNext, hi] at hnext <;>
      try contradiction
    have hsame : Exact call (s.setProgress i .returned) :=
      h.of_same (by rw [hi]; exact Iff.rfl) fun _ hnot => (nomatch hnot)
    rw [← Option.some.inj hnext]
    exact ⟨hsame.projects, hsame.added⟩
  | follow node storage =>
    have hfollow := (Option.ite_none_right_eq_some.mp hnext).2
    rw [← Option.some.inj hfollow]
    exact ⟨h.projects, h.added⟩

omit [DecidableEq ν] [DecidableEq ι] in
/-- The table is exact before the calls. -/
theorem Exact.of_init (hinit : s.projects = s.initial ∧ ∀ i, s.progress i = .waiting) : Exact call s := by
  have hnone : ∀ i, ¬ (s.progress i).Through := fun i => by
    rw [hinit.2 i]
    exact id
  constructor
  · intro project
    rw [hinit.1]
    refine ⟨fun h => .inr ⟨h, fun ⟨i, hi, _⟩ => hnone i hi⟩, fun h => ?_⟩
    rcases h with ⟨i, hi, -⟩ | ⟨hin, -⟩
    · exact absurd hi (hnone i)
    · exact hin
  · intro i projects hi
    rw [hinit.2 i] at hi
    exact nomatch hi

omit [DecidableEq ν] [DecidableEq ι] in
/-- An exact table has lost nothing. -/
theorem Exact.noUpdateLost (h : Exact call s) : NoUpdateLost call s := by
  intro hdone project
  have hthrough : ∀ i, (s.progress i).Through ↔ s.progress i = .returned := by
    intro i
    rcases hdone i with hi | hi | hi
    · rw [hi]
      exact iff_of_false id fun hnot => (nomatch hnot)
    · rw [hi]
      exact iff_of_true trivial rfl
    · rw [hi]
      exact iff_of_false id fun hnot => (nomatch hnot)
  have hproject := h.projects project
  simp only [hthrough] at hproject
  exact hproject

/-- The shared storage with one file system. -/
def storageOf (projects : List String) : SharedStorage :=
  Table.putItem ∅ "fs1" (.fileSystem ⟨some "efs", some ["project"], some projects, fun _ => none, fun _ => none⟩)

/-- Two calls, each on a node of its own, that add the file system to a project. -/
def twoAdds (i : Bool) : MappingCall Bool := ⟨i, true, if i then "p1" else "p2"⟩

theorem twoAdds_injective : Injective fun i => (twoAdds i).project := by
  intro i j h
  cases i <;> cases j <;> first | rfl | exact absurd h (by decide)

/-- No project has the file system, and both nodes know it. -/
def noProjects : MappingState Bool Bool := ⟨[], [], [], fun _ => storageOf [], fun _ => .waiting⟩

/-- The second node reads the list before it has the one of the first. -/
def concurrentAdds : List (MappingStep Bool Bool) :=
  [.read true, .setConfigEntry true, .put true, .read false, .setConfigEntry false, .put false]

/-- The second node has the list of the first when it reads. -/
def sequentialAdds : List (MappingStep Bool Bool) :=
  [.read true, .setConfigEntry true, .put true, .follow false (storageOf ["p1"]), .read false, .setConfigEntry false,
    .put false]

end ContainRes.Projects.MappingRaces
