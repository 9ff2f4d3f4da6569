import ContainRes.Projects.Updates

/-! # The deltas of a project update

`update_project` stores a list of the request when it is not `None`, and computes what it adds and removes
when it is not empty. An empty list is stored, and its delta is left out.

* **`SendsDeltas`** — the task that is sent carries the differences of the stored lists.
* **`isDifference_requested_iff`** — one of the two lists.
* **`update_deltas_iff`** — the deltas match unless an empty list replaces one that is not empty. -/

namespace ContainRes.Projects

open Accounts Effects Store Tasks Text

variable {ctx : ProjectsContext} {db db' : Db} {project : Project} {p : String} {row : ProjectRow}

/-- The messages of a difference: one that carries it, and none when it is empty. -/
def deltaMessages (p : String) (groups users : List String × List String) : List TaskMessage :=
  if groups.1 ≠ [] ∨ groups.2 ≠ [] ∨ users.1 ≠ [] ∨ users.2 ≠ [] then
    [⟨.projectGroupsUpdated p groups.1 groups.2 users.1 users.2, some p, none⟩]
  else []

/-- The messages of a difference say what it is. -/
theorem deltaMessages_injective {groups groups' users users' : List String × List String}
    (h : deltaMessages p groups users = deltaMessages p groups' users') : groups = groups' ∧ users = users' := by
  obtain ⟨groupsAdded, groupsRemoved⟩ := groups
  obtain ⟨groupsAdded', groupsRemoved'⟩ := groups'
  obtain ⟨usersAdded, usersRemoved⟩ := users
  obtain ⟨usersAdded', usersRemoved'⟩ := users'
  unfold deltaMessages at h
  split at h <;> split at h
  · simpa [and_assoc] using h
  · cases h
  · cases h
  · simp_all

/-- The messages sent between two databases are those of the difference of the stored lists of the project
`p`: a task carries exactly what is in the lists of the one and not in those of the other, and one is sent
unless that is nothing. -/
def SendsDeltas (db db' : Db) (p : String) : Prop :=
  ∃ groups users : List String × List String,
    IsDifference (groupsOf db.projects p) (groupsOf db'.projects p) groups.1 groups.2 ∧
    IsDifference (usersOf db.projects p) (usersOf db'.projects p) users.1 users.2 ∧
    db'.sent = db.sent ++ deltaMessages p groups users

variable (ctx) in
/-- The list that is stored for a request. -/
theorem isDifference_requested_iff {requested existing : Option (List String)} :
    IsDifference (existing.getD []) ((requested.or existing).getD [])
        (requestedDifference ctx requested existing).1 (requestedDifference ctx requested existing).2 ↔
      (requested = some [] → existing.getD [] = []) := by
  unfold IsDifference requestedDifference
  cases requested with
  | none => simp
  | some names =>
    cases names with
    | nil =>
      -- nothing is sent, and the empty list is stored
      have hempty : (existing.getD [] = []) ↔ ∀ x, x ∉ existing.getD [] := List.eq_nil_iff_forall_not_mem
      simp [hempty]
    | cons name names =>
      have hne : (some (name :: names)).getD [] ≠ [] := List.cons_ne_nil name names
      rw [if_neg hne]
      simp

/-- What an update of a stored project leaves. -/
theorem eq_stored_of_updateProject (hid : project.projectId = some p) (hstrip : strip p = p)
    (hrow : db.projects.getItem p = some row) (hrun : (updateProject ctx project).run db = (.ok ⟨⟩, db')) :
    db' = stored db project p (requestedDifference ctx project.ldapGroups row.ldapGroups)
      (requestedDifference ctx project.users row.users) := by
  have hp : isEmpty p = false := by
    by_contra hblank
    have hfail : (updateProject ctx project).run db =
        (.error (.invalidParams "project.project_id is required"), db) := by
      unfold updateProject
      simp only [hid, Option.getD_some]
      exact Proc.run_bind_of_error (run_requireNotEmpty_of_isEmpty (Bool.not_eq_false _ ▸ hblank) _ db)
    rw [hfail] at hrun
    cases hrun
  exact (triple_updateProject hid hp hstrip hrow).of_ok rfl hrun

/-- **The deltas of an update.** An update of an enabled project sends the differences of its stored lists
exactly when it does not replace a list that is not empty by an empty one. -/
theorem update_deltas_iff (hid : project.projectId = some p) (hstrip : strip p = p)
    (hrow : db.projects.getItem p = some row) (henabled : row.enabled = some true)
    (hrun : (updateProject ctx project).run db = (.ok ⟨⟩, db')) :
    SendsDeltas db db' p ↔ (project.ldapGroups = some [] → groupsOf db.projects p = []) ∧
      (project.users = some [] → usersOf db.projects p = []) := by
  obtain rfl := eq_stored_of_updateProject hid hstrip hrow hrun
  have hgroups : groupsOf db.projects p = row.ldapGroups.getD [] := by simp [groupsOf, hrow]
  have husers : usersOf db.projects p = row.users.getD [] := by simp [usersOf, hrow]
  rw [hgroups, husers, ← isDifference_requested_iff ctx, ← isDifference_requested_iff ctx]
  -- what the call left
  set groups := requestedDifference ctx project.ldapGroups row.ldapGroups
  set users := requestedDifference ctx project.users row.users
  have hitem : (stored db project p groups users).projects.getItem p = some (updatedRow project row) := by
    rw [projects_stored, Table.getItem_updateItem, if_pos rfl, hrow]
    rfl
  have hgroups' : groupsOf (stored db project p groups users).projects p =
      (project.ldapGroups.or row.ldapGroups).getD [] := by
    unfold groupsOf
    rw [hitem]
    rfl
  have husers' : usersOf (stored db project p groups users).projects p =
      (project.users.or row.users).getD [] := by
    unfold usersOf
    rw [hitem]
    rfl
  have hsent : (stored db project p groups users).sent = db.sent ++ deltaMessages p groups users := by
    have hisEnabled : isEnabled db.projects p = true := by simp [isEnabled, hrow, henabled]
    unfold stored deltaMessages
    rw [hisEnabled]
    simp only [true_and]
    split
    · rfl
    · exact (List.append_nil _).symm
  constructor
  · rintro ⟨groups', users', hdifference, hdifference', hsent'⟩
    rw [hsent] at hsent'
    obtain ⟨hg, hu⟩ := deltaMessages_injective (List.append_cancel_left hsent')
    rw [hgroups, hgroups', ← hg] at hdifference
    rw [husers, husers', ← hu] at hdifference'
    exact ⟨hdifference, hdifference'⟩
  · rintro ⟨hdifference, hdifference'⟩
    refine ⟨groups, users, ?_, ?_, hsent⟩
    · rw [hgroups, hgroups']
      exact hdifference
    · rw [husers, husers']
      exact hdifference'

/-! ## The last group of a project -/

/-- The enabled project `p1` of the group `lab`. -/
def labsProject : Db :=
  { Db.empty with
    projects := (∅ : Table String ProjectRow).putItem "p1"
      ⟨"project", some ["lab"], some [], some true, none⟩ }

/-- A request that takes the group away. -/
def withoutGroups : Project := { projectId := some "p1", ldapGroups := some [] }

/-- What the request leaves. -/
def labsProjectUpdated : Db := ((updateProject acceptingProjects withoutGroups).run labsProject).2

theorem run_labsProject :
    (updateProject acceptingProjects withoutGroups).run labsProject = (.ok ⟨⟩, labsProjectUpdated) := rfl

theorem update_deltas_iff_labsProject : SendsDeltas labsProject labsProjectUpdated "p1" ↔
      (withoutGroups.ldapGroups = some [] → groupsOf labsProject.projects "p1" = []) ∧
        (withoutGroups.users = some [] → usersOf labsProject.projects "p1" = []) :=
  update_deltas_iff rfl (by decide) rfl rfl run_labsProject

/-- **A removal that is not sent.** The request is accepted, the stored group is gone, and no task says so. -/
theorem removed_group_not_sent :
    (updateProject acceptingProjects withoutGroups).run labsProject = (.ok ⟨⟩, labsProjectUpdated) ∧
      groupsOf labsProject.projects "p1" = ["lab"] ∧ groupsOf labsProjectUpdated.projects "p1" = [] ∧
      labsProjectUpdated.sent = [] ∧ ¬ SendsDeltas labsProject labsProjectUpdated "p1" := by
  refine ⟨run_labsProject, by decide, by decide, rfl, ?_⟩
  rintro ⟨groups, users, ⟨-, hremoved⟩, -, hsent⟩
  -- the difference holds the group, so there is a message
  have hlab : "lab" ∈ groups.2 := (hremoved "lab").mpr (by decide)
  have hne : groups.2 ≠ [] := List.ne_nil_of_mem hlab
  rw [deltaMessages, if_pos (.inr (.inl hne))] at hsent
  cases hsent

end ContainRes.Projects
