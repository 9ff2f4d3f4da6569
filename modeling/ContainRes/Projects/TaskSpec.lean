import ContainRes.Projects.Provenance
import ContainRes.Store.Replica

/-! # What the project tasks do to the provenance

Each method of `UserProjectsDAO` that a task calls puts groups or users into the lists behind the
provenance of one project, or takes them out. The whole task is a `Change` of both lists, followed by a
refresh with the stored lists if it removes a group.

* **`groupsOf`**, **`usersOf`**, **`isEnabled`** — what is stored about a project.
* **`ProjectTask.groupChange`**, **`ProjectTask.userChange`**, **`ProjectTask.Refreshes`**.
* **`triple_invoke`** — the effect of a task. -/

namespace ContainRes.Projects

open Accounts Effects Store Text Function

/-! ## The stored lists of a project -/

/-- `project['ldap_groups']`, where a missing attribute counts as an empty list. -/
def groupsOf (projects : Table String ProjectRow) (p : String) : List String :=
  ((projects.getItem p).bind ProjectRow.ldapGroups).getD []

/-- `project['users']`, where a missing attribute counts as an empty list. -/
def usersOf (projects : Table String ProjectRow) (p : String) : List String :=
  ((projects.getItem p).bind ProjectRow.users).getD []

/-- `project['enabled']`, where a missing attribute counts as disabled. -/
def isEnabled (projects : Table String ProjectRow) (p : String) : Bool :=
  ((projects.getItem p).bind ProjectRow.enabled).getD false

variable {projects : Table String ProjectRow} {V W : String → String → Prop} {db : Db}
  {g p : String}

/-- Lists that are changed at one project may be written otherwise. -/
theorem Provenance.congr_at {A A' B B' : String → Prop}
    (h : Provenance projects (update V p A) (update W p B) db) (hA : ∀ x, A x ↔ A' x) (hB : ∀ u, B u ↔ B' u) :
    Provenance projects (update V p A') (update W p B') db := by
  rwa [← show A = A' from funext fun x => propext (hA x), ← show B = B' from funext fun u => propext (hB u)]

/-! ## One group -/

theorem triple_ldapGroupAdded (hself : g ≠ "SELF") :
    Triple (Provenance projects V W) (UserProjectsDao.ldapGroupAdded p g)
      (fun _ => Provenance projects (update V p fun x => V p x ∨ x = g) W) (fun _ _ => True) := by
  refine triple_ldapGroupAdded_of fun s t hs hp hg ht =>
    hs.change ht (fun g' q => ?_) (fun q x hx => ?_) fun u q x => ?_
  · have hold : s.projectGroups.Has (g', q) ↔ V q g' := hs.mapped g' q
    rw [Table.has_putItem, hold]
    by_cases hq : q = p
    · subst hq
      simp [or_comm]
    · simp [hq]
  · by_cases hq : q = p
    · subst hq
      rw [update_self] at hx
      rcases hx with hx | rfl
      · exact hs.named q x hx
      · exact ⟨hself, hg, hp⟩
    · rw [update_of_ne hq] at hx
      exact hs.named q x hx
  · rw [hs.sources]
    by_cases hq : q = p
    · subst hq
      rw [update_self]
      constructor
      · rintro ((hself | ⟨hV, hm⟩) | ⟨⟨hm, -⟩, rfl⟩)
        · exact .inl hself
        · exact .inr ⟨.inl hV, hm⟩
        · exact .inr ⟨.inr rfl, hm⟩
      · rintro (hself | ⟨hV | rfl, hm⟩)
        · exact .inl (.inl hself)
        · exact .inl (.inr ⟨hV, hm⟩)
        · exact .inr ⟨⟨hm, rfl⟩, rfl⟩
    · simp [hq]

theorem triple_ldapGroupRemoved (hself : g ≠ "SELF") :
    Triple (Provenance projects V W) (UserProjectsDao.ldapGroupRemoved p g)
      (fun _ => Provenance projects (update V p fun x => V p x ∧ x ≠ g) W) (fun _ _ => True) := by
  refine triple_ldapGroupRemoved_of fun s t hs ht =>
    hs.change ht (fun g' q => ?_) (fun q x hx => hs.named q x ?_) fun u q x => ?_
  · have hold : s.projectGroups.Has (g', q) ↔ V q g' := hs.mapped g' q
    rw [Table.has_deleteItem, hold]
    by_cases hq : q = p
    · subst hq
      simp [and_comm]
    · simp [hq]
  · by_cases hq : q = p
    · subst hq
      rw [update_self] at hx
      exact hx.1
    · rwa [update_of_ne hq] at hx
  · rw [hs.sources]
    by_cases hq : q = p
    · subst hq
      rw [update_self]
      constructor
      · rintro ⟨hself | ⟨hV, hm⟩, hkept⟩
        · exact .inl hself
        · refine .inr ⟨⟨hV, ?_⟩, hm⟩
          rintro rfl
          exact hkept ⟨⟨hm, rfl⟩, rfl⟩
      · rintro (⟨rfl, hW⟩ | ⟨⟨hV, hne⟩, hm⟩)
        · exact ⟨.inl ⟨rfl, hW⟩, fun hgone => hself hgone.2.symm⟩
        · exact ⟨.inr ⟨hV, hm⟩, fun hgone => hne hgone.2⟩
    · simp [hq]

/-! ## The users of a project -/

/-- Granting access through `SELF` to users of a project. -/
theorem triple_addUsers (users : List String) : Triple (Provenance projects V W)
      (Proc.forEach (fun u => UserProjectsDao.createUserProject p u ["SELF"]) users)
      (fun _ => Provenance projects V (update W p fun u => W p u ∨ u ∈ users)) (fun _ _ => True) := by
  intro s hs
  refine ((triple_createUserProjects (fun _ => p) id (List.cons_ne_nil "SELF" []) users).conseq
    (fun _ h => h) (fun _ t ht => hs.change ht hs.mapped hs.named fun u q x => ?_) fun _ _ _ => trivial) s
    (Resourced.refl s fun _ _ _ => Iff.rfl)
  rw [hs.sources, List.mem_singleton]
  by_cases hq : q = p
  · subst hq
    rw [update_self]
    simp only [id, and_true, exists_eq_right']
    rw [and_or_left, or_right_comm, and_comm (a := u ∈ users)]
  · simp [hq]

/-- Taking access through `SELF` from users of a project. -/
theorem triple_removeUsers (users : List String) : Triple (Provenance projects V W)
      (Proc.forEach (fun u => UserProjectsDao.deleteUserProject p u ["SELF"]) users)
      (fun _ => Provenance projects V (update W p fun u => W p u ∧ u ∉ users)) (fun _ _ => True) := by
  intro s hs
  refine ((triple_deleteUserProjects (fun _ => p) id ["SELF"] users).conseq
    (fun _ h => h) (fun _ t ht => hs.change ht hs.mapped hs.named fun u q x => ?_) fun _ _ _ => trivial) s
    (Resourced.refl s fun _ _ _ => Iff.rfl)
  rw [hs.sources, List.mem_singleton]
  by_cases hq : q = p
  · subst hq
    rw [update_self]
    simp only [id, and_true, exists_eq_right']
    constructor
    · rintro ⟨⟨rfl, hW⟩ | hV, hkept⟩
      · exact .inl ⟨rfl, hW, fun hu => hkept ⟨hu, rfl⟩⟩
      · exact .inr hV
    · rintro (⟨rfl, hW, hu⟩ | ⟨hV, hm⟩)
      · exact ⟨.inl ⟨rfl, hW⟩, fun hgone => hu hgone.1⟩
      · exact ⟨.inr ⟨hV, hm⟩, fun hgone => (hs.named q x hV).1 hgone.2⟩
  · simp [hq]

/-! ## Loops over groups -/

variable {groups : List String}

/-- Adding groups one by one. -/
theorem triple_addGroups (hself : "SELF" ∉ groups) : Triple (Provenance projects V W)
      (Proc.forEach (fun g => UserProjectsDao.ldapGroupAdded p g) groups)
      (fun _ => Provenance projects (update V p fun x => V p x ∨ x ∈ groups) W) (fun _ _ => True) := by
  refine Triple.conseq (Triple.forEach_done (fun done => Provenance projects (update V p fun x => V p x ∨ x ∈ done) W)
    fun done g rest hsplit => ?_) (fun s hs => by simpa using hs) (fun _ _ h => h) fun _ _ h => h
  have hg : g ≠ "SELF" := by
    rintro rfl
    exact hself (by rw [hsplit]; simp)
  exact (triple_ldapGroupAdded hg).conseq (fun _ h => h) (fun _ s hs => by simpa [or_assoc] using hs)
    fun _ _ h => h

/-- Removing groups one by one. -/
theorem triple_removeGroups (hself : "SELF" ∉ groups) : Triple (Provenance projects V W)
      (Proc.forEach (fun g => UserProjectsDao.ldapGroupRemoved p g) groups)
      (fun _ => Provenance projects (update V p fun x => V p x ∧ x ∉ groups) W) (fun _ _ => True) := by
  refine Triple.conseq (Triple.forEach_done (fun done => Provenance projects (update V p fun x => V p x ∧ x ∉ done) W)
    fun done g rest hsplit => ?_) (fun s hs => by simpa using hs) (fun _ _ h => h) fun _ _ h => h
  have hg : g ≠ "SELF" := by
    rintro rfl
    exact hself (by rw [hsplit]; simp)
  exact (triple_ldapGroupRemoved hg).conseq (fun _ h => h) (fun _ s hs => by simpa [and_assoc] using hs)
    fun _ _ h => h

/-! ## Whole tasks -/

/-- `project_enabled` puts in the stored groups and users. -/
theorem triple_projectEnabled (hself : "SELF" ∉ groupsOf projects p) :
    Triple (Provenance projects V W) (UserProjectsDao.projectEnabled p)
      (fun _ => Provenance projects (update V p fun x => V p x ∨ x ∈ groupsOf projects p)
        (update W p fun u => W p u ∨ u ∈ usersOf projects p)) (fun _ _ => True) := by
  intro s hs
  unfold UserProjectsDao.projectEnabled UserProjectsDao.getProject ProjectsDao.getProjectById
  rcases hp : isEmpty p with _ | _
  · simp only [Proc.run_bind, run_requireNotEmpty, hp, Bool.false_eq_true, if_false, Proc.run_gets, hs.stored]
    rcases hrow : projects.getItem p with _ | row
    · trivial
    · rcases hgroups : row.ldapGroups with _ | groups
      · simp [UserProjectsDao.requireField, hgroups]
      · have hG : groupsOf projects p = groups := by simp [groupsOf, hrow, hgroups]
        have hU : usersOf projects p = row.users.getD [] := by simp [usersOf, hrow]
        simp only [Proc.run_pure, hgroups, UserProjectsDao.requireField]
        rw [hG, hU]
        exact (Triple.bind (triple_addGroups (hG ▸ hself)) fun _ => triple_addUsers (row.users.getD [])) s hs
  · rw [Proc.run_bind_of_error (run_requireNotEmpty_of_isEmpty hp _ s)]
    trivial

/-- `project_disabled` takes out the stored groups and users. -/
theorem triple_projectDisabled (hself : "SELF" ∉ groupsOf projects p) :
    Triple (Provenance projects V W) (UserProjectsDao.projectDisabled p)
      (fun _ => Provenance projects (update V p fun x => V p x ∧ x ∉ groupsOf projects p)
        (update W p fun u => W p u ∧ u ∉ usersOf projects p)) (fun _ _ => True) := by
  intro s hs
  unfold UserProjectsDao.projectDisabled UserProjectsDao.getProject ProjectsDao.getProjectById
  rcases hp : isEmpty p with _ | _
  · simp only [Proc.run_bind, run_requireNotEmpty, hp, Bool.false_eq_true, if_false, Proc.run_gets, hs.stored]
    rcases hrow : projects.getItem p with _ | row
    · trivial
    · rcases hgroups : row.ldapGroups with _ | groups
      · simp [UserProjectsDao.requireField, hgroups]
      · rcases husers : row.users with _ | users
        · simp [UserProjectsDao.requireField, hgroups, husers]
        · have hG : groupsOf projects p = groups := by simp [groupsOf, hrow, hgroups]
          have hU : usersOf projects p = users := by simp [usersOf, hrow, husers]
          simp only [Proc.run_pure, hgroups, husers, UserProjectsDao.requireField]
          rw [hG, hU]
          exact (Triple.bind (triple_removeGroups (hG ▸ hself)) fun _ => triple_removeUsers users)
            s hs
  · rw [Proc.run_bind_of_error (run_requireNotEmpty_of_isEmpty hp _ s)]
    trivial

/-- The loop of `ProjectGroupsUpdatedTask` over the removed groups: each removal is followed by a refresh
with what is stored. -/
theorem triple_removeAndRefresh (hself : "SELF" ∉ groups)
    (hstored : "SELF" ∉ groupsOf projects p) : Triple (Provenance projects V W) (Proc.forEach (fun g => do
        UserProjectsDao.ldapGroupRemoved p g
        UserProjectsDao.projectEnabled p) groups)
      (fun _ => Provenance projects (update V p fun x => V p x ∧ x ∉ groups ∨ groups ≠ [] ∧ x ∈ groupsOf projects p)
        (update W p fun u => W p u ∨ groups ≠ [] ∧ u ∈ usersOf projects p))
      (fun _ _ => True) := by
  refine Triple.conseq (Triple.forEach_done (fun done => Provenance projects
      (update V p fun x => V p x ∧ x ∉ done ∨ done ≠ [] ∧ x ∈ groupsOf projects p)
      (update W p fun u => W p u ∨ done ≠ [] ∧ u ∈ usersOf projects p))
    fun done g rest hsplit => ?_) (fun s hs => by simpa using hs) (fun _ _ h => h) fun _ _ h => h
  have hg : g ≠ "SELF" := by
    rintro rfl
    exact hself (by rw [hsplit]; simp)
  refine (Triple.bind (triple_ldapGroupRemoved hg) fun _ => triple_projectEnabled hstored).conseq
    (fun _ h => h) (fun _ s hs => ?_) fun _ _ h => h
  rw [update_idem, update_self, update_idem, update_self, update_idem, update_self] at hs
  refine hs.congr_at (fun x => ?_) fun u => ?_
  · -- what the refresh puts in was removed in vain
    by_cases hx : x ∈ groupsOf projects p
    · simp [hx]
    · simp [hx, and_assoc]
  · by_cases hu : u ∈ usersOf projects p <;> simp [hu]

/-- `ProjectGroupsUpdatedTask.invoke` of an enabled project. -/
theorem triple_invokeGroupsUpdated {groupsAdded groupsRemoved : List String}
    (usersAdded usersRemoved : List String) (hadded : "SELF" ∉ groupsAdded)
    (hremoved : "SELF" ∉ groupsRemoved) (hstored : "SELF" ∉ groupsOf projects p)
    (henabled : isEnabled projects p = true) : Triple (Provenance projects V W)
      (invokeGroupsUpdated p groupsAdded groupsRemoved usersAdded usersRemoved) (fun _ => Provenance projects
        (update V p fun x => (V p x ∧ x ∉ groupsRemoved ∨
          groupsRemoved ≠ [] ∧ x ∈ groupsOf projects p) ∨ x ∈ groupsAdded)
        (update W p fun u => (W p u ∧ u ∉ usersRemoved ∨ groupsRemoved ≠ [] ∧ u ∈ usersOf projects p) ∨ u ∈ usersAdded))
      (fun _ _ => True) := by
  intro s hs
  unfold invokeGroupsUpdated UserProjectsDao.getProject ProjectsDao.getProjectById
  rcases hp : isEmpty p with _ | _
  · simp only [Proc.run_bind, run_requireNotEmpty, hp, Bool.false_eq_true, if_false, Proc.run_gets, hs.stored]
    rcases hrow : projects.getItem p with _ | row
    · trivial
    · have hon : row.enabled = some true := by
        simp only [isEnabled, hrow, Option.bind_some] at henabled
        cases h : row.enabled with
        | none =>
          rw [h] at henabled
          cases henabled
        | some enabled =>
          rw [h] at henabled
          exact congrArg some henabled
      simp only [Proc.run_pure, hon, Proc.run_when_pos]
      refine ((Triple.bind (triple_removeUsers usersRemoved) fun _ =>
        Triple.bind (triple_removeAndRefresh hremoved hstored) fun _ =>
        Triple.bind (triple_addUsers usersAdded) fun _ => triple_addGroups hadded).conseq (fun _ h => h)
        (fun _ t ht => by simpa using ht) fun _ _ h => h) s hs
  · simp [Proc.run_bind, hp]

/-! ## Tasks as changes of the two lists -/

/-- What a task does to the groups of its project. -/
def ProjectTask.groupChange : ProjectTask → Change String
  | .projectEnabled => .fill
  | .projectDisabled => .clear
  | .projectGroupsUpdated groupsAdded groupsRemoved _ _ => .update groupsAdded groupsRemoved

/-- What a task does to the users of its project. -/
def ProjectTask.userChange : ProjectTask → Change String
  | .projectEnabled => .fill
  | .projectDisabled => .clear
  | .projectGroupsUpdated _ _ usersAdded usersRemoved => .update usersAdded usersRemoved

/-- The task also puts in everything that is stored. -/
def ProjectTask.Refreshes : ProjectTask → Prop
  | .projectGroupsUpdated _ groupsRemoved _ _ => groupsRemoved ≠ []
  | _ => False

/-- The task is the one that does nothing while its project is disabled. -/
def ProjectTask.NeedsEnabled : ProjectTask → Prop
  | .projectGroupsUpdated .. => True
  | _ => False

/-- The task names no group `SELF`. -/
def ProjectTask.NoSelf : ProjectTask → Prop
  | .projectGroupsUpdated groupsAdded groupsRemoved _ _ =>
    "SELF" ∉ groupsAdded ∧ "SELF" ∉ groupsRemoved
  | _ => True

theorem decided_update {added removed stored : List String} {x : String} {before refresh : Prop} :
    (before ∧ x ∉ removed ∨ refresh) ∨ x ∈ added ↔
      decided ((Change.update added removed).effect stored x) before ∨ refresh := by
  rw [Change.effect]
  by_cases hadded : x ∈ added
  · simp [hadded]
  · by_cases hremoved : x ∈ removed <;> simp [hadded, hremoved]

/-- **The effect of a task** that returns, on the lists behind the provenance. -/
theorem triple_invoke (task : ProjectTask) (hself : "SELF" ∉ groupsOf projects p)
    (hnames : task.NoSelf) (henabled : task.NeedsEnabled → isEnabled projects p = true) :
    Triple (Provenance projects V W) (task.invoke p) (fun _ => Provenance projects
        (update V p fun x => decided (task.groupChange.effect (groupsOf projects p) x) (V p x) ∨
          task.Refreshes ∧ x ∈ groupsOf projects p)
        (update W p fun u => decided (task.userChange.effect (usersOf projects p) u) (W p u) ∨
          task.Refreshes ∧ u ∈ usersOf projects p)) (fun _ _ => True) := by
  cases task with
  | projectEnabled =>
    refine (triple_projectEnabled hself).conseq (fun _ h => h)
      (fun _ s hs => hs.congr_at (fun x => ?_) fun u => ?_) fun _ _ h => h
    · by_cases hx : x ∈ groupsOf projects p <;>
        simp [ProjectTask.groupChange, ProjectTask.Refreshes, Change.effect, hx]
    · by_cases hu : u ∈ usersOf projects p <;>
        simp [ProjectTask.userChange, ProjectTask.Refreshes, Change.effect, hu]
  | projectDisabled =>
    refine (triple_projectDisabled hself).conseq (fun _ h => h)
      (fun _ s hs => hs.congr_at (fun x => ?_) fun u => ?_) fun _ _ h => h
    · by_cases hx : x ∈ groupsOf projects p <;>
        simp [ProjectTask.groupChange, ProjectTask.Refreshes, Change.effect, hx]
    · by_cases hu : u ∈ usersOf projects p <;>
        simp [ProjectTask.userChange, ProjectTask.Refreshes, Change.effect, hu]
  | projectGroupsUpdated groupsAdded groupsRemoved usersAdded usersRemoved =>
    exact (triple_invokeGroupsUpdated usersAdded usersRemoved hnames.1 hnames.2 hself
      (henabled trivial)).conseq (fun _ h => h)
      (fun _ s hs => hs.congr_at (fun _ => decided_update) fun _ => decided_update) fun _ _ h => h

end ContainRes.Projects
