import ContainRes.Projects.Access
import ContainRes.Projects.GroupRemoval
import ContainRes.Projects.ProjectDeletion

/-! # What the deletion of a project revokes

The mappings of a deleted project are removed group by group, and with each group the group is taken from the
sources of its members. The rows of the project in user-projects are not looked at, so that a source that
no such step takes stays, and its row with it.

* **`Unmapped`** — mappings are removed, and sources are taken from rows.
* **`triple_unmap`** — what `ldap_group_removed` adds to that; **`unmapped_deleteUserProjects`** — what the
  deletion does.
* **`RevokesAll`** — no row mentions the project after its deletion.
* **`Covered`** — what the steps reach; **`revokesAll_iff`** — when everything is revoked. -/

namespace ContainRes.Projects

open Accounts Effects Effects.Proc Store Systems.System Text

/-! ## Removing mappings -/

/-- `s` is `db` without the mappings in `M`, and with the sources in `R` taken from the rows in `T`. -/
structure Unmapped (db : Db) (M T : String → String → Prop) (R : String → String → String → Prop)
    (s : Db) : Prop where
  rows : RowsRevoked { db with projectGroups := s.projectGroups } T R s
  mapped : ∀ g p, s.IsMapped g p ↔ db.IsMapped g p ∧ ¬ M g p

variable {db : Db} {M M' T T' : String → String → Prop} {R R' : String → String → String → Prop}

theorem Unmapped.congr {s : Db} (h : Unmapped db M T R s) (hM : ∀ g p, M g p ↔ M' g p)
    (hT : ∀ u p, T u p ↔ T' u p) (hR : ∀ u p x, R u p x ↔ R' u p x) : Unmapped db M' T' R' s where
  rows := h.rows.congr hT hR
  mapped g p := by rw [h.mapped, hM]

theorem Unmapped.refl (db : Db) : Unmapped db (fun _ _ => False) (fun _ _ => False) (fun _ _ _ => False) db where
  rows := RowsRevoked.refl db
  mapped g p := by simp

theorem Unmapped.isMember_iff {s : Db} (h : Unmapped db M T R s) (g u : String) : s.IsMember g u ↔ db.IsMember g u := by
  rw [h.rows.frame]
  rfl

/-- `delete_user_project` for the members of a group takes the group from their rows of the project. -/
theorem triple_revokeMembers {g : String} {usernames : List String} (p : String)
    (hmem : ∀ u, u ∈ usernames ↔ db.IsMember g u) : Triple (RowsRevoked db T R)
      (Proc.forEach (fun username => UserProjectsDao.deleteUserProject p username [g]) usernames)
      (fun _ => RowsRevoked db (fun u q => T u q ∨ q = p ∧ db.IsMember g u)
        fun u q x => R u q x ∨ q = p ∧ x = g ∧ db.IsMember g u) fun _ _ => True := by
  -- `done` are the members whose rows have been dealt with
  refine (Triple.forEach_done (fun done => RowsRevoked db (fun u q => T u q ∨ q = p ∧ u ∈ done)
    fun u q x => R u q x ∨ q = p ∧ x = g ∧ u ∈ done) fun done username rest _ => ?_).conseq
    (fun t ht => ht.congr (fun u q => by simp) fun u q x => by simp)
    (fun _ t ht => ht.congr (fun u q => by rw [hmem]) fun u q x => by rw [hmem]) fun _ _ h => h
  refine (triple_revokeRow p username [g]).conseq (fun _ h => h)
    (fun _ t ht => ht.congr (fun u q => ?_) fun u q x => ?_) fun _ _ h => h
  · rw [List.mem_append, List.mem_singleton, and_or_left, or_assoc, and_comm (a := u = username)]
  · simp only [List.mem_append, List.mem_singleton, and_or_left, or_assoc]
    tauto

/-- The mapping is deleted first, and then the rows are looked at. -/
theorem Unmapped.deleteItem {s : Db} (h : Unmapped db M T R s) (g p : String) :
    Unmapped db (fun x q => M x q ∨ x = g ∧ q = p) T R
      { s with projectGroups := s.projectGroups.deleteItem (g, p) } where
  rows :=
    { frame := congrArg (fun t : Db => { t with projectGroups := s.projectGroups.deleteItem (g, p) })
        h.rows.frame
      sources := h.rows.sources
      rows := h.rows.rows }
  mapped x q := by
    have hdelete : (s.projectGroups.deleteItem (g, p)).Has (x, q) ↔ ¬ (x = g ∧ q = p) ∧ s.IsMapped x q := by
      rw [Table.has_deleteItem, Ne, Prod.mk.injEq]
      rfl
    show (s.projectGroups.deleteItem (g, p)).Has (x, q) ↔ _
    rw [hdelete, h.mapped, not_or, and_comm, and_assoc]

/-- `ldap_group_removed` removes a mapping, and takes the group from the rows of its members. -/
theorem triple_unmap (p g : String) : Triple (Unmapped db M T R) (UserProjectsDao.ldapGroupRemoved p g)
      (fun _ => Unmapped db (fun x q => M x q ∨ x = g ∧ q = p)
        (fun u q => T u q ∨ q = p ∧ db.IsMember g u) fun u q x => R u q x ∨ q = p ∧ x = g ∧ db.IsMember g u)
      fun _ _ => True := by
  refine Triple.intro (fun s u t hs hrun => ?_) fun _ _ _ _ _ => trivial
  unfold UserProjectsDao.ldapGroupRemoved GroupMembersDao.getUsernamesInGroup at hrun
  obtain ⟨⟨⟩, s₁, h₁, hrest₁⟩ := returns_bind.mp hrun
  obtain rfl := (reads_requireNotEmpty _ _).eq_of_run h₁
  obtain ⟨⟨⟩, s₂, h₂, hrest₂⟩ := returns_bind.mp hrest₁
  obtain rfl := (reads_requireNotEmpty _ _).eq_of_run h₂
  obtain ⟨⟨⟩, s₃, h₃, hrest₃⟩ := returns_bind.mp hrest₂
  obtain ⟨usernames, s₄, h₄, hloop⟩ := returns_bind.mp hrest₃
  obtain ⟨⟨⟩, removed, h₅, hrest₅⟩ := returns_bind.mp h₄
  obtain rfl := (reads_requireNotEmpty _ _).eq_of_run h₅
  obtain ⟨rfl, rfl⟩ := returns_gets.mp hrest₅
  have hremoved := hs.deleteItem g p
  rw [returns_modify.mp h₃] at hremoved
  -- the members are those of the group before, as nobody leaves it meanwhile
  have hmembers : ∀ u, u ∈ GroupMembersDao.usernames removed g ↔
      { db with projectGroups := removed.projectGroups }.IsMember g u := by
    intro u
    rw [GroupMembersDao.mem_usernames, hremoved.isMember_iff g u]
    rfl
  have hrows := (triple_revokeMembers p hmembers).of_ok hremoved.rows hloop
  have hgroups : t.projectGroups = removed.projectGroups := by rw [hrows.frame]
  refine ⟨by rw [hgroups]; exact hrows, fun x q => ?_⟩
  rw [← hremoved.mapped, Db.IsMapped, hgroups]
  rfl

section

variable {paginator : Paginator (String × String)} {projectId : String} {db' : Db}

/-- What the loop over the groups of a project leaves: their mappings are removed, and each group is taken
from the rows of its members. -/
theorem unmapped_deleteUserProjects (hrun : (deleteUserProjects paginator projectId).run db = (.ok ⟨⟩, db')) :
    Unmapped db (fun g p => g ∈ mappedGroups paginator db projectId ∧ p = projectId)
      (fun u p => p = projectId ∧ ∃ g ∈ mappedGroups paginator db projectId, db.IsMember g u)
      (fun u p x => p = projectId ∧ x ∈ mappedGroups paginator db projectId ∧ db.IsMember x u) db' := by
  unfold deleteUserProjects at hrun
  obtain ⟨⟨⟩, s, hs, hrest⟩ := returns_bind.mp hrun
  obtain rfl := (reads_requireNotEmpty _ _).eq_of_run hs
  obtain ⟨groups, s', hs', hloop⟩ := returns_bind.mp hrest
  obtain ⟨rfl, rfl⟩ := returns_gets.mp hs'
  -- `done` are the groups that have been removed
  refine ((Triple.forEach_done (fun done => Unmapped s (fun g p => g ∈ done ∧ p = projectId)
    (fun u p => p = projectId ∧ ∃ g ∈ done, s.IsMember g u)
    fun u p x => p = projectId ∧ x ∈ done ∧ s.IsMember x u) fun done g rest _ => ?_).conseq
    (fun t ht => ?_) (fun _ _ h => h) fun _ _ h => h : Triple (fun t => t = s) _ _ fun _ _ => True).of_ok rfl hloop
  · refine (triple_unmap projectId g).conseq (fun _ h => h)
      (fun _ t ht => ht.congr (fun x q => ?_) (fun u q => ?_) fun u q x => ?_) fun _ _ h => h
    · rw [List.mem_append, List.mem_singleton, or_and_right]
    · simp only [List.mem_append, List.mem_singleton, or_and_right, exists_or, exists_eq_left, and_or_left]
    · simp only [List.mem_append, List.mem_singleton, or_and_right, and_or_left]
      exact or_congr_right (and_congr_right fun _ => and_congr_right fun hx => by rw [hx])
  · rw [ht]
    exact (Unmapped.refl s).congr (fun _ _ => by simp) (fun _ _ => by simp) fun _ _ _ => by simp

end

/-! ## Everything is revoked -/

section

variable (paginator : Paginator (String × String)) (texts : ListingTexts) (w : ProjectsWorld)

/-- A request for the deletion of a project that returns leaves no row of project-groups and none of
user-projects that mentions it. -/
def RevokesAll (request : DeleteProjectRequest) (p : ProjectId) : Prop :=
  ∀ db', (deleteProject paginator texts w (some request)).run w.db = (.ok ⟨⟩, db') →
    (∀ g, ¬ db'.IsMapped g p.text) ∧ ∀ u, ¬ db'.userProjects.Has (u, p.text)

/-- What the deletion of a project reaches: its mappings are all on the page that is read, each user with a row
is a member of a mapped group, and each source in its row is such a group. -/
structure Covered (db : Db) (projectId : String) : Prop where
  mappings : ∀ g, db.IsMapped g projectId → g ∈ mappedGroups paginator db projectId
  rows : ∀ u, db.userProjects.Has (u, projectId) → ∃ g, db.IsMapped g projectId ∧ db.IsMember g u
  sources : ∀ u, ∀ x ∈ Projects.sources db u projectId, db.IsMapped x projectId ∧ db.IsMember x u

variable {paginator texts w} {projectId : String} {db' : Db} {request : DeleteProjectRequest} {p : ProjectId}
  {project : ProjectRow}

/-- Nothing is left of the project exactly when the loop reaches all of it. -/
theorem covered_iff (hrun : (deleteUserProjects paginator projectId).run db = (.ok ⟨⟩, db')) :
    ((∀ g, ¬ db'.IsMapped g projectId) ∧ ∀ u, ¬ db'.userProjects.Has (u, projectId)) ↔
      Covered paginator db projectId := by
  have h := unmapped_deleteUserProjects hrun
  have hmapped : (∀ g, ¬ db'.IsMapped g projectId) ↔
      ∀ g, db.IsMapped g projectId → g ∈ mappedGroups paginator db projectId := by
    simp only [h.mapped, and_true, not_and, not_not]
  have hrow : ∀ u, db'.userProjects.Has (u, projectId) ↔ db.userProjects.Has (u, projectId) ∧
      ((∃ g ∈ mappedGroups paginator db projectId, db.IsMember g u) →
        ∃ x ∈ sources db u projectId, ¬ (x ∈ mappedGroups paginator db projectId ∧ db.IsMember x u)) := by
    intro u
    have hrows := h.rows.rows u projectId
    simp only [true_and] at hrows
    exact hrows
  rw [hmapped]
  constructor
  · rintro ⟨hmappings, hrows⟩
    -- a row that is gone was in the loop, and each of its sources was taken
    have hgone : ∀ u, db.userProjects.Has (u, projectId) →
        (∃ g ∈ mappedGroups paginator db projectId, db.IsMember g u) ∧
          ∀ x ∈ sources db u projectId, x ∈ mappedGroups paginator db projectId ∧ db.IsMember x u := by
      intro u hu
      have hnot := hrows u
      rw [hrow] at hnot
      by_contra hkept
      refine hnot ⟨hu, fun hloop => ?_⟩
      by_contra hall
      push Not at hall
      exact hkept ⟨hloop, hall⟩
    refine ⟨hmappings, fun u hu => ?_, fun u x hx => ?_⟩
    · obtain ⟨g, hg, hmember⟩ := (hgone u hu).1
      exact ⟨g, mem_mappedGroups paginator hg, hmember⟩
    · obtain ⟨hg, hmember⟩ := (hgone u (has_of_mem_sources hx)).2 x hx
      exact ⟨mem_mappedGroups paginator hg, hmember⟩
  · intro hcovered
    refine ⟨hcovered.mappings, fun u hu => ?_⟩
    obtain ⟨hhas, hleft⟩ := (hrow u).mp hu
    obtain ⟨g, hg, hmember⟩ := hcovered.rows u hhas
    obtain ⟨x, hx, hkept⟩ := hleft ⟨g, hcovered.mappings g hg, hmember⟩
    obtain ⟨hxg, hxu⟩ := hcovered.sources u x hx
    exact hkept ⟨hcovered.mappings x hxg, hxu⟩

/-- **When everything is revoked.** A project that nothing uses is deleted with all its rows exactly when the
deletion reaches all of them, unless a member of its groups is no user and the request fails. -/
theorem revokesAll_iff (hfind : (findProject request).run w.db = (.ok (some (p.text, project)), w.db))
    (hunused : ¬ Used w p) : RevokesAll paginator texts w request p ↔
      (GroupsRemovable paginator w.db p.text → Covered paginator w.db p.text) := by
  have hproject := (getItem_of_findProject hfind).2
  have hp : isEmpty p.text = false := p.plain.isEmpty
  have hunseen : ¬ Seen w p := fun h => hunused (used_of_seen h)
  obtain ⟨-, hok⟩ := okIff_deleteUserProjects paginator hp hproject
  unfold RevokesAll
  rw [run_deleteProject_of_find hfind, run_deleteFound_of_not_seen hunseen]
  constructor
  · intro h hremovable
    obtain ⟨t, ht⟩ := hok.mpr hremovable
    refine (covered_iff ht).mp ?_
    exact h { t with projects := t.projects.deleteItem p.text }
      ((run_bind_of_ok ht).trans (run_deleteProjectRow p t))
  · intro h db' hreturn
    obtain ⟨⟨⟩, t, ht, hdelete⟩ := returns_bind.mp hreturn
    unfold Returns at hdelete
    rw [run_deleteProjectRow] at hdelete
    cases hdelete
    exact (covered_iff ht).mpr (h (hok.mp ⟨t, ht⟩))

end

/-! ## A user of a project -/

/-- The user `clara`, and the disabled project `p1` of the group `team` and of `clara`. -/
def directProject : AccessState where
  db :=
    { Db.empty with
      users := (∅ : Table String UserRow).putItem "clara" plainUser
      groups := (∅ : Table String GroupRow).putItem "team" plainGroup
      projects := (∅ : Table String ProjectRow).putItem "p1"
        ⟨"project", some ["team"], some ["clara"], some false, none⟩ }
  queue _ := []

theorem init_directProject : access.init directProject := by
  refine ⟨fun _ => rfl, rfl, rfl, fun p => ?_⟩
  by_cases hp : p = "p1"
  · subst hp
    rfl
  · simp [isEnabled, directProject, hp]

/-- The project is enabled. -/
def enableDirectProject : List AccessStep := [.enableProject "p1", .processTask "p1"]

/-- The tables, with no sessions and no software stacks. -/
def unusedWorld (db : Db) : ProjectsWorld where
  db := db
  sessions := { pages := [], after := fun _ => [] }
  softwareStacks := { pages := [], after := fun _ => [] }

theorem not_used_unusedWorld (db : Db) (p : ProjectId) : ¬ Used (unusedWorld db) p := by
  rintro (⟨row, hrow, -⟩ | ⟨row, hrow, -⟩)
  · exact absurd hrow List.not_mem_nil
  · exact absurd hrow List.not_mem_nil

/-- The enabled project `p1` of the group `team`, and its member `alice`. -/
def memberProject : Db :=
  { Db.empty with
    users := (∅ : Table String UserRow).putItem "alice" plainUser
    groups := (∅ : Table String GroupRow).putItem "team" plainGroup
    groupMembers := (∅ : Table (String × String) Unit).putItem ("team", "alice") ()
    projects := (∅ : Table String ProjectRow).putItem "p1" ⟨"project", some ["team"], some [], some true, none⟩
    projectGroups := (∅ : Table (String × String) Unit).putItem ("team", "p1") ()
    userProjects := (∅ : Table (String × String) (List String)).putItem ("alice", "p1") ["team"] }

theorem covered_memberProject : Covered (Paginator.single _) memberProject "p1" where
  mappings g hg := by
    obtain ⟨rfl, -⟩ : g = "team" ∧ "p1" = "p1" := by simpa [memberProject, Db.IsMapped] using hg
    decide
  rows u hu := by
    obtain rfl : u = "alice" := by simpa [memberProject] using hu
    exact ⟨"team", rfl, rfl⟩
  sources u x hx := by
    obtain rfl : u = "alice" := by simpa [memberProject] using has_of_mem_sources hx
    obtain rfl : x = "team" := by simpa [memberProject, sources] using hx
    exact ⟨rfl, rfl⟩

/-- A project with a group. -/
theorem revokesAll_memberProject :
    RevokesAll (Paginator.single _) plainTexts (unusedWorld memberProject) deleteProjectOne projectOne :=
  (revokesAll_iff rfl (not_used_unusedWorld _ _)).mpr fun _ => covered_memberProject

/-- **Access that stays.** A project with a user of its own is enabled and deleted, and the user's row of
user-projects is still there. -/
theorem direct_user_keeps_row : ¬ ∀ s, access.Reachable s → ∀ paginator texts request p project,
    (findProject request).run s.db = (.ok (some (p.text, project)), s.db) →
      RevokesAll paginator texts (unusedWorld s.db) request p := by
  intro h
  obtain ⟨s, hexec⟩ : ∃ s, access.exec directProject enableDirectProject = some s := ⟨_, rfl⟩
  have hreach : access.Reachable s := .of_exec (.init init_directProject) hexec
  obtain ⟨project, hfind⟩ : ∃ project,
      (findProject deleteProjectOne).run s.db = (.ok (some (projectOne.text, project)), s.db) := by
    cases hexec
    exact ⟨_, rfl⟩
  have hall := h s hreach (Paginator.single _) plainTexts deleteProjectOne projectOne project hfind
  obtain ⟨db', hrun, hrow⟩ : ∃ db', (deleteProject (Paginator.single _) plainTexts (unusedWorld s.db)
      (some deleteProjectOne)).run s.db = (.ok ⟨⟩, db') ∧ db'.userProjects.Has ("clara", "p1") := by
    cases hexec
    exact ⟨_, rfl, rfl⟩
  exact (hall db' hrun).2 "clara" hrow

end ContainRes.Projects
