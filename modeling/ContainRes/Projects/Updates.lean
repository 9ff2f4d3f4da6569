import ContainRes.Projects.Access
import ContainRes.Projects.Service
import ContainRes.Tasks.TaskManager

/-! # Project updates through the queue

A sequence of `update_project` calls stores new lists and sends the differences; the queue drops a
message that repeats one accepted in the previous five minutes, also when another one was sent in
between. This file compares the provenance after processing what the queue delivers with the one after
processing everything that was sent.

* **`triple_updateProject`** — what one call stores and sends.
* **`GroupsUpdate.effect`** — what one task does to one source of one user.
* **`triple_processUpdates`** — after a sequence of tasks the last effect decides.
* **`updates_survive_iff`** — the two ends agree exactly when the last effects do;
  `repeated_update_lost` is a run in which they do not. -/

namespace ContainRes.Projects

open Accounts Effects Store Tasks Text Function

/-! ## One call -/

section Call

variable {ctx : ProjectsContext} {db : Db}

/-- The database after the end of `update_project`. -/
def stored (db : Db) (project : Project) (p : String) (groups users : List String × List String) : Db :=
  let written := storeProject db p (updatedRow project)
  if isEnabled db.projects p = true ∧
      (groups.1 ≠ [] ∨ groups.2 ≠ [] ∨ users.1 ≠ [] ∨ users.2 ≠ []) then
    { written with sent := db.sent ++
        [⟨.projectGroupsUpdated p groups.1 groups.2 users.1 users.2, some p, none⟩] }
  else written

variable {project : Project}

theorem run_storeAndSend {p : String} {row : ProjectRow}
    (groups users : List String × List String) (hp : isEmpty p = false) (hstrip : strip p = p)
    (hrow : db.projects.getItem p = some row) :
    (storeAndSend project p groups users).run db = (.ok ⟨⟩, stored db project p groups users) := by
  have hupdate : (ProjectsDao.updateProject p (updatedRow project)).run db =
      (.ok ⟨⟩, storeProject db p (updatedRow project)) := by
    simp [ProjectsDao.updateProject, Proc.run_bind, hp, hstrip, hrow, storeProject]
  have hitem : (storeProject db p (updatedRow project)).projects.getItem p =
      some (updatedRow project row) := getItem_updateItem_self hrow
  rw [storeAndSend, Proc.run_bind_of_ok hupdate, Proc.run_bind_of_ok (Proc.run_gets _ _), Proc.run_when, stored]
  have hon : (((storeProject db p (updatedRow project)).projects.getItem (strip p)).any
      fun row => row.enabled.getD false) = isEnabled db.projects p := by
    rw [hstrip, hitem, isEnabled, hrow]
    rfl
  rw [hon, hstrip]
  split <;> rfl

theorem reads_checkName (p : String) (existing : ProjectRow) (name : Option String) :
    Reads (checkName p existing name) := by
  unfold checkName
  rcases name with _ | name
  · exact Reads.pure _
  · refine Reads.when fun _ => Reads.bind ?_ ?_
    · exact Reads.bind (reads_requireNotEmpty _ _) fun _ => Reads.gets _
    · rintro (_ | item)
      · exact Reads.pure _
      · exact Reads.whenRaise _

theorem reads_getGroupOfAccounts (groupName : String) :
    Reads (Accounts.getGroup groupName >>= fun _ => (pure ⟨⟩ : DbProc PUnit)) := by
  refine Reads.bind (Reads.bind (reads_requireNotEmpty _ _) fun _ =>
    Reads.bind (reads_getGroup _) ?_) fun _ => Reads.pure _
  rintro (_ | group)
  · exact Reads.raise _
  · exact Reads.pure _

theorem reads_getUserOfAccounts (username : String) :
    Reads (Accounts.getUser username >>= fun _ => (pure ⟨⟩ : DbProc PUnit)) := by
  refine Reads.bind (Reads.bind (Reads.liftExcept _) fun _ => Reads.bind (reads_getUser _) ?_)
    fun _ => Reads.pure _
  rintro (_ | user)
  · exact Reads.raise _
  · exact Reads.pure _

/-- **One call of `update_project`** for a stored project writes nothing, or stores the lists of the
request and sends their difference to the stored ones. -/
theorem triple_updateProject {p : String} {row : ProjectRow}
    (hid : project.projectId = some p) (hp : isEmpty p = false) (hstrip : strip p = p)
    (hrow : db.projects.getItem p = some row) : Triple (fun s => s = db) (updateProject ctx project)
      (fun _ s => s = stored db project p (requestedDifference ctx project.ldapGroups row.ldapGroups)
        (requestedDifference ctx project.users row.users)) (fun _ s => s = db) := by
  rintro s rfl
  unfold updateProject
  simp only [hid, Option.getD_some]
  rw [Proc.run_bind_of_ok (run_requireNotEmpty_of_not_isEmpty hp _ s)]
  have hget : (ProjectsDao.getProjectById p).run s = (.ok (some row), s) := by
    simp [ProjectsDao.getProjectById, Proc.run_bind, hp, hrow]
  rw [Proc.run_bind_of_ok hget]
  refine (Triple.bind_reads (P := fun t => t = s) (reads_checkName _ _ _) (fun _ _ ht => ht)
    fun _ => Triple.bind_reads (Reads.liftExcept _) (fun _ _ ht => ht)
    fun _ => Triple.bind_reads (Reads.forEach fun x _ => reads_getGroupOfAccounts x) (fun _ _ ht => ht)
    fun _ => Triple.bind_reads (Reads.forEach fun x _ => reads_getUserOfAccounts x) (fun _ _ ht => ht)
    fun _ => Triple.bind_reads (Reads.liftExcept _) (fun _ _ ht => ht) fun _ => ?_) s rfl
  rintro t rfl
  rw [run_storeAndSend _ _ hp hstrip hrow]

theorem projects_stored (project : Project) (p : String) (groups users : List String × List String) :
    (stored db project p groups users).projects = db.projects.updateItem p (updatedRow project) := by
  unfold stored
  simp only
  split <;> rfl

/-- **The rows after a call of `update_project`.** A call changes no row, or the row of the project of the
request; a new name that is not blank was no name of a project. -/
theorem projects_updateProject {r : Except Exc PUnit} {db' : Db}
    (hplain : ∀ p, db.projects.Has p → strip p = p) (hrun : (updateProject ctx project).run db = (r, db')) :
    db'.projects = db.projects ∨ ∃ p row, project.projectId = some p ∧ db.projects.getItem p = some row ∧
      db'.projects = db.projects.updateItem p (updatedRow project) ∧
      ∀ name, project.name = some name → isEmpty name = false → row.name ≠ name →
        ∀ q other, db.projects.getItem q = some other → other.name ≠ name := by
  cases hid : project.projectId with
  | none =>
    have hfail : (updateProject ctx project).run db =
        (.error (.invalidParams "project.project_id is required"), db) := by
      unfold updateProject
      simp only [hid, Option.getD_none]
      exact Proc.run_bind_of_error (run_requireNotEmpty_of_isEmpty (by decide) _ db)
    rw [hfail] at hrun
    cases hrun
    exact .inl rfl
  | some p =>
    rcases hblank : isEmpty p with _ | _
    · have hget : (ProjectsDao.getProjectById p).run db = (.ok (db.projects.getItem p), db) := by
        simp [ProjectsDao.getProjectById, Proc.run_bind, hblank]
      cases hrow : db.projects.getItem p with
      | none =>
        have hfail : ∃ e, (updateProject ctx project).run db = (.error e, db) := by
          unfold updateProject
          simp only [hid, Option.getD_some]
          rw [Proc.run_bind_of_ok (run_requireNotEmpty_of_not_isEmpty hblank _ db), Proc.run_bind_of_ok hget, hrow]
          exact ⟨_, rfl⟩
        obtain ⟨e, hfail⟩ := hfail
        rw [hfail] at hrun
        cases hrun
        exact .inl rfl
      | some row =>
        have hstrip := hplain p (.of_getItem hrow)
        have htriple : Triple (· = db) (updateProject ctx project) _ _ := triple_updateProject hid hblank hstrip hrow
        cases r with
        | error e => exact .inl (congrArg Db.projects (htriple.of_error rfl hrun))
        | ok u =>
          have hstored := htriple.of_ok rfl hrun
          refine .inr ⟨p, row, rfl, hrow, by rw [hstored, projects_stored], ?_⟩
          -- the check of the name returned
          intro name hname hnonblank hne q other hother heq
          unfold updateProject at hrun
          simp only [hid, Option.getD_some] at hrun
          rw [Proc.run_bind_of_ok (run_requireNotEmpty_of_not_isEmpty hblank _ db),
            Proc.run_bind_of_ok hget, hrow] at hrun
          obtain ⟨⟨⟩, s, hcheck, -⟩ := Proc.returns_bind.mp hrun
          rw [hname] at hcheck
          unfold Proc.Returns checkName at hcheck
          rw [Proc.run_when_pos ⟨hnonblank, hne⟩, getProjectByName, Proc.bind_assoc,
            Proc.run_bind_of_ok (run_requireNotEmpty_of_not_isEmpty hnonblank _ db),
            Proc.run_bind_of_ok (Proc.run_gets _ db)] at hcheck
          cases hfind : db.projects.scan.find? fun item => item.2.name = name with
          | none =>
            have hnone := List.find?_eq_none.mp hfind (q, other) (Table.mem_scan.mpr hother)
            exact hnone (decide_eq_true heq)
          | some item =>
            -- the row that is found has the new name, and is not the one of the project
            have hitem : item.2.name = name := by simpa using List.find?_some hfind
            have hitemRow := Table.mem_scan.mp (List.mem_of_find?_eq_some hfind)
            rw [hfind] at hcheck
            have hother' : item.1 ≠ p := by
              intro hsame
              rw [hsame, hrow] at hitemRow
              exact hne ((congrArg ProjectRow.name (Option.some.inj hitemRow)).trans hitem)
            have hraised := (congrArg Prod.fst (Proc.run_when_pos (c := Proc.raise (Exc.invalidParams
              s!"project with name: {name} already exists")) hother' db)).symm.trans
                (congrArg Prod.fst hcheck)
            cases hraised
    · have hfail : (updateProject ctx project).run db =
          (.error (.invalidParams "project.project_id is required"), db) := by
        unfold updateProject
        simp only [hid, Option.getD_some]
        exact Proc.run_bind_of_error (run_requireNotEmpty_of_isEmpty hblank _ db)
      rw [hfail] at hrun
      cases hrun
      exact .inl rfl

end Call

/-! ## What a task does to one source of one user -/

/-- The payload of a `ProjectGroupsUpdatedTask`. -/
structure GroupsUpdate where
  projectId : String
  groupsAdded : List String
  groupsRemoved : List String
  usersAdded : List String
  usersRemoved : List String
  deriving DecidableEq, Repr

/-- The payload of a message, if it is that of a `ProjectGroupsUpdatedTask`. -/
def groupsUpdate : TaskPayload → Option GroupsUpdate
  | .projectGroupsUpdated projectId groupsAdded groupsRemoved usersAdded usersRemoved =>
    some ⟨projectId, groupsAdded, groupsRemoved, usersAdded, usersRemoved⟩
  | _ => none

/-- Process tasks one after the other. -/
def processUpdates (updates : List GroupsUpdate) : DbProc PUnit :=
  Proc.forEach (fun m =>
    invokeGroupsUpdated m.projectId m.groupsAdded m.groupsRemoved m.usersAdded m.usersRemoved) updates

/-- Lists of groups and users name the source `x` of the user `u`: the source is `SELF` and the user is
listed, or the source is a listed group that the user is a member of. -/
def Names (db : Db) (groups users : List String) (u x : String) : Prop :=
  x = "SELF" ∧ u ∈ users ∨ x ∈ groups ∧ db.IsMember x u

instance (db : Db) (groups users : List String) (u x : String) :
    Decidable (Names db groups users u x) :=
  inferInstanceAs (Decidable (x = "SELF" ∧ u ∈ users ∨ x ∈ groups ∧ db.groupMembers.Has (x, u)))

/-- What a task does to the source `x` of the user `u` in the project `p`. -/
def GroupsUpdate.effect (m : GroupsUpdate) (db : Db) (u p x : String) : Option Bool :=
  if m.projectId = p ∧ isEnabled db.projects p = true then
    if Names db m.groupsAdded m.usersAdded u x then some true
    else if m.groupsRemoved ≠ [] ∧ Names db (groupsOf db.projects p) (usersOf db.projects p) u x then
      some true
    else if Names db m.groupsRemoved m.usersRemoved u x then some false
    else none
  else none

/-- `s` is `db` with other rows in project-groups and user-projects, and `S` says which sources the
latter list. -/
structure Rewritten (db : Db) (S : String → String → String → Prop) (s : Db) : Prop where
  frame : s = { db with projectGroups := s.projectGroups, userProjects := s.userProjects }
  sources : ∀ u p x, x ∈ sources s u p ↔ S u p x

variable {db : Db} {S : String → String → String → Prop} {g p : String} {S' : String → String → String → Prop}

theorem Rewritten.congr {s : Db} (h : Rewritten db S s) (hiff : ∀ u p x, S u p x ↔ S' u p x) : Rewritten db S' s :=
  ⟨h.frame, fun u p x => (h.sources u p x).trans (hiff u p x)⟩

theorem Rewritten.trans {s t : Db} (h : Rewritten db S s) (ht : Resourced s S' t) : Rewritten db S' t := by
  refine ⟨?_, ht.sources⟩
  rw [ht.frame, h.frame]

theorem Rewritten.isMember {s : Db} (h : Rewritten db S s) (x u : String) : s.IsMember x u ↔ db.IsMember x u := by
  rw [h.frame]
  rfl

variable (users : List String)

theorem exists_user_iff (p u q x : String) :
    ((∃ b ∈ users, u = id b ∧ q = p) ∧ x ∈ ["SELF"]) ↔ q = p ∧ x = "SELF" ∧ u ∈ users := by
  rw [List.mem_singleton]
  constructor
  · rintro ⟨⟨b, hb, rfl, hq⟩, hx⟩
    exact ⟨hq, hx, hb⟩
  · rintro ⟨hq, hx, hu⟩
    exact ⟨⟨u, hu, rfl, hq⟩, hx⟩

theorem rewritten_addUsers : Triple (Rewritten db S)
      (Proc.forEach (fun u => UserProjectsDao.createUserProject p u ["SELF"]) users)
      (fun _ => Rewritten db fun u q x => S u q x ∨ q = p ∧ x = "SELF" ∧ u ∈ users) (fun _ _ => True) := by
  intro s hs
  refine ((triple_createUserProjects (fun _ => p) id (List.cons_ne_nil "SELF" []) users).conseq
    (fun _ h => h) (fun _ t ht => hs.trans (ht.congr fun u q x => ?_)) fun _ _ _ => trivial) s
    (Resourced.refl s hs.sources)
  exact or_congr Iff.rfl (exists_user_iff users p u q x)

theorem rewritten_removeUsers : Triple (Rewritten db S)
      (Proc.forEach (fun u => UserProjectsDao.deleteUserProject p u ["SELF"]) users)
      (fun _ => Rewritten db fun u q x => S u q x ∧ ¬ (q = p ∧ x = "SELF" ∧ u ∈ users)) (fun _ _ => True) := by
  intro s hs
  refine ((triple_deleteUserProjects (fun _ => p) id ["SELF"] users).conseq
    (fun _ h => h) (fun _ t ht => hs.trans (ht.congr fun u q x => ?_)) fun _ _ _ => trivial) s
    (Resourced.refl s hs.sources)
  exact and_congr Iff.rfl (not_congr (exists_user_iff users p u q x))

/-- A change of project-groups, and of user-projects after it. -/
theorem Rewritten.change {s t : Db} (h : Rewritten db S s)
    {projectGroups : Table (String × String) Unit}
    (ht : Resourced { s with projectGroups := projectGroups } S' t) : Rewritten db S' t := by
  refine ⟨?_, ht.sources⟩
  rw [ht.frame, h.frame]

theorem rewritten_ldapGroupAdded (g : String) : Triple (Rewritten db S) (UserProjectsDao.ldapGroupAdded p g)
      (fun _ => Rewritten db fun u q x => S u q x ∨ q = p ∧ x = g ∧ db.IsMember x u) (fun _ _ => True) := by
  refine triple_ldapGroupAdded_of fun s t hs _ _ ht => (hs.change ht).congr fun u q x => ?_
  rw [hs.sources, hs.isMember]
  refine or_congr Iff.rfl ?_
  constructor
  · rintro ⟨⟨hm, hq⟩, rfl⟩
    exact ⟨hq, rfl, hm⟩
  · rintro ⟨hq, rfl, hm⟩
    exact ⟨⟨hm, hq⟩, rfl⟩

theorem rewritten_ldapGroupRemoved (g : String) : Triple (Rewritten db S) (UserProjectsDao.ldapGroupRemoved p g)
      (fun _ => Rewritten db fun u q x => S u q x ∧ ¬ (q = p ∧ x = g ∧ db.IsMember x u)) (fun _ _ => True) := by
  refine triple_ldapGroupRemoved_of fun s t hs ht => (hs.change ht).congr fun u q x => ?_
  rw [hs.sources, hs.isMember]
  refine and_congr Iff.rfl (not_congr ?_)
  constructor
  · rintro ⟨⟨hm, hq⟩, rfl⟩
    exact ⟨hq, rfl, hm⟩
  · rintro ⟨hq, rfl, hm⟩
    exact ⟨⟨hm, hq⟩, rfl⟩

theorem rewritten_addGroups (groups : List String) : Triple (Rewritten db S)
      (Proc.forEach (fun g => UserProjectsDao.ldapGroupAdded p g) groups)
      (fun _ => Rewritten db fun u q x => S u q x ∨ q = p ∧ x ∈ groups ∧ db.IsMember x u) (fun _ _ => True) := by
  refine Triple.conseq (Triple.forEach_done (fun done => Rewritten db fun u q x =>
    S u q x ∨ q = p ∧ x ∈ done ∧ db.IsMember x u) fun done g rest _ => ?_)
    (fun s hs => hs.congr fun u q x => by simp) (fun _ _ h => h) fun _ _ h => h
  refine (rewritten_ldapGroupAdded g).conseq (fun _ h => h)
    (fun _ s hs => hs.congr fun u q x => ?_) fun _ _ h => h
  rw [or_assoc, ← and_or_left, ← or_and_right, List.mem_append, List.mem_singleton]

/-- The refresh, for the lists that are stored. -/
theorem rewritten_projectEnabled : Triple (Rewritten db S) (UserProjectsDao.projectEnabled p)
      (fun _ => Rewritten db fun u q x =>
        S u q x ∨ q = p ∧ Names db (groupsOf db.projects p) (usersOf db.projects p) u x) (fun _ _ => True) := by
  intro s hs
  have hprojects : s.projects = db.projects := by rw [hs.frame]
  unfold UserProjectsDao.projectEnabled UserProjectsDao.getProject ProjectsDao.getProjectById
  rcases hp : isEmpty p with _ | _
  · simp only [Proc.run_bind, run_requireNotEmpty, hp, Bool.false_eq_true, if_false, Proc.run_gets, hprojects]
    rcases hrow : db.projects.getItem p with _ | row
    · trivial
    · rcases hgroups : row.ldapGroups with _ | groups
      · simp [UserProjectsDao.requireField, hgroups]
      · have hG : groupsOf db.projects p = groups := by simp [groupsOf, hrow, hgroups]
        have hU : usersOf db.projects p = row.users.getD [] := by simp [usersOf, hrow]
        simp only [Proc.run_pure, hgroups, UserProjectsDao.requireField]
        refine ((Triple.bind (rewritten_addGroups groups) fun _ =>
          rewritten_addUsers (row.users.getD [])).conseq (fun _ h => h)
          (fun _ t ht => ht.congr fun u q x => ?_) fun _ _ h => h) s hs
        rw [hG, hU, or_assoc, ← and_or_left, or_comm (a := x ∈ groups ∧ _), Names]
  · rw [Proc.run_bind_of_error (run_requireNotEmpty_of_isEmpty hp _ s)]
    trivial

/-- Removing groups with a refresh after each of them. -/
theorem rewritten_removeAndRefresh (groups : List String) : Triple (Rewritten db S) (Proc.forEach (fun g => do
        UserProjectsDao.ldapGroupRemoved p g
        UserProjectsDao.projectEnabled p) groups)
      (fun _ => Rewritten db fun u q x => S u q x ∧ ¬ (q = p ∧ x ∈ groups ∧ db.IsMember x u) ∨ groups ≠ [] ∧ q = p ∧
          Names db (groupsOf db.projects p) (usersOf db.projects p) u x)
      (fun _ _ => True) := by
  refine Triple.conseq (Triple.forEach_done (fun done => Rewritten db fun u q x =>
      S u q x ∧ ¬ (q = p ∧ x ∈ done ∧ db.IsMember x u) ∨ done ≠ [] ∧ q = p ∧
        Names db (groupsOf db.projects p) (usersOf db.projects p) u x) fun done g rest _ => ?_)
    (fun s hs => hs.congr fun u q x => by simp) (fun _ _ h => h) fun _ _ h => h
  refine (Triple.bind (rewritten_ldapGroupRemoved g) fun _ => rewritten_projectEnabled).conseq
    (fun _ h => h) (fun _ s hs => hs.congr fun u q x => ?_) fun _ _ h => h
  -- what the refresh puts in was removed in vain
  by_cases hstored : q = p ∧ Names db (groupsOf db.projects p) (usersOf db.projects p) u x
  · simp [hstored]
  · have hone : (q = p ∧ x ∈ done ++ [g] ∧ db.IsMember x u) ↔
        (q = p ∧ x ∈ done ∧ db.IsMember x u) ∨ q = p ∧ x = g ∧ db.IsMember x u := by
      rw [← and_or_left, ← or_and_right, List.mem_append, List.mem_singleton]
    simp only [hstored, hone, and_false, or_false, not_or, and_assoc]

/-- **The effect of a task** that returns, on every source of every user. -/
theorem triple_invokeUpdate (m : GroupsUpdate) : Triple (Rewritten db S)
      (invokeGroupsUpdated m.projectId m.groupsAdded m.groupsRemoved m.usersAdded m.usersRemoved)
      (fun _ => Rewritten db fun u p x => decided (m.effect db u p x) (S u p x)) (fun _ _ => True) := by
  intro s hs
  have hprojects : s.projects = db.projects := by rw [hs.frame]
  unfold invokeGroupsUpdated UserProjectsDao.getProject ProjectsDao.getProjectById
  rcases hp : isEmpty m.projectId with _ | _
  · simp only [Proc.run_bind, run_requireNotEmpty, hp, Bool.false_eq_true, if_false, Proc.run_gets, hprojects]
    rcases hrow : db.projects.getItem m.projectId with _ | row
    · trivial
    · have hon : isEnabled db.projects m.projectId = row.enabled.getD false := by
        rw [isEnabled, hrow]
        rfl
      rcases henabled : row.enabled with _ | enabled
      · simp [Proc.run_pure, henabled]
      · rw [henabled, Option.getD_some] at hon
        simp only [Proc.run_pure, henabled]
        cases enabled with
        | false =>
          rw [Proc.run_when_neg Bool.false_ne_true]
          refine hs.congr fun u p x => ?_
          have hnone : m.effect db u p x = none := by
            rw [GroupsUpdate.effect, if_neg]
            rintro ⟨rfl, htrue⟩
            rw [hon] at htrue
            cases htrue
          rw [hnone, decided_none]
        | true =>
          rw [Proc.run_when_pos rfl]
          refine ((Triple.bind (rewritten_removeUsers m.usersRemoved) fun _ =>
            Triple.bind (rewritten_removeAndRefresh m.groupsRemoved) fun _ =>
            Triple.bind (rewritten_addUsers m.usersAdded) fun _ =>
              rewritten_addGroups m.groupsAdded).conseq (fun _ h => h)
            (fun _ t ht => ht.congr fun u p x => ?_) fun _ _ h => h) s hs
          by_cases hproject : p = m.projectId
          · subst hproject
            rw [GroupsUpdate.effect, if_pos ⟨rfl, hon⟩]
            by_cases hadded : Names db m.groupsAdded m.usersAdded u x
            · rw [if_pos hadded, decided_some]
              rcases hadded with ⟨hx, hu⟩ | ⟨hx, hm⟩
              · simp [hx, hu]
              · simp [hx, hm]
            · rw [if_neg hadded]
              simp only [Names, not_or] at hadded
              by_cases hrefresh : m.groupsRemoved ≠ [] ∧
                  Names db (groupsOf db.projects m.projectId) (usersOf db.projects m.projectId) u x
              · rw [if_pos hrefresh, decided_some]
                simp [hrefresh.1, hrefresh.2]
              · rw [if_neg hrefresh]
                by_cases hremoved : Names db m.groupsRemoved m.usersRemoved u x
                · rw [if_pos hremoved, decided_some]
                  simp only [hrefresh, hadded, true_and, or_false, Bool.false_eq_true, iff_false]
                  rintro ⟨⟨-, hkeptUser⟩, hkeptGroup⟩
                  exact hremoved.elim hkeptUser hkeptGroup
                · rw [if_neg hremoved, decided_none]
                  simp only [Names, not_or] at hremoved
                  simp only [hrefresh, hadded, hremoved, true_and, or_false, not_false_eq_true, and_true]
          · have hnone : m.effect db u p x = none := by
              rw [GroupsUpdate.effect, if_neg fun hboth => hproject hboth.1.symm]
            rw [hnone, decided_none]
            simp [hproject]
  · simp [Proc.run_bind, hp]

/-- **Run lemma.** After a sequence of tasks the last effect on a source of a user decides. -/
theorem triple_processUpdates (updates : List GroupsUpdate) : Triple (Rewritten db S) (processUpdates updates)
      (fun _ => Rewritten db fun u p x => decided (lastOf (updates.map fun m => m.effect db u p x)) (S u p x))
      (fun _ _ => True) := by
  unfold processUpdates
  induction updates generalizing S with
  | nil => exact Triple.pure fun _ hs => hs
  | cons m updates ih =>
    rw [Proc.forEach_cons]
    refine Triple.bind (triple_invokeUpdate m) fun _ => ih.conseq (fun _ h => h)
      (fun _ s hs => hs.congr fun u p x => ?_) fun _ _ h => h
    rw [List.map_cons, decided_lastOf_cons]

/-! ## A sequence of calls -/

/-- A call of `update_project`, with its time. -/
structure UpdateCall where
  time : Nat
  ctx : ProjectsContext
  project : Project

/-- The database after a call, and the messages it sent. -/
def UpdateCall.run (call : UpdateCall) (db : Db) : Db × List Sent :=
  let after := ((updateProject call.ctx call.project).run db).2
  (after, (after.sent.drop db.sent.length).map fun message => ⟨call.time, message⟩)

/-- The database after a sequence of calls, and the messages they sent. -/
def runCalls : List UpdateCall → Db → Db × List Sent
  | [], db => (db, [])
  | call :: calls, db =>
    let rest := runCalls calls (call.run db).1
    (rest.1, (call.run db).2 ++ rest.2)

/-- The tasks among the messages. -/
def updatesOf (messages : List Sent) : List GroupsUpdate :=
  messages.filterMap fun s => groupsUpdate s.message.payload

/-- The last effect of a sequence of messages on the source `x` of the user `u` in the project `p`. -/
def lastUpdate (db : Db) (messages : List Sent) (u p x : String) : Option Bool :=
  lastOf ((updatesOf messages).map fun m => m.effect db u p x)

/-- The messages that the queue delivers, where it accepted `recent` before. -/
def delivered (sha256 : TaskPayload → String) (recent : List (Nat × String)) (messages : List Sent) :
    List Sent :=
  acceptedAfter (dedupeId sha256) recent messages

/-- The last delivered message with an effect does what the last sent one does, or no delivered one has
an effect and the last sent one alters nothing. -/
def LastsAgree (db : Db) (delivered sent : List Sent) (u p x : String) : Prop :=
  lastUpdate db delivered u p x = lastUpdate db sent u p x ∨
    lastUpdate db delivered u p x = none ∧
      ∃ inside, lastUpdate db sent u p x = some inside ∧ (x ∈ sources db u p ↔ inside = true)

/-- What the queue drops has the last word nowhere that the sent messages leave alone. -/
theorem lastUpdate_delivered_eq_none {sha256 : TaskPayload → String} {recent : List (Nat × String)}
    {messages : List Sent} {u x : String} (h : lastUpdate db messages u p x = none) :
    lastUpdate db (delivered sha256 recent messages) u p x = none := by
  have hsublist := acceptedAfter_sublist (dedupeId sha256) recent messages
  exact lastOf_eq_none_of_sublist ((hsublist.filterMap _).map _) h

/-- The sources after processing the tasks among some messages. -/
theorem sources_processed {messages : List Sent} {db db' : Db}
    (hrun : (processUpdates (updatesOf messages)).run db = (.ok ⟨⟩, db')) (u p x : String) :
    x ∈ sources db' u p ↔ decided (lastUpdate db messages u p x) (x ∈ sources db u p) := by
  have hdb : Rewritten db (fun u p x => x ∈ sources db u p) db := ⟨rfl, fun _ _ _ => Iff.rfl⟩
  exact ((triple_processUpdates (updatesOf messages)).of_ok hdb hrun).sources u p x

/-- The users `alice` and `bob`, and the enabled project `p1` of `bob`. -/
def bobsProject : Db :=
  { Db.empty with
    users := ((∅ : Table String UserRow).putItem "alice" plainUser).putItem "bob" plainUser
    projects := (∅ : Table String ProjectRow).putItem "p1"
      ⟨"project", some [], some ["bob"], some true, none⟩
    userProjects := (∅ : Table (String × String) (List String)).putItem ("bob", "p1") ["SELF"] }

/-- Sets in the order of the lists they were made of, and services that refuse nothing. -/
def acceptingProjects : ProjectsContext where
  setOrder := ⟨id, fun _ _ => Iff.rfl⟩
  budgetsGetBudget _ := .ok ()
  isValidScriptLocation _ := true
  isSecurityGroupAvailable _ := true
  isPolicyValid _ := true
  updateVdiRole _ _ _ := .ok ()

/-- A call that asks for new users of `p1`. -/
def askForUsers (time : Nat) (users : List String) : UpdateCall where
  time := time
  ctx := acceptingProjects
  project := { projectId := some "p1", users := some users }

/-- `alice` is added, removed, and added again after `pause` seconds. -/
def addRemoveAdd (pause : Nat) : List UpdateCall :=
  [askForUsers 0 ["bob", "alice"], askForUsers 10 ["bob"], askForUsers pause ["bob", "alice"]]

/-- The text of a task, which stands in for its hash here. -/
def bodyText (payload : TaskPayload) : String :=
  match groupsUpdate payload with
  | some m => ";".intercalate [payload.taskName, m.projectId, ",".intercalate m.groupsAdded,
      ",".intercalate m.groupsRemoved, ",".intercalate m.usersAdded, ",".intercalate m.usersRemoved]
  | none => payload.taskName

end ContainRes.Projects
