import ContainRes.Effects.Deciding
import ContainRes.Projects.Updates

/-! # The effects of the project tasks on one project

A task puts sources into the rows of its project and takes sources out. Seen as pairs of a user and a source
these are effects on a set, which happen in part when the task is broken off by an exception.

* **`ShowsSources`** — the set of the pairs of a user and a source in the rows of a project.
* **`namedPairs`** — the pairs that lists of groups and users name.
* **`decides_projectEnabled`**, **`decides_projectDisabled`**, **`decides_invokeGroupsUpdated`** — the effects
  of the three tasks. -/

namespace ContainRes.Projects

open Accounts Effects Store Text

/-! ## Pairs of a user and a source -/

/-- `s` is `db` with other rows in project-groups and user-projects, and `copy` says which users have which
sources in the project `p`. -/
structure ShowsSources (db : Db) (p : String) (copy : String × String → Prop) (s : Db) : Prop where
  frame : s = { db with projectGroups := s.projectGroups, userProjects := s.userProjects }
  sources : ∀ u x, x ∈ sources s u p ↔ copy (u, x)
  filled : ∀ u, s.userProjects.getItem (u, p) ≠ some []

/-- The members of a group, with the group. -/
def memberPairs (db : Db) (g : String) : List (String × String) :=
  (GroupMembersDao.usernames db g).map fun u => (u, g)

/-- The users of a list, with `SELF`. -/
def userPairs (users : List String) : List (String × String) := users.map fun u => (u, "SELF")

/-- The pairs that lists of groups and users name. -/
def namedPairs (db : Db) (groups users : List String) : List (String × String) :=
  groups.flatMap (memberPairs db) ++ userPairs users

variable {db : Db} {p u g x : String} {copy : String × String → Prop} {s : Db}

@[simp] theorem mem_memberPairs : (u, x) ∈ memberPairs db g ↔ x = g ∧ db.IsMember g u := by
  simp only [memberPairs, List.mem_map, GroupMembersDao.mem_usernames, Prod.mk.injEq]
  constructor
  · rintro ⟨u', hu', rfl, rfl⟩
    exact ⟨rfl, hu'⟩
  · rintro ⟨rfl, hu⟩
    exact ⟨u, hu, rfl, rfl⟩

@[simp] theorem mem_userPairs {users : List String} : (u, x) ∈ userPairs users ↔ x = "SELF" ∧ u ∈ users := by
  simp only [userPairs, List.mem_map, Prod.mk.injEq]
  constructor
  · rintro ⟨u', hu', rfl, rfl⟩
    exact ⟨rfl, hu'⟩
  · rintro ⟨rfl, hu⟩
    exact ⟨u, hu, rfl, rfl⟩

@[simp] theorem mem_namedPairs {groups users : List String} :
    (u, x) ∈ namedPairs db groups users ↔ Names db groups users u x := by
  simp only [namedPairs, List.mem_append, List.mem_flatMap, mem_memberPairs, mem_userPairs, Names]
  rw [or_comm]
  refine or_congr Iff.rfl ?_
  constructor
  · rintro ⟨g, hg, rfl, hm⟩
    exact ⟨hg, hm⟩
  · rintro ⟨hx, hm⟩
    exact ⟨x, hx, rfl, hm⟩

/-! ## The rows of one user -/

theorem filled_grant (hfilled : ∀ u, s.userProjects.getItem (u, p) ≠ some []) (u' : String) :
    (s.grant p u [g]).userProjects.getItem (u', p) ≠ some [] := by
  intro hrow
  simp only [Db.grant, Table.getItem_putItem] at hrow
  split at hrow
  · have hmem : g ∈ ([] : List String) := by
      rw [← Option.some.inj hrow]
      cases s.userProjects.getItem (u, p) <;> simp
    cases hmem
  · exact hfilled u' hrow

theorem filled_revoke (hfilled : ∀ u, s.userProjects.getItem (u, p) ≠ some []) (u' : String) :
    (s.revoke p u [g]).userProjects.getItem (u', p) ≠ some [] := by
  intro hrow
  unfold Db.revoke at hrow
  rcases hold : s.userProjects.getItem (u, p) with _ | existing
  · rw [hold] at hrow
    exact hfilled u' hrow
  · simp only [hold] at hrow
    split at hrow
    · rw [Table.getItem_deleteItem] at hrow
      split at hrow
      · cases hrow
      · exact hfilled u' hrow
    · rename_i hleft
      rw [Table.getItem_putItem] at hrow
      split at hrow
      · exact hleft (Option.some.inj hrow)
      · exact hfilled u' hrow

/-- A change of user-projects after changes of it and of project-groups. -/
theorem frame_rows {t : Db} (h : s = { db with projectGroups := s.projectGroups, userProjects := s.userProjects })
    (ht : t = { s with userProjects := t.userProjects }) :
    t = { db with projectGroups := t.projectGroups, userProjects := t.userProjects } := by
  rw [ht, h]

/-- A user is given a source. -/
theorem ShowsSources.grant (h : ShowsSources db p copy s) :
    ShowsSources db p (fun y => decided (lastOf (sets true [(u, g)] y)) (copy y)) (s.grant p u [g]) := by
  refine ⟨?_, fun u' x => ?_, filled_grant h.filled⟩
  · exact frame_rows h.frame rfl
  · rw [mem_sources_grant, h.sources, lastOf_sets]
    by_cases hy : (u', x) ∈ [(u, g)]
    · rw [if_pos hy, decided_some]
      rw [List.mem_singleton, Prod.mk.injEq] at hy
      exact iff_of_true (.inr ⟨⟨hy.1, rfl⟩, by rw [hy.2]; exact List.mem_cons_self⟩) rfl
    · rw [if_neg hy, decided_none]
      rw [List.mem_singleton, Prod.mk.injEq] at hy
      rw [List.mem_singleton]
      exact or_iff_left fun hboth => hy ⟨hboth.1.1, hboth.2⟩

/-- A source is taken from a user. -/
theorem ShowsSources.revoke (h : ShowsSources db p copy s) :
    ShowsSources db p (fun y => decided (lastOf (sets false [(u, g)] y)) (copy y)) (s.revoke p u [g]) := by
  refine ⟨?_, fun u' x => ?_, filled_revoke h.filled⟩
  · exact frame_rows h.frame (revoke_frame s p u [g])
  · rw [mem_sources_revoke, h.sources, lastOf_sets]
    by_cases hy : (u', x) ∈ [(u, g)]
    · rw [if_pos hy, decided_some]
      rw [List.mem_singleton, Prod.mk.injEq] at hy
      refine iff_of_false (fun hboth => hboth.2 ⟨⟨hy.1, rfl⟩, ?_⟩) Bool.false_ne_true
      rw [hy.2]
      exact List.mem_cons_self
    · rw [if_neg hy, decided_none]
      rw [List.mem_singleton, Prod.mk.injEq] at hy
      rw [List.mem_singleton]
      exact and_iff_left fun hboth => hy ⟨hboth.1.1, hboth.2⟩

theorem decides_createUserProject (p u g : String) :
    Decides (ShowsSources db p) (sets true [(u, g)]) (UserProjectsDao.createUserProject p u [g]) :=
  Decides.bind_any (reads_requireNotEmpty _ _) fun _ => Decides.bind_any (reads_requireNotEmpty _ _) fun _ =>
    Decides.modify fun _ _ hs => hs.grant

theorem decides_deleteUserProject (p u g : String) :
    Decides (ShowsSources db p) (sets false [(u, g)]) (UserProjectsDao.deleteUserProject p u [g]) := by
  refine Decides.bind_any (reads_requireNotEmpty _ _) fun _ =>
    Decides.bind_any (reads_requireNotEmpty _ _) fun _ => Decides.bind_any ?_ fun project => ?_
  · exact Reads.bind (reads_requireNotEmpty _ _) fun _ => Reads.gets _
  · rcases project with _ | project
    · exact Decides.raise _ _
    · refine Decides.bind_any (reads_getUser _) fun user => ?_
      rcases user with _ | user
      · exact Decides.raise _ _
      · exact Decides.modify fun _ _ hs => hs.revoke

/-! ## Groups, and whole tasks -/

theorem ShowsSources.setProjectGroups (h : ShowsSources db p copy s) (projectGroups : Table (String × String) Unit) :
    ShowsSources db p copy { s with projectGroups := projectGroups } :=
  ⟨by rw [h.frame], h.sources, h.filled⟩

/-- The members of a group are the same in every state that is shown. -/
theorem usernames_of_getUsernamesInGroup {t : Db} {usernames : List String} (h : ShowsSources db p copy s)
    (hrun : (GroupMembersDao.getUsernamesInGroup g).run s = (.ok usernames, t)) :
    usernames = GroupMembersDao.usernames db g := by
  rcases hg : isEmpty g with _ | _
  · rw [GroupMembersDao.run_getUsernamesInGroup hg] at hrun
    cases hrun
    rw [h.frame]
    rfl
  · rw [GroupMembersDao.getUsernamesInGroup, Proc.run_bind_of_error (run_requireNotEmpty_of_isEmpty hg _ s)] at hrun
    cases hrun

theorem reads_getUsernames (g : String) : Reads (GroupMembersDao.getUsernamesInGroup g) :=
  Reads.bind (reads_requireNotEmpty _ _) fun _ => Reads.gets _

/-- One effect for each member of a group. -/
theorem decides_members {f : String → DbProc PUnit} {inside : Bool}
    (hf : ∀ u, Decides (ShowsSources db p) (sets inside [(u, g)]) (f u)) :
    Decides (ShowsSources db p) (sets inside (memberPairs db g))
      (GroupMembersDao.getUsernamesInGroup g >>= fun usernames => Proc.forEach f usernames) := by
  refine Decides.bind_reads (R := fun usernames => usernames = GroupMembersDao.usernames db g)
    (reads_getUsernames g) (fun _ _ _ _ hs hrun => usernames_of_getUsernamesInGroup hs hrun) ?_
  rintro _ rfl
  refine (Decides.sets_forEach fun u _ => hf u).sets_congr fun y => ?_
  rw [memberPairs, List.mem_flatMap, List.mem_map]
  simp only [List.mem_singleton, eq_comm]

/-- One effect for each user of a list. -/
theorem decides_users {f : String → DbProc PUnit} {inside : Bool}
    (hf : ∀ u, Decides (ShowsSources db p) (sets inside [(u, "SELF")]) (f u)) (users : List String) :
    Decides (ShowsSources db p) (sets inside (userPairs users)) (Proc.forEach f users) := by
  refine (Decides.sets_forEach fun u _ => hf u).sets_congr fun y => ?_
  rw [userPairs, List.mem_flatMap, List.mem_map]
  simp only [List.mem_singleton, eq_comm]

theorem decides_ldapGroupAdded (p g : String) :
    Decides (ShowsSources db p) (sets true (memberPairs db g)) (UserProjectsDao.ldapGroupAdded p g) :=
  Decides.bind_any (reads_requireNotEmpty _ _) fun _ => Decides.bind_any (reads_requireNotEmpty _ _) fun _ =>
    Decides.bind_none (Decides.modify fun _ _ hs => hs.setProjectGroups _) fun _ =>
      decides_members fun u => decides_createUserProject p u g

theorem decides_ldapGroupRemoved (p g : String) :
    Decides (ShowsSources db p) (sets false (memberPairs db g)) (UserProjectsDao.ldapGroupRemoved p g) :=
  Decides.bind_any (reads_requireNotEmpty _ _) fun _ => Decides.bind_any (reads_requireNotEmpty _ _) fun _ =>
    Decides.bind_none (Decides.modify fun _ _ hs => hs.setProjectGroups _) fun _ =>
      decides_members fun u => decides_deleteUserProject p u g

/-- The project that a task reads is the stored one. -/
theorem row_of_getProject {t : Db} {row : ProjectRow} (h : ShowsSources db p copy s)
    (hrun : (UserProjectsDao.getProject p).run s = (.ok row, t)) : db.projects.getItem p = some row := by
  have hprojects : s.projects = db.projects := by rw [h.frame]
  unfold UserProjectsDao.getProject ProjectsDao.getProjectById at hrun
  rw [← hprojects]
  rcases hp : isEmpty p with _ | _
  · simp only [Proc.run_bind, run_requireNotEmpty, hp, Bool.false_eq_true, if_false, Proc.run_gets] at hrun
    rcases hrow : s.projects.getItem p with _ | row' <;> rw [hrow] at hrun <;> cases hrun
    rfl
  · simp only [Proc.run_bind, run_requireNotEmpty, hp, if_true] at hrun
    cases hrun

theorem reads_getProject (p : String) : Reads (UserProjectsDao.getProject p) := by
  refine Reads.bind (Reads.bind (reads_requireNotEmpty _ _) fun _ => Reads.gets _) fun row => ?_
  rcases row with _ | row
  · exact Reads.raise _
  · exact Reads.pure _

/-- The effects of `project_enabled`. -/
theorem decides_projectEnabled (p : String) : Decides (ShowsSources db p)
    (sets true (namedPairs db (groupsOf db.projects p) (usersOf db.projects p)))
    (UserProjectsDao.projectEnabled p) := by
  refine Decides.bind_any (reads_requireNotEmpty _ _) fun _ => Decides.bind_reads
    (R := fun row => db.projects.getItem p = some row) (reads_getProject p)
    (fun _ _ _ _ hs hrun => row_of_getProject hs hrun) fun row hrow => ?_
  rcases hgroups : row.ldapGroups with _ | groups
  · exact Decides.raise _ _
  · have hG : groupsOf db.projects p = groups := by simp [groupsOf, hrow, hgroups]
    have hU : usersOf db.projects p = row.users.getD [] := by simp [usersOf, hrow]
    rw [hG, hU]
    show Decides _ _ (Proc.forEach (UserProjectsDao.ldapGroupAdded p) groups >>= fun _ =>
      Proc.forEach (fun u => UserProjectsDao.createUserProject p u ["SELF"]) (row.users.getD []))
    exact Decides.sets_bind (Decides.sets_forEach fun g _ => decides_ldapGroupAdded p g) fun _ =>
      decides_users (fun u => decides_createUserProject p u "SELF") _

/-- The effects of `project_disabled`. -/
theorem decides_projectDisabled (p : String) : Decides (ShowsSources db p)
    (sets false (namedPairs db (groupsOf db.projects p) (usersOf db.projects p)))
    (UserProjectsDao.projectDisabled p) := by
  refine Decides.bind_any (reads_requireNotEmpty _ _) fun _ => Decides.bind_reads
    (R := fun row => db.projects.getItem p = some row) (reads_getProject p)
    (fun _ _ _ _ hs hrun => row_of_getProject hs hrun) fun row hrow => ?_
  rcases hgroups : row.ldapGroups with _ | groups
  · exact Decides.raise _ _
  · rcases husers : row.users with _ | users
    · exact Decides.raise _ _
    · have hG : groupsOf db.projects p = groups := by simp [groupsOf, hrow, hgroups]
      have hU : usersOf db.projects p = users := by simp [usersOf, hrow, husers]
      rw [hG, hU]
      show Decides _ _ (Proc.forEach (UserProjectsDao.ldapGroupRemoved p) groups >>= fun _ =>
        Proc.forEach (fun u => UserProjectsDao.deleteUserProject p u ["SELF"]) users)
      exact Decides.sets_bind (Decides.sets_forEach fun g _ => decides_ldapGroupRemoved p g) fun _ =>
        decides_users (fun u => decides_deleteUserProject p u "SELF") _

/-- The effects of the loop of `ProjectGroupsUpdatedTask` over the removed groups, each of which is followed by
a refresh with what is stored. -/
theorem decides_removeAndRefresh (p : String) (groups : List String) : Decides (ShowsSources db p)
    (fun y => groups.flatMap fun g => sets false (memberPairs db g) y ++
      sets true (namedPairs db (groupsOf db.projects p) (usersOf db.projects p)) y) (Proc.forEach (fun g => do
      UserProjectsDao.ldapGroupRemoved p g
      UserProjectsDao.projectEnabled p) groups) :=
  Decides.forEach fun g _ => Decides.bind (decides_ldapGroupRemoved p g) fun _ => decides_projectEnabled p

/-- The effects of `ProjectGroupsUpdatedTask` for an enabled project. -/
theorem decides_invokeGroupsUpdated (groupsAdded groupsRemoved usersAdded usersRemoved : List String)
    (henabled : isEnabled db.projects p = true) : Decides (ShowsSources db p)
    (fun y => sets false (userPairs usersRemoved) y ++
      ((groupsRemoved.flatMap fun g => sets false (memberPairs db g) y ++
        sets true (namedPairs db (groupsOf db.projects p) (usersOf db.projects p)) y) ++
      (sets true (userPairs usersAdded) y ++ sets true (groupsAdded.flatMap (memberPairs db)) y)))
    (invokeGroupsUpdated p groupsAdded groupsRemoved usersAdded usersRemoved) := by
  refine Decides.bind_reads (R := fun row => db.projects.getItem p = some row) (reads_getProject p)
    (fun _ _ _ _ hs hrun => row_of_getProject hs hrun) fun row hrow => ?_
  have hon : row.enabled = some true := by
    rw [isEnabled, hrow, Option.bind_some] at henabled
    rcases hflag : row.enabled with _ | enabled <;> rw [hflag] at henabled
    · cases henabled
    · exact congrArg some henabled
  simp only [hon, Proc.when, if_true]
  exact Decides.bind (decides_users (fun u => decides_deleteUserProject p u "SELF") _) fun _ =>
    Decides.bind (decides_removeAndRefresh p _) fun _ =>
    Decides.bind (decides_users (fun u => decides_createUserProject p u "SELF") _) fun _ =>
      Decides.sets_forEach fun g _ => decides_ldapGroupAdded p g

/-- `ProjectGroupsUpdatedTask` does nothing while its project is disabled. -/
theorem reads_invokeGroupsUpdated (groupsAdded groupsRemoved usersAdded usersRemoved : List String)
    (hdisabled : isEnabled db.projects p = false) : Decides (ShowsSources db p) (fun _ => [])
    (invokeGroupsUpdated p groupsAdded groupsRemoved usersAdded usersRemoved) := by
  refine Decides.bind_reads (R := fun row => db.projects.getItem p = some row) (reads_getProject p)
    (fun _ _ _ _ hs hrun => row_of_getProject hs hrun) fun row hrow => ?_
  rw [isEnabled, hrow, Option.bind_some] at hdisabled
  rcases hflag : row.enabled with _ | enabled
  · exact Decides.raise _ _
  · rw [hflag, Option.getD_some] at hdisabled
    simp only [hdisabled, Proc.when, Bool.false_eq_true, if_false]
    exact Decides.pure _

/-- A loop that takes elements out and refreshes the rest. -/
theorem lastOf_removeAndRefresh {ι γ : Type} [DecidableEq ι] (out : γ → List ι) (stored : List ι) (bs : List γ)
    (y : ι) : lastOf (bs.flatMap fun b => sets false (out b) y ++ sets true stored y) =
      if bs ≠ [] ∧ y ∈ stored then some true else if y ∈ bs.flatMap out then some false else none := by
  induction bs with
  | nil => simp [lastOf]
  | cons b bs ih =>
    rw [List.flatMap_cons, lastOf_append, lastOf_append, ih, lastOf_sets, lastOf_sets]
    by_cases hstored : y ∈ stored
    · by_cases hbs : bs = [] <;> simp [hstored, hbs]
    · by_cases hb : y ∈ out b <;> by_cases hbs : ∃ b' ∈ bs, y ∈ out b' <;> simp [hstored, hb, hbs]

/-- The effects of an update with a refresh are one change. -/
theorem decided_updateAndRefresh {ι : Type} [DecidableEq ι] (groupsIn usersIn groupsOut usersOut stored : List ι)
    (refreshes : Prop) [Decidable refreshes] (y : ι) (before : Prop) :
    decided ((((if y ∈ groupsIn then some true else none).or (if y ∈ usersIn then some true else none)).or
        (if refreshes ∧ y ∈ stored then some true else if y ∈ groupsOut then some false else none)).or
        (if y ∈ usersOut then some false else none)) before ↔
      decided ((Change.update (groupsIn ++ usersIn) (groupsOut ++ usersOut)).effect stored y) before ∨
        refreshes ∧ y ∈ stored := by
  rw [Change.effect]
  simp only [List.mem_append]
  by_cases hrefreshed : refreshes ∧ y ∈ stored
  · by_cases hgroups : y ∈ groupsIn <;> by_cases husers : y ∈ usersIn <;> simp [hgroups, husers, hrefreshed]
  · rw [if_neg hrefreshed, or_iff_left hrefreshed]
    by_cases hgroups : y ∈ groupsIn
    · simp [hgroups]
    · by_cases husers : y ∈ usersIn
      · simp [hgroups, husers]
      · by_cases hout : y ∈ groupsOut <;> simp [hgroups, husers, hout]

/-! ## Tasks as changes of the set of pairs -/

/-- What a task does to the pairs of a user and a source of its project. -/
def ProjectTask.change (db : Db) : ProjectTask → Change (String × String)
  | .projectEnabled => .fill
  | .projectDisabled => .clear
  | .projectGroupsUpdated groupsAdded groupsRemoved usersAdded usersRemoved =>
    .update (namedPairs db groupsAdded usersAdded) (namedPairs db groupsRemoved usersRemoved)

/-- The pairs that the stored lists of a project name. -/
def storedPairs (db : Db) (p : String) : List (String × String) :=
  namedPairs db (groupsOf db.projects p) (usersOf db.projects p)

/-- **One delivery of a task** that is not skipped: where it returns it is a change of the pairs, with a refresh
if it removes a group, and where it raises it has altered no other pair except as a refresh does. -/
theorem triple_deliver (task : ProjectTask) (henabled : task.NeedsEnabled → isEnabled db.projects p = true) :
    Triple (ShowsSources db p copy) (task.invoke p) (fun _ s => ∃ copy', ShowsSources db p copy' s ∧ ∀ y, copy' y ↔
        decided ((task.change db).effect (storedPairs db p) y) (copy y) ∨ task.Refreshes ∧ y ∈ storedPairs db p)
      (fun _ s => ∃ copy', ShowsSources db p copy' s ∧ ∀ y, (task.change db).effect (storedPairs db p) y = none →
          (copy' y → copy y ∨ task.Refreshes ∧ y ∈ storedPairs db p) ∧ (copy y → copy' y)) := by
  cases task with
  | projectEnabled =>
    refine (decides_projectEnabled p copy).conseq (fun _ hs => hs) (fun _ s hs => ⟨_, hs, fun y => ?_⟩)
      fun _ s hs => ?_
    · show decided (lastOf (sets true (storedPairs db p) y)) (copy y) ↔ _
      rw [lastOf_sets]
      by_cases hy : y ∈ storedPairs db p <;> simp [ProjectTask.change, ProjectTask.Refreshes, Change.effect, hy]
    · obtain ⟨copy', hshows, hbetween⟩ := hs
      refine ⟨copy', hshows, fun y hnone => ?_⟩
      have hy : y ∉ storedPairs db p := by simpa [ProjectTask.change, Change.effect] using hnone
      refine ⟨fun h => ?_, fun h => ?_⟩
      · exact ((hbetween y).1 h).imp_right fun hin => absurd (some_mem_sets.mp hin).2 hy
      · exact ((hbetween y).2 h).resolve_right fun hin => by simpa using (some_mem_sets.mp hin).1
  | projectDisabled =>
    refine (decides_projectDisabled p copy).conseq (fun _ hs => hs) (fun _ s hs => ⟨_, hs, fun y => ?_⟩)
      fun _ s hs => ?_
    · show decided (lastOf (sets false (storedPairs db p) y)) (copy y) ↔ _
      rw [lastOf_sets]
      by_cases hy : y ∈ storedPairs db p <;> simp [ProjectTask.change, ProjectTask.Refreshes, Change.effect, hy]
    · obtain ⟨copy', hshows, hbetween⟩ := hs
      refine ⟨copy', hshows, fun y hnone => ?_⟩
      have hy : y ∉ storedPairs db p := by simpa [ProjectTask.change, Change.effect] using hnone
      refine ⟨fun h => ?_, fun h => ?_⟩
      · exact ((hbetween y).1 h).imp_right fun hin => by simpa using (some_mem_sets.mp hin).1
      · exact ((hbetween y).2 h).resolve_right fun hin => absurd (some_mem_sets.mp hin).2 hy
  | projectGroupsUpdated groupsAdded groupsRemoved usersAdded usersRemoved =>
    refine (decides_invokeGroupsUpdated groupsAdded groupsRemoved usersAdded usersRemoved
      (henabled trivial) copy).conseq (fun _ hs => hs) (fun _ s hs => ⟨_, hs, fun y => ?_⟩) fun _ s hs => ?_
    · rw [lastOf_append, lastOf_append, lastOf_append, lastOf_removeAndRefresh, lastOf_sets, lastOf_sets, lastOf_sets]
      exact decided_updateAndRefresh _ _ _ _ _ _ _ _
    · obtain ⟨copy', hshows, hbetween⟩ := hs
      refine ⟨copy', hshows, fun y hnone => ?_⟩
      obtain ⟨hadded, hremoved⟩ : y ∉ namedPairs db groupsAdded usersAdded ∧
          y ∉ namedPairs db groupsRemoved usersRemoved := Change.effect_update_eq_none.mp hnone
      simp only [namedPairs, List.mem_append, not_or] at hadded hremoved
      refine ⟨fun h => ?_, fun h => ?_⟩
      · refine ((hbetween y).1 h).imp_right fun hin => ?_
        simp only [List.mem_append, List.mem_flatMap, some_mem_sets, hadded, and_false, or_false, false_or,
          Bool.true_eq_false, false_and, true_and] at hin
        obtain ⟨g, hg, hstored⟩ := hin
        exact ⟨List.ne_nil_of_mem hg, hstored⟩
      · refine ((hbetween y).2 h).resolve_right fun hin => ?_
        simp only [List.mem_append, List.mem_flatMap, some_mem_sets, hremoved, and_false, or_false, false_or,
          Bool.false_eq_true, false_and, true_and] at hin
        obtain ⟨g, hg, hstored⟩ := hin
        exact hremoved.1 (List.mem_flatMap.mpr ⟨g, hg, hstored⟩)

end ContainRes.Projects
