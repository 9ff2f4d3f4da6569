import Mathlib.Logic.Function.Basic
import ContainRes.Accounts.ServiceSpec
import ContainRes.Projects.ProjectTasks

/-! # Provenance of project access

A row of user-projects lists the sources of a user's access to a project: `SELF`, and the groups through
which it has access. This file says which rows the account operations and the project tasks leave.

* **`Db.sources`** — the sources of a user in a project.
* **`Resourced`** — a change of user-projects only, with the sources it leads to.
* **`Provenance`** — the sources are those of given lists of groups and users of every project. It is an
  invariant of the membership operations, and the tasks change the lists (`triple_projectEnabled`, …). -/

namespace ContainRes.Projects

open Accounts Effects Store Text

/-! ## Sources -/

/-- The sources of a user in a project; none without a row. -/
def sources (db : Db) (username projectId : String) : List String :=
  (db.userProjects.getItem (username, projectId)).getD []

/-- No row of user-projects is without sources. -/
def RowsFilled (db : Db) : Prop := ∀ key, db.userProjects.getItem key ≠ some []

variable {db : Db}

/-- There is a row exactly where there is a source. -/
theorem has_iff_sources (h : RowsFilled db) {u p : String} : db.userProjects.Has (u, p) ↔ ∃ x, x ∈ sources db u p := by
  rw [Table.has_iff]
  constructor
  · rintro ⟨row, hrow⟩
    obtain ⟨x, hx⟩ : ∃ x, x ∈ row := by
      refine List.exists_mem_of_ne_nil row ?_
      rintro rfl
      exact h (u, p) hrow
    exact ⟨x, by rwa [sources, hrow]⟩
  · rintro ⟨x, hx⟩
    rcases hrow : db.userProjects.getItem (u, p) with _ | row
    · rw [sources, hrow] at hx
      cases hx
    · exact ⟨row, rfl⟩

variable {byLdaps : List String}

@[simp] theorem mem_sources_grant {p p' u u' x : String} :
    x ∈ sources (db.grant p u byLdaps) u' p' ↔ x ∈ sources db u' p' ∨ (u' = u ∧ p' = p) ∧ x ∈ byLdaps := by
  unfold sources Db.grant
  simp only [Table.getItem_putItem, Prod.mk.injEq]
  by_cases hkey : u' = u ∧ p' = p
  · obtain ⟨rfl, rfl⟩ := hkey
    cases db.userProjects.getItem (u', p') <;> simp
  · simp [hkey]

theorem getItem_revoke_of_ne {p p' u u' : String} (byLdaps : List String) (h : (u', p') ≠ (u, p)) :
    (db.revoke p u byLdaps).userProjects.getItem (u', p') = db.userProjects.getItem (u', p') := by
  unfold Db.revoke
  split
  · rfl
  · dsimp only
    split
    · rw [Table.getItem_deleteItem_of_ne _ h]
    · rw [Table.getItem_putItem_of_ne _ _ h]

theorem revoke_frame (db : Db) (p u : String) (byLdaps : List String) : db.revoke p u byLdaps =
      { db with userProjects := (db.revoke p u byLdaps).userProjects } := by
  unfold Db.revoke
  split <;> rfl

@[simp] theorem mem_sources_revoke {p p' u u' x : String} :
    x ∈ sources (db.revoke p u byLdaps) u' p' ↔ x ∈ sources db u' p' ∧ ¬ ((u' = u ∧ p' = p) ∧ x ∈ byLdaps) := by
  by_cases hkey : u' = u ∧ p' = p
  · obtain ⟨rfl, rfl⟩ := hkey
    unfold sources Db.revoke
    rcases hrow : db.userProjects.getItem (u', p') with _ | existing
    · simp [hrow]
    · by_cases hleft : existing.dedup.filter (fun source => source ∉ byLdaps) = []
      · have hall := List.filter_eq_nil_iff.mp hleft
        simp only [hleft, if_true, Table.getItem_deleteItem_self]
        simpa using hall x
      · simp only [hleft, if_false, Table.getItem_putItem_self]
        simp
  · rw [sources, getItem_revoke_of_ne _ (by simpa using hkey), sources]
    simp [hkey]

theorem RowsFilled.grant (h : RowsFilled db) {p u : String}
    (hne : byLdaps ≠ []) : RowsFilled (db.grant p u byLdaps) := by
  intro key hrow
  have hother := h key
  simp only [Db.grant, Table.getItem_putItem] at hrow
  split at hrow
  · obtain ⟨x, hx⟩ := List.exists_mem_of_ne_nil byLdaps hne
    have hmem : x ∈ ([] : List String) := by
      rw [← Option.some.inj hrow]
      cases db.userProjects.getItem (u, p) <;> simp [hx]
    cases hmem
  · exact hother hrow

theorem RowsFilled.revoke (h : RowsFilled db) {p u : String} : RowsFilled (db.revoke p u byLdaps) := by
  intro key hrow
  unfold Db.revoke at hrow
  rcases hold : db.userProjects.getItem (u, p) with _ | existing
  · rw [hold] at hrow
    exact h key hrow
  · simp only [hold] at hrow
    split at hrow
    · rw [Table.getItem_deleteItem] at hrow
      split at hrow
      · cases hrow
      · exact h key hrow
    · rename_i hleft
      rw [Table.getItem_putItem] at hrow
      split at hrow
      · exact hleft (Option.some.inj hrow)
      · exact h key hrow

/-! ## Changes of user-projects only -/

/-- `db'` is `db` with other rows in user-projects, and `S` says which sources they list. -/
structure Resourced (db : Db) (S : String → String → String → Prop) (db' : Db) : Prop where
  frame : db' = { db with userProjects := db'.userProjects }
  sources : ∀ u p x, x ∈ sources db' u p ↔ S u p x
  filled : RowsFilled db → RowsFilled db'

theorem frame_trans {db s t : Db} (h : s = { db with userProjects := s.userProjects })
    (h' : t = { s with userProjects := t.userProjects }) :
    t = { db with userProjects := t.userProjects } := by
  rw [h', h]

theorem Resourced.refl (db : Db) {S : String → String → String → Prop}
    (h : ∀ u p x, x ∈ Projects.sources db u p ↔ S u p x) : Resourced db S db :=
  ⟨rfl, h, id⟩

theorem Resourced.congr {db db' : Db} {S S' : String → String → String → Prop}
    (h : Resourced db S db') (hiff : ∀ u p x, S u p x ↔ S' u p x) : Resourced db S' db' :=
  ⟨h.frame, fun u p x => (h.sources u p x).trans (hiff u p x), h.filled⟩

/-- An exception that a caller of the account operations may catch and go on after. -/
def Caught (e : Exc) : Prop :=
  e.errorCode = some .authGroupNotFound ∨ e.errorCode = some .authUserIsDisabled

theorem not_caught_invalidParams (info : String) : ¬ Caught (.invalidParams info) := by
  simp [Caught, Exc.invalidParams, Exc.errorCode]

theorem run_createUserProject (projectId username : String) (byLdaps : List String) (db : Db) :
    (UserProjectsDao.createUserProject projectId username byLdaps).run db =
      if isEmpty projectId then (.error (.invalidParams "project_id is required"), db)
      else if isEmpty username then (.error (.invalidParams "username is required"), db)
      else (.ok ⟨⟩, db.grant projectId username byLdaps) := by
  rcases hp : isEmpty projectId with _ | _ <;> rcases hu : isEmpty username with _ | _ <;>
    simp [UserProjectsDao.createUserProject, Proc.run_bind, hp, hu]

variable {β : Type} {db : Db} {S : String → String → String → Prop} {g p : String}

/-- A loop of `create_user_project` over given pairs of projects and users grants each of them the
sources; it raises only on a blank key. -/
theorem triple_createUserProjects (projectId username : β → String)
    (hne : byLdaps ≠ []) (bs : List β) : Triple (Resourced db S) (Proc.forEach (fun b =>
        UserProjectsDao.createUserProject (projectId b) (username b) byLdaps) bs) (fun _ => Resourced db fun u p x =>
        S u p x ∨ (∃ b ∈ bs, u = username b ∧ p = projectId b) ∧ x ∈ byLdaps) (fun e _ => ¬ Caught e ∧
        ∃ b ∈ bs, isEmpty (projectId b) = true ∨ isEmpty (username b) = true) := by
  refine Triple.conseq (Triple.forEach_done (fun done => Resourced db fun u p x =>
    S u p x ∨ (∃ b ∈ done, u = username b ∧ p = projectId b) ∧ x ∈ byLdaps)
    fun done b rest hsplit => ?_) (fun s hs => hs.congr fun u p x => by simp) (fun _ _ h => h)
    fun _ _ h => h
  have hb : b ∈ bs := by
    rw [hsplit]
    simp
  intro s hs
  rw [run_createUserProject]
  rcases hp : isEmpty (projectId b) with _ | _
  · rcases hu : isEmpty (username b) with _ | _
    · refine ⟨frame_trans hs.frame rfl, fun u p x => ?_, fun hfilled => (hs.filled hfilled).grant hne⟩
      rw [mem_sources_grant, hs.sources, or_assoc, ← or_and_right]
      simp only [List.mem_append, List.mem_singleton, or_and_right, exists_or, exists_eq_left]
    · exact ⟨not_caught_invalidParams _, b, hb, .inr hu⟩
  · exact ⟨not_caught_invalidParams _, b, hb, .inl hp⟩

/-- `delete_user_project` takes the sources from the user, or raises an exception nobody catches. -/
theorem triple_deleteUserProject (projectId username : String) (byLdaps : List String) :
    Triple (Resourced db S) (UserProjectsDao.deleteUserProject projectId username byLdaps)
      (fun _ => Resourced db fun u p x => S u p x ∧ ¬ ((u = username ∧ p = projectId) ∧ x ∈ byLdaps))
      (fun e _ => ¬ Caught e) := by
  intro s hs
  unfold UserProjectsDao.deleteUserProject ProjectsDao.getProjectById
  simp only [Proc.run_bind, run_requireNotEmpty]
  rcases hp : isEmpty projectId with _ | _
  · rcases hu : isEmpty username with _ | _
    · simp only [Bool.false_eq_true, if_false, Proc.run_gets]
      rcases s.projects.getItem projectId with _ | project
      · simp [Caught, Exc.errorCode]
      · simp only [Proc.run_bind, UserDao.run_getUser, hu, Bool.false_eq_true, if_false]
        rcases s.users.getItem (sanitized username) with _ | user
        · simp [Caught, Exc.errorCode]
        · refine ⟨?_, fun u p x => ?_, fun hfilled => (hs.filled hfilled).revoke⟩
          · exact frame_trans hs.frame (revoke_frame s projectId username byLdaps)
          · show x ∈ sources (s.revoke projectId username byLdaps) u p ↔ _
            rw [mem_sources_revoke, hs.sources]
    · exact not_caught_invalidParams _
  · exact not_caught_invalidParams _

/-- A loop of `delete_user_project` over given pairs of projects and users. -/
theorem triple_deleteUserProjects (projectId username : β → String) (byLdaps : List String) (bs : List β) :
    Triple (Resourced db S) (Proc.forEach (fun b =>
        UserProjectsDao.deleteUserProject (projectId b) (username b) byLdaps) bs) (fun _ => Resourced db fun u p x =>
        S u p x ∧ ¬ ((∃ b ∈ bs, u = username b ∧ p = projectId b) ∧ x ∈ byLdaps)) (fun e _ => ¬ Caught e) := by
  refine Triple.conseq (Triple.forEach_done (fun done => Resourced db fun u p x =>
    S u p x ∧ ¬ ((∃ b ∈ done, u = username b ∧ p = projectId b) ∧ x ∈ byLdaps))
    fun done b rest hsplit => ?_) (fun s hs => hs.congr fun u p x => by simp) (fun _ _ h => h)
    fun _ _ h => h
  refine (triple_deleteUserProject (projectId b) (username b) byLdaps).conseq (fun _ hs => hs)
    (fun _ s hs => hs.congr fun u p x => ?_) fun _ _ h => h
  simp only [List.mem_append, List.mem_singleton, or_and_right, exists_or, exists_eq_left, not_or, and_assoc]

/-- The pairs of a project with each member of a group. -/
theorem exists_member_iff {s : Db} (g p u q : String) :
    (∃ b ∈ GroupMembersDao.usernames s g, u = id b ∧ q = p) ↔ s.IsMember g u ∧ q = p := by
  constructor
  · rintro ⟨b, hb, rfl, hq⟩
    exact ⟨GroupMembersDao.mem_usernames.mp hb, hq⟩
  · rintro ⟨hm, hq⟩
    exact ⟨u, GroupMembersDao.mem_usernames.mpr hm, rfl, hq⟩

/-- `ldap_group_added` maps the group to the project, and its members get it as a source. -/
theorem triple_ldapGroupAdded_of {P Q : Db → Prop} (h : ∀ s t, P s → isEmpty p = false → isEmpty g = false →
      Resourced { s with projectGroups := s.projectGroups.putItem (g, p) () }
        (fun u q x => x ∈ Projects.sources s u q ∨ (s.IsMember g u ∧ q = p) ∧ x = g) t → Q t) :
    Triple P (UserProjectsDao.ldapGroupAdded p g) (fun _ => Q) fun _ _ => True := by
  refine triple_requireNotEmpty (fun _ _ => trivial) fun hp =>
    triple_requireNotEmpty (fun _ _ => trivial) fun hg s hs => ?_
  rw [Proc.run_bind_of_ok (Proc.run_modify _ s), Proc.run_bind_of_ok (GroupMembersDao.run_getUsernamesInGroup hg _)]
  refine ((triple_createUserProjects (fun _ => p) id (List.cons_ne_nil g [])
    (GroupMembersDao.usernames s g)).conseq (fun _ h => h)
    (fun _ t ht => h s t hs hp hg (ht.congr fun u q x => ?_)) fun _ _ _ => trivial) _
    (Resourced.refl _ fun _ _ _ => Iff.rfl)
  rw [List.mem_singleton]
  exact or_congr Iff.rfl (and_congr (exists_member_iff g p u q) Iff.rfl)

/-- `ldap_group_removed` takes the group from the project, and as a source from its members. -/
theorem triple_ldapGroupRemoved_of {P Q : Db → Prop}
    (h : ∀ s t, P s → Resourced { s with projectGroups := s.projectGroups.deleteItem (g, p) }
      (fun u q x => x ∈ Projects.sources s u q ∧ ¬ ((s.IsMember g u ∧ q = p) ∧ x = g)) t → Q t) :
    Triple P (UserProjectsDao.ldapGroupRemoved p g) (fun _ => Q) fun _ _ => True := by
  refine triple_requireNotEmpty (fun _ _ => trivial) fun _ =>
    triple_requireNotEmpty (fun _ _ => trivial) fun hg s hs => ?_
  rw [Proc.run_bind_of_ok (Proc.run_modify _ s), Proc.run_bind_of_ok (GroupMembersDao.run_getUsernamesInGroup hg _)]
  refine ((triple_deleteUserProjects (fun _ => p) id [g] (GroupMembersDao.usernames s g)).conseq
    (fun _ h => h) (fun _ t ht => h s t hs (ht.congr fun u q x => ?_)) fun _ _ _ => trivial) _
    (Resourced.refl _ fun _ _ _ => Iff.rfl)
  rw [List.mem_singleton]
  exact and_congr Iff.rfl (not_congr (and_congr (exists_member_iff g p u q) Iff.rfl))

/-! ## A member more, a member less -/

theorem projectIds_frame {db s : Db} (h : s = { db with userProjects := s.userProjects })
    (groupName : String) :
    UserProjectsDao.projectIds s groupName = UserProjectsDao.projectIds db groupName := by
  rw [h]
  rfl

/-- `group_member_added` gives the user the group as a source in every project the group is mapped to;
it raises only on a blank key. -/
theorem triple_groupMemberAdded (db : Db) (g username : String) :
    Triple (Resourced db S) (UserProjectsDao.groupMemberAdded g username)
      (fun _ => Resourced db fun u p x => S u p x ∨ (u = username ∧ db.IsMapped g p) ∧ x = g)
      (fun e _ => ¬ Caught e ∧ (isEmpty g = true ∨ isEmpty username = true ∨
        ∃ p, db.IsMapped g p ∧ isEmpty p = true)) := by
  intro s hs
  rcases hg : isEmpty g with _ | _
  · rcases hu : isEmpty username with _ | _
    · rw [UserProjectsDao.run_groupMemberAdded hg hu, projectIds_frame hs.frame]
      refine ((triple_createUserProjects id (fun _ => username) (List.cons_ne_nil g [])
        (UserProjectsDao.projectIds db g)).conseq (fun _ h => h) (fun _ t ht => ht.congr ?_) ?_) s hs
      · intro u p x
        have hpairs : (∃ b ∈ UserProjectsDao.projectIds db g, u = username ∧ p = id b) ↔
            u = username ∧ db.IsMapped g p := by
          constructor
          · rintro ⟨b, hb, hu, rfl⟩
            exact ⟨hu, UserProjectsDao.mem_projectIds.mp hb⟩
          · rintro ⟨hu, hp⟩
            exact ⟨p, UserProjectsDao.mem_projectIds.mpr hp, hu, rfl⟩
        rw [hpairs, List.mem_singleton]
      · rintro e t ⟨hcaught, b, hb, hblank | hblank⟩
        · exact ⟨hcaught, .inr (.inr ⟨b, UserProjectsDao.mem_projectIds.mp hb, hblank⟩)⟩
        · rw [hu] at hblank
          cases hblank
    · rw [UserProjectsDao.groupMemberAdded, Proc.run_bind_of_ok (run_requireNotEmpty_of_not_isEmpty hg _ s),
        Proc.run_bind_of_error (run_requireNotEmpty_of_isEmpty hu _ s)]
      exact ⟨not_caught_invalidParams _, .inr (.inl rfl)⟩
  · rw [UserProjectsDao.groupMemberAdded, Proc.run_bind_of_error (run_requireNotEmpty_of_isEmpty hg _ s)]
    exact ⟨not_caught_invalidParams _, .inl rfl⟩

/-- `group_member_removed` takes the group from the sources of the user in every project the group is
mapped to. -/
theorem triple_groupMemberRemoved (db : Db) (g username : String) :
    Triple (Resourced db S) (UserProjectsDao.groupMemberRemoved g username)
      (fun _ => Resourced db fun u p x => S u p x ∧ ¬ ((u = username ∧ db.IsMapped g p) ∧ x = g))
      (fun e _ => ¬ Caught e) := by
  intro s hs
  rcases hg : isEmpty g with _ | _
  · rcases hu : isEmpty username with _ | _
    · rw [UserProjectsDao.run_groupMemberRemoved hg hu, projectIds_frame hs.frame]
      refine ((triple_deleteUserProjects id (fun _ => username) [g]
        (UserProjectsDao.projectIds db g)).conseq (fun _ h => h) (fun _ t ht => ht.congr ?_) fun _ _ h => h) s hs
      intro u p x
      have hpairs : (∃ b ∈ UserProjectsDao.projectIds db g, u = username ∧ p = id b) ↔
          u = username ∧ db.IsMapped g p := by
        constructor
        · rintro ⟨b, hb, hu, rfl⟩
          exact ⟨hu, UserProjectsDao.mem_projectIds.mp hb⟩
        · rintro ⟨hu, hp⟩
          exact ⟨p, UserProjectsDao.mem_projectIds.mpr hp, hu, rfl⟩
      rw [hpairs, List.mem_singleton]
    · rw [UserProjectsDao.groupMemberRemoved, Proc.run_bind_of_ok (run_requireNotEmpty_of_not_isEmpty hg _ s),
        Proc.run_bind_of_error (run_requireNotEmpty_of_isEmpty hu _ s)]
      exact not_caught_invalidParams _
  · rw [UserProjectsDao.groupMemberRemoved, Proc.run_bind_of_error (run_requireNotEmpty_of_isEmpty hg _ s)]
    exact not_caught_invalidParams _

/-- The loop of `group_member_removed` over the groups a user left. -/
theorem triple_groupMembersRemoved (db : Db) (username : String) (groupNames : List String) : Triple (Resourced db S)
      (Proc.forEach (fun g => UserProjectsDao.groupMemberRemoved g username) groupNames)
      (fun _ => Resourced db fun u p x => S u p x ∧ ¬ (u = username ∧ x ∈ groupNames ∧ db.IsMapped x p))
      (fun e _ => ¬ Caught e) := by
  refine Triple.conseq (Triple.forEach_done (fun done => Resourced db fun u p x =>
    S u p x ∧ ¬ (u = username ∧ x ∈ done ∧ db.IsMapped x p)) fun done g rest hsplit => ?_)
    (fun s hs => hs.congr fun u p x => by simp) (fun _ _ h => h) fun _ _ h => h
  refine (triple_groupMemberRemoved db g username).conseq (fun _ h => h)
    (fun _ s hs => hs.congr fun u p x => ?_) fun _ _ h => h
  have hlast : (u = username ∧ db.IsMapped g p) ∧ x = g ↔
      u = username ∧ x = g ∧ db.IsMapped x p := by
    constructor
    · rintro ⟨⟨hu, hp⟩, rfl⟩
      exact ⟨hu, rfl, hp⟩
    · rintro ⟨hu, rfl, hp⟩
      exact ⟨⟨hu, hp⟩, rfl⟩
  rw [hlast, and_assoc, ← not_or, ← and_or_left, ← or_and_right, List.mem_append, List.mem_singleton]

/-! ## The lists behind the provenance -/

/-- The provenance of the projects stored in `projects` is that of the groups `V p` and the users `W p`
of each project `p`: a user has access to `p` through `SELF` if it is one of the users, and through each
group it is a member of that is one of the groups. -/
structure Provenance (projects : Table String ProjectRow) (V W : String → String → Prop) (db : Db) :
    Prop where
  stored : db.projects = projects
  mapped : ∀ g p, db.IsMapped g p ↔ V p g
  named : ∀ p g, V p g → g ≠ "SELF" ∧ isEmpty g = false ∧ isEmpty p = false
  sources : ∀ u p x, x ∈ sources db u p ↔ x = "SELF" ∧ W p u ∨ V p x ∧ db.IsMember x u
  filled : RowsFilled db

variable {projects : Table String ProjectRow} {V W V' W' : String → String → Prop}
  {username : String}

/-- A change of project-groups and of user-projects, with the lists that it leads to. -/
theorem Provenance.change {t : Db} (h : Provenance projects V W db) {projectGroups : Table (String × String) Unit}
    (ht : Resourced { db with projectGroups := projectGroups } S t)
    (hmapped : ∀ g q, projectGroups.Has (g, q) ↔ V' q g)
    (hnamed : ∀ q g, V' q g → g ≠ "SELF" ∧ isEmpty g = false ∧ isEmpty q = false)
    (hsources : ∀ u q x, S u q x ↔ x = "SELF" ∧ W' q u ∨ V' q x ∧ db.IsMember x u) :
    Provenance projects V' W' t where
  stored := by
    rw [ht.frame]
    exact h.stored
  mapped g q := by
    rw [ht.frame]
    exact hmapped g q
  named := hnamed
  sources u q x := by
    rw [ht.sources, hsources, ht.frame]
    rfl
  filled := ht.filled h.filled

theorem Provenance.setUsers {users : Table String UserRow} (h : Provenance projects V W db) :
    Provenance projects V W { db with users := users } :=
  ⟨h.stored, h.mapped, h.named, h.sources, h.filled⟩

/-- The sources of the users may list the group under the name the caller gave: it is the name the
tables use, or the group is mapped to no project. -/
def Settled (V : String → String → Prop) (g username : String) : Prop :=
  sanitized username = username ∨ ∀ p, ¬ V p g

/-- A member more in a group, whose provenance has been granted under the name given. -/
theorem Provenance.addMember {db' s : Db} (h : Provenance projects V W db)
    (hframe : db' = { db with users := db'.users, groupMembers := db'.groupMembers })
    (hmember : ∀ x v, db'.IsMember x v ↔ x = g ∧ v = sanitized username ∨ db.IsMember x v)
    (hsettled : Settled V g username)
    (hs : Resourced db' (fun u p x => x ∈ Projects.sources db' u p ∨ (u = username ∧ db'.IsMapped g p) ∧ x = g) s) :
    Provenance projects V W s where
  stored := by
    rw [hs.frame, hframe]
    exact h.stored
  mapped g p := by
    rw [hs.frame, hframe]
    exact h.mapped g p
  named := h.named
  filled := by
    refine hs.filled ?_
    rw [hframe]
    exact h.filled
  sources u p x := by
    have hold : x ∈ Projects.sources db' u p ↔ x ∈ Projects.sources db u p := by
      rw [hframe]
      rfl
    have hmapped : db'.IsMapped g p ↔ V p g := by
      rw [hframe]
      exact h.mapped g p
    have hin : s.IsMember x u ↔ x = g ∧ u = sanitized username ∨ db.IsMember x u := by
      rw [hs.frame]
      exact hmember x u
    rw [hs.sources, hold, h.sources, hmapped, hin]
    rcases hsettled with hname | hunmapped
    · rw [hname]
      constructor
      · rintro ((hself | ⟨hV, hm⟩) | ⟨⟨rfl, hV⟩, rfl⟩)
        · exact .inl hself
        · exact .inr ⟨hV, .inr hm⟩
        · exact .inr ⟨hV, .inl ⟨rfl, rfl⟩⟩
      · rintro (hself | ⟨hV, ⟨rfl, rfl⟩ | hm⟩)
        · exact .inl (.inl hself)
        · exact .inr ⟨⟨rfl, hV⟩, rfl⟩
        · exact .inl (.inr ⟨hV, hm⟩)
    · constructor
      · rintro ((hself | ⟨hV, hm⟩) | ⟨⟨-, hV⟩, -⟩)
        · exact .inl hself
        · exact .inr ⟨hV, .inr hm⟩
        · exact absurd hV (hunmapped p)
      · rintro (hself | ⟨hV, ⟨rfl, -⟩ | hm⟩)
        · exact .inl (.inl hself)
        · exact absurd hV (hunmapped p)
        · exact .inl (.inr ⟨hV, hm⟩)

/-- Members less in groups, whose provenance has been taken away under the name given. Only the
memberships in mapped groups matter. -/
theorem Provenance.removeMember {db' s : Db} (h : Provenance projects V W db) (username : String)
    (groupNames : List String)
    (hframe : db' = { db with users := db'.users, groupMembers := db'.groupMembers })
    (hmember : ∀ p x v, V p x → (db'.IsMember x v ↔ db.IsMember x v ∧ ¬ (v = username ∧ x ∈ groupNames)))
    (hs : Resourced db' (fun u p x => x ∈ Projects.sources db' u p ∧
      ¬ (u = username ∧ x ∈ groupNames ∧ db'.IsMapped x p)) s) :
    Provenance projects V W s where
  stored := by
    rw [hs.frame, hframe]
    exact h.stored
  mapped g p := by
    rw [hs.frame, hframe]
    exact h.mapped g p
  named := h.named
  filled := by
    refine hs.filled ?_
    rw [hframe]
    exact h.filled
  sources u p x := by
    have hold : x ∈ Projects.sources db' u p ↔ x ∈ Projects.sources db u p := by
      rw [hframe]
      rfl
    have hmapped : db'.IsMapped x p ↔ V p x := by
      rw [hframe]
      exact h.mapped x p
    have hin : s.IsMember x u ↔ db'.IsMember x u := by
      rw [hs.frame]
      rfl
    rw [hs.sources, hold, h.sources, hmapped, hin]
    constructor
    · rintro ⟨hself | ⟨hV, hm⟩, hkept⟩
      · exact .inl hself
      · exact .inr ⟨hV, (hmember p x u hV).mpr ⟨hm, fun hgone => hkept ⟨hgone.1, hgone.2, hV⟩⟩⟩
    · rintro (hself | ⟨hV, hm⟩)
      · refine ⟨.inl hself, ?_⟩
        rintro ⟨-, -, hV⟩
        exact (h.named p x hV).1 hself.1
      · obtain ⟨hm, hkept⟩ := (hmember p x u hV).mp hm
        exact ⟨.inr ⟨hV, hm⟩, fun hgone => hkept ⟨hgone.1, hgone.2.1⟩⟩

end ContainRes.Projects
