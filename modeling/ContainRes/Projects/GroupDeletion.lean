import ContainRes.Projects.FileSystemMappings
import ContainRes.Projects.RevokedAccess

/-! # What the deletion of a group leaves

A forced `delete_group` takes the members out of the group, then takes the group out of the projects that it
is mapped to, and deletes its row last. A failure of the first two parts is logged and passed over, users
without a row are skipped, and only projects with a mapping are looked at.

* **`NoTrace`** — nothing mentions the group.
* **`Shrunk`** — what the deletion may have taken away at any time; **`keeps_deleteGroupMembers`** and
  **`keeps_deleteGroupProjects`** say that it takes no more.
* **`Reached`** — what the deletion finds when it takes everything away.
* **`noTrace_iff`** — when a group is deleted without a trace. -/

namespace ContainRes.Projects

open Accounts Effects Effects.Proc Store Text

/-! ## Traces -/

/-- Nothing mentions the group: no membership, no mapping, no project, no source of a user, no row. -/
structure NoTrace (db : Db) (g : String) : Prop where
  members : ∀ u, ¬ db.IsMember g u
  mappings : ∀ p, ¬ db.IsMapped g p
  lists : ∀ p, g ∉ groupsOf db.projects p
  sources : ∀ u p, g ∉ Projects.sources db u p
  row : ¬ db.groups.Has g

/-- What a deletion that takes everything away finds: the members are users under the names of their rows; the
projects that list the group are those that it is mapped to, under ids without blanks around them; and each
user with the group as a source is a member, in a project that the group is mapped to. -/
structure Reached (db : Db) (g : String) : Prop where
  members : ∀ u, db.IsMember g u → isEmpty u = false ∧ sanitized u = u ∧ db.users.Has u
  mappings : ∀ p, db.IsMapped g p → isEmpty p = false ∧ strip p = p
  lists : ∀ p, db.IsMapped g p ↔ g ∈ groupsOf db.projects p
  sources : ∀ u p, g ∈ Projects.sources db u p → db.IsMember g u ∧ db.IsMapped g p

/-- `s` is `db` after parts of the group `g` were taken away. -/
structure Shrunk (db : Db) (g : String) (s : Db) : Prop where
  groups : s.groups = db.groups
  users : ∀ u, s.users.Has u ↔ db.users.Has u
  members : ∀ u, s.IsMember g u → db.IsMember g u
  member : ∀ u, db.IsMember g u →
    s.IsMember g u ∨ isEmpty u = false ∧ sanitized u = u ∧ db.users.Has u
  mappings : ∀ p, s.IsMapped g p → db.IsMapped g p
  mapped : ∀ p, db.IsMapped g p → s.IsMapped g p ∨ isEmpty p = false ∧ g ∈ groupsOf db.projects p
  rows : ∀ p, s.projects.Has p ↔ db.projects.Has p
  listed : ∀ p, groupsOf s.projects p = groupsOf db.projects p ∨ g ∉ groupsOf s.projects p ∧
    ∃ q, db.IsMapped g q ∧ g ∈ groupsOf db.projects q ∧ strip q = p
  sources : ∀ u p, g ∈ Projects.sources s u p → g ∈ Projects.sources db u p
  source : ∀ u p, g ∈ Projects.sources db u p →
    g ∈ Projects.sources s u p ∨ db.IsMember g u ∧ db.IsMapped g p

variable {db s : Db} {g : String}

theorem Shrunk.refl (db : Db) (g : String) : Shrunk db g db where
  groups := rfl
  users _ := Iff.rfl
  members _ h := h
  member _ h := .inl h
  mappings _ h := h
  mapped _ h := .inl h
  rows _ := Iff.rfl
  listed _ := .inl rfl
  sources _ _ h := h
  source _ _ h := .inl h

variable {p : String}

theorem Shrunk.mem_groupsOf (h : Shrunk db g s) (hp : g ∈ groupsOf s.projects p) : g ∈ groupsOf db.projects p := by
  rcases h.listed p with hsame | ⟨hgone, -⟩
  · rwa [← hsame]
  · exact absurd hp hgone

/-- What is gone has been reached. -/
theorem Shrunk.reached (h : Shrunk db g s) (hmembers : ∀ u, ¬ s.IsMember g u)
    (hmappings : ∀ p, ¬ s.IsMapped g p) (hlists : ∀ p, g ∉ groupsOf s.projects p)
    (hsources : ∀ u p, g ∉ Projects.sources s u p) : Reached db g := by
  -- a project that lists the group was written, under the stripped id of a mapped project
  have hwritten : ∀ p, g ∈ groupsOf db.projects p →
      ∃ q, db.IsMapped g q ∧ g ∈ groupsOf db.projects q ∧ strip q = p := by
    intro p hp
    rcases h.listed p with hsame | ⟨-, hq⟩
    · exact absurd (hsame ▸ hp) (hlists p)
    · exact hq
  have hstrip : ∀ p, g ∈ groupsOf db.projects p → strip p = p := by
    intro p hp
    obtain ⟨q, -, -, rfl⟩ := hwritten p hp
    exact strip_strip q
  have hmapped : ∀ p, db.IsMapped g p → isEmpty p = false ∧ g ∈ groupsOf db.projects p :=
    fun p hp => (h.mapped p hp).resolve_left (hmappings p)
  refine ⟨fun u hu => (h.member u hu).resolve_left (hmembers u),
    fun p hp => ⟨(hmapped p hp).1, hstrip p (hmapped p hp).2⟩, fun p => ⟨fun hp => (hmapped p hp).2, fun hp => ?_⟩,
    fun u p hx => (h.source u p hx).resolve_left (hsources u p)⟩
  obtain ⟨q, hq, hlisted, rfl⟩ := hwritten p hp
  rwa [hstrip q hlisted]

/-! ## One step of the deletion -/

variable {u : String}

/-- A user is taken out of the group. -/
theorem Shrunk.leave (h : Shrunk db g s) {user : UserRow} (hu : isEmpty u = false)
    (huser : s.users.getItem (sanitized u) = some user) :
    Shrunk db g ((s.dropAdditionalGroup (sanitized u) user g).leave g (sanitized u)) := by
  let left := (s.dropAdditionalGroup (sanitized u) user g).leave g (sanitized u)
  have hframe : left = { s with users := left.users, groupMembers := left.groupMembers } :=
    dropAdditionalGroup_leave_frame s (sanitized u) user g
  have husers : ∀ v, left.users.Has v ↔ s.users.Has v := by
    intro v
    obtain ⟨groups, -, hitem⟩ := getItem_dropAdditionalGroup g huser
    have hv : left.users.getItem v = _ := hitem v
    rw [Table.has_iff, Table.has_iff, hv]
    by_cases hsame : v = sanitized u
    · rw [if_pos hsame, hsame, huser]
      simp
    · rw [if_neg hsame]
  have hmember : ∀ v, left.IsMember g v ↔ ¬ v = sanitized u ∧ s.IsMember g v := by
    intro v
    rw [isMember_dropAdditionalGroup_leave]
    simp
  have hsources : ∀ v p, Projects.sources left v p = Projects.sources s v p := by
    intro v p
    rw [hframe]
    rfl
  have hshrunk : Shrunk db g left :=
    { groups := by rw [hframe]; exact h.groups
      users := fun v => (husers v).trans (h.users v)
      members := fun v hv => h.members v ((hmember v).mp hv).2
      member := fun v hv => by
        by_cases hsame : v = sanitized u
        · refine .inr ⟨by rw [hsame, isEmpty_sanitized, hu], by rw [hsame, sanitized_idem], ?_⟩
          rw [hsame]
          exact (h.users _).mp (.of_getItem huser)
        · exact (h.member v hv).imp_left fun hold => (hmember v).mpr ⟨hsame, hold⟩
      mappings := fun p hp => h.mappings p (by rw [hframe] at hp; exact hp)
      mapped := fun p hp => (h.mapped p hp).imp_left fun hold => by rw [hframe]; exact hold
      rows := fun p => by rw [hframe]; exact h.rows p
      listed := fun p => by rw [hframe]; exact h.listed p
      sources := fun v p hx => h.sources v p (by rwa [hsources] at hx)
      source := fun v p hx => (h.source v p hx).imp_left fun hold => by rwa [hsources] }
  exact hshrunk

/-- The group is taken from the sources of a member in a mapped project. -/
theorem Shrunk.revoke (h : Shrunk db g s) {u p : String} (hu : db.IsMember g u) (hp : db.IsMapped g p) :
    Shrunk db g (s.revoke p u [g]) := by
  have hframe := revoke_frame s p u [g]
  exact
    { groups := by rw [hframe]; exact h.groups
      users := by rw [hframe]; exact h.users
      members := by rw [hframe]; exact h.members
      member := by rw [hframe]; exact h.member
      mappings := by rw [hframe]; exact h.mappings
      mapped := by rw [hframe]; exact h.mapped
      rows := by rw [hframe]; exact h.rows
      listed := by rw [hframe]; exact h.listed
      sources := fun v q hx => h.sources v q (mem_sources_revoke.mp hx).1
      source := fun v q hx => by
        rcases h.source v q hx with hold | hreached
        · by_cases hkey : v = u ∧ q = p
          · obtain ⟨rfl, rfl⟩ := hkey
            exact .inr ⟨hu, hp⟩
          · exact .inl (mem_sources_revoke.mpr ⟨hold, fun hgone => hkey hgone.1⟩)
        · exact .inr hreached }

/-- A mapping to a project that lists the group is deleted. -/
theorem Shrunk.unmap (h : Shrunk db g s) (hp : isEmpty p = false) (hlisted : g ∈ groupsOf db.projects p) :
    Shrunk db g { s with projectGroups := s.projectGroups.deleteItem (g, p) } :=
  { h with
    mappings := fun q hq => h.mappings q (Table.has_deleteItem.mp hq).2
    mapped := fun q hq => by
      by_cases hsame : q = p
      · rw [hsame]
        exact .inr ⟨hp, hlisted⟩
      · refine (h.mapped q hq).imp_left fun hold => Table.has_deleteItem.mpr ⟨?_, hold⟩
        simpa using hsame }

/-- The record of a mapped project is written without the group. -/
theorem Shrunk.unlist (h : Shrunk db g s) {q : String} (hq : db.IsMapped g q)
    (hlisted : g ∈ groupsOf db.projects q) (groups : List String) :
    Shrunk db g { s with projects := s.projects.updateItem (strip q) fun row =>
      { row with ldapGroups := some (groups.filter (· ≠ g)) } } :=
  { h with
    rows := fun p => Table.has_updateItem.trans (h.rows p)
    listed := fun p => by
      by_cases hsame : p = strip q
      · subst hsame
        refine .inr ⟨?_, q, hq, hlisted, rfl⟩
        cases hrow : s.projects.getItem (strip q) <;> simp [groupsOf, Table.getItem_updateItem, hrow]
      · have hother : groupsOf (s.projects.updateItem (strip q) fun row =>
            { row with ldapGroups := some (groups.filter (· ≠ g)) }) p = groupsOf s.projects p := by
          simp [groupsOf, Table.getItem_updateItem, hsame]
        simp only [hother]
        exact h.listed p }

/-! ## The deletion takes no more -/

/-- The group is taken from the sources of members in a project that it is mapped to. -/
theorem keeps_revoke {u p : String} (hu : db.IsMember g u) (hp : db.IsMapped g p) :
    Keeps (Shrunk db g) (UserProjectsDao.deleteUserProject p u [g]) :=
  keeps_revokeSources fun _ hs => hs.revoke hu hp

theorem reads_getProjectsByGroupName (g : String) : Reads (UserProjectsDao.getProjectsByGroupName g) :=
  Reads.bind (reads_requireNotEmpty _ _) fun _ => Reads.gets _

theorem reads_getUsernamesInGroup (g : String) : Reads (GroupMembersDao.getUsernamesInGroup g) :=
  Reads.bind (reads_requireNotEmpty _ _) fun _ => Reads.gets _

variable {ids : List String}

/-- The projects that are read are those that the group is mapped to. -/
theorem projectIds_of_run {s t : Db}
    (h : (UserProjectsDao.getProjectsByGroupName g).run s = (.ok ids, t)) : ids = UserProjectsDao.projectIds s g := by
  obtain ⟨⟨⟩, r, hr, hids⟩ := returns_bind.mp h
  obtain rfl := (reads_requireNotEmpty _ _).eq_of_run hr
  exact (returns_gets.mp hids).1.symm

theorem usernames_of_run {usernames : List String} {s t : Db}
    (h : (GroupMembersDao.getUsernamesInGroup g).run s = (.ok usernames, t)) :
    usernames = GroupMembersDao.usernames s g := by
  obtain ⟨⟨⟩, r, hr, hnames⟩ := returns_bind.mp h
  obtain rfl := (reads_requireNotEmpty _ _).eq_of_run hr
  exact (returns_gets.mp hnames).1.symm

theorem keeps_groupMemberRemoved (hu : db.IsMember g u) :
    Keeps (Shrunk db g) (UserProjectsDao.groupMemberRemoved g u) := by
  unfold UserProjectsDao.groupMemberRemoved
  refine Keeps.bind (Keeps.of_reads (reads_requireNotEmpty _ _)) fun _ =>
    Keeps.bind (Keeps.of_reads (reads_requireNotEmpty _ _)) fun _ =>
      Keeps.bind_of_reads (reads_getProjectsByGroupName g) fun s ids hs hids => ?_
  obtain rfl := projectIds_of_run hids
  refine Keeps.forEach fun p hp => keeps_revoke hu (hs.mappings p ?_)
  exact UserProjectsDao.mem_projectIds.mp hp

theorem keeps_shrunk_removeUserFromGroup (hg : isEmpty g = false) (hu : db.IsMember g u) :
    Keeps (Shrunk db g) (removeUserFromGroup g true u) := by
  refine Keeps.of_state fun s hs => ?_
  rw [run_removeUserFromGroup hg]
  rcases hblank : isEmpty u with _ | _
  · cases huser : s.users.getItem (sanitized u) with
    | none => exact hs
    | some user =>
      simp only [Bool.false_eq_true, Bool.true_eq_false, and_false, if_false]
      exact (keeps_groupMemberRemoved hu).run (hs.leave hblank huser)
  · exact hs

/-- The first part of the deletion. -/
theorem keeps_deleteGroupMembers (hg : isEmpty g = false) : Keeps (Shrunk db g) (deleteGroupMembers g true) := by
  unfold deleteGroupMembers
  refine Keeps.bind (Keeps.gets _) fun hasUsers => Keeps.when fun _ => ?_
  rw [if_pos rfl]
  refine Keeps.bind_of_reads (reads_getUsernamesInGroup g) fun s usernames hs hnames => ?_
  obtain rfl := usernames_of_run hnames
  refine Keeps.tryCatch ?_ fun e => Keeps.ite (fun _ => Keeps.pure _) fun _ => Keeps.raise _
  unfold removeUsersFromGroup
  refine Keeps.bind (Keeps.of_reads (Reads.whenRaise _)) fun _ =>
    Keeps.bind (Keeps.of_reads (reads_requireNotEmpty _ _)) fun _ => Keeps.tryCatch ?_ fun e =>
      Keeps.ite (fun _ => Keeps.forEach fun u _ => ?_) fun _ => Keeps.raise _
  · refine Keeps.bind (Keeps.of_reads (reads_getGroup _)) ?_
    rintro (_ | group)
    · exact Keeps.raise _
    · refine Keeps.ite (fun _ => Keeps.raise _) fun _ => Keeps.forEach fun u hu => ?_
      exact keeps_shrunk_removeUserFromGroup hg (hs.members u (GroupMembersDao.mem_usernames.mp hu))
  · -- the handler only reads
    unfold reportRemovalFromDeletedGroup
    refine Keeps.bind (Keeps.of_reads (reads_getUser _)) ?_
    rintro (_ | user)
    · exact Keeps.raise _
    · exact Keeps.ite (fun _ => Keeps.pure _) fun _ => Keeps.raise _

theorem keeps_shrunk_ldapGroupRemoved (hp : db.IsMapped g p) (hlisted : g ∈ groupsOf db.projects p) :
    Keeps (Shrunk db g) (UserProjectsDao.ldapGroupRemoved p g) := by
  unfold UserProjectsDao.ldapGroupRemoved
  rcases hblank : isEmpty p with _ | _
  · refine Keeps.bind (Keeps.of_reads (reads_requireNotEmpty _ _)) fun _ =>
      Keeps.bind (Keeps.of_reads (reads_requireNotEmpty _ _)) fun _ =>
        Keeps.bind (Keeps.modify fun s hs => hs.unmap hblank hlisted) fun _ =>
          Keeps.bind_of_reads (reads_getUsernamesInGroup g) fun s usernames hs hnames => ?_
    obtain rfl := usernames_of_run hnames
    exact Keeps.forEach fun u hu => keeps_revoke (hs.members u (GroupMembersDao.mem_usernames.mp hu)) hp
  · refine Keeps.of_state fun s hs => ?_
    rw [run_bind_of_error (run_requireNotEmpty_of_isEmpty hblank _ s)]
    exact hs

theorem reads_collectProjects (force : Bool) (ids : List String) : Reads (collectProjects force ids) := by
  induction ids with
  | nil => exact Reads.pure _
  | cons p ids ih =>
    unfold collectProjects
    refine Reads.bind (reads_getProjectById p) ?_
    rintro (_ | row)
    · exact Reads.ite (fun _ => Reads.raise _) fun _ => Reads.raise _
    · dsimp only
      cases row.enabled with
      | none => exact Reads.raise _
      | some enabled =>
        exact Reads.ite (fun _ => Reads.raise _) fun _ => Reads.bind ih fun _ => Reads.pure _

/-- The projects that are collected are those of the ids, with the rows that they have. -/
theorem collectProjects_ok {force : Bool} {items : List (String × ProjectRow)} {s t : Db}
    (h : (collectProjects force ids).run s = (.ok items, t)) :
    items.map Prod.fst = ids ∧ ∀ item ∈ items, s.projects.getItem item.1 = some item.2 := by
  induction ids generalizing items t with
  | nil =>
    cases h
    exact ⟨rfl, fun item hitem => absurd hitem List.not_mem_nil⟩
  | cons p ids ih =>
    unfold collectProjects at h
    obtain ⟨found, r, hfound, hrest⟩ := returns_bind.mp h
    obtain rfl := (reads_getProjectById p).eq_of_run hfound
    obtain ⟨⟨⟩, r', hr, hget⟩ := returns_bind.mp hfound
    obtain rfl := (reads_requireNotEmpty _ _).eq_of_run hr
    obtain ⟨hrow, -⟩ := returns_gets.mp hget
    cases found with
    | none =>
      cases force
      · exact absurd hrest not_returns_raise
      · exact absurd hrest not_returns_raise
    | some row =>
      dsimp only at hrest
      cases hon : row.enabled with
      | none =>
        rw [hon] at hrest
        exact absurd hrest not_returns_raise
      | some enabled =>
        rw [hon] at hrest
        dsimp only at hrest
        split at hrest
        · exact absurd hrest not_returns_raise
        · obtain ⟨rest, r'', hcollect, hlast⟩ := returns_bind.mp hrest
          obtain ⟨rfl, rfl⟩ := returns_pure.mp hlast
          obtain ⟨hids, hrows⟩ := ih hcollect
          refine ⟨by rw [List.map_cons, hids], fun item hitem => ?_⟩
          rcases List.mem_cons.mp hitem with rfl | hlater
          · exact hrow
          · exact hrows item hlater

/-- The second part of the deletion. -/
theorem keeps_deleteGroupProjects : Keeps (Shrunk db g) (deleteGroupProjects g true) := by
  unfold deleteGroupProjects
  refine Keeps.bind (Keeps.gets _) fun hasProjects => Keeps.when fun _ => ?_
  rw [if_pos rfl]
  refine Keeps.bind_of_reads (reads_getProjectsByGroupName g) fun s ids hs hids => ?_
  obtain rfl := projectIds_of_run hids
  refine Keeps.tryCatch ?_ fun e => Keeps.ite (fun _ => Keeps.pure _) fun _ => Keeps.raise _
  unfold removeProjectsFromGroup
  refine Keeps.bind (Keeps.of_reads (Reads.whenRaise _)) fun _ =>
    Keeps.bind (Keeps.of_reads (reads_requireNotEmpty _ _)) fun _ =>
      Keeps.bind (Keeps.of_reads (reads_getGroup _)) ?_
  rintro (_ | group)
  · exact Keeps.raise _
  · refine Keeps.ite (fun _ => Keeps.raise _) fun _ =>
      Keeps.bind_of_reads (reads_collectProjects _ _) fun t items ht hitems => Keeps.forEach fun item hitem => ?_
    obtain ⟨hmem, hlists⟩ := List.mem_filter.mp hitem
    obtain ⟨hkeys, hrows⟩ := collectProjects_ok hitems
    have hp : db.IsMapped g item.1 := by
      refine hs.mappings item.1 (UserProjectsDao.mem_projectIds.mp ?_)
      rw [← hkeys]
      exact List.mem_map_of_mem hmem
    have hlisted : g ∈ groupsOf db.projects item.1 := by
      refine ht.mem_groupsOf ?_
      rw [groupsOf, hrows item hmem]
      exact of_decide_eq_true hlists
    refine Keeps.bind ?_ fun _ => keeps_shrunk_ldapGroupRemoved hp hlisted
    unfold ProjectsDao.updateProject
    refine Keeps.bind (Keeps.of_reads (reads_requireNotEmpty _ _)) fun _ => Keeps.bind (Keeps.gets _) ?_
    rintro (_ | row)
    · exact Keeps.raise _
    · exact Keeps.modify fun r hr => hr.unlist hp hlisted _

/-! ## A deletion that reaches everything -/

/-- The members in `done` have been dealt with, and nothing else has changed but the users. -/
structure Emptied (db : Db) (g : String) (done : List String) (s : Db) : Prop where
  shrunk : Shrunk db g s
  projects : s.projects = db.projects
  projectGroups : s.projectGroups = db.projectGroups
  left : ∀ u ∈ done, ¬ s.IsMember g u
  taken : ∀ u ∈ done, ∀ p, g ∉ sources s u p

theorem Reached.hasProject (h : Reached db g) (hp : db.IsMapped g p) : db.projects.Has p := by
  have hlisted := (h.lists p).mp hp
  unfold groupsOf at hlisted
  cases hrow : db.projects.getItem p with
  | none =>
    rw [hrow] at hlisted
    cases hlisted
  | some row => exact .of_getItem hrow

/-- `group_member_removed` returns for a user that is there, when the projects are. -/
theorem run_groupMemberRemoved_of_projects (hg : isEmpty g = false) (hu : isEmpty u = false)
    (huser : s.users.Has (sanitized u)) (hprojects : ∀ p, s.IsMapped g p → isEmpty p = false ∧ s.projects.Has p) :
    ∃ t, (UserProjectsDao.groupMemberRemoved g u).run s = (.ok ⟨⟩, t) := by
  have hloop : OkIff (MembersFrame s)
      (Proc.forEach (fun p => UserProjectsDao.deleteUserProject p u [g]) (UserProjectsDao.projectIds s g))
      (∀ p ∈ UserProjectsDao.projectIds s g, IsUser s u) := by
    refine OkIff.forEach fun p hp => ?_
    obtain ⟨hblank, hhas⟩ := hprojects p (UserProjectsDao.mem_projectIds.mp hp)
    obtain ⟨row, hrow⟩ := Table.has_iff.mp hhas
    exact okIff_deleteUserProject hblank hrow u [g]
  rw [UserProjectsDao.run_groupMemberRemoved hg hu]
  obtain ⟨⟨⟩, t, ht⟩ := (hloop.2 s ⟨rfl, rfl, rfl⟩).mpr fun _ _ => ⟨hu, huser⟩
  exact ⟨t, ht⟩

/-- A member is taken out of the group, and the group from all its sources. -/
theorem triple_emptied (h : Reached db g) (hg : isEmpty g = false) (hu : db.IsMember g u) (done : List String) :
    Triple (Emptied db g done) (removeUserFromGroup g true u) (fun _ => Emptied db g (done ++ [u]))
      fun _ _ => False := by
  intro s hs
  obtain ⟨hblank, hname, hhas⟩ := h.members u hu
  obtain ⟨user, huser⟩ := Table.has_iff.mp ((hs.shrunk.users u).mpr hhas)
  rw [← hname] at huser
  let left := (s.dropAdditionalGroup (sanitized u) user g).leave g (sanitized u)
  have hframe : left = { s with users := left.users, groupMembers := left.groupMembers } :=
    dropAdditionalGroup_leave_frame s (sanitized u) user g
  have hleft : Shrunk db g left := hs.shrunk.leave hblank huser
  have hmapped : ∀ p, left.IsMapped g p ↔ db.IsMapped g p := by
    intro p
    rw [hframe, Db.IsMapped, Db.IsMapped, ← hs.projectGroups]
  obtain ⟨t, ht⟩ : ∃ t, (UserProjectsDao.groupMemberRemoved g u).run left = (.ok ⟨⟩, t) := by
    refine run_groupMemberRemoved_of_projects hg hblank ?_ fun p hp => ?_
    · rw [hname]
      exact (hleft.users u).mpr hhas
    · have hp' := (hmapped p).mp hp
      exact ⟨(h.mappings p hp').1, (hleft.rows p).mpr (h.hasProject hp')⟩
  have hrun : (removeUserFromGroup g true u).run s = (.ok ⟨⟩, t) := by
    rw [run_removeUserFromGroup hg, hblank, huser, ← ht]
    simp only [Bool.false_eq_true, Bool.true_eq_false, and_false, if_false]
    rfl
  have hrows := (triple_revokeRows g u).of_ok (RowsRevoked.refl left) ht
  have hsources : ∀ v p, g ∈ sources t v p → g ∈ sources s v p ∧ ¬ (v = u ∧ db.IsMapped g p) := by
    intro v p hx
    obtain ⟨hold, hkept⟩ := (hrows.sources v p g).mp hx
    rw [false_or, hmapped] at hkept
    refine ⟨?_, fun hgone => hkept ⟨hgone.1, rfl, hgone.2⟩⟩
    rw [hframe] at hold
    exact hold
  have hmembers : ∀ v, t.IsMember g v ↔ ¬ v = u ∧ s.IsMember g v := by
    intro v
    have hsame : t.IsMember g v ↔ left.IsMember g v := by
      rw [hrows.frame]
      rfl
    rw [hsame, isMember_dropAdditionalGroup_leave, hname]
    simp
  have hemptied : Emptied db g (done ++ [u]) t :=
    { shrunk := by
        have hkeeps := (keeps_groupMemberRemoved hu).run hleft
        rwa [ht] at hkeeps
      projects := by rw [hrows.frame, hframe]; exact hs.projects
      projectGroups := by rw [hrows.frame, hframe]; exact hs.projectGroups
      left := fun v hv hmember => by
        obtain ⟨hne, hold⟩ := (hmembers v).mp hmember
        rcases List.mem_append.mp hv with hdone | hlast
        · exact hs.left v hdone hold
        · exact hne (List.mem_singleton.mp hlast)
      taken := fun v hv p hx => by
        obtain ⟨hold, hkept⟩ := hsources v p hx
        rcases List.mem_append.mp hv with hdone | hlast
        · exact hs.taken v hdone p hold
        · exact hkept ⟨List.mem_singleton.mp hlast, (h.sources v p (hs.shrunk.sources v p hold)).2⟩ }
  rw [hrun]
  exact hemptied

/-- The first part takes the group from every user. -/
theorem emptied_deleteGroupMembers (h : Reached db g) (hg : isEmpty g = false) (hgroup : db.groups.Has g) {t : Db}
    (hrun : (deleteGroupMembers g true).run db = (.ok ⟨⟩, t)) : Emptied db g (GroupMembersDao.usernames db g) t := by
  have hloop : Triple (fun s => s = db)
      (Proc.forEach (removeUserFromGroup g true) (GroupMembersDao.usernames db g))
      (fun _ => Emptied db g (GroupMembersDao.usernames db g)) fun _ _ => False := by
    refine (Triple.forEach_done (Emptied db g) fun done u rest hsplit => ?_).conseq (fun s hs => ?_)
      (fun _ _ h => h) fun _ _ h => h
    · refine triple_emptied h hg (GroupMembersDao.mem_usernames.mp ?_) done
      rw [hsplit]
      simp
    · rw [hs]
      exact ⟨Shrunk.refl db g, rfl, rfl, fun u hu => absurd hu List.not_mem_nil, fun u hu => absurd hu List.not_mem_nil⟩
  obtain ⟨group, hgroup⟩ := Table.has_iff.mp hgroup
  rcases hr : (Proc.forEach (removeUserFromGroup g true) (GroupMembersDao.usernames db g)).run db with
    ⟨e | ⟨⟨⟩⟩, s⟩
  · exact (hloop.of_error rfl hr).elim
  · rw [run_deleteGroupMembers hg hgroup hr] at hrun
    cases hrun
    exact hloop.of_ok rfl hr

/-- The projects in `done` have been dealt with. -/
structure GroupUnlisted (db : Db) (g : String) (done : List String) (s : Db) : Prop where
  shrunk : Shrunk db g s
  members : ∀ u, ¬ s.IsMember g u
  mappings : ∀ p ∈ done, ¬ s.IsMapped g p
  lists : ∀ p ∈ done, g ∉ groupsOf s.projects p

/-- `ldap_group_removed` of a group without members deletes the mapping. -/
theorem run_ldapGroupRemoved_of_empty (hp : isEmpty p = false) (hg : isEmpty g = false)
    (h : ∀ u, ¬ s.IsMember g u) : (UserProjectsDao.ldapGroupRemoved p g).run s =
      (.ok ⟨⟩, { s with projectGroups := s.projectGroups.deleteItem (g, p) }) := by
  let removed : Db := { s with projectGroups := s.projectGroups.deleteItem (g, p) }
  have hnone : GroupMembersDao.usernames removed g = [] :=
    List.eq_nil_iff_forall_not_mem.mpr fun u hu => h u (GroupMembersDao.mem_usernames.mp hu)
  unfold UserProjectsDao.ldapGroupRemoved
  rw [run_bind_of_ok (run_requireNotEmpty_of_not_isEmpty hp _ s),
    run_bind_of_ok (run_requireNotEmpty_of_not_isEmpty hg _ s), run_bind_of_ok (run_modify _ s),
    run_bind_of_ok (GroupMembersDao.run_getUsernamesInGroup hg removed), hnone]
  rfl

/-- A project is taken out of the group. -/
theorem triple_unlisted (h : Reached db g) (hg : isEmpty g = false) (hp : db.IsMapped g p)
    (groups done : List String) : Triple (GroupUnlisted db g done)
      (ProjectsDao.updateProject p (fun row => { row with ldapGroups := some (groups.filter (· ≠ g)) })
        >>= fun _ => UserProjectsDao.ldapGroupRemoved p g)
      (fun _ => GroupUnlisted db g (done ++ [p])) fun _ _ => False := by
  intro s hs
  obtain ⟨hblank, hstrip⟩ := h.mappings p hp
  obtain ⟨row, hrow⟩ := Table.has_iff.mp ((hs.shrunk.rows p).mpr (h.hasProject hp))
  have hlisted := (h.lists p).mp hp
  let written : Db := { s with projects := s.projects.updateItem (strip p) fun row =>
    { row with ldapGroups := some (groups.filter (· ≠ g)) } }
  have hwrite : (ProjectsDao.updateProject p fun row =>
      { row with ldapGroups := some (groups.filter (· ≠ g)) }).run s = (.ok ⟨⟩, written) := by
    unfold ProjectsDao.updateProject
    rw [run_bind_of_ok (run_requireNotEmpty_of_not_isEmpty hblank _ s), run_bind_of_ok (run_gets _ s), hstrip, hrow]
    show (_, { s with projects := s.projects.updateItem p _ }) = (_, written)
    rw [← hstrip]
  have hshrunk : Shrunk db g { written with projectGroups := written.projectGroups.deleteItem (g, p) } :=
    (hs.shrunk.unlist hp hlisted groups).unmap hblank hlisted
  have hmembers : ∀ u, ¬ written.IsMember g u := hs.members
  have hlists : ∀ q, q = p ∨ g ∉ groupsOf s.projects q → g ∉ groupsOf written.projects q := by
    intro q hq
    by_cases hsame : q = p
    · simp [groupsOf, written, Table.getItem_updateItem, hstrip, hsame, hrow]
    · have hother : groupsOf written.projects q = groupsOf s.projects q := by
        simp [groupsOf, written, Table.getItem_updateItem, hstrip, hsame]
      rw [hother]
      exact hq.resolve_left hsame
  rw [run_bind_of_ok hwrite, run_ldapGroupRemoved_of_empty hblank hg hmembers]
  refine ⟨hshrunk, hmembers, fun q hq hmapped => ?_, fun q hq => hlists q ?_⟩
  · obtain ⟨hne, hold⟩ := Table.has_deleteItem.mp hmapped
    rcases List.mem_append.mp hq with hdone | hlast
    · exact hs.mappings q hdone hold
    · exact hne (by rw [List.mem_singleton.mp hlast])
  · rcases List.mem_append.mp hq with hdone | hlast
    · exact .inr (hs.lists q hdone)
    · exact .inl (List.mem_singleton.mp hlast)

/-- The projects are collected without an exception that is passed over. -/
theorem not_soca_of_collectProjects {e : Exc} {t : Db} (hids : ∀ p ∈ ids, isEmpty p = false)
    (h : (collectProjects true ids).run s = (.error e, t)) : e.isSoca = false := by
  induction ids generalizing t with
  | nil => cases h
  | cons p ids ih =>
    have hget : (ProjectsDao.getProjectById p).run s = (.ok (s.projects.getItem p), s) := by
      rw [ProjectsDao.getProjectById,
        run_bind_of_ok (run_requireNotEmpty_of_not_isEmpty (hids p List.mem_cons_self) _ s)]
      rfl
    unfold collectProjects at h
    rw [run_bind_of_ok hget] at h
    cases hrow : s.projects.getItem p with
    | none =>
      rw [hrow] at h
      cases h
      rfl
    | some row =>
      rw [hrow] at h
      dsimp only at h
      cases hon : row.enabled with
      | none =>
        rw [hon] at h
        cases h
        rfl
      | some enabled =>
        rw [hon] at h
        simp only [Bool.true_eq_false, and_false, if_false] at h
        rcases hrest : (collectProjects true ids).run s with ⟨e' | items, r⟩
        · rw [run_bind_of_error hrest] at h
          cases h
          exact ih (fun q hq => hids q (List.mem_cons_of_mem p hq)) hrest
        · rw [run_bind_of_ok hrest] at h
          cases h

/-- The second part takes the group out of every project. -/
theorem unlisted_deleteGroupProjects (h : Reached db g) (hg : isEmpty g = false) (hgroup : db.groups.Has g)
    {t : Db} (hs : Emptied db g (GroupMembersDao.usernames db g) s)
    (hrun : (deleteGroupProjects g true).run s = (.ok ⟨⟩, t)) :
    GroupUnlisted db g (UserProjectsDao.projectIds s g) t := by
  have hnobody : ∀ u, ¬ s.IsMember g u := fun u hu =>
    hs.left u (GroupMembersDao.mem_usernames.mpr (hs.shrunk.members u hu)) hu
  have hstart : GroupUnlisted db g [] s :=
    ⟨hs.shrunk, hnobody, fun p hp => absurd hp List.not_mem_nil, fun p hp => absurd hp List.not_mem_nil⟩
  have hids : ∀ p ∈ UserProjectsDao.projectIds s g, db.IsMapped g p :=
    fun p hp => hs.shrunk.mappings p (UserProjectsDao.mem_projectIds.mp hp)
  unfold deleteGroupProjects UserProjectsDao.hasProjectsInGroup at hrun
  rw [run_bind_of_ok (run_gets _ s)] at hrun
  by_cases hnone : UserProjectsDao.projectIds s g = []
  · rw [run_when_neg (by simp [hnone])] at hrun
    cases hrun
    rw [hnone]
    exact hstart
  · have hget : (UserProjectsDao.getProjectsByGroupName g).run s = (.ok (UserProjectsDao.projectIds s g), s) := by
      rw [UserProjectsDao.getProjectsByGroupName, run_bind_of_ok (run_requireNotEmpty_of_not_isEmpty hg _ s)]
      rfl
    rw [run_when_pos (by simpa using hnone), if_pos rfl, run_bind_of_ok hget, logSocaException, run_tryCatch]
      at hrun
    obtain ⟨group, hrow⟩ : ∃ group, s.groups.getItem g = some group := by
      rw [hs.shrunk.groups]
      exact Table.has_iff.mp hgroup
    have hgetGroup : (GroupDao.getGroup g).run s = (.ok (some group), s) := by
      rw [GroupDao.run_getGroup, hg, hrow]
      rfl
    have hforce : ¬ (group.enabled = false ∧ true = false) := by simp
    unfold removeProjectsFromGroup at hrun
    rw [run_bind_of_ok (run_when_neg hnone s), run_bind_of_ok (run_requireNotEmpty_of_not_isEmpty hg _ s),
      run_bind_of_ok hgetGroup] at hrun
    simp only [if_neg hforce] at hrun
    rcases hcollect : (collectProjects true (UserProjectsDao.projectIds s g)).run s with ⟨e | items, r⟩
    · -- the exception is not one that is passed over
      have hnot := not_soca_of_collectProjects (fun p hp => (h.mappings p (hids p hp)).1) hcollect
      rw [run_bind_of_error hcollect] at hrun
      simp only [hnot, Bool.false_eq_true, if_false] at hrun
      cases hrun
    · obtain rfl := (reads_collectProjects _ _).eq_of_run hcollect
      obtain ⟨hkeys, hrows⟩ := collectProjects_ok hcollect
      -- every project that the group is mapped to lists it, so the loop is over all of them
      have hall : items.filter (fun project => g ∈ project.2.ldapGroups.getD []) = items := by
        refine List.filter_eq_self.mpr fun item hitem => decide_eq_true ?_
        have hmapped : db.IsMapped g item.1 := by
          refine hids item.1 ?_
          rw [← hkeys]
          exact List.mem_map_of_mem hitem
        have hlisted := (h.lists item.1).mp hmapped
        rw [← hs.projects, groupsOf, hrows item hitem] at hlisted
        exact hlisted
      have hloop : Triple (GroupUnlisted db g []) (Proc.forEach (fun project : String × ProjectRow => do
            ProjectsDao.updateProject project.1 fun row =>
              { row with ldapGroups := some ((project.2.ldapGroups.getD []).filter (· ≠ g)) }
            UserProjectsDao.ldapGroupRemoved project.1 g) items)
          (fun _ => GroupUnlisted db g (items.map Prod.fst)) fun _ _ => False := by
        refine Triple.forEach_done (fun done => GroupUnlisted db g (done.map Prod.fst)) fun done item rest hsplit => ?_
        rw [List.map_append]
        refine triple_unlisted h hg (hids item.1 ?_) _ _
        rw [← hkeys, hsplit]
        simp
      rw [run_bind_of_ok hcollect, hall] at hrun
      rw [← hkeys]
      rcases hr : (Proc.forEach (fun project : String × ProjectRow => do
            ProjectsDao.updateProject project.1 fun row =>
              { row with ldapGroups := some ((project.2.ldapGroups.getD []).filter (· ≠ g)) }
            UserProjectsDao.ldapGroupRemoved project.1 g) items).run r with ⟨e | ⟨⟨⟩⟩, r'⟩
      · exact (hloop.of_error hstart hr).elim
      · rw [hr] at hrun
        cases hrun
        exact hloop.of_ok hstart hr

/-! ## The deletion -/

/-- **Without a trace.** When a forced deletion of a group returns, nothing mentions the group exactly when the
deletion could reach everything that did. -/
theorem noTrace_iff {db' : Db} (hrun : (deleteGroup g true).run db = (.ok ⟨⟩, db')) : NoTrace db' g ↔ Reached db g := by
  unfold deleteGroup at hrun
  rcases hg : isEmpty g with _ | _
  · rw [run_bind_of_ok (run_requireNotEmpty_of_not_isEmpty hg _ db), run_bind, GroupDao.run_getGroup, hg] at hrun
    cases hgroup : db.groups.getItem g with
    | none =>
      rw [hgroup] at hrun
      cases hrun
    | some group =>
      rw [hgroup] at hrun
      obtain ⟨⟨⟩, s, hmembers, hrest⟩ := returns_bind.mp hrun
      obtain ⟨⟨⟩, t, hprojects, hlast⟩ := returns_bind.mp hrest
      unfold Returns at hlast
      rw [GroupDao.run_deleteGroup, hg] at hlast
      cases hlast
      have hsecond : ∀ db₀, Shrunk db₀ g s → Shrunk db₀ g t := by
        intro db₀ hs
        have hkeeps := keeps_deleteGroupProjects.run hs
        rwa [hprojects] at hkeeps
      have hshrunk : Shrunk db g t := by
        have hfirst := (keeps_deleteGroupMembers hg).run (Shrunk.refl db g)
        rw [hmembers] at hfirst
        exact hsecond db hfirst
      constructor
      · intro h
        exact hshrunk.reached h.members h.mappings h.lists h.sources
      · intro h
        have hhas : db.groups.Has g := .of_getItem hgroup
        have hemptied := emptied_deleteGroupMembers h hg hhas hmembers
        have hunlisted := unlisted_deleteGroupProjects h hg hhas hemptied hprojects
        have hids : ∀ p, db.IsMapped g p → p ∈ UserProjectsDao.projectIds s g := by
          intro p hp
          rw [UserProjectsDao.mem_projectIds, Db.IsMapped, hemptied.projectGroups]
          exact hp
        refine ⟨hunlisted.members, fun p hp => ?_, fun p hp => ?_, fun u p hx => ?_, ?_⟩
        · exact hunlisted.mappings p (hids p (hshrunk.mappings p hp)) hp
        · exact hunlisted.lists p (hids p ((h.lists p).mpr (hshrunk.mem_groupsOf hp))) hp
        · -- a source would be one of a former member, which has none
          have hold : g ∈ sources s u p := (hsecond s (Shrunk.refl s g)).sources u p hx
          have hmember := (h.sources u p (hemptied.shrunk.sources u p hold)).1
          exact hemptied.taken u (GroupMembersDao.mem_usernames.mpr hmember) p hold
        · exact fun hrow => (Table.has_deleteItem.mp hrow).1 rfl
  · rw [run_bind_of_error (run_requireNotEmpty_of_isEmpty hg _ db)] at hrun
    cases hrun

/-! ## A disabled project -/

theorem reached_memberProject : Reached memberProject "team" where
  members u hu := by
    obtain rfl : u = "alice" := by simpa [memberProject, Db.IsMember] using hu
    decide
  mappings p hp := by
    obtain rfl : p = "p1" := by simpa [memberProject, Db.IsMapped] using hp
    decide
  lists p := by
    by_cases hp : p = "p1"
    · subst hp
      exact iff_of_true rfl (by decide)
    · simp [memberProject, Db.IsMapped, groupsOf, hp]
  sources u p hx := by
    obtain ⟨rfl, rfl⟩ : u = "alice" ∧ p = "p1" := by simpa [memberProject] using has_of_mem_sources hx
    exact ⟨rfl, rfl⟩

/-- A group of an enabled project, with a member. -/
theorem noTrace_memberProject : ∃ db', (deleteGroup "team" true).run memberProject = (.ok ⟨⟩, db') ∧
    NoTrace db' "team" :=
  ⟨_, rfl, (noTrace_iff rfl).mpr reached_memberProject⟩

/-- The group `lab` is created, and a project of the group, which is enabled and disabled again. -/
def disabledStudy : DbProc PUnit := do
  let _ ← createGroup noDirectory
    { name := some "lab", groupType := some "project", type := some "internal" }
  let projectId ← createProject acceptingCreation
    { name := some "study", ldapGroups := some ["lab"], users := some [] }
  ProjectTask.projectEnabled.invoke projectId
  disableProject "m2" (some projectId) none
  ProjectTask.projectDisabled.invoke projectId

/-- **A group that stays listed.** From empty tables: the deletion of the group of a disabled project returns, and
the project still lists the group. -/
theorem deleted_group_stays_listed : ∃ db db', disabledStudy.run Db.empty = (.ok ⟨⟩, db) ∧
    (deleteGroup "lab" true).run db = (.ok ⟨⟩, db') ∧ "lab" ∈ groupsOf db'.projects "u" ∧ ¬ NoTrace db' "lab" := by
  obtain ⟨db, hrun⟩ : ∃ db, disabledStudy.run Db.empty = (.ok ⟨⟩, db) := ⟨_, rfl⟩
  obtain ⟨db', hdelete, hlisted⟩ : ∃ db', (deleteGroup "lab" true).run db = (.ok ⟨⟩, db') ∧
      "lab" ∈ groupsOf db'.projects "u" := by
    cases hrun
    exact ⟨_, rfl, by decide⟩
  exact ⟨db, db', hrun, hdelete, hlisted, fun h => h.lists "u" hlisted⟩

end ContainRes.Projects
