import ContainRes.Projects.Provenance

/-! # Removing a user from groups

A group stands at a user in three places: a row of group-members, an entry of the additional groups, and a
source of the user's rows in user-projects. `remove_user_from_groups` looks at the state of a group for the
first two, and not for the third.

* **`RowsRevoked`** — rows of user-projects from which sources are taken, and the rows that go with them.
* **`Removed`** — what the method leaves when it returns.
* **`TakesAll`**, **`TakesNothing`** — what it finds of a group before.
* **`allOrNothing_iff`** — all of a group goes, or nothing. -/

namespace ContainRes.Projects

open Accounts Effects Effects.Proc Store Text

/-! ## Additional groups -/

/-- A name is in `groups_to_remove` once. -/
theorem nodup_groupsToRemove (names : List String) : (groupsToRemove names).Nodup := by
  unfold groupsToRemove
  suffices key : ∀ (rest seen : List String), seen.Nodup →
      (rest.foldl (fun seen name => if name ∈ seen then seen else seen ++ [name]) seen).Nodup from
    key names [] List.nodup_nil
  intro rest
  induction rest with
  | nil => exact fun _ hseen => hseen
  | cons name rest ih =>
    intro seen hseen
    rw [List.foldl_cons]
    apply ih
    split
    · exact hseen
    · rename_i hnew
      refine hseen.append (List.nodup_singleton name) fun x hx hname => hnew ?_
      rwa [← List.mem_singleton.mp hname]

variable {names : List String}

/-- Of a group that is removable one entry goes. -/
theorem count_remaining {db : Db} {isActive : Bool} (hnodup : names.Nodup)
    (groups : List String) (g : String) : (db.remaining isActive names groups).count g =
      groups.count g - if g ∈ names ∧ db.isRemovable isActive g = true then 1 else 0 := by
  induction names generalizing groups with
  | nil => simp [Db.remaining]
  | cons name names ih =>
    obtain ⟨hname, hnodup'⟩ := List.nodup_cons.mp hnodup
    rw [remaining_cons, ih hnodup']
    by_cases hg : g = name
    · subst hg
      by_cases hremovable : db.isRemovable isActive g = true
      · simp [hname, hremovable]
      · simp [hname, hremovable]
    · have hkept : (if db.isRemovable isActive name = true then groups.erase name else groups).count g =
          groups.count g := by
        split
        · exact List.count_erase_of_ne hg
        · rfl
      rw [hkept]
      simp only [List.mem_cons, hg, false_or]

/-! ## Memberships -/

variable {username : String}

/-- The loop over the groups: the additional groups that remain, and the memberships that go. -/
theorem returns_removeMemberships {isActive : Bool} (hu : isEmpty username = false)
    {names groups left : List String} {db db' : Db}
    (h : (removeMemberships username isActive names groups).run db = (.ok left, db')) :
    left = db.remaining isActive names groups ∧ db' = { db with groupMembers := db'.groupMembers } ∧
      ∀ g v, db'.IsMember g v ↔
        db.IsMember g v ∧ ¬ (v = sanitized username ∧ g ∈ names ∧ db.IsEnabledGroup g) := by
  induction names generalizing groups db with
  | nil =>
    cases h
    exact ⟨rfl, rfl, fun g v => by simp⟩
  | cons name names ih =>
    unfold removeMemberships at h
    rw [run_bind, GroupDao.run_getGroup] at h
    rcases hblank : isEmpty name with _ | _
    · simp only [hblank, Bool.false_eq_true, if_false] at h
      -- a group that is passed over is not an enabled one
      have hpass : ¬ db.IsEnabledGroup name → ∀ g v : String,
          (v = sanitized username ∧ g ∈ name :: names ∧ db.IsEnabledGroup g ↔
            v = sanitized username ∧ g ∈ names ∧ db.IsEnabledGroup g) := by
        intro hname g v
        refine and_congr_right fun _ => ⟨?_, fun hg => ⟨List.mem_cons_of_mem name hg.1, hg.2⟩⟩
        rintro ⟨hmem, henabled⟩
        rcases List.mem_cons.mp hmem with rfl | hmem
        · exact absurd henabled hname
        · exact ⟨hmem, henabled⟩
      rcases hgroup : db.groups.getItem name with _ | group
      · simp only [hgroup] at h
        obtain ⟨hleft, hframe, hmembers⟩ := ih h
        refine ⟨?_, hframe, fun g v => ?_⟩
        · rw [remaining_cons, hleft]
          cases isActive <;> simp [Db.isRemovable, hgroup]
        · rw [hmembers, hpass]
          rintro ⟨group, hsome, -⟩
          rw [hgroup] at hsome
          cases hsome
      · simp only [hgroup] at h
        by_cases hdisabled : group.enabled = false
        · rw [if_pos hdisabled] at h
          obtain ⟨hleft, hframe, hmembers⟩ := ih h
          refine ⟨?_, hframe, fun g v => ?_⟩
          · rw [remaining_cons, hleft]
            simp [Db.isRemovable, hgroup, hdisabled]
          · rw [hmembers, hpass]
            rintro ⟨group', hsome, henabled⟩
            rw [hgroup] at hsome
            cases hsome
            rw [hdisabled] at henabled
            cases henabled
        · rw [if_neg hdisabled, run_bind_of_ok (GroupMembersDao.run_deleteMembership hblank hu db)] at h
          have henabled : group.enabled = true := by simpa using hdisabled
          obtain ⟨hleft, hframe, hmembers⟩ := ih h
          refine ⟨?_, ?_, fun g v => ?_⟩
          · rw [remaining_cons, hleft]
            have hremovable : db.isRemovable isActive name = true := by
              simp [Db.isRemovable, hgroup, henabled]
            rw [if_pos hremovable]
            rfl
          · rw [hframe]
            rfl
          · rw [hmembers, Db.isMember_leave]
            have hname : db.IsEnabledGroup name := ⟨group, hgroup, henabled⟩
            constructor
            · rintro ⟨⟨hne, hmember⟩, hrest⟩
              refine ⟨hmember, ?_⟩
              rintro ⟨hv, hmem, hg⟩
              rcases List.mem_cons.mp hmem with rfl | hmem
              · exact hne ⟨rfl, hv⟩
              · exact hrest ⟨hv, hmem, hg⟩
            · rintro ⟨hmember, hrest⟩
              refine ⟨⟨?_, hmember⟩, fun hg => hrest ⟨hg.1, List.mem_cons_of_mem name hg.2.1, hg.2.2⟩⟩
              rintro ⟨rfl, rfl⟩
              exact hrest ⟨rfl, List.mem_cons_self, hname⟩
    · simp [hblank] at h

/-! ## Rows of user-projects -/

/-- `s` is `db` after the sources in `R` were taken from the rows in `T`; a row in `T` is there as long as a
source is left in it. -/
structure RowsRevoked (db : Db) (T : String → String → Prop) (R : String → String → String → Prop)
    (s : Db) : Prop where
  frame : s = { db with userProjects := s.userProjects }
  sources : ∀ u p x, x ∈ sources s u p ↔ x ∈ sources db u p ∧ ¬ R u p x
  rows : ∀ u p, s.userProjects.Has (u, p) ↔
    db.userProjects.Has (u, p) ∧ (T u p → ∃ x ∈ Projects.sources db u p, ¬ R u p x)

variable {db : Db} {T T' : String → String → Prop} {R R' : String → String → String → Prop}

theorem RowsRevoked.congr {s : Db} (h : RowsRevoked db T R s) (hT : ∀ u p, T u p ↔ T' u p)
    (hR : ∀ u p x, R u p x ↔ R' u p x) : RowsRevoked db T' R' s := by
  obtain rfl : T = T' := by
    funext u p
    exact propext (hT u p)
  obtain rfl : R = R' := by
    funext u p x
    exact propext (hR u p x)
  exact h

theorem RowsRevoked.refl (db : Db) : RowsRevoked db (fun _ _ => False) (fun _ _ _ => False) db where
  frame := rfl
  sources u p x := by simp
  rows u p := by simp

theorem has_of_mem_sources {s : Db} {u p x : String} (h : x ∈ sources s u p) : s.userProjects.Has (u, p) := by
  unfold sources at h
  cases hrow : s.userProjects.getItem (u, p) with
  | none =>
    rw [hrow] at h
    cases h
  | some row => exact Table.Has.of_getItem hrow

/-- A revocation leaves the row where it leaves a source in it. -/
theorem has_revoke_self (s : Db) (p u : String) (byLdaps : List String) :
    (s.revoke p u byLdaps).userProjects.Has (u, p) ↔ ∃ x ∈ sources s u p, x ∉ byLdaps := by
  constructor
  · intro hhas
    unfold Db.revoke at hhas
    cases hrow : s.userProjects.getItem (u, p) with
    | none =>
      rw [hrow] at hhas
      exact absurd hhas (Table.not_has_iff.mpr hrow)
    | some existing =>
      rw [hrow] at hhas
      by_cases hleft : existing.dedup.filter (fun source => source ∉ byLdaps) = []
      · simp only [hleft, if_true] at hhas
        exact absurd hhas (by simp)
      · obtain ⟨x, hx⟩ := List.exists_mem_of_ne_nil _ hleft
        obtain ⟨hx, hnot⟩ := List.mem_filter.mp hx
        refine ⟨x, ?_, of_decide_eq_true hnot⟩
        rw [sources, hrow]
        exact List.mem_dedup.mp hx
  · rintro ⟨x, hx, hnot⟩
    exact has_of_mem_sources (mem_sources_revoke.mpr ⟨hx, fun h => hnot h.2⟩)

/-- `delete_user_project` takes sources from one row. -/
theorem triple_revokeRow (p username : String) (byLdaps : List String) :
    Triple (RowsRevoked db T R) (UserProjectsDao.deleteUserProject p username byLdaps)
      (fun _ => RowsRevoked db (fun u q => T u q ∨ u = username ∧ q = p)
        fun u q x => R u q x ∨ (u = username ∧ q = p) ∧ x ∈ byLdaps) fun _ _ => True := by
  refine Triple.intro (fun s u t hs hrun => ?_) fun _ _ _ _ _ => trivial
  have hrevoke : t = s.revoke p username byLdaps := by
    unfold UserProjectsDao.deleteUserProject at hrun
    obtain ⟨⟨⟩, s₁, h₁, hrest₁⟩ := returns_bind.mp hrun
    obtain rfl := (reads_requireNotEmpty _ _).eq_of_run h₁
    obtain ⟨⟨⟩, s₂, h₂, hrest₂⟩ := returns_bind.mp hrest₁
    obtain rfl := (reads_requireNotEmpty _ _).eq_of_run h₂
    obtain ⟨project, s₃, h₃, hrest₃⟩ := returns_bind.mp hrest₂
    obtain rfl := (Reads.bind (reads_requireNotEmpty _ _) fun _ => Reads.gets _).eq_of_run h₃
    cases project with
    | none => exact absurd hrest₃ not_returns_raise
    | some project =>
      obtain ⟨user, s₄, h₄, hrest₄⟩ := returns_bind.mp hrest₃
      obtain rfl := (reads_getUser _).eq_of_run h₄
      cases user with
      | none => exact absurd hrest₄ not_returns_raise
      | some user => exact (returns_modify.mp hrest₄).symm
  subst hrevoke
  refine ⟨frame_trans hs.frame (revoke_frame s p username byLdaps), fun u q x => ?_, fun u q => ?_⟩
  · show x ∈ sources (s.revoke p username byLdaps) u q ↔ _
    rw [mem_sources_revoke, hs.sources, not_or, and_assoc]
  · by_cases hkey : u = username ∧ q = p
    · obtain ⟨rfl, rfl⟩ := hkey
      rw [has_revoke_self]
      constructor
      · rintro ⟨x, hx, hnot⟩
        obtain ⟨hx', hR⟩ := (hs.sources u q x).mp hx
        refine ⟨has_of_mem_sources hx', fun _ => ⟨x, hx', ?_⟩⟩
        rintro (h | ⟨-, h⟩)
        · exact hR h
        · exact hnot h
      · rintro ⟨-, hleft⟩
        obtain ⟨x, hx, hnot⟩ := hleft (.inr ⟨rfl, rfl⟩)
        rw [not_or] at hnot
        exact ⟨x, (hs.sources u q x).mpr ⟨hx, hnot.1⟩, fun h => hnot.2 ⟨⟨rfl, rfl⟩, h⟩⟩
    · -- the other rows are as they were
      have hne : (u, q) ≠ (username, p) := by simpa using hkey
      rw [Table.has_iff, getItem_revoke_of_ne byLdaps hne, ← Table.has_iff, hs.rows]
      simp [hkey]

/-- `group_member_removed` takes the group from the rows of its projects. -/
theorem triple_revokeRows (g username : String) :
    Triple (RowsRevoked db T R) (UserProjectsDao.groupMemberRemoved g username)
      (fun _ => RowsRevoked db (fun u p => T u p ∨ u = username ∧ db.IsMapped g p)
        fun u p x => R u p x ∨ u = username ∧ x = g ∧ db.IsMapped x p) fun _ _ => True := by
  intro s hs
  have hids : UserProjectsDao.projectIds s g = UserProjectsDao.projectIds db g := projectIds_frame hs.frame g
  unfold UserProjectsDao.groupMemberRemoved UserProjectsDao.getProjectsByGroupName
  refine (Triple.bind_reads (reads_requireNotEmpty _ _) (fun _ _ _ => trivial) fun _ =>
    Triple.bind_reads (reads_requireNotEmpty _ _) (fun _ _ _ => trivial) fun _ =>
    Triple.bind (Triple.bind_reads (reads_requireNotEmpty _ _) (fun _ _ _ => trivial) fun _ =>
      Triple.gets (Q := fun ids t => ids = UserProjectsDao.projectIds db g ∧ RowsRevoked db T R t)
        fun t ht => ⟨projectIds_frame ht.frame g, ht⟩) fun ids => ?_) s hs
  rintro t ⟨rfl, ht⟩
  -- `done` are the projects whose rows have been dealt with
  refine ((Triple.forEach_done (fun done => RowsRevoked db (fun u p => T u p ∨ u = username ∧ p ∈ done)
    fun u p x => R u p x ∨ u = username ∧ x = g ∧ p ∈ done) fun done p rest _ => ?_).conseq
    (fun t ht => ht.congr (fun u p => by simp) fun u p x => by simp)
    (fun _ t ht => ht.congr (fun u p => ?_) fun u p x => ?_) fun _ _ h => h) t ht
  · refine (triple_revokeRow p username [g]).conseq (fun _ h => h)
      (fun _ t ht => ht.congr (fun u q => ?_) fun u q x => ?_) fun _ _ h => h
    · simp only [List.mem_append, List.mem_singleton, or_assoc, and_or_left]
    · simp only [List.mem_append, List.mem_singleton, or_assoc, and_or_left]
      tauto
  · rw [UserProjectsDao.mem_projectIds]
  · rw [UserProjectsDao.mem_projectIds]
    refine or_congr_right (and_congr_right fun _ => and_congr_right fun hx => ?_)
    rw [hx]

/-- The loop of `group_member_removed` over groups takes each group from the rows of its projects. -/
theorem returns_groupMembersRemoved {db' : Db}
    (hrun : (Proc.forEach (fun g => UserProjectsDao.groupMemberRemoved g username) names).run db = (.ok ⟨⟩, db')) :
    RowsRevoked db (fun u p => u = username ∧ ∃ g ∈ names, db.IsMapped g p)
      (fun u p x => u = username ∧ x ∈ names ∧ db.IsMapped x p) db' := by
  have hloop : Triple (RowsRevoked db (fun _ _ => False) fun _ _ _ => False)
      (Proc.forEach (fun g => UserProjectsDao.groupMemberRemoved g username) names)
      (fun _ => RowsRevoked db (fun u p => u = username ∧ ∃ g ∈ names, db.IsMapped g p)
        fun u p x => u = username ∧ x ∈ names ∧ db.IsMapped x p)
      fun _ _ => True := by
    refine (Triple.forEach_done (fun done => RowsRevoked db (fun u p => u = username ∧ ∃ g ∈ done, db.IsMapped g p)
      fun u p x => u = username ∧ x ∈ done ∧ db.IsMapped x p) fun done g rest _ => ?_).conseq
      (fun t ht => ht.congr (fun u p => by simp) fun u p x => by simp) (fun _ _ h => h) fun _ _ h => h
    refine (triple_revokeRows g username).conseq (fun _ h => h)
      (fun _ t ht => ht.congr (fun u p => ?_) fun u p x => ?_) fun _ _ h => h
    · simp only [List.mem_append, List.mem_singleton, or_and_right, exists_or, exists_eq_left, and_or_left]
    · simp only [List.mem_append, List.mem_singleton, or_and_right, and_or_left]
  exact hloop.of_ok (RowsRevoked.refl db) hrun

/-! ## The method -/

/-- What `remove_user_from_groups` leaves when it returns, for the user `u` with the row `user`. -/
structure Removed (db : Db) (username : String) (names : List String) (user : UserRow) (db' : Db) :
    Prop where
  frame : db' = { db with
    users := db'.users, groupMembers := db'.groupMembers, userProjects := db'.userProjects }
  users : ∀ v, db'.users.getItem v =
    if v = sanitized username then
      some { user with
        additionalGroups := db.remaining user.isActive (groupsToRemove names) user.additionalGroups }
    else db.users.getItem v
  members : ∀ g v, db'.IsMember g v ↔
    db.IsMember g v ∧ ¬ (v = sanitized username ∧ g ∈ names ∧ db.IsEnabledGroup g)
  sources : ∀ u p x, x ∈ sources db' u p ↔
    x ∈ sources db u p ∧ ¬ (u = username ∧ x ∈ names ∧ db.IsMapped x p)
  rows : ∀ u p, db'.userProjects.Has (u, p) ↔ db.userProjects.Has (u, p) ∧
    (u = username ∧ (∃ g ∈ names, db.IsMapped g p) →
      ∃ x ∈ Projects.sources db u p, ¬ (u = username ∧ x ∈ names ∧ db.IsMapped x p))

/-- **What the method leaves** when it returns: the user is there and enabled, and is removed. -/
theorem removed_of_run {db' : Db} (hrun : (removeUserFromGroups username names).run db = (.ok ⟨⟩, db')) :
    ∃ user, db.users.getItem (sanitized username) = some user ∧ user.enabled = true ∧
      Removed db username names user db' := by
  unfold removeUserFromGroups at hrun
  rcases hu : isEmpty username with _ | _
  · rw [run_bind_of_ok (run_requireNotEmpty_of_not_isEmpty hu _ db)] at hrun
    obtain ⟨⟨⟩, s₁, h₁, hrest₁⟩ := returns_bind.mp hrun
    have hs₁ : s₁ = db := (Reads.whenRaise _).eq_of_run h₁
    rw [hs₁] at hrest₁
    obtain ⟨found, s₂, h₂, hrest₂⟩ := returns_bind.mp hrest₁
    unfold Returns at h₂
    rw [UserDao.run_getUser, hu] at h₂
    cases h₂
    cases huser : db.users.getItem (sanitized username) with
    | none =>
      rw [huser] at hrest₂
      exact absurd hrest₂ not_returns_raise
    | some user =>
      rw [huser] at hrest₂
      by_cases hdisabled : user.enabled = false
      · simp only [if_pos hdisabled] at hrest₂
        exact absurd hrest₂ not_returns_raise
      · simp only [if_neg hdisabled] at hrest₂
        refine ⟨user, rfl, by simpa using hdisabled, ?_⟩
        obtain ⟨left, s₃, h₃, hrest₃⟩ := returns_bind.mp hrest₂
        obtain ⟨rfl, hframe, hmembers⟩ := returns_removeMemberships hu h₃
        have huser' : s₃.users.getItem (sanitized username) = some user := by
          rw [hframe]
          exact huser
        obtain ⟨⟨⟩, s₄, h₄, hrest₄⟩ := returns_bind.mp hrest₃
        unfold Returns at h₄
        rw [run_updateAdditionalGroups hu huser'] at h₄
        cases h₄
        have hrows := returns_groupMembersRemoved hrest₄
        have hmapped : ∀ g p, (s₃.setAdditionalGroups (sanitized username) (db.remaining user.isActive
            (groupsToRemove names) user.additionalGroups)).IsMapped g p ↔ db.IsMapped g p := by
          intro g p
          rw [hframe]
          rfl
        refine ⟨?_, fun v => ?_, fun g v => ?_, fun u p x => ?_, fun u p => ?_⟩
        · rw [hrows.frame, hframe]
          rfl
        · rw [hrows.frame]
          show (s₃.setAdditionalGroups _ _).users.getItem v = _
          rw [getItem_setAdditionalGroups huser', hframe]
        · have hmembers' : db'.IsMember g v ↔ s₃.IsMember g v := by
            rw [hrows.frame]
            rfl
          rw [hmembers', hmembers, mem_groupsToRemove]
        · rw [hrows.sources, hmapped, mem_groupsToRemove]
          have hsources : sources (s₃.setAdditionalGroups (sanitized username) (db.remaining user.isActive
              (groupsToRemove names) user.additionalGroups)) u p = sources db u p := by
            rw [hframe]
            rfl
          rw [hsources]
        · rw [hrows.rows]
          simp only [hmapped, mem_groupsToRemove]
          rw [hframe]
          rfl
  · rw [run_bind_of_error (run_requireNotEmpty_of_isEmpty hu _ db)] at hrun
    cases hrun

/-! ## All or nothing -/

/-- The additional groups of a user; none without a row. -/
def additionalGroupsOf (db : Db) (u : String) : List String :=
  ((db.users.getItem u).map UserRow.additionalGroups).getD []

/-- Nothing of the group is left at the user. -/
def Gone (db : Db) (u g : String) : Prop :=
  ¬ db.IsMember g u ∧ g ∉ additionalGroupsOf db u ∧ ∀ p, g ∉ sources db u p

/-- Of the group there is at the user what there was. -/
def Untouched (db db' : Db) (u g : String) : Prop :=
  (db'.IsMember g u ↔ db.IsMember g u) ∧ (g ∈ additionalGroupsOf db' u ↔ g ∈ additionalGroupsOf db u) ∧
    ∀ p, g ∈ sources db' u p ↔ g ∈ sources db u p

/-- Each of the groups is gone or untouched, and the others are untouched. -/
def AllOrNothing (db db' : Db) (u : String) (names : List String) : Prop :=
  (∀ g ∈ names, Gone db' u g ∨ Untouched db db' u g) ∧ ∀ g ∉ names, Untouched db db' u g

/-- The method takes all there is of the group: a membership of an enabled group, one entry of a removable
group, and sources in projects that the group is mapped to. -/
def TakesAll (db : Db) (username : String) (user : UserRow) (g : String) : Prop :=
  (db.IsMember g (sanitized username) → db.IsEnabledGroup g) ∧
    (g ∈ user.additionalGroups → db.isRemovable user.isActive g = true ∧ user.additionalGroups.count g = 1) ∧
    ∀ p, g ∈ sources db (sanitized username) p → sanitized username = username ∧ db.IsMapped g p

/-- The method takes nothing of the group: no membership of an enabled group is there, no single entry of a
removable group, and no source in a project that the group is mapped to. -/
def TakesNothing (db : Db) (username : String) (user : UserRow) (g : String) : Prop :=
  ¬ (db.IsMember g (sanitized username) ∧ db.IsEnabledGroup g) ∧
    ¬ (db.isRemovable user.isActive g = true ∧ user.additionalGroups.count g = 1) ∧
    ∀ p, g ∈ sources db (sanitized username) p → ¬ (sanitized username = username ∧ db.IsMapped g p)

section

variable {username : String} {names : List String} {user : UserRow} {db' : Db} {g : String}

/-- The additional groups after the removal. -/
theorem Removed.mem_additionalGroups (h : Removed db username names user db')
    (huser : db.users.getItem (sanitized username) = some user) : (g ∈ additionalGroupsOf db' (sanitized username) ↔
      (if g ∈ names ∧ db.isRemovable user.isActive g = true then 1 else 0) < user.additionalGroups.count g) ∧
    (g ∈ additionalGroupsOf db (sanitized username) ↔ g ∈ user.additionalGroups) := by
  unfold additionalGroupsOf
  rw [h.users, if_pos rfl, huser]
  refine ⟨?_, Iff.rfl⟩
  show g ∈ db.remaining user.isActive (groupsToRemove names) user.additionalGroups ↔ _
  rw [← List.count_pos_iff, count_remaining (nodup_groupsToRemove names)]
  simp only [mem_groupsToRemove]
  omega

/-- A listed group is gone when the method takes all of it. -/
theorem Removed.gone_iff (h : Removed db username names user db')
    (huser : db.users.getItem (sanitized username) = some user) (hg : g ∈ names) :
    Gone db' (sanitized username) g ↔ TakesAll db username user g := by
  obtain ⟨hgroups, -⟩ := h.mem_additionalGroups (g := g) huser
  unfold Gone TakesAll
  refine and_congr ?_ (and_congr ?_ ?_)
  · rw [h.members]
    constructor
    · intro hgone hmember
      by_contra henabled
      exact hgone ⟨hmember, fun hall => henabled hall.2.2⟩
    · rintro henabled ⟨hmember, hkept⟩
      exact hkept ⟨rfl, hg, henabled hmember⟩
  · have hcount : g ∈ user.additionalGroups ↔ 0 < user.additionalGroups.count g := List.count_pos_iff.symm
    rw [hgroups, hcount]
    split
    · rename_i hremovable
      simp only [hremovable.2, true_and]
      omega
    · rename_i hkept
      have hnot : ¬ db.isRemovable user.isActive g = true := fun hremovable => hkept ⟨hg, hremovable⟩
      simp only [hnot, Bool.false_eq_true, false_and, imp_false]
  · refine forall_congr' fun p => ?_
    rw [h.sources, not_and, not_not]
    simp only [hg, true_and]

/-- A listed group is untouched when the method takes nothing of it. -/
theorem Removed.untouched_iff (h : Removed db username names user db')
    (huser : db.users.getItem (sanitized username) = some user) (hg : g ∈ names) :
    Untouched db db' (sanitized username) g ↔ TakesNothing db username user g := by
  obtain ⟨hgroups, hgroups'⟩ := h.mem_additionalGroups (g := g) huser
  unfold Untouched TakesNothing
  refine and_congr ?_ (and_congr ?_ ?_)
  · rw [h.members, and_iff_left_iff_imp]
    simp only [hg, true_and]
    exact not_and.symm
  · have hcount : g ∈ user.additionalGroups ↔ 0 < user.additionalGroups.count g := List.count_pos_iff.symm
    rw [hgroups, hgroups', hcount]
    simp only [hg, true_and]
    split
    · rename_i hremovable
      simp only [hremovable, true_and]
      omega
    · rename_i hnot
      simp only [hnot, Bool.false_eq_true, false_and, not_false_eq_true]
  · refine forall_congr' fun p => ?_
    rw [h.sources, and_iff_left_iff_imp]
    simp only [hg, true_and]

/-- A group that is not listed is untouched. -/
theorem Removed.untouched_of_not_mem (h : Removed db username names user db')
    (huser : db.users.getItem (sanitized username) = some user) (hg : g ∉ names) :
    Untouched db db' (sanitized username) g := by
  obtain ⟨hgroups, hgroups'⟩ := h.mem_additionalGroups (g := g) huser
  refine ⟨?_, ?_, fun p => ?_⟩
  · rw [h.members]
    simp [hg]
  · rw [hgroups, hgroups']
    simp [hg, List.count_pos_iff]
  · rw [h.sources]
    simp [hg]

end

/-- **All or nothing.** When `remove_user_from_groups` returns, each listed group is gone or untouched and the
others are untouched, exactly when it found each listed group in a state in which it takes all of it or
nothing of it. -/
theorem allOrNothing_iff {username : String} {names : List String} {db' : Db}
    (hrun : (removeUserFromGroups username names).run db = (.ok ⟨⟩, db')) :
    ∃ user, db.users.getItem (sanitized username) = some user ∧ (AllOrNothing db db' (sanitized username) names ↔
        ∀ g ∈ names, TakesAll db username user g ∨ TakesNothing db username user g) := by
  obtain ⟨user, huser, -, hremoved⟩ := removed_of_run hrun
  refine ⟨user, huser, ?_⟩
  unfold AllOrNothing
  rw [and_iff_left fun g hg => hremoved.untouched_of_not_mem huser hg]
  refine forall₂_congr fun g hg => ?_
  rw [hremoved.gone_iff huser hg, hremoved.untouched_iff huser hg]

/-! ## A disabled group -/

/-- The user `alice`, an active member of the disabled group `lab`, which gives her the project `p1`. -/
def disabledLab : Db :=
  { Db.empty with
    users := (∅ : Table String UserRow).putItem "alice"
      ⟨"alice@lab.org", some 1, some 1, ["lab"], "/bin/bash", "/home/alice", false, true, userRole, true⟩
    groups := (∅ : Table String GroupRow).putItem "lab" ⟨none, none, none, none, none, false, none⟩
    groupMembers := (∅ : Table (String × String) Unit).putItem ("lab", "alice") ()
    projects := (∅ : Table String ProjectRow).putItem "p1" ⟨"project", some ["lab"], some [], some true, none⟩
    projectGroups := (∅ : Table (String × String) Unit).putItem ("lab", "p1") ()
    userProjects := (∅ : Table (String × String) (List String)).putItem ("alice", "p1") ["lab"] }

/-- What the removal from the group leaves. -/
def disabledLabRemoved : Db := ((removeUserFromGroups "alice" ["lab"]).run disabledLab).2

theorem run_disabledLab : (removeUserFromGroups "alice" ["lab"]).run disabledLab = (.ok ⟨⟩, disabledLabRemoved) := rfl

theorem allOrNothing_iff_disabledLab : ∃ user, disabledLab.users.getItem (sanitized "alice") = some user ∧
      (AllOrNothing disabledLab disabledLabRemoved (sanitized "alice") ["lab"] ↔
        ∀ g ∈ ["lab"], TakesAll disabledLab "alice" user g ∨ TakesNothing disabledLab "alice" user g) :=
  allOrNothing_iff run_disabledLab

/-- **A part of a group.** The membership and the entry of the disabled group stay, and the source in the
project is gone. -/
theorem disabled_group_half_removed :
    (removeUserFromGroups "alice" ["lab"]).run disabledLab = (.ok ⟨⟩, disabledLabRemoved) ∧
      disabledLabRemoved.IsMember "lab" "alice" ∧ "lab" ∈ additionalGroupsOf disabledLabRemoved "alice" ∧
      "lab" ∈ sources disabledLab "alice" "p1" ∧ "lab" ∉ sources disabledLabRemoved "alice" "p1" ∧
      ¬ AllOrNothing disabledLab disabledLabRemoved "alice" ["lab"] := by
  have hmember : disabledLabRemoved.groupMembers.Has ("lab", "alice") := by decide
  have hbefore : "lab" ∈ sources disabledLab "alice" "p1" := by decide
  have hafter : "lab" ∉ sources disabledLabRemoved "alice" "p1" := by decide
  refine ⟨run_disabledLab, hmember, by decide, hbefore, hafter, ?_⟩
  rintro ⟨hlisted, -⟩
  rcases hlisted "lab" (List.mem_singleton.mpr rfl) with hgone | huntouched
  · exact hgone.1 hmember
  · exact hafter ((huntouched.2.2 "p1").mpr hbefore)

end ContainRes.Projects
