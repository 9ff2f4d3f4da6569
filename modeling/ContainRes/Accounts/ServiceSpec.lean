import Mathlib.Data.List.Dedup
import ContainRes.Accounts.Service

/-! # What the membership operations do

One equation for the run of each piece of the membership operations: the database it leaves, as a
function of the database it starts from. Later proofs use these equations and never look into an
operation again.

* **`run_addUserToGroup`**, **`run_removeUserFromGroup`** — the iteration for one user.
* **`run_removeMemberships`**, **`remaining`** — the loop of `remove_user_from_groups`, and
  **`run_removeUserFromGroups`**, the whole of it.
* **`triple_newUser`** — the checks of `create_user`. -/

namespace ContainRes.Accounts

open Effects Store Text

variable {ctx : AccountsContext} {db : Db} {groupName username : String}

/-! ## Reads -/

theorem reads_getGroup (groupName : String) : Reads (GroupDao.getGroup groupName) := by
  intro s
  rw [GroupDao.run_getGroup]
  split <;> rfl

theorem reads_getUser (username : String) : Reads (UserDao.getUser username) := by
  intro s
  rw [UserDao.run_getUser]
  split <;> rfl

theorem reads_requireNotEmpty (value message : String) : Reads (requireNotEmpty value message) :=
  Reads.ite (fun _ => Reads.raise _) fun _ => Reads.pure _

/-! ## Additional groups -/

/-- The database with the additional groups of a user replaced. -/
def Db.setAdditionalGroups (db : Db) (username : String) (groups : List String) : Db :=
  { db with users := db.users.updateItem username fun row => { row with additionalGroups := groups } }

/-- The database after `add_users_to_group` has updated the record `user` of a user. -/
def Db.addAdditionalGroup (db : Db) (username : String) (user : UserRow) (groupName : String) : Db :=
  if groupName ∈ user.additionalGroups then db
  else db.setAdditionalGroups username (withGroup user.additionalGroups groupName)

/-- The database after `remove_users_from_group` has updated the record `user` of a user. -/
def Db.dropAdditionalGroup (db : Db) (username : String) (user : UserRow) (groupName : String) : Db :=
  if groupName ∈ user.additionalGroups then
    db.setAdditionalGroups username (withoutGroup user.additionalGroups groupName)
  else db

variable {g : String} {groups : List String}

@[simp] theorem mem_withGroup : g ∈ withGroup groups groupName ↔ g ∈ groups ∨ g = groupName := by
  simp [withGroup]

@[simp] theorem mem_withoutGroup : g ∈ withoutGroup groups groupName ↔ g ∈ groups ∧ g ≠ groupName := by
  simp [withoutGroup]

variable {user : UserRow}

theorem getItem_setAdditionalGroups (huser : db.users.getItem username = some user) (v : String) :
    (db.setAdditionalGroups username groups).users.getItem v =
      if v = username then some { user with additionalGroups := groups }
      else db.users.getItem v := by
  rw [Db.setAdditionalGroups, Table.getItem_updateItem, huser]
  rfl

/-- The record of a user after `add_users_to_group` has updated it. -/
theorem getItem_addAdditionalGroup (groupName : String) (huser : db.users.getItem username = some user) :
    ∃ groups, (∀ g, g ∈ groups ↔ g ∈ user.additionalGroups ∨ g = groupName) ∧
      ∀ v, (db.addAdditionalGroup username user groupName).users.getItem v =
        if v = username then some { user with additionalGroups := groups }
        else db.users.getItem v := by
  unfold Db.addAdditionalGroup
  split
  · rename_i hmem
    refine ⟨user.additionalGroups, fun g => ?_, fun v => ?_⟩
    · constructor
      · exact .inl
      · rintro (hg | rfl)
        · exact hg
        · exact hmem
    · split
      · rename_i hv
        rw [hv, huser]
      · rfl
  · exact ⟨_, fun g => mem_withGroup, getItem_setAdditionalGroups huser⟩

/-- The record of a user after `remove_users_from_group` has updated it. -/
theorem getItem_dropAdditionalGroup (groupName : String) (huser : db.users.getItem username = some user) :
    ∃ groups, (∀ g, g ∈ groups ↔ g ∈ user.additionalGroups ∧ g ≠ groupName) ∧
      ∀ v, (db.dropAdditionalGroup username user groupName).users.getItem v =
        if v = username then some { user with additionalGroups := groups }
        else db.users.getItem v := by
  unfold Db.dropAdditionalGroup
  split
  · exact ⟨_, fun g => mem_withoutGroup, getItem_setAdditionalGroups huser⟩
  · rename_i hmem
    refine ⟨user.additionalGroups, fun g => ?_, fun v => ?_⟩
    · constructor
      · intro hg
        refine ⟨hg, ?_⟩
        rintro rfl
        exact hmem hg
      · exact And.left
    · split
      · rename_i hv
        rw [hv, huser]
      · rfl

theorem addAdditionalGroup_frame (db : Db) (username : String) (user : UserRow) (groupName : String) :
    db.addAdditionalGroup username user groupName =
      { db with users := (db.addAdditionalGroup username user groupName).users } := by
  unfold Db.addAdditionalGroup
  split <;> rfl

theorem dropAdditionalGroup_frame (db : Db) (username : String) (user : UserRow) (groupName : String) :
    db.dropAdditionalGroup username user groupName =
      { db with users := (db.dropAdditionalGroup username user groupName).users } := by
  unfold Db.dropAdditionalGroup
  split <;> rfl

theorem run_updateAdditionalGroups (hu : isEmpty username = false)
    (huser : db.users.getItem (sanitized username) = some user) : (updateAdditionalGroups username groups).run db =
      (.ok ⟨⟩, db.setAdditionalGroups (sanitized username) groups) := by
  rw [updateAdditionalGroups, UserDao.run_updateUser, hu, huser]
  rfl

/-! ## One user and one group -/

/-- The iteration of `add_users_to_group` for one user. -/
theorem run_addUserToGroup {bypass : Bool} (hg : isEmpty groupName = false) (db : Db) (username : String) :
    (addUserToGroup ctx groupName bypass username).run db =
      if isEmpty username then (.error (.invalidParams "username is required"), db)
      else
        match db.users.getItem (sanitized username) with
        | none => (.error (userNotFound username), db)
        | some user =>
          if user.enabled = false then (.error (userIsDisabled username), db)
          else if bypass || user.isActive || ctx.isTestMode then
            (UserProjectsDao.groupMemberAdded groupName username).run
              ((db.addAdditionalGroup (sanitized username) user groupName).join groupName (sanitized username))
          else (.ok ⟨⟩, db.addAdditionalGroup (sanitized username) user groupName) := by
  unfold addUserToGroup
  rw [Proc.run_bind, UserDao.run_getUser]
  rcases hu : isEmpty username with _ | _
  · rcases huser : db.users.getItem (sanitized username) with _ | user
    · simp
    · have hupdate : (Proc.when (groupName ∉ user.additionalGroups) (updateAdditionalGroups username
          (withGroup user.additionalGroups groupName))).run db =
          (.ok ⟨⟩, db.addAdditionalGroup (sanitized username) user groupName) := by
        by_cases hmem : groupName ∈ user.additionalGroups
        · rw [Proc.run_when_neg (not_not_intro hmem), Db.addAdditionalGroup, if_pos hmem]
        · rw [Proc.run_when_pos hmem, run_updateAdditionalGroups hu huser, Db.addAdditionalGroup, if_neg hmem]
      by_cases henabled : user.enabled = false
      · simp [henabled]
      · simp only [Bool.false_eq_true, if_false]
        rw [if_neg henabled, if_neg henabled, Proc.run_bind_of_ok hupdate]
        by_cases hjoins : (bypass || user.isActive || ctx.isTestMode) = true
        · rw [Proc.run_when_pos hjoins, if_pos hjoins,
            Proc.run_bind_of_ok (GroupMembersDao.run_createMembership hg hu _)]
        · rw [Proc.run_when_neg hjoins, if_neg hjoins]
  · simp

/-- The iteration of `remove_users_from_group` for one user. -/
theorem run_removeUserFromGroup {force : Bool} (hg : isEmpty groupName = false) (db : Db) (username : String) :
    (removeUserFromGroup groupName force username).run db =
      if isEmpty username then (.error (.invalidParams "username is required"), db)
      else
        match db.users.getItem (sanitized username) with
        | none => if force then (.ok ⟨⟩, db) else (.error (userNotFound username), db)
        | some user =>
          if user.enabled = false ∧ force = false then (.error (userIsDisabled username), db)
          else
            (UserProjectsDao.groupMemberRemoved groupName username).run
              ((db.dropAdditionalGroup (sanitized username) user groupName).leave groupName (sanitized username)) := by
  unfold removeUserFromGroup
  rw [Proc.run_bind, UserDao.run_getUser]
  rcases hu : isEmpty username with _ | _
  · rcases huser : db.users.getItem (sanitized username) with _ | user
    · cases force <;> simp
    · have hupdate : (Proc.when (groupName ∈ user.additionalGroups) (updateAdditionalGroups username
          (withoutGroup user.additionalGroups groupName))).run db =
          (.ok ⟨⟩, db.dropAdditionalGroup (sanitized username) user groupName) := by
        by_cases hmem : groupName ∈ user.additionalGroups
        · rw [Proc.run_when_pos hmem, run_updateAdditionalGroups hu huser, Db.dropAdditionalGroup, if_pos hmem]
        · rw [Proc.run_when_neg hmem, Db.dropAdditionalGroup, if_neg hmem]
      by_cases hrefused : user.enabled = false ∧ force = false
      · simp [hrefused]
      · simp only [Bool.false_eq_true, if_false]
        rw [if_neg hrefused, if_neg hrefused, Proc.run_bind_of_ok hupdate,
          Proc.run_bind_of_ok (GroupMembersDao.run_deleteMembership hg hu _)]
  · simp

/-! ## Several groups of one user -/

theorem mem_foldl_seen {names seen : List String} :
    g ∈ names.foldl (fun seen name => if name ∈ seen then seen else seen ++ [name]) seen ↔
      g ∈ seen ∨ g ∈ names := by
  induction names generalizing seen with
  | nil => simp
  | cons name names ih =>
    rw [List.foldl_cons, ih]
    split
    · rename_i hseen
      constructor
      · rintro (hg | hg)
        · exact .inl hg
        · exact .inr (List.mem_cons_of_mem _ hg)
      · rintro (hg | hg)
        · exact .inl hg
        · rcases List.mem_cons.mp hg with rfl | hg
          · exact .inl hseen
          · exact .inr hg
    · simp [or_assoc]

@[simp] theorem mem_groupsToRemove {names : List String} : g ∈ groupsToRemove names ↔ g ∈ names := by
  simp [groupsToRemove, mem_foldl_seen]

/-- The group exists and is enabled. -/
def Db.IsEnabledGroup (db : Db) (groupName : String) : Prop :=
  ∃ group, db.groups.getItem groupName = some group ∧ group.enabled = true

/-- `remove_user_from_groups` takes the group out of the additional groups: it is enabled, or it does
not exist and the user is not active. -/
def Db.isRemovable (db : Db) (isActive : Bool) (groupName : String) : Bool :=
  match db.groups.getItem groupName with
  | none => !isActive
  | some group => group.enabled

/-- The additional groups that `remove_user_from_groups` leaves. -/
def Db.remaining (db : Db) (isActive : Bool) (groupNames additionalGroups : List String) :
    List String :=
  groupNames.foldl
    (fun groups groupName => if db.isRemovable isActive groupName then groups.erase groupName else groups)
    additionalGroups

theorem remaining_cons (isActive : Bool) (name : String) (names groups : List String) :
    db.remaining isActive (name :: names) groups = db.remaining isActive names
        (if db.isRemovable isActive name then groups.erase name else groups) := rfl

variable {names groups : List String} {isActive : Bool}

theorem mem_of_mem_remaining (h : g ∈ db.remaining isActive names groups) : g ∈ groups := by
  induction names generalizing groups with
  | nil => exact h
  | cons name names ih =>
    rw [remaining_cons] at h
    have hmem := ih h
    split at hmem
    · exact List.mem_of_mem_erase hmem
    · exact hmem

/-- A group that is not removed is left. -/
theorem mem_remaining_of_not_removed (hg : g ∈ groups) (hkept : g ∈ names → db.isRemovable isActive g = false) :
    g ∈ db.remaining isActive names groups := by
  induction names generalizing groups with
  | nil => exact hg
  | cons name names ih =>
    rw [remaining_cons]
    refine ih ?_ fun hmem => hkept (List.mem_cons_of_mem _ hmem)
    split
    · rename_i hremovable
      refine (List.mem_erase_of_ne ?_).mpr hg
      rintro rfl
      rw [hkept List.mem_cons_self] at hremovable
      cases hremovable
    · exact hg

/-- A removed group that was there at most once is gone. -/
theorem not_mem_remaining (hmem : g ∈ names) (hremovable : db.isRemovable isActive g = true)
    (hcount : groups.count g ≤ 1) : g ∉ db.remaining isActive names groups := by
  induction names generalizing groups with
  | nil => cases hmem
  | cons name names ih =>
    intro hleft
    rw [remaining_cons] at hleft
    by_cases hname : g = name
    · subst hname
      have hleft' := mem_of_mem_remaining hleft
      rw [if_pos hremovable] at hleft'
      have hpos := List.count_pos_iff.mpr hleft'
      rw [List.count_erase_self] at hpos
      omega
    · refine ih ((List.mem_cons.mp hmem).resolve_left hname) ?_ hleft
      split
      · rw [List.count_erase_of_ne hname]
        exact hcount
      · exact hcount

/-- `db'` is `db` without some memberships of the user in the groups given. -/
structure LeavesOnly (groupNames : List String) (username : String) (db db' : Db) : Prop where
  frame : db' = { db with groupMembers := db'.groupMembers }
  old : ∀ g v, db'.IsMember g v → db.IsMember g v
  only : ∀ g v, db.IsMember g v → db'.IsMember g v ∨ g ∈ groupNames ∧ v = username

theorem LeavesOnly.refl (groupNames : List String) (username : String) (db : Db) :
    LeavesOnly groupNames username db db :=
  ⟨rfl, fun _ _ h => h, fun _ _ h => .inl h⟩

theorem LeavesOnly.leave {groupNames : List String} {db db' : Db}
    (h : LeavesOnly groupNames username db db') (hg : groupName ∈ groupNames) :
    LeavesOnly groupNames username db (db'.leave groupName username) where
  frame := by
    rw [h.frame]
    rfl
  old g v hmember := h.old g v (Db.isMember_leave.mp hmember).2
  only g v hmember := by
    rcases h.only g v hmember with hmember' | hleft
    · by_cases hsame : g = groupName ∧ v = username
      · exact .inr ⟨hsame.1 ▸ hg, hsame.2⟩
      · exact .inl (Db.isMember_leave.mpr ⟨hsame, hmember'⟩)
    · exact .inr hleft

/-- The loop of `remove_user_from_groups` only takes memberships of the user away, however it
ends. -/
theorem keeps_removeMemberships (hu : isEmpty username = false)
    {names : List String} (groupNames groups : List String) (hsub : ∀ g ∈ groupNames, g ∈ names) (db : Db) :
    Keeps (LeavesOnly names (sanitized username) db) (removeMemberships username isActive groupNames groups) := by
  induction groupNames generalizing groups with
  | nil => exact Keeps.pure _
  | cons groupName rest ih =>
    have ih' := fun groups => ih groups fun g hg => hsub g (List.mem_cons_of_mem _ hg)
    unfold removeMemberships
    refine Keeps.bind (Keeps.of_reads (reads_getGroup _)) ?_
    · rintro (_ | group)
      · exact ih' _
      · refine Keeps.ite (fun _ => ih' _) fun _ => Keeps.bind ?_ fun _ => ih' _
        refine Triple.intro (fun s _ t hs hr => ?_) fun s _ t hs hr => ?_ <;>
          rcases hg : isEmpty groupName with _ | _
        · rw [GroupMembersDao.run_deleteMembership hg hu] at hr
          cases hr
          exact hs.leave (hsub groupName List.mem_cons_self)
        · simp [GroupMembersDao.deleteMembership, Proc.run_bind, hu, hg] at hr
        · rw [GroupMembersDao.run_deleteMembership hg hu] at hr
          cases hr
        · simp only [GroupMembersDao.deleteMembership, Proc.run_bind, hu, hg,
            sanitizeUsername_of_not_isEmpty, Proc.run_liftExcept, run_requireNotEmpty_of_isEmpty, Prod.mk.injEq] at hr
          exact hr.2 ▸ hs

/-- **The loop of `remove_user_from_groups`** over names that are not blank: it takes away the
memberships in the enabled groups and gives the additional groups that remain. -/
theorem run_removeMemberships (hu : isEmpty username = false) (isActive : Bool)
    (groupNames groups : List String) (hnames : ∀ g ∈ groupNames, isEmpty g = false) (db : Db) :
    ∃ db', (removeMemberships username isActive groupNames groups).run db =
        (.ok (db.remaining isActive groupNames groups), db') ∧ LeavesOnly groupNames (sanitized username) db db' ∧
      ∀ g ∈ groupNames, db.IsEnabledGroup g → ¬ db'.IsMember g (sanitized username) := by
  have hrun : ∃ db', (removeMemberships username isActive groupNames groups).run db =
      (.ok (db.remaining isActive groupNames groups), db') ∧ ∀ g,
        (g ∈ groupNames → db.IsEnabledGroup g → ¬ db'.IsMember g (sanitized username)) ∧
        (db'.IsMember g (sanitized username) → db.IsMember g (sanitized username)) := by
    induction groupNames generalizing groups db with
    | nil => exact ⟨db, rfl, fun g => ⟨fun hg => absurd hg List.not_mem_nil, id⟩⟩
    | cons groupName rest ih =>
      have hg := hnames groupName List.mem_cons_self
      replace ih := fun groups => ih groups fun g hg => hnames g (List.mem_cons_of_mem _ hg)
      have hget : (GroupDao.getGroup groupName).run db =
          (.ok (db.groups.getItem groupName), db) := by
        rw [GroupDao.run_getGroup, hg]
        rfl
      unfold removeMemberships
      simp only [Proc.run_bind_of_ok hget, remaining_cons]
      -- a group that is skipped is not an enabled one
      have hskip : ∀ db' : Db, ¬ db.IsEnabledGroup groupName → (∀ g,
          (g ∈ rest → db.IsEnabledGroup g → ¬ db'.IsMember g (sanitized username)) ∧
          (db'.IsMember g (sanitized username) → db.IsMember g (sanitized username))) →
          ∀ g, (g ∈ groupName :: rest → db.IsEnabledGroup g → ¬ db'.IsMember g (sanitized username)) ∧
            (db'.IsMember g (sanitized username) → db.IsMember g (sanitized username)) := by
        intro db' hnot h g
        refine ⟨fun hmem henabled => ?_, (h g).2⟩
        rcases List.mem_cons.mp hmem with rfl | hrest
        · exact absurd henabled hnot
        · exact (h g).1 hrest henabled
      rcases hgroup : db.groups.getItem groupName with _ | group
      · have hremovable : db.isRemovable isActive groupName = !isActive := by
          simp [Db.isRemovable, hgroup]
        have hgroups : (if db.isRemovable isActive groupName = true then groups.erase groupName
            else groups) = if isActive = true then groups else groups.erase groupName := by
          rw [hremovable]
          cases isActive <;> rfl
        obtain ⟨db', hrun, h⟩ := ih (if isActive = true then groups else groups.erase groupName) db
        refine ⟨db', ?_, hskip db' ?_ h⟩
        · rw [hgroups]
          exact hrun
        · rintro ⟨group, hgroup', -⟩
          rw [hgroup] at hgroup'
          cases hgroup'
      · have hremovable : db.isRemovable isActive groupName = group.enabled := by
          simp [Db.isRemovable, hgroup]
        by_cases henabled : group.enabled = false
        · obtain ⟨db', hrun, h⟩ := ih groups db
          refine ⟨db', ?_, hskip db' ?_ h⟩
          · rw [hremovable, henabled, if_neg Bool.false_ne_true]
            show Proc.run (if group.enabled = false then _ else _) db = _
            rw [if_pos henabled]
            exact hrun
          · rintro ⟨group', hgroup', henabled'⟩
            rw [hgroup] at hgroup'
            cases hgroup'
            rw [henabled] at henabled'
            cases henabled'
        · obtain ⟨db', hrun, h⟩ :=
            ih (groups.erase groupName) (db.leave groupName (sanitized username))
          refine ⟨db', ?_, fun g => ⟨fun hmem hg' => ?_, fun hmember => ?_⟩⟩
          · have htrue : group.enabled = true := by simpa using henabled
            rw [hremovable, if_pos htrue]
            show Proc.run (if group.enabled = false then _ else _) db = _
            rw [if_neg henabled, Proc.run_bind_of_ok (GroupMembersDao.run_deleteMembership hg hu db)]
            exact hrun
          · rcases List.mem_cons.mp hmem with rfl | hrest
            · intro hmember
              exact (Db.isMember_leave.mp ((h g).2 hmember)).1 ⟨rfl, rfl⟩
            · exact (h g).1 hrest hg'
          · exact (Db.isMember_leave.mp ((h g).2 hmember)).2
  obtain ⟨db', hrun, h⟩ := hrun
  refine ⟨db', hrun, ?_, fun g hg henabled => (h g).1 hg henabled⟩
  exact (keeps_removeMemberships hu groupNames groups (fun _ hg => hg) db).of_ok
    (LeavesOnly.refl _ _ db) hrun

/-- A blank name ends the loop of `remove_user_from_groups` with an exception. -/
theorem removeMemberships_raises (hu : isEmpty username = false) (isActive : Bool)
    (groupNames groups : List String) (hblank : ∃ g ∈ groupNames, isEmpty g = true) (db : Db) :
    ∃ db', (removeMemberships username isActive groupNames groups).run db =
      (.error (.invalidParams "group_name is required"), db') := by
  induction groupNames generalizing groups db with
  | nil =>
    obtain ⟨g, hg, -⟩ := hblank
    cases hg
  | cons groupName rest ih =>
    unfold removeMemberships
    rw [Proc.run_bind, GroupDao.run_getGroup]
    rcases hg : isEmpty groupName with _ | _
    · have hrest : ∃ g ∈ rest, isEmpty g = true := by
        obtain ⟨g, hmem, hempty⟩ := hblank
        rcases List.mem_cons.mp hmem with rfl | hmem
        · rw [hg] at hempty
          cases hempty
        · exact ⟨g, hmem, hempty⟩
      simp only [Bool.false_eq_true, if_false]
      rcases db.groups.getItem groupName with _ | group
      · exact ih _ hrest db
      · by_cases henabled : group.enabled = false
        · simp only [if_pos henabled]
          exact ih _ hrest db
        · simp only [if_neg henabled]
          rw [Proc.run_bind_of_ok (GroupMembersDao.run_deleteMembership hg hu db)]
          exact ih _ hrest _
    · exact ⟨db, rfl⟩

/-- **`remove_user_from_groups`** of an enabled user, over names that are not blank: the additional
groups and memberships are written, then the projects of the groups are told. -/
theorem run_removeUserFromGroups {groupNames : List String} (hu : isEmpty username = false) (hne : groupNames ≠ [])
    (huser : db.users.getItem (sanitized username) = some user) (henabled : user.enabled = true)
    (hnames : ∀ g ∈ groupNames, isEmpty g = false) : ∃ db', LeavesOnly groupNames (sanitized username) db db' ∧
      (∀ g ∈ groupNames, db.IsEnabledGroup g → ¬ db'.IsMember g (sanitized username)) ∧
      (removeUserFromGroups username groupNames).run db =
        (Proc.forEach (fun groupName => UserProjectsDao.groupMemberRemoved groupName username)
          (groupsToRemove groupNames)).run (db'.setAdditionalGroups (sanitized username)
            (db.remaining user.isActive (groupsToRemove groupNames) user.additionalGroups)) := by
  obtain ⟨db', hrun, hleaves, hgone⟩ := run_removeMemberships hu user.isActive
    (groupsToRemove groupNames) user.additionalGroups
    (fun g hg => hnames g (mem_groupsToRemove.mp hg)) db
  refine ⟨db', ⟨hleaves.frame, hleaves.old, fun g v hmember => ?_⟩, fun g hg => hgone g (mem_groupsToRemove.mpr hg), ?_⟩
  · exact (hleaves.only g v hmember).imp_right fun h => ⟨mem_groupsToRemove.mp h.1, h.2⟩
  · have huser' : db'.users.getItem (sanitized username) = some user := by
      rw [hleaves.frame]
      exact huser
    have hget : (UserDao.getUser username).run db = (.ok (some user), db) := by
      rw [UserDao.run_getUser, hu, huser]
      rfl
    unfold removeUserFromGroups
    rw [Proc.run_bind_of_ok (run_requireNotEmpty_of_not_isEmpty hu _ db),
      Proc.run_bind_of_ok (Proc.run_when_neg hne db), Proc.run_bind_of_ok hget]
    simp only [henabled, Bool.true_eq_false, if_false]
    rw [Proc.run_bind_of_ok hrun, Proc.run_bind_of_ok (run_updateAdditionalGroups hu huser')]

/-! ## New users -/

/-- What the checks of `create_user` establish about the name and the row of the new user. -/
structure IsNewUser (db : Db) (user : User) (r : String × UserRow) : Prop where
  name : sanitized r.1 = r.1 ∧ isEmpty r.1 = false
  absent : db.users.getItem r.1 = none
  enabled : r.2.enabled = true
  additionalGroups : r.2.additionalGroups = user.additionalGroups.getD []
  isActive : r.2.isActive = user.isActive.getD false

/-- The checks of `create_user` write nothing, and pass only for a user that is new. -/
theorem triple_newUser (user : User) (emailVerified : Bool) (db : Db) :
    Triple (fun s => s = db) (newUser ctx user emailVerified)
      (fun r s => s = db ∧ IsNewUser db user r) (fun _ s => s = db) := by
  unfold newUser
  refine Triple.bind (R := fun username s => s = db ∧ sanitized username = username ∧ isEmpty username = false)
    (Triple.liftExcept (fun username husername s hs => ?_) fun _ _ _ hs => hs) fun username => ?_
  · rcases hname : user.username with _ | name
    · rw [hname] at husername
      cases husername
    · rw [hname] at husername
      rcases hempty : isEmpty name with _ | _
      · rw [sanitizeUsername_of_not_isEmpty hempty, Except.ok.injEq] at husername
        rw [← husername]
        exact ⟨hs, sanitized_idem name, (isEmpty_sanitized name).trans hempty⟩
      · rw [sanitizeUsername_of_isEmpty hempty] at husername
        cases husername
  have herr : ∀ (e : Exc) s,
      s = db ∧ sanitized username = username ∧ isEmpty username = false → s = db :=
    fun _ _ hs => hs.1
  refine Triple.bind_reads (reads_requireNotEmpty _ _) herr fun _ => ?_
  refine Triple.bind_reads (Reads.whenRaise _) herr fun _ => ?_
  -- what is reserved does not matter, only that the check writes nothing
  generalize checkAllowedUsername username = allowed
  refine Triple.bind_reads (Reads.liftExcept _) herr fun _ => ?_
  refine Triple.bind_reads (Reads.liftExcept _) herr fun _ => ?_
  refine Triple.bind_reads (Reads.whenRaise _) herr fun _ => ?_
  refine Triple.bind (R := fun row s => (s = db ∧ sanitized username = username ∧
    isEmpty username = false) ∧ row = db.users.getItem username) ?_ ?_
  · refine Triple.intro (fun s row t hs hr => ?_) fun s e t hs hr => ?_ <;>
      rw [UserDao.run_getUser, hs.2.2] at hr <;> cases hr
    exact ⟨hs, by rw [hs.2.1, hs.1]⟩
  rintro (_ | _)
  · refine Triple.bind_reads (Reads.liftExcept _) (fun e s hs => hs.1.1)
      fun _ => ?_
    refine Triple.bind_reads (Reads.whenRaise _) (fun e s hs => hs.1.1) fun _ => ?_
    refine Triple.bind_reads (Reads.when fun _ => Reads.liftExcept _) (fun e s hs => hs.1.1)
      fun _ => ?_
    exact Triple.pure fun s hs => ⟨hs.1.1, hs.1.2, hs.2.symm, rfl, rfl, rfl⟩
  · exact Triple.raise fun s hs => hs.1.1

/-! ## The members of a deleted group -/

/-- A forced deletion whose loop over the members returns has taken them out. -/
theorem run_deleteGroupMembers {group : GroupRow} {t : Db} (hg : isEmpty groupName = false)
    (hgroup : db.groups.getItem groupName = some group) (hloop : (Proc.forEach (removeUserFromGroup groupName true)
      (GroupMembersDao.usernames db groupName)).run db = (.ok ⟨⟩, t)) :
    (deleteGroupMembers groupName true).run db = (.ok ⟨⟩, t) := by
  rw [deleteGroupMembers, Proc.run_bind_of_ok (GroupMembersDao.run_hasUsersInGroup groupName db)]
  by_cases hnone : GroupMembersDao.usernames db groupName = []
  · rw [hnone] at hloop
    rw [Proc.run_when_neg (by simp [hnone])]
    exact hloop
  · have hget : (GroupDao.getGroup groupName).run db = (.ok (some group), db) := by
      rw [GroupDao.run_getGroup, hg, hgroup]
      rfl
    have hforce : ¬ (group.enabled = false ∧ true = false) := by simp
    have hremoved : (removeUsersFromGroup (GroupMembersDao.usernames db groupName) groupName true).run db =
        (.ok ⟨⟩, t) := by
      rw [removeUsersFromGroup, Proc.run_bind_of_ok (Proc.run_when_neg hnone db),
        Proc.run_bind_of_ok (run_requireNotEmpty_of_not_isEmpty hg _ db), Proc.run_tryCatch, Proc.run_bind_of_ok hget]
      simp only [if_neg hforce]
      rw [hloop]
    rw [Proc.run_when_pos (by simpa using hnone), if_pos rfl,
      Proc.run_bind_of_ok (GroupMembersDao.run_getUsernamesInGroup hg db), logSocaException,
      Proc.run_tryCatch, hremoved]

end ContainRes.Accounts
