import ContainRes.Accounts.ServiceSpec
import ContainRes.Systems.Guarded

/-! # Memberships and users agree

A membership is stored twice: as a row of group-members and as an entry of the additional groups of
the user. This file follows both through runs of the account operations that start from empty
tables.

* **`MembersOk`** — the invariant, up to memberships that an operation still has to write.
* **`Careful`** — the condition on an operation under which it keeps the invariant, also when it
  raises.
* **`memberships_consistent`** — the two stores agree in every state that careful operations reach;
  `orphan_membership` is a run that leaves a membership of a deleted user. -/

namespace ContainRes.Accounts

open Effects Store Systems Systems.System Text

/-! ## Runs of account operations -/

/-- The account operations, with their arguments. -/
inductive AccountOp
  | createGroup (group : Group)
  | createUser (user : User) (emailVerified : Bool)
  | activateUser (existingUser : User)
  | addUsersToGroup (usernames : List String) (groupName : String) (bypassActiveUserCheck : Bool)
  | removeUsersFromGroup (usernames : List String) (groupName : String) (force : Bool)
  | removeUserFromGroups (username : String) (groupNames : List String)
  | deleteGroup (groupName : String) (force : Bool)
  | disableUser (username : String)
  | enableUser (username : String)
  | deleteUser (username : String)

/-- The procedure of an operation; the value it returns is dropped. -/
def AccountOp.proc (ctx : AccountsContext) : AccountOp → DbProc PUnit
  | .createGroup group => Accounts.createGroup ctx group >>= fun _ => pure ⟨⟩
  | .createUser user emailVerified => Accounts.createUser ctx user emailVerified >>= fun _ => pure ⟨⟩
  | .activateUser existingUser => Accounts.activateUser ctx existingUser
  | .addUsersToGroup usernames groupName bypass =>
    Accounts.addUsersToGroup ctx usernames groupName bypass
  | .removeUsersFromGroup usernames groupName force =>
    Accounts.removeUsersFromGroup usernames groupName force
  | .removeUserFromGroups username groupNames => Accounts.removeUserFromGroups username groupNames
  | .deleteGroup groupName force => Accounts.deleteGroup groupName force
  | .disableUser username => Accounts.disableUser ctx username
  | .enableUser username => Accounts.enableUser username
  | .deleteUser username => Accounts.deleteUser ctx username

/-- The account operations on the database, one after the other, starting from empty tables. An
operation that raises still counts, with the writes it made. -/
def accounts : System Db (AccountsContext × AccountOp) where
  init db := db = Db.empty
  next db label := some ((label.2.proc label.1).run db).2

/-- Every membership is of an existing group and an existing user, and the memberships of an active
user are its additional groups. -/
def MembershipsConsistent (db : Db) : Prop :=
  (∀ g u, db.IsMember g u → db.groups.Has g ∧ db.users.Has u) ∧
    ∀ u row, db.users.getItem u = some row → row.isActive = true →
      ∀ g, db.IsMember g u ↔ g ∈ row.additionalGroups

/-- The condition on an operation.

* A user created as active has only existing additional groups.
* A user that the request does not call active is activated when each of its additional groups that it
  is not a member of is among those of the request and exists, and the user is enabled.
* An active and enabled user is removed from groups whose names are not blank, or in none of which it
  is a member, and that are not repeated in its additional groups.
* A disabled user is deleted only when it has no memberships. -/
def Careful (db : Db) : AccountsContext × AccountOp → Prop
  | (_, .createUser user _) =>
    user.isActive = some true → ∀ g ∈ user.additionalGroups.getD [], db.groups.Has g
  | (_, .activateUser existingUser) =>
    existingUser.isActive ≠ some true →
      ∀ row, db.users.getItem (sanitized (existingUser.username.getD "")) = some row →
      ∀ g ∈ row.additionalGroups,
        db.IsMember g (sanitized (existingUser.username.getD "")) ∨
          g ∈ existingUser.additionalGroups.getD [] ∧ db.groups.Has g ∧ row.enabled = true
  | (_, .removeUserFromGroups username groupNames) =>
    ∀ row, db.users.getItem (sanitized username) = some row →
      row.isActive = true → row.enabled = true →
      ((∀ g ∈ groupNames, isEmpty g = false) ∨ ∀ g ∈ groupNames, ¬ db.IsMember g (sanitized username)) ∧
      ∀ g ∈ groupNames, row.additionalGroups.count g ≤ 1
  | (ctx, .deleteUser username) =>
    ctx.isClusterAdministrator username = false →
      ∀ row, db.users.getItem (sanitized username) = some row → row.enabled = false →
        ∀ g, ¬ db.IsMember g (sanitized username)
  | _ => True

/-! ## The invariant -/

/-- The memberships of the database, up to those of active users that `pending` names and an
operation still has to write. -/
structure MembersOk (pending : String → String → Prop) (db : Db) : Prop where
  groupExists : ∀ g u, db.IsMember g u → db.groups.Has g
  recorded : ∀ g u, db.IsMember g u → ∃ row, db.users.getItem u = some row ∧
    g ∈ row.additionalGroups
  active : ∀ u row, db.users.getItem u = some row → row.isActive = true →
    ∀ g ∈ row.additionalGroups, db.IsMember g u ∨ pending g u
  groups : ∀ g row, db.groups.getItem g = some row → row.enabled = true ∧ isEmpty g = false
  usernames : ∀ u row, db.users.getItem u = some row → sanitized u = u ∧ isEmpty u = false
  unmapped : ∀ g p, ¬ db.IsMapped g p

/-- Nothing is pending. -/
def nothing : String → String → Prop := fun _ _ => False

variable {ctx : AccountsContext} {db : Db} {pending : String → String → Prop} {g u : String}

theorem membersOk_empty : MembersOk nothing Db.empty := by
  constructor <;> simp [Db.empty, Db.IsMember, Db.IsMapped]

/-- The invariant gives the property. -/
theorem MembersOk.consistent (h : MembersOk nothing db) : MembershipsConsistent db := by
  refine ⟨fun g u hmember => ?_, fun u row hrow hactive g => ⟨fun hmember => ?_, fun hg => ?_⟩⟩
  · obtain ⟨row, hrow, -⟩ := h.recorded g u hmember
    exact ⟨h.groupExists g u hmember, .of_getItem hrow⟩
  · obtain ⟨row', hrow', hg⟩ := h.recorded g u hmember
    rw [hrow] at hrow'
    cases hrow'
    exact hg
  · exact (h.active u row hrow hactive g hg).resolve_right id

theorem MembersOk.mono {pending' : String → String → Prop} (h : MembersOk pending db)
    (himp : ∀ g u, pending g u → pending' g u) : MembersOk pending' db where
  groupExists := h.groupExists
  recorded := h.recorded
  active u row hrow hactive g hg := (h.active u row hrow hactive g hg).imp_right (himp g u)
  groups := h.groups
  usernames := h.usernames
  unmapped := h.unmapped

theorem MembersOk.enabledGroup (h : MembersOk pending db) (hg : db.groups.Has g) :
    db.IsEnabledGroup g ∧ isEmpty g = false := by
  obtain ⟨row, hrow⟩ := Table.has_iff.mp hg
  exact ⟨⟨row, hrow, (h.groups g row hrow).1⟩, (h.groups g row hrow).2⟩

/-- **The step lemma.** A change of one user's record and memberships keeps the invariant when the
user's memberships are of existing groups and recorded, and complete if the user is active. -/
theorem MembersOk.setUser {pending' : String → String → Prop} {db' : Db}
    (h : MembersOk pending db) (row : UserRow) (hname : sanitized u = u ∧ isEmpty u = false)
    (husers : ∀ v, db'.users.getItem v = if v = u then some row else db.users.getItem v)
    (hgroups : db'.groups = db.groups) (hmapped : db'.projectGroups = db.projectGroups)
    (hother : ∀ g v, v ≠ u → (db'.IsMember g v ↔ db.IsMember g v))
    (hself : ∀ g, db'.IsMember g u → db.groups.Has g ∧ g ∈ row.additionalGroups)
    (hactive : row.isActive = true → ∀ g ∈ row.additionalGroups, db'.IsMember g u ∨ pending' g u)
    (hpending : ∀ g v, v ≠ u → pending g v → pending' g v) : MembersOk pending' db' where
  groupExists g v hmember := by
    rw [hgroups]
    by_cases hv : v = u
    · subst hv
      exact (hself g hmember).1
    · exact h.groupExists g v ((hother g v hv).mp hmember)
  recorded g v hmember := by
    by_cases hv : v = u
    · subst hv
      exact ⟨row, by rw [husers, if_pos rfl], (hself g hmember).2⟩
    · obtain ⟨row', hrow', hg⟩ := h.recorded g v ((hother g v hv).mp hmember)
      exact ⟨row', by rw [husers, if_neg hv, hrow'], hg⟩
  active v row' hrow' hactive' g hg := by
    rw [husers] at hrow'
    by_cases hv : v = u
    · subst hv
      rw [if_pos rfl] at hrow'
      cases hrow'
      exact hactive hactive' g hg
    · rw [if_neg hv] at hrow'
      exact (h.active v row' hrow' hactive' g hg).imp (hother g v hv).mpr (hpending g v hv)
  groups := hgroups ▸ h.groups
  usernames v row' hrow' := by
    rw [husers] at hrow'
    by_cases hv : v = u
    · exact hv ▸ hname
    · rw [if_neg hv] at hrow'
      exact h.usernames v row' hrow'
  unmapped g p := by
    rw [Db.IsMapped, hmapped]
    exact h.unmapped g p

variable {row : UserRow}

/-- An update of a user that changes neither its additional groups nor whether it is active. -/
theorem MembersOk.updateUser {update : UserRow → UserRow} (h : MembersOk pending db)
    (hupdate : ∀ row, (update row).additionalGroups = row.additionalGroups ∧
      (update row).isActive = row.isActive) (hrow : db.users.getItem u = some row) :
    MembersOk pending { db with users := db.users.updateItem u update } := by
  refine h.setUser (update row) (h.usernames u row hrow) (fun v => ?_) rfl rfl
    (fun _ _ _ => Iff.rfl) (fun g hmember => ?_) (fun hactive g hg => ?_) fun _ _ _ => id
  · rw [Table.getItem_updateItem, hrow]
    rfl
  · obtain ⟨row', hrow', hg⟩ := h.recorded g u hmember
    rw [hrow] at hrow'
    cases hrow'
    exact ⟨h.groupExists g u hmember, (hupdate row).1 ▸ hg⟩
  · rw [(hupdate row).2] at hactive
    rw [(hupdate row).1] at hg
    exact h.active u row hrow hactive g hg

/-! ## Adding a user to a group -/

variable {user : UserRow}

/-- A user that is added to a group and becomes a member of it. -/
theorem MembersOk.addAndJoin (h : MembersOk pending db) (hg : db.groups.Has g)
    (huser : db.users.getItem u = some user) : MembersOk (fun g' v => pending g' v ∧ ¬ (g' = g ∧ v = u))
      ((db.addAdditionalGroup u user g).join g u) := by
  obtain ⟨groups, hgroups, husers⟩ := getItem_addAdditionalGroup g huser
  have hframe := addAdditionalGroup_frame db u user g
  have hmember : ∀ g' v, ((db.addAdditionalGroup u user g).join g u).IsMember g' v ↔
      g' = g ∧ v = u ∨ db.IsMember g' v := by
    intro g' v
    rw [Db.isMember_join, hframe]
    rfl
  refine h.setUser _ (h.usernames u user huser) husers ?_ ?_ (fun g' v hv => ?_) (fun g' hg' => ?_)
    (fun hactive g' hg' => ?_) fun g' v hv hpending => ?_
  · rw [hframe]
    rfl
  · rw [hframe]
    rfl
  · rw [hmember]
    simp [hv]
  · rcases (hmember g' u).mp hg' with ⟨rfl, -⟩ | hold
    · exact ⟨hg, (hgroups g').mpr (.inr rfl)⟩
    · obtain ⟨row, hrow, hrecorded⟩ := h.recorded g' u hold
      rw [huser] at hrow
      cases hrow
      exact ⟨h.groupExists g' u hold, (hgroups g').mpr (.inl hrecorded)⟩
  · rw [hmember]
    by_cases hsame : g' = g
    · exact .inl (.inl ⟨hsame, rfl⟩)
    · have hold := ((hgroups g').mp hg').resolve_right hsame
      rcases h.active u user huser hactive g' hold with hm | hp
      · exact .inl (.inr hm)
      · exact .inr ⟨hp, fun hboth => hsame hboth.1⟩
  · exact ⟨hpending, fun hboth => hv hboth.2⟩

/-- A user that is added to a group without becoming a member of it, which is not active. -/
theorem MembersOk.addOnly (h : MembersOk pending db)
    (huser : db.users.getItem u = some user) (hinactive : user.isActive = false) :
    MembersOk pending (db.addAdditionalGroup u user g) := by
  obtain ⟨groups, hgroups, husers⟩ := getItem_addAdditionalGroup g huser
  have hframe := addAdditionalGroup_frame db u user g
  refine h.setUser _ (h.usernames u user huser) husers ?_ ?_ (fun g' v _ => ?_) (fun g' hg' => ?_)
    (fun hactive => ?_) fun _ _ _ => id
  · rw [hframe]
  · rw [hframe]
  · rw [hframe]
    rfl
  · rw [hframe] at hg'
    obtain ⟨row, hrow, hrecorded⟩ := h.recorded g' u hg'
    rw [huser] at hrow
    cases hrow
    exact ⟨h.groupExists g' u hg', (hgroups g').mpr (.inl hrecorded)⟩
  · rw [show user.isActive = true from hactive] at hinactive
    cases hinactive

variable {username : String}

/-- While no group is mapped to a project, a new member of a group changes no project. -/
theorem run_groupMemberAdded_unmapped (hg : isEmpty g = false)
    (hu : isEmpty username = false) (h : ∀ p, ¬ db.IsMapped g p) :
    (UserProjectsDao.groupMemberAdded g username).run db = (.ok ⟨⟩, db) := by
  rw [UserProjectsDao.run_groupMemberAdded hg hu, UserProjectsDao.projectIds_eq_nil h]
  rfl

/-- While no group is mapped to a project, a lost member of a group changes no project. -/
theorem run_groupMemberRemoved_unmapped (hg : isEmpty g = false)
    (hu : isEmpty username = false) (h : ∀ p, ¬ db.IsMapped g p) :
    (UserProjectsDao.groupMemberRemoved g username).run db = (.ok ⟨⟩, db) := by
  rw [UserProjectsDao.run_groupMemberRemoved hg hu, UserProjectsDao.projectIds_eq_nil h]
  rfl

/-- The user can be added to groups: it exists and is enabled. -/
def Addable (db : Db) (username : String) (user : UserRow) : Prop :=
  isEmpty username = false ∧ db.users.getItem (sanitized username) = some user ∧
    user.enabled = true

/-- The database after a user that can be added to groups was added to one. -/
def Db.added (db : Db) (joins : Bool) (username groupName : String) (user : UserRow) : Db :=
  if joins then (db.addAdditionalGroup username user groupName).join groupName username
  else db.addAdditionalGroup username user groupName

/-- The iteration of `add_users_to_group` while no group is mapped to a project: it adds the user, or
it raises and changes nothing. -/
theorem run_addUserToGroup_unmapped (ctx : AccountsContext) (bypass : Bool) (username : String) (hg : isEmpty g = false)
    (h : ∀ g p, ¬ db.IsMapped g p) : (∃ user, Addable db username user ∧ (addUserToGroup ctx g bypass username).run db =
        (.ok ⟨⟩, db.added (bypass || user.isActive || ctx.isTestMode) (sanitized username) g user)) ∨
      (¬ ∃ user, Addable db username user) ∧ ∃ e, (addUserToGroup ctx g bypass username).run db = (.error e, db) := by
  rw [run_addUserToGroup hg]
  rcases hu : isEmpty username with _ | _
  · rcases huser : db.users.getItem (sanitized username) with _ | user
    · refine .inr ⟨?_, _, rfl⟩
      rintro ⟨user, -, huser', -⟩
      rw [huser] at huser'
      cases huser'
    · by_cases henabled : user.enabled = false
      · refine .inr ⟨?_, userIsDisabled username, by simp [henabled]⟩
        rintro ⟨user', -, huser', henabled'⟩
        rw [huser] at huser'
        cases huser'
        rw [henabled] at henabled'
        cases henabled'
      · refine .inl ⟨user, ⟨hu, huser, by simpa using henabled⟩, ?_⟩
        simp only [Bool.false_eq_true, if_false, if_neg henabled, Db.added]
        split
        · refine run_groupMemberAdded_unmapped hg hu fun p => ?_
          rw [addAdditionalGroup_frame]
          exact h g p
        · rfl
  · refine .inr ⟨?_, .invalidParams "username is required", rfl⟩
    rintro ⟨user, hu', -⟩
    rw [hu] at hu'
    cases hu'

theorem groups_added (db : Db) (joins : Bool) (username groupName : String) (user : UserRow) :
    (db.added joins username groupName user).groups = db.groups := by
  unfold Db.added
  rw [addAdditionalGroup_frame]
  split <;> rfl

variable {bypass : Bool}

/-- The state `add_users_to_group` leaves for one user satisfies the invariant. -/
theorem MembersOk.added
    (h : MembersOk pending db) (hg : db.groups.Has g) (huser : Addable db username user) : MembersOk pending
      (db.added (bypass || user.isActive || ctx.isTestMode) (sanitized username) g user) := by
  unfold Db.added
  split
  · exact (h.addAndJoin hg huser.2.1).mono fun _ _ => And.left
  · rename_i hjoins
    refine h.addOnly huser.2.1 ?_
    simp only [Bool.or_eq_true, not_or, Bool.not_eq_true] at hjoins
    exact hjoins.1.2

theorem keeps_addUserToGroup (username : String) (hg : isEmpty g = false) :
    Keeps (fun db => MembersOk pending db ∧ db.groups.Has g) (addUserToGroup ctx g bypass username) := by
  refine Triple.intro (fun s _ t hs hr => ?_) fun s e t hs hr => ?_ <;>
    rcases run_addUserToGroup_unmapped ctx bypass username hg
      hs.1.unmapped with ⟨user, huser, hrun⟩ | ⟨-, e', hrun⟩ <;> rw [hrun] at hr <;> cases hr
  · refine ⟨hs.1.added hs.2 huser, ?_⟩
    rw [groups_added]
    exact hs.2
  · exact hs

/-- `add_users_to_group` looks at the users only for a group that exists. -/
theorem run_addUsersToGroup (ctx : AccountsContext) (bypass : Bool) {usernames : List String}
    (h : MembersOk pending db) (hne : usernames ≠ []) (groupName : String) :
    db.groups.Has groupName ∧ (addUsersToGroup ctx usernames groupName bypass).run db =
        (Proc.forEach (addUserToGroup ctx groupName bypass) usernames).run db ∨ ¬ db.groups.Has groupName ∧
        ∃ e, (addUsersToGroup ctx usernames groupName bypass).run db = (.error e, db) := by
  unfold addUsersToGroup
  rw [Proc.run_bind_of_ok (Proc.run_when_neg hne db), Proc.run_bind, run_requireNotEmpty]
  rcases hg : isEmpty groupName with _ | _
  · rw [if_neg Bool.false_ne_true]
    simp only [Proc.run_bind, GroupDao.run_getGroup, hg, Bool.false_eq_true, if_false]
    rcases hgroup : db.groups.getItem groupName with _ | group
    · refine .inr ⟨Table.not_has_iff.mpr hgroup, groupNotFound groupName, rfl⟩
    · refine .inl ⟨.of_getItem hgroup, ?_⟩
      have henabled : ¬ group.enabled = false := by simp [(h.groups groupName group hgroup).1]
      simp only [if_neg henabled]
  · refine .inr ⟨fun hhas => ?_, .invalidParams "group_name is required", rfl⟩
    rw [(h.enabledGroup hhas).2] at hg
    cases hg

theorem keeps_addUsersToGroup (usernames : List String) (groupName : String) :
    Keeps (MembersOk pending) (addUsersToGroup ctx usernames groupName bypass) := by
  by_cases hne : usernames = []
  · subst hne
    exact Keeps.of_reads fun s => rfl
  · intro s hs
    rcases run_addUsersToGroup ctx bypass hs hne groupName with
      ⟨hg, hrun⟩ | ⟨-, e, hrun⟩
    · have hloop : Keeps (fun db => MembersOk pending db ∧ db.groups.Has groupName)
          (Proc.forEach (addUserToGroup ctx groupName bypass) usernames) :=
        Keeps.forEach fun username _ => keeps_addUserToGroup username (hs.enabledGroup hg).2
      have hkept := hloop s ⟨hs, hg⟩
      rw [hrun]
      split at hkept
      · exact hkept.1
      · exact hkept.1
    · rw [hrun]
      exact hs

/-! ## Creating groups and users -/

theorem MembersOk.setSent {sent : List Tasks.TaskMessage} (h : MembersOk pending db) :
    MembersOk pending { db with sent := sent } :=
  ⟨h.groupExists, h.recorded, h.active, h.groups, h.usernames, h.unmapped⟩

/-- A new, enabled group. -/
theorem MembersOk.putGroup {row : GroupRow} (h : MembersOk pending db) (hrow : row.enabled = true ∧ isEmpty g = false) :
    MembersOk pending { db with groups := db.groups.putItem g row } where
  groupExists g' v hmember := Table.has_putItem.mpr (.inr (h.groupExists g' v hmember))
  recorded := h.recorded
  active := h.active
  groups g' row' hrow' := by
    rw [Table.getItem_putItem] at hrow'
    by_cases hsame : g' = g
    · rw [if_pos hsame, Option.some.injEq] at hrow'
      rw [← hrow', hsame]
      exact hrow
    · rw [if_neg hsame] at hrow'
      exact h.groups g' row' hrow'
  usernames := h.usernames
  unmapped := h.unmapped

theorem keeps_createGroup (group : Group) : Keeps (MembersOk nothing) (createGroup ctx group) := by
  unfold createGroup
  refine Keeps.bind (Keeps.liftExcept _) fun r => ?_
  obtain ⟨groupName, groupType, type⟩ := r
  refine Keeps.bind (Keeps.of_reads (reads_getGroup _)) ?_
  rintro (_ | row)
  · refine Keeps.bind (Keeps.liftExcept _) fun gid => Keeps.bind ?_ fun _ => Keeps.pure _
    refine Triple.intro (fun s _ t hs hr => ?_) fun s e t hs hr => ?_ <;>
      rw [GroupDao.run_createGroup] at hr <;> rcases hg : isEmpty groupName with _ | _ <;>
      rw [hg] at hr
    · rcases hold : s.groups.getItem groupName with _ | old <;> simp only [hold] at hr
      · cases hr
        exact hs.putGroup ⟨rfl, hg⟩
      · cases hr
    · cases hr
    · rcases hold : s.groups.getItem groupName with _ | old <;> simp only [hold] at hr
      · cases hr
      · cases hr
        exact hs
    · cases hr
      exact hs
  · exact Keeps.raise _

/-- The memberships of the new user `u` that the loop of `create_user` over `groups` still has to
write: those in the groups that are not among `done`. -/
def toJoin (u : String) (groups done : List String) : String → String → Prop :=
  fun g v => v = u ∧ g ∈ groups ∧ g ∉ done

/-- A new user without memberships. -/
theorem MembersOk.putUser (h : MembersOk nothing db)
    (hname : sanitized u = u ∧ isEmpty u = false) (habsent : db.users.getItem u = none)
    (hactive : row.isActive = true → ∀ g ∈ row.additionalGroups, pending g u) :
    MembersOk pending { db with users := db.users.putItem u row } := by
  have hnone : ∀ g, ¬ db.IsMember g u := by
    intro g hmember
    obtain ⟨row', hrow', -⟩ := h.recorded g u hmember
    rw [habsent] at hrow'
    cases hrow'
  refine h.setUser row hname (fun v => Table.getItem_putItem _ _ _ _) rfl rfl (fun _ _ _ => Iff.rfl)
    (fun g hmember => absurd hmember (hnone g)) (fun ha g hg => .inr (hactive ha g hg))
    fun g v _ hp => hp.elim

/-- What the loop of `create_user` has done after the groups `done`, for an active user. -/
structure Joining (u : String) (groups done : List String) (db : Db) : Prop where
  ok : MembersOk (toJoin u groups done) db
  exists_ : ∀ g ∈ groups, db.groups.Has g
  user : ∃ row, db.users.getItem u = some row ∧ row.enabled = true ∧ row.isActive = true

/-- One iteration of the loop of `create_user` for an active user. -/
theorem triple_joining {groups done : List String} (hname : sanitized u = u ∧ isEmpty u = false) (hg : g ∈ groups) :
    Triple (Joining u groups done) (addUsersToGroup ctx [u] g false)
      (fun _ => Joining u groups (done ++ [g])) (fun _ _ => False) := by
  intro s hs
  obtain ⟨row, hrow, henabled, hactive⟩ := hs.user
  have hrun : (addUsersToGroup ctx [u] g false).run s =
      (.ok ⟨⟩, (s.addAdditionalGroup u row g).join g u) := by
    rcases run_addUsersToGroup ctx false hs.ok (List.cons_ne_nil u []) g with
      ⟨-, hrun⟩ | ⟨hnot, -⟩
    · rw [hrun, Proc.forEach_cons]
      rcases run_addUserToGroup_unmapped ctx false u
        (hs.ok.enabledGroup (hs.exists_ g hg)).2 hs.ok.unmapped with
        ⟨user, ⟨-, huser, -⟩, hone⟩ | ⟨hnot, -⟩
      · rw [hname.1, hrow, Option.some.injEq] at huser
        subst huser
        rw [Proc.run_bind_of_ok hone, hname.1, hactive]
        rfl
      · exact absurd ⟨row, hname.2, hname.1.symm ▸ hrow, henabled⟩ hnot
    · exact absurd (hs.exists_ g hg) hnot
  rw [hrun]
  refine ⟨(hs.ok.addAndJoin (hs.exists_ g hg) hrow).mono fun g' v hp => ?_, fun g' hg' => ?_, ?_⟩
  · obtain ⟨⟨rfl, hmem, hdone⟩, hne⟩ := hp
    refine ⟨rfl, hmem, fun hin => ?_⟩
    rcases List.mem_append.mp hin with hin | hin
    · exact hdone hin
    · exact hne ⟨List.mem_singleton.mp hin, rfl⟩
  · rw [addAdditionalGroup_frame]
    exact hs.exists_ g' hg'
  · obtain ⟨groups', -, husers⟩ := getItem_addAdditionalGroup g hrow
    exact ⟨{ row with additionalGroups := groups' }, (husers u).trans (if_pos rfl), henabled, hactive⟩

/-- The loop of `create_user`. -/
theorem keeps_joinAdditionalGroups {groups : List String}
    (hname : sanitized u = u ∧ isEmpty u = false) (henabled : row.enabled = true) (hrow : row.additionalGroups = groups)
    (hexist : row.isActive = true → ∀ g ∈ groups, db.groups.Has g) :
    Triple (fun s => MembersOk nothing db ∧ db.users.getItem u = none ∧
        s = { db with users := db.users.putItem u row })
      (Proc.forEach (fun g => addUsersToGroup ctx [u] g false) groups)
      (fun _ => MembersOk nothing) (fun _ => MembersOk nothing) := by
  by_cases hactive : row.isActive = true
  · refine (Triple.forEach_done (Joining u groups) fun done g rest hsplit =>
      triple_joining hname (by rw [hsplit]; simp)).conseq (fun s hs => ?_) (fun _ s hs => ?_)
      fun _ _ hf => hf.elim
    · obtain ⟨hok, habsent, rfl⟩ := hs
      refine ⟨hok.putUser hname habsent fun _ g hg => ?_, hexist hactive, row, ?_, henabled, hactive⟩
      · exact ⟨rfl, hrow ▸ hg, List.not_mem_nil⟩
      · exact Table.getItem_putItem_self _ _ _
    · exact hs.ok.mono fun g v hp => hp.2.2 hp.2.1
  · refine Triple.conseq (Keeps.forEach fun g _ => keeps_addUsersToGroup [u] g) (fun s hs => ?_)
      (fun _ _ h => h) fun _ _ h => h
    obtain ⟨hok, habsent, rfl⟩ := hs
    exact hok.putUser hname habsent fun ha => absurd ha hactive

theorem keeps_createUser {user : User} {emailVerified : Bool} (h : MembersOk nothing db)
    (hcareful : Careful db (ctx, .createUser user emailVerified)) :
    MembersOk nothing ((createUser ctx user emailVerified).run db).2 := by
  suffices htriple : Triple (fun s => s = db) (createUser ctx user emailVerified)
      (fun _ => MembersOk nothing) (fun _ => MembersOk nothing) from htriple.state rfl
  unfold createUser
  refine Triple.bind ((triple_newUser user emailVerified db).conseq (fun _ hs => hs)
    (fun _ _ hs => hs) fun _ s hs => hs ▸ h) ?_
  rintro ⟨username, row⟩
  -- the rest does nothing unless the checks passed
  by_cases hnew : IsNewUser db user (username, row)
  · refine Triple.bind (R := fun _ s => MembersOk nothing db ∧ db.users.getItem username = none ∧
      s = { db with users := db.users.putItem username row }) ?_ fun _ => ?_
    · refine Triple.intro (fun s _ t hs hr => ?_) fun s e t hs hr => ?_ <;>
        rw [UserDao.run_createUser, hs.1, hnew.name.2, hnew.name.1, hnew.absent] at hr <;> cases hr
      exact ⟨h, hnew.absent, rfl⟩
    · refine Triple.bind (keeps_joinAdditionalGroups hnew.name hnew.enabled rfl ?_) fun _ => ?_
      · intro hactive g hg
        rw [hnew.isActive, Option.getD_eq_iff] at hactive
        rw [hnew.additionalGroups] at hg
        exact hcareful (by simpa using hactive) g hg
      · refine Triple.bind (Keeps.when fun _ => Keeps.modify fun s hs => hs.setSent) fun _ => ?_
        exact Triple.pure fun _ hs => hs
  · exact fun s hs => absurd hs.2 hnew

/-! ## Activating, enabling and disabling a user -/

/-- The user is a member of each of its additional groups, or the loop of `activate_user` over `groups`
has the group still to do. -/
structure Activating (u : String) (groups done : List String) (db : Db) : Prop where
  ok : MembersOk nothing db
  member : ∀ row, db.users.getItem u = some row → ∀ g ∈ row.additionalGroups,
    db.IsMember g u ∨ g ∈ groups ∧ g ∉ done ∧ db.groups.Has g ∧ row.enabled = true

/-- One iteration of the loop of `activate_user`. -/
theorem triple_activating {groups done : List String} :
    Triple (Activating (sanitized username) groups done) (logException (addUsersToGroup ctx [username] g true))
      (fun _ => Activating (sanitized username) groups (done ++ [g])) (fun _ _ => False) := by
  intro s hs
  rw [logException, Proc.run_tryCatch]
  -- an iteration that changes nothing is one for a group that is missing or a user that is
  have hsame : (∀ row, s.users.getItem (sanitized username) = some row → s.groups.Has g →
      row.enabled = true → False) → Activating (sanitized username) groups (done ++ [g]) s := by
    intro hno
    refine ⟨hs.ok, fun row hrow g' hg' => (hs.member row hrow g' hg').imp_right fun hp => ?_⟩
    obtain ⟨hmem, hdone, hhas, henabled⟩ := hp
    refine ⟨hmem, fun hin => ?_, hhas, henabled⟩
    rcases List.mem_append.mp hin with hin | hin
    · exact hdone hin
    · rw [List.mem_singleton] at hin
      exact hno row hrow (hin ▸ hhas) henabled
  rcases run_addUsersToGroup ctx true hs.ok (List.cons_ne_nil username []) g with
    ⟨hg, hrun⟩ | ⟨hnot, e, hrun⟩
  · rcases run_addUserToGroup_unmapped ctx true username
      (hs.ok.enabledGroup hg).2 hs.ok.unmapped with ⟨user, huser, hone⟩ | ⟨hnot, e, hone⟩
    · rw [hrun, Proc.forEach_cons, Proc.run_bind_of_ok hone]
      refine ⟨hs.ok.added hg huser, fun row hrow g' hg' => ?_⟩
      obtain ⟨groups', hgroups', husers⟩ := getItem_addAdditionalGroup g huser.2.1
      have hrow' := (husers (sanitized username)).symm.trans hrow
      rw [if_pos rfl, Option.some.injEq] at hrow'
      rw [← hrow'] at hg' ⊢
      have hmember : ∀ g' v, ((s.addAdditionalGroup (sanitized username) user g).join g
          (sanitized username)).IsMember g' v ↔
          g' = g ∧ v = sanitized username ∨ s.IsMember g' v := by
        intro g' v
        rw [Db.isMember_join, addAdditionalGroup_frame]
        rfl
      by_cases hsame' : g' = g
      · exact .inl ((hmember g' _).mpr (.inl ⟨hsame', rfl⟩))
      · have hold := ((hgroups' g').mp hg').resolve_right hsame'
        refine (hs.member user huser.2.1 g' hold).imp (fun h => (hmember g' _).mpr (.inr h)) ?_
        rintro ⟨hmem, hdone, hhas, henabled⟩
        refine ⟨hmem, fun hin => ?_, ?_, henabled⟩
        · rcases List.mem_append.mp hin with hin | hin
          · exact hdone hin
          · exact hsame' (List.mem_singleton.mp hin)
        · rw [groups_added]
          exact hhas
    · rw [hrun, Proc.forEach_cons, Proc.run_bind_of_error hone]
      refine hsame fun row hrow _ henabled => hnot ⟨row, ?_, hrow, henabled⟩
      rw [← isEmpty_sanitized]
      exact (hs.ok.usernames _ row hrow).2
  · rw [hrun]
    exact hsame fun _ _ hhas _ => hnot hhas

theorem keeps_activateUser {existingUser : User} (h : MembersOk nothing db)
    (hcareful : Careful db (ctx, .activateUser existingUser)) :
    MembersOk nothing ((activateUser ctx existingUser).run db).2 := by
  suffices htriple : Triple (fun s => s = db) (activateUser ctx existingUser)
      (fun _ => MembersOk nothing) (fun _ => MembersOk nothing) from htriple.state rfl
  unfold activateUser
  refine Triple.ite (fun _ => Triple.pure fun s hs => hs ▸ h) fun hinactive => ?_
  let u := sanitized (existingUser.username.getD "")
  let groups := existingUser.additionalGroups.getD []
  refine Triple.bind (R := fun _ => Activating u groups groups) ?_ fun _ => ?_
  · refine (Triple.forEach_done (Activating u groups) fun done g rest hsplit =>
      triple_activating).conseq (fun s hs => ?_) (fun _ _ hs => hs) fun _ _ hf => hf.elim
    refine ⟨hs ▸ h, fun row hrow g hg => ?_⟩
    subst hs
    refine (hcareful hinactive row hrow g hg).imp_right fun hp => ?_
    exact ⟨hp.1, List.not_mem_nil, hp.2⟩
  · refine Triple.intro (fun s _ t hs hr => ?_) fun s e t hs hr => ?_ <;>
      rw [UserDao.run_updateUser] at hr <;>
      rcases hempty : isEmpty (existingUser.username.getD "") with _ | _ <;> rw [hempty] at hr <;>
      rcases hrow : s.users.getItem (sanitized (existingUser.username.getD "")) with _ | row <;>
      simp only [hrow, Bool.false_eq_true, if_false, if_true] at hr <;> cases hr
    · refine hs.ok.setUser (u := u) { row with isActive := true } (hs.ok.usernames u row hrow) (fun v => ?_) rfl rfl
        (fun _ _ _ => Iff.rfl)
        (fun g hmember => ?_) (fun _ g hg => .inl ?_) fun _ _ _ => id
      · rw [Table.getItem_updateItem, hrow]
        rfl
      · obtain ⟨row', hrow', hg⟩ := hs.ok.recorded g u hmember
        rw [show s.users.getItem u = some row from hrow] at hrow'
        cases hrow'
        exact ⟨hs.ok.groupExists g u hmember, hg⟩
      · exact (hs.member row hrow g hg).resolve_right fun hp => hp.2.1 hp.1
    · exact hs.ok
    · exact hs.ok
    · exact hs.ok

/-- An update of a user that changes neither its additional groups nor whether it is active. -/
theorem keeps_updateUser {update : UserRow → UserRow} (username : String)
    (hupdate : ∀ row, (update row).additionalGroups = row.additionalGroups ∧ (update row).isActive = row.isActive) :
    Keeps (MembersOk nothing) (UserDao.updateUser username update) := by
  refine Triple.intro (fun s _ t hs hr => ?_) fun s e t hs hr => ?_ <;>
    rw [UserDao.run_updateUser] at hr <;>
    rcases hempty : isEmpty username with _ | _ <;> rw [hempty] at hr <;>
    rcases hrow : s.users.getItem (sanitized username) with _ | row <;>
    simp only [hrow, Bool.false_eq_true, if_false, if_true] at hr <;> cases hr
  · exact hs.updateUser hupdate hrow
  · exact hs
  · exact hs
  · exact hs

theorem keeps_enableUser (username : String) : Keeps (MembersOk nothing) (enableUser username) := by
  unfold enableUser
  refine Keeps.bind (Keeps.of_reads (reads_requireNotEmpty _ _)) fun _ =>
    Keeps.bind (Keeps.of_reads (reads_getUser _)) ?_
  rintro (_ | row)
  · exact Keeps.raise _
  · exact Keeps.ite (fun _ => Keeps.pure _) fun _ => keeps_updateUser username fun _ => ⟨rfl, rfl⟩

theorem keeps_disableUser (username : String) : Keeps (MembersOk nothing) (disableUser ctx username) := by
  unfold disableUser
  refine Keeps.bind (Keeps.of_reads (reads_requireNotEmpty _ _)) fun _ =>
    Keeps.bind (Keeps.of_reads (Reads.whenRaise _)) fun _ =>
    Keeps.bind (Keeps.of_reads (reads_getUser _)) ?_
  rintro (_ | row)
  · exact Keeps.raise _
  · refine Keeps.ite (fun _ => Keeps.pure _) fun _ => ?_
    exact Keeps.bind (keeps_updateUser username fun _ => ⟨rfl, rfl⟩) fun _ => Keeps.liftExcept _

/-! ## Removing a user from a group -/

/-- A user that is removed from a group. -/
theorem MembersOk.removeFrom (h : MembersOk pending db) (huser : db.users.getItem u = some user) :
    MembersOk pending ((db.dropAdditionalGroup u user g).leave g u) := by
  obtain ⟨groups, hgroups, husers⟩ := getItem_dropAdditionalGroup g huser
  have hframe := dropAdditionalGroup_frame db u user g
  have hmember : ∀ g' v, ((db.dropAdditionalGroup u user g).leave g u).IsMember g' v ↔
      ¬ (g' = g ∧ v = u) ∧ db.IsMember g' v := by
    intro g' v
    rw [Db.isMember_leave, hframe]
    rfl
  refine h.setUser _ (h.usernames u user huser) husers ?_ ?_ (fun g' v hv => ?_) (fun g' hg' => ?_)
    (fun hactive g' hg' => ?_) fun _ _ _ => id
  · rw [hframe]
    rfl
  · rw [hframe]
    rfl
  · rw [hmember]
    simp [hv]
  · obtain ⟨hne, hold⟩ := (hmember g' u).mp hg'
    obtain ⟨row, hrow, hrecorded⟩ := h.recorded g' u hold
    rw [huser] at hrow
    cases hrow
    exact ⟨h.groupExists g' u hold, (hgroups g').mpr ⟨hrecorded, fun hsame => hne ⟨hsame, rfl⟩⟩⟩
  · obtain ⟨hold, hne⟩ := (hgroups g').mp hg'
    rw [hmember]
    exact (h.active u user huser hactive g' hold).imp_left fun hm => ⟨fun hboth => hne hboth.1, hm⟩

/-- The iteration of `remove_users_from_group` while no group is mapped to a project: it removes the
user, or it changes nothing. -/
theorem run_removeUserFromGroup_unmapped (force : Bool) (username : String)
    (hg : isEmpty g = false) (h : ∀ g p, ¬ db.IsMapped g p) :
    (∃ user, db.users.getItem (sanitized username) = some user ∧ (removeUserFromGroup g force username).run db =
          (.ok ⟨⟩, (db.dropAdditionalGroup (sanitized username) user g).leave g (sanitized username))) ∨
      (∃ r, (removeUserFromGroup g force username).run db = (r, db)) ∧ (force = true → isEmpty username = false →
          db.users.getItem (sanitized username) = none ∧
            (removeUserFromGroup g force username).run db = (.ok ⟨⟩, db)) := by
  rw [run_removeUserFromGroup hg]
  rcases hu : isEmpty username with _ | _
  · rcases huser : db.users.getItem (sanitized username) with _ | user
    · refine .inr ⟨?_, fun hforce _ => ⟨rfl, by simp [hforce]⟩⟩
      cases force
      · exact ⟨_, rfl⟩
      · exact ⟨_, rfl⟩
    · by_cases hrefused : user.enabled = false ∧ force = false
      · refine .inr ⟨⟨.error (userIsDisabled username), by simp [hrefused]⟩, fun hforce => ?_⟩
        rw [hrefused.2] at hforce
        cases hforce
      · refine .inl ⟨user, rfl, ?_⟩
        simp only [Bool.false_eq_true, if_false, if_neg hrefused]
        refine run_groupMemberRemoved_unmapped hg hu fun p => ?_
        rw [dropAdditionalGroup_frame]
        exact h g p
  · refine .inr ⟨⟨_, rfl⟩, fun _ hu' => ?_⟩
    cases hu'

variable {force : Bool}

theorem keeps_removeUserFromGroup (username : String) (hg : isEmpty g = false) :
    Keeps (MembersOk nothing) (removeUserFromGroup g force username) := by
  intro s hs
  rcases run_removeUserFromGroup_unmapped force username hg
    hs.unmapped with ⟨user, huser, hrun⟩ | ⟨⟨r, hrun⟩, -⟩
  · rw [hrun]
    exact hs.removeFrom huser
  · rw [hrun]
    cases r <;> exact hs

theorem keeps_removeUsersFromGroup (usernames : List String) (groupName : String) :
    Keeps (MembersOk nothing) (removeUsersFromGroup usernames groupName force) := by
  unfold removeUsersFromGroup
  refine Keeps.bind (Keeps.of_reads (Reads.whenRaise _)) fun _ => ?_
  rcases hg : isEmpty groupName with _ | _
  · refine Keeps.bind (Keeps.of_reads (reads_requireNotEmpty _ _)) fun _ =>
      Keeps.tryCatch (Keeps.bind (Keeps.of_reads (reads_getGroup _)) ?_) fun e => ?_
    · rintro (_ | group)
      · exact Keeps.raise _
      · exact Keeps.ite (fun _ => Keeps.raise _) fun _ =>
          Keeps.forEach fun username _ => keeps_removeUserFromGroup username hg
    · refine Keeps.ite (fun _ => Keeps.forEach fun username _ => ?_) fun _ => Keeps.raise _
      refine Keeps.bind (Keeps.of_reads (reads_getUser _)) ?_
      rintro (_ | row)
      · exact Keeps.raise _
      · exact Keeps.ite (fun _ => Keeps.pure _) fun _ => Keeps.raise _
  · intro s hs
    rw [Proc.run_bind_of_error (run_requireNotEmpty_of_isEmpty hg _ s)]
    exact hs

/-! ## Deleting a group -/

/-- The members of the group that the forced removal over `usernames` still has to remove. -/
structure Emptying (g : String) (usernames done : List String) (db : Db) : Prop where
  ok : MembersOk nothing db
  exists_ : db.groups.Has g
  left : ∀ u, db.IsMember g u → u ∈ usernames ∧ u ∉ done

/-- One iteration of the forced removal of the members of a group. -/
theorem triple_emptying {usernames done : List String} (hname : sanitized u = u ∧ isEmpty u = false) :
    Triple (Emptying g usernames done) (removeUserFromGroup g true u)
      (fun _ => Emptying g usernames (done ++ [u])) (fun _ _ => False) := by
  intro s hs
  -- whoever is left is not `u`
  have hleft : ∀ {v}, s.IsMember g v → v ≠ u → v ∈ usernames ∧ v ∉ done ++ [u] := by
    intro v hmember hne
    refine ⟨(hs.left v hmember).1, fun hin => ?_⟩
    rcases List.mem_append.mp hin with hin | hin
    · exact (hs.left v hmember).2 hin
    · exact hne (List.mem_singleton.mp hin)
  rcases run_removeUserFromGroup_unmapped true u
    (hs.ok.enabledGroup hs.exists_).2 hs.ok.unmapped with ⟨user, huser, hrun⟩ | ⟨-, hnone⟩
  · rw [hname.1] at huser hrun
    rw [hrun]
    refine ⟨hs.ok.removeFrom huser, ?_, fun v hmember => ?_⟩
    · rw [dropAdditionalGroup_frame]
      exact hs.exists_
    · rw [Db.isMember_leave, dropAdditionalGroup_frame] at hmember
      exact hleft hmember.2 fun hv => hmember.1 ⟨rfl, hv⟩
  · obtain ⟨habsent, hrun⟩ := hnone rfl hname.2
    rw [hrun]
    refine ⟨hs.ok, hs.exists_, fun v hmember => hleft hmember ?_⟩
    rintro rfl
    obtain ⟨row, hrow, -⟩ := hs.ok.recorded g v hmember
    rw [hname.1, hrow] at habsent
    cases habsent

/-- The part of `delete_group` about the members leaves no member behind. -/
theorem triple_deleteGroupMembers : Triple (fun s => MembersOk nothing s ∧ s.groups.Has g) (deleteGroupMembers g force)
      (fun _ s => MembersOk nothing s ∧ ∀ u, ¬ s.IsMember g u) (fun _ => MembersOk nothing) := by
  intro s hs
  have hg := (hs.1.enabledGroup hs.2).2
  cases force with
  | false =>
    rw [deleteGroupMembers, Proc.run_bind_of_ok (GroupMembersDao.run_hasUsersInGroup g s)]
    by_cases hnone : GroupMembersDao.usernames s g = []
    · rw [Proc.run_when_neg (by simp [hnone])]
      refine ⟨hs.1, fun u hmember => ?_⟩
      rw [← GroupMembersDao.mem_usernames, hnone] at hmember
      cases hmember
    · rw [Proc.run_when_pos (by simpa using hnone)]
      exact hs.1
  | true =>
    have hloop : Triple (fun t => t = s)
        (Proc.forEach (removeUserFromGroup g true) (GroupMembersDao.usernames s g))
        (fun _ => Emptying g (GroupMembersDao.usernames s g) (GroupMembersDao.usernames s g))
        (fun _ _ => False) := by
      refine (Triple.forEach_done (Emptying g (GroupMembersDao.usernames s g))
        fun done u rest hsplit => triple_emptying ?_).conseq (fun t ht => ?_) (fun _ _ h => h)
        fun _ _ h => h
      · have hmem : u ∈ GroupMembersDao.usernames s g := by
          rw [hsplit]
          simp
        obtain ⟨row, hrow, -⟩ := hs.1.recorded g u (GroupMembersDao.mem_usernames.mp hmem)
        exact hs.1.usernames u row hrow
      · subst ht
        exact ⟨hs.1, hs.2, fun u hu => ⟨GroupMembersDao.mem_usernames.mpr hu, List.not_mem_nil⟩⟩
    obtain ⟨group, hgroup⟩ := Table.has_iff.mp hs.2
    rcases hr : (Proc.forEach (removeUserFromGroup g true) (GroupMembersDao.usernames s g)).run s with ⟨e | _, t⟩
    · exact (hloop.of_error rfl hr).elim
    · have hemptied := hloop.of_ok rfl hr
      rw [run_deleteGroupMembers hg hgroup hr]
      exact ⟨hemptied.ok, fun u hmember => (hemptied.left u hmember).2 (hemptied.left u hmember).1⟩

/-- While no group is mapped to a project, `delete_group` finds no project of the group. -/
theorem run_deleteGroupProjects_unmapped (h : ∀ p, ¬ db.IsMapped g p) :
    (deleteGroupProjects g force).run db = (.ok ⟨⟩, db) := by
  have hnone := UserProjectsDao.projectIds_eq_nil h
  have hhas : (UserProjectsDao.hasProjectsInGroup g).run db = (.ok false, db) := by
    rw [UserProjectsDao.hasProjectsInGroup, Proc.run_gets, hnone]
    rfl
  rw [deleteGroupProjects, Proc.run_bind_of_ok hhas, Proc.run_when_neg Bool.false_ne_true]

/-- A group without members that is deleted. -/
theorem MembersOk.deleteGroup (h : MembersOk nothing db) (hempty : ∀ u, ¬ db.IsMember g u) :
    MembersOk nothing { db with groups := db.groups.deleteItem g } where
  groupExists g' v hmember := by
    refine Table.has_deleteItem.mpr ⟨?_, h.groupExists g' v hmember⟩
    rintro rfl
    exact hempty v hmember
  recorded := h.recorded
  active := h.active
  groups g' row hrow := by
    rw [Table.getItem_deleteItem] at hrow
    by_cases hsame : g' = g
    · rw [if_pos hsame] at hrow
      cases hrow
    · rw [if_neg hsame] at hrow
      exact h.groups g' row hrow
  usernames := h.usernames
  unmapped := h.unmapped

theorem keeps_deleteGroup (groupName : String) : Keeps (MembersOk nothing) (deleteGroup groupName force) := by
  unfold deleteGroup
  refine Keeps.bind (Keeps.of_reads (reads_requireNotEmpty _ _)) fun _ => ?_
  intro s hs
  rw [Proc.run_bind, GroupDao.run_getGroup]
  rcases hg : isEmpty groupName with _ | _
  · rcases hgroup : s.groups.getItem groupName with _ | group
    · exact hs
    · simp only [Bool.false_eq_true, if_false]
      rw [Proc.run_bind]
      rcases hmembers : (deleteGroupMembers groupName force).run s with ⟨e | _, t⟩
      · exact triple_deleteGroupMembers.of_error ⟨hs, .of_getItem hgroup⟩ hmembers
      · obtain ⟨hok, hempty⟩ :=
          triple_deleteGroupMembers.of_ok ⟨hs, .of_getItem hgroup⟩ hmembers
        simp only [Proc.run_bind_of_ok (run_deleteGroupProjects_unmapped (hok.unmapped groupName)),
          GroupDao.run_deleteGroup, hg]
        exact hok.deleteGroup hempty
  · exact hs

/-! ## Removing a user from several groups, and deleting it -/

variable {groupNames : List String}

/-- While no group is mapped to a project, telling the projects of groups about a lost member changes
nothing. -/
theorem run_groupMembersRemoved_unmapped
    (hu : isEmpty username = false) (h : ∀ g p, ¬ db.IsMapped g p) (hnames : ∀ g ∈ groupNames, isEmpty g = false) :
    (Proc.forEach (fun groupName => UserProjectsDao.groupMemberRemoved groupName username)
      groupNames).run db = (.ok ⟨⟩, db) := by
  induction groupNames with
  | nil => rfl
  | cons groupName rest ih =>
    have hg := hnames groupName List.mem_cons_self
    rw [Proc.forEach_cons, Proc.run_bind_of_ok (run_groupMemberRemoved_unmapped hg hu (h groupName))]
    exact ih fun g hg => hnames g (List.mem_cons_of_mem _ hg)

/-- The memberships of an active user in one of the groups given that its additional groups repeat:
removing the user from the group leaves a repetition behind. -/
def repeated (u : String) (user : UserRow) (groupNames : List String) : String → String → Prop :=
  fun g v => v = u ∧ user.isActive = true ∧ g ∈ groupNames ∧ 1 < user.additionalGroups.count g

/-- A user that has been removed from groups. -/
theorem MembersOk.removeFromGroups {db' : Db}
    (h : MembersOk nothing db) (huser : db.users.getItem u = some user) (hleaves : LeavesOnly groupNames u db db')
    (hgone : ∀ g ∈ groupNames, db.IsEnabledGroup g → ¬ db'.IsMember g u) : MembersOk (repeated u user groupNames)
      (db'.setAdditionalGroups u (db.remaining user.isActive (groupsToRemove groupNames) user.additionalGroups)) := by
  have huser' : db'.users.getItem u = some user := by
    rw [hleaves.frame]
    exact huser
  let left := db.remaining user.isActive (groupsToRemove groupNames) user.additionalGroups
  refine h.setUser { user with additionalGroups := left } (h.usernames u user huser)
    (fun v => ?_) ?_ ?_ (fun g v hv => ?_) (fun g hmember => ?_)
    (fun hactive g hg => ?_) fun _ _ _ hp => hp.elim
  · rw [getItem_setAdditionalGroups huser', hleaves.frame]
  · show db'.groups = db.groups
    rw [hleaves.frame]
  · show db'.projectGroups = db.projectGroups
    rw [hleaves.frame]
  · refine ⟨hleaves.old g v, fun hmember => ?_⟩
    exact (hleaves.only g v hmember).resolve_right fun hboth => hv hboth.2
  · have hold := hleaves.old g u hmember
    have hhas := h.groupExists g u hold
    obtain ⟨row, hrow, hrecorded⟩ := h.recorded g u hold
    rw [huser] at hrow
    cases hrow
    refine ⟨hhas, mem_remaining_of_not_removed hrecorded fun hin => ?_⟩
    exact absurd hmember (hgone g (mem_groupsToRemove.mp hin) (h.enabledGroup hhas).1)
  · have hadditional := mem_of_mem_remaining hg
    have hold := (h.active u user huser hactive g hadditional).resolve_right id
    rcases hleaves.only g u hold with hmember | ⟨hin, -⟩
    · exact .inl hmember
    · refine .inr ⟨rfl, hactive, hin, Nat.lt_of_not_le fun hcount => ?_⟩
      obtain ⟨group, hgroup, henabled⟩ := (h.enabledGroup (h.groupExists g u hold)).1
      refine not_mem_remaining (mem_groupsToRemove.mpr hin) ?_ hcount hg
      simp [Db.isRemovable, hgroup, henabled]

/-- Memberships of a user that are taken away without the additional groups being written: harmless for
a user that is not active, and when there was nothing to take away. -/
theorem MembersOk.leavesOnly {db' : Db}
    (h : MembersOk nothing db) (huser : db.users.getItem u = some user) (hleaves : LeavesOnly groupNames u db db')
    (hharmless : user.isActive = true → ∀ g ∈ groupNames, ¬ db.IsMember g u) : MembersOk nothing db' := by
  refine h.setUser user (h.usernames u user huser) (fun v => ?_) ?_ ?_ (fun g v hv => ?_)
    (fun g hmember => ?_) (fun hactive g hg => .inl ?_) fun _ _ _ hp => hp.elim
  · rw [hleaves.frame]
    split
    · rename_i hv
      rw [hv]
      exact huser
    · rfl
  · rw [hleaves.frame]
  · rw [hleaves.frame]
  · refine ⟨hleaves.old g v, fun hmember => ?_⟩
    exact (hleaves.only g v hmember).resolve_right fun hboth => hv hboth.2
  · have hold := hleaves.old g u hmember
    obtain ⟨row, hrow, hrecorded⟩ := h.recorded g u hold
    rw [huser] at hrow
    cases hrow
    exact ⟨h.groupExists g u hold, hrecorded⟩
  · have hold := (h.active u user huser hactive g hg).resolve_right id
    exact (hleaves.only g u hold).resolve_right fun hin => hharmless hactive g hin.1 hold

/-- **`remove_user_from_groups`** while no group is mapped to a project. It changes nothing; or, with a
blank name among the groups, it raises after taking some memberships away; or it returns. -/
theorem removeUserFromGroups_cases (username : String) (groupNames : List String) (h : MembersOk nothing db) :
    (∃ e, (removeUserFromGroups username groupNames).run db = (.error e, db) ∧
        (groupNames ≠ [] → ∀ user, db.users.getItem (sanitized username) = some user → user.enabled = false)) ∨
      ∃ user, db.users.getItem (sanitized username) = some user ∧ user.enabled = true ∧
        ((∃ g ∈ groupNames, isEmpty g = true) ∧ (∃ db', (removeUserFromGroups username groupNames).run db =
              (.error (.invalidParams "group_name is required"), db') ∧
            LeavesOnly groupNames (sanitized username) db db') ∨ (∀ g ∈ groupNames, isEmpty g = false) ∧ ∃ db',
            (removeUserFromGroups username groupNames).run db = (.ok ⟨⟩, db') ∧
            MembersOk (repeated (sanitized username) user groupNames) db' ∧
            (∀ g ∈ groupNames, ¬ db'.IsMember g (sanitized username)) ∧
            ∀ g, db'.IsMember g (sanitized username) → db.IsMember g (sanitized username)) := by
  rcases hu : isEmpty username with _ | _
  · by_cases hne : groupNames = []
    · refine .inl ⟨.invalidParams "group_names is required", ?_, fun hne' => absurd hne hne'⟩
      rw [removeUserFromGroups, Proc.run_bind_of_ok (run_requireNotEmpty_of_not_isEmpty hu _ db),
        Proc.run_bind, Proc.run_when_pos hne]
      rfl
    · rcases huser : db.users.getItem (sanitized username) with _ | user
      · refine .inl ⟨userNotFound username, ?_, fun _ _ huser' => by cases huser'⟩
        rw [removeUserFromGroups, Proc.run_bind_of_ok (run_requireNotEmpty_of_not_isEmpty hu _ db),
          Proc.run_bind_of_ok (Proc.run_when_neg hne db), Proc.run_bind, UserDao.run_getUser, hu, huser]
        rfl
      · have hget : (UserDao.getUser username).run db = (.ok (some user), db) := by
          rw [UserDao.run_getUser, hu, huser]
          rfl
        by_cases henabled : user.enabled = false
        · refine .inl ⟨userIsDisabled username, ?_, fun _ _ huser' => by cases huser'; exact henabled⟩
          rw [removeUserFromGroups, Proc.run_bind_of_ok (run_requireNotEmpty_of_not_isEmpty hu _ db),
            Proc.run_bind_of_ok (Proc.run_when_neg hne db), Proc.run_bind_of_ok hget]
          simp only [if_pos henabled, Proc.run_raise]
        · refine .inr ⟨user, rfl, by simpa using henabled, ?_⟩
          by_cases hblank : ∃ g ∈ groupNames, isEmpty g = true
          · refine .inl ⟨hblank, ?_⟩
            have hblank' : ∃ g ∈ groupsToRemove groupNames, isEmpty g = true := by
              obtain ⟨g, hg, hempty⟩ := hblank
              exact ⟨g, mem_groupsToRemove.mpr hg, hempty⟩
            obtain ⟨db', hrun⟩ := removeMemberships_raises hu user.isActive
              (groupsToRemove groupNames) user.additionalGroups hblank' db
            refine ⟨db', ?_, ?_⟩
            · rw [removeUserFromGroups, Proc.run_bind_of_ok (run_requireNotEmpty_of_not_isEmpty hu _ db),
                Proc.run_bind_of_ok (Proc.run_when_neg hne db), Proc.run_bind_of_ok hget]
              simp only [if_neg henabled]
              exact Proc.run_bind_of_error hrun
            · exact (keeps_removeMemberships hu (groupsToRemove groupNames) user.additionalGroups
                (fun g hg => mem_groupsToRemove.mp hg) db).of_error (LeavesOnly.refl _ _ db) hrun
          · have hnames : ∀ g ∈ groupNames, isEmpty g = false := by
              intro g hg
              by_contra hempty
              exact hblank ⟨g, hg, by simpa using hempty⟩
            obtain ⟨db', hleaves, hgone, hrun⟩ := run_removeUserFromGroups hu hne huser (by simpa using henabled) hnames
            have hok := h.removeFromGroups huser hleaves hgone
            refine .inr ⟨hnames, ?_⟩
            rw [hrun]
            refine ⟨_, ?_, hok, fun g hg hmember => ?_, fun g => hleaves.old g _⟩
            · refine run_groupMembersRemoved_unmapped hu hok.unmapped fun g hg => ?_
              exact hnames g (mem_groupsToRemove.mp hg)
            · have hold := hleaves.old g _ hmember
              exact hgone g hg (h.enabledGroup (h.groupExists g _ hold)).1 hmember
  · refine .inl ⟨.invalidParams "usernames is required", ?_, fun _ user huser => ?_⟩
    · rw [removeUserFromGroups, Proc.run_bind_of_error (run_requireNotEmpty_of_isEmpty hu _ db)]
    · have hempty := (h.usernames _ user huser).2
      rw [isEmpty_sanitized, hu] at hempty
      cases hempty

theorem keeps_removeUserFromGroups (ctx : AccountsContext) (h : MembersOk nothing db)
    (hcareful : Careful db (ctx, .removeUserFromGroups username groupNames)) :
    MembersOk nothing ((removeUserFromGroups username groupNames).run db).2 := by
  rcases removeUserFromGroups_cases username groupNames h with
    ⟨e, hrun, -⟩ | ⟨user, huser, henabled, ⟨⟨g, hg, hempty⟩, db', hrun, hleaves⟩ | ⟨-, db', hrun, hok, -⟩⟩
  · rw [hrun]
    exact h
  · rw [hrun]
    refine h.leavesOnly huser hleaves fun hactive => ?_
    refine (hcareful user huser hactive henabled).1.resolve_left fun hnames => ?_
    rw [hnames g hg] at hempty
    cases hempty
  · rw [hrun]
    refine hok.mono fun g v hp => ?_
    obtain ⟨-, hactive, hg, hcount⟩ := hp
    exact absurd ((hcareful user huser hactive henabled).2 g hg) (Nat.not_le_of_lt hcount)

/-- A user without memberships that is deleted. -/
theorem MembersOk.deleteUser (h : MembersOk pending db) (hpending : ∀ g v, pending g v → v = u)
    (hnone : ∀ g, ¬ db.IsMember g u) :
    MembersOk nothing { db with users := db.users.deleteItem u } where
  groupExists := h.groupExists
  recorded g v hmember := by
    obtain ⟨row, hrow, hg⟩ := h.recorded g v hmember
    refine ⟨row, ?_, hg⟩
    rw [Table.getItem_deleteItem_of_ne, hrow]
    rintro rfl
    exact hnone g hmember
  active v row hrow hactive g hg := by
    rw [Table.getItem_deleteItem] at hrow
    by_cases hv : v = u
    · rw [if_pos hv] at hrow
      cases hrow
    · rw [if_neg hv] at hrow
      exact .inl ((h.active v row hrow hactive g hg).resolve_right fun hp => hv (hpending g v hp))
  groups := h.groups
  usernames v row hrow := by
    rw [Table.getItem_deleteItem] at hrow
    by_cases hv : v = u
    · rw [if_pos hv] at hrow
      cases hrow
    · rw [if_neg hv] at hrow
      exact h.usernames v row hrow
  unmapped := h.unmapped

theorem MembersOk.run_deleteUser (h : MembersOk pending db)
    (hpending : ∀ g v, pending g v → v = sanitized username) (hu : isEmpty username = false)
    (hnone : ∀ g, ¬ db.IsMember g (sanitized username)) :
    MembersOk nothing ((UserDao.deleteUser username).run db).2 := by
  rw [UserDao.run_deleteUser, hu]
  exact h.deleteUser hpending hnone

theorem keeps_deleteUser (h : MembersOk nothing db)
    (hcareful : Careful db (ctx, .deleteUser username)) : MembersOk nothing ((deleteUser ctx username).run db).2 := by
  unfold deleteUser
  by_cases hadmin : ctx.isClusterAdministrator username = true
  · rw [Proc.run_bind, Proc.run_when_pos hadmin]
    exact h
  rw [Proc.run_bind_of_ok (Proc.run_when_neg hadmin db), Proc.run_bind, UserDao.run_getUser]
  rcases hu : isEmpty username with _ | _
  · rcases huser : db.users.getItem (sanitized username) with _ | user
    · exact h
    · simp only [Bool.false_eq_true, if_false]
      -- the user is a member of additional groups only
      have honly : ∀ g, db.IsMember g (sanitized username) → g ∈ user.additionalGroups := by
        intro g hmember
        obtain ⟨row, hrow, hg⟩ := h.recorded g _ hmember
        rw [huser] at hrow
        cases hrow
        exact hg
      by_cases hne : user.additionalGroups = []
      · rw [Proc.run_bind_of_ok (Proc.run_when_neg (not_not_intro hne) db)]
        refine h.run_deleteUser (fun _ _ hp => hp.elim) hu fun g hmember => ?_
        have hg := honly g hmember
        rw [hne] at hg
        cases hg
      · rw [Proc.run_bind, Proc.run_when_pos hne, passIfDisabled, Proc.run_tryCatch]
        rcases removeUserFromGroups_cases username user.additionalGroups
          h with ⟨e, hrun, hdisabled⟩ |
          ⟨user', huser', -, ⟨⟨g, hg, hempty⟩, db', hrun, hleaves⟩ | ⟨-, db', hrun, hok, hgone, hold⟩⟩
        · rw [hrun]
          by_cases hcode : e.errorCode = some .authUserIsDisabled
          · simp only [if_pos hcode]
            refine h.run_deleteUser (fun _ _ hp => hp.elim) hu fun g => ?_
            exact hcareful (by simpa using hadmin) user huser (hdisabled hne user huser) g
          · simp only [if_neg hcode]
            exact h
        · rw [hrun]
          -- only a user that is not active has an additional group with a blank name
          have hinactive : ¬ user.isActive = true := by
            intro hactive
            have hmember := (h.active _ user huser hactive g hg).resolve_right id
            rw [(h.enabledGroup (h.groupExists g _ hmember)).2] at hempty
            cases hempty
          exact h.leavesOnly huser hleaves fun hactive => absurd hactive hinactive
        · rw [hrun]
          refine hok.run_deleteUser (fun _ _ hp => hp.1) hu fun g hmember => ?_
          exact hgone g (honly g (hold g hmember)) hmember
  · exact h

/-! ## Runs -/

/-- **The step lemma.** A careful operation keeps the invariant, whether it returns or raises. -/
theorem MembersOk.step {op : AccountOp} (h : MembersOk nothing db) (hcareful : Careful db (ctx, op)) :
    MembersOk nothing ((op.proc ctx).run db).2 := by
  have hdrop : ∀ {α : Type} {c : DbProc α}, MembersOk nothing (c.run db).2 →
      MembersOk nothing ((c >>= fun _ => (pure ⟨⟩ : DbProc PUnit)).run db).2 := by
    intro α c hc
    rw [Proc.run_bind]
    rcases hr : c.run db with ⟨e | a, t⟩ <;> rw [hr] at hc <;> exact hc
  cases op with
  | createGroup group => exact hdrop ((keeps_createGroup group).run h)
  | createUser user emailVerified => exact hdrop (keeps_createUser h hcareful)
  | activateUser existingUser => exact keeps_activateUser h hcareful
  | addUsersToGroup usernames groupName bypass => exact (keeps_addUsersToGroup _ _).run h
  | removeUsersFromGroup usernames groupName force => exact (keeps_removeUsersFromGroup _ _).run h
  | removeUserFromGroups username groupNames => exact keeps_removeUserFromGroups ctx h hcareful
  | deleteGroup groupName force => exact (keeps_deleteGroup _).run h
  | disableUser username => exact (keeps_disableUser _).run h
  | enableUser username => exact (keeps_enableUser _).run h
  | deleteUser username => exact keeps_deleteUser h hcareful

/-- The invariant holds in every state that careful operations reach. -/
theorem membersOk_of_reach (h : accounts.Reach Careful db) : MembersOk nothing db := by
  refine h.invariant (fun s hs => ?_) fun s label t hs hg hn => ?_
  · rw [show s = Db.empty from hs]
    exact membersOk_empty
  · cases hn
    exact hs.step hg

/-- **Memberships and users agree.** In every state that careful operations reach from empty tables,
every membership is of an existing group and an existing user, and the memberships of an active user
are its additional groups. -/
theorem memberships_consistent (h : accounts.Reach Careful db) : MembershipsConsistent db :=
  (membersOk_of_reach h).consistent

/-! ## A run with every kind of operation, and the run that leaves an orphan -/

/-- A directory in which every user and every group is found. -/
def openDirectory : AccountsContext where
  administratorUsername := "clusteradmin"
  isTestMode := false
  isReadonly := true
  getLdapGroup dsName := .ok (some (some dsName))
  getGidForGroup _ := some 5000
  isExistingUser _ := .ok true
  getUidAndGidForUser _ := some (1001, 5000)
  isValidEmail _ := true
  passwordPolicy := ⟨8, true, true, true, true⟩
  adminCreateUser _ := .ok ()
  publishUserDisabledEvent _ := .ok ()

/-- The request for a project group. -/
def projectGroup (name : String) : Group :=
  { name := some name, dsName := some name, groupType := some "project" }

/-- The request for a user. -/
def newMember (username : String) (additionalGroups : List String) (isActive : Bool) : User :=
  { username := some username, email := some "member@example.org",
    additionalGroups := some additionalGroups, isActive := some isActive }

/-- An active user is created in a group, disabled and, after `between`, deleted. -/
def disableThenDelete (between : List AccountOp) : List (AccountsContext × AccountOp) :=
  ([AccountOp.createGroup (projectGroup "team"),
    .createUser (newMember "alice" ["team"] true) false, .disableUser "alice"] ++ between ++
    [AccountOp.deleteUser "alice"]).map fun op => (openDirectory, op)

/-- A user that is enabled before it is deleted takes its memberships with it. -/
theorem memberships_consistent_enableThenDelete :
    ∃ db, accounts.exec Db.empty (disableThenDelete [.enableUser "alice"]) = some db ∧ MembershipsConsistent db := by
  obtain ⟨db, hexec⟩ : ∃ db, accounts.exec Db.empty (disableThenDelete [.enableUser "alice"]) =
      some db := ⟨_, rfl⟩
  refine ⟨db, hexec, memberships_consistent (.of_exec (.init rfl) ?_ hexec)⟩
  refine ⟨trivial, fun s hs => ⟨fun _ => ?_, fun s' hs' => ⟨trivial, fun t ht => ⟨trivial,
    fun t' ht' => ⟨fun _ row hrow hdisabled => ?_, fun _ _ => meets_nil⟩⟩⟩⟩⟩
  · cases hs
    decide
  · have henabled : ∀ row ∈ t'.users.getItem (sanitized "alice"), row.enabled = true := by
      cases hs
      cases hs'
      cases ht
      cases ht'
      decide
    rw [henabled row hrow] at hdisabled
    cases hdisabled

/-- **An orphan membership.** Deleting a disabled user leaves its memberships behind. -/
theorem orphan_membership : ¬ ∀ db, accounts.Reachable db → MembershipsConsistent db := by
  obtain ⟨db, hexec⟩ : ∃ db, accounts.exec Db.empty (disableThenDelete []) = some db := ⟨_, rfl⟩
  intro h
  have hmember : db.IsMember "team" "alice" ∧ ¬ db.users.Has "alice" := by
    cases hexec
    exact ⟨rfl, by decide⟩
  exact hmember.2 ((h db (.of_exec (.init rfl) hexec)).1 "team" "alice" hmember.1).2

end ContainRes.Accounts
