import ContainRes.Projects.Provenance

/-! # The membership operations keep the provenance

`add_users_to_group`, `remove_users_from_group`, `remove_user_from_groups`, `activate_user` and
`delete_user` write memberships first and tell the projects of the groups afterwards. Each of them keeps
`Provenance` for the same groups and users of every project, under a condition on its arguments.

* **`MembershipOp`** — the operations, and **`MembershipOp.Sound`** — the condition.
* **`triple_membershipOp`** — the operation keeps the provenance when it returns. -/

namespace ContainRes.Projects

open Accounts Effects Store Text

variable {ctx : AccountsContext} {projects : Table String ProjectRow} {V W : String → String → Prop}
  {db : Db} {g username : String}

/-! ## Adding users to a group -/

theorem isMember_addAdditionalGroup_join (db : Db) (u : String) (user : UserRow) (g x v : String) :
    ((db.addAdditionalGroup u user g).join g u).IsMember x v ↔ x = g ∧ v = u ∨ db.IsMember x v := by
  rw [Db.isMember_join, addAdditionalGroup_frame]
  rfl

theorem addAdditionalGroup_join_frame (db : Db) (u : String) (user : UserRow) (g : String) :
    (db.addAdditionalGroup u user g).join g u =
      { db with
        users := ((db.addAdditionalGroup u user g).join g u).users
        groupMembers := ((db.addAdditionalGroup u user g).join g u).groupMembers } := by
  unfold Db.addAdditionalGroup
  split <;> rfl

/-- The iteration of `add_users_to_group` keeps the provenance, whether it returns or raises. -/
theorem keeps_addUserToGroup {bypass : Bool} (hg : isEmpty g = false) (hsettled : Settled V g username) :
    Keeps (Provenance projects V W) (addUserToGroup ctx g bypass username) := by
  intro s hs
  rw [run_addUserToGroup hg]
  rcases hu : isEmpty username with _ | _
  · rcases s.users.getItem (sanitized username) with _ | user
    · exact hs
    · simp only [Bool.false_eq_true, if_false]
      by_cases henabled : user.enabled = false
      · rw [if_pos henabled]
        exact hs
      · rw [if_neg henabled]
        by_cases hjoins : (bypass || user.isActive || ctx.isTestMode) = true
        · rw [if_pos hjoins]
          let joined := (s.addAdditionalGroup (sanitized username) user g).join g (sanitized username)
          have hframe : joined =
              { s with users := joined.users, groupMembers := joined.groupMembers } :=
            addAdditionalGroup_join_frame s (sanitized username) user g
          have hmapped : ∀ p, joined.IsMapped g p ↔ V p g := by
            intro p
            rw [hframe]
            exact hs.mapped g p
          have hadded := triple_groupMemberAdded joined g username joined
            (Resourced.refl joined fun _ _ _ => Iff.rfl)
          split at hadded <;> rename_i hrun
          · rw [show (UserProjectsDao.groupMemberAdded g username).run joined = _ from hrun]
            exact hs.addMember hframe (isMember_addAdditionalGroup_join s _ user g) hsettled hadded
          · -- the keys are not blank, so nothing raises
            obtain ⟨-, hblank | hblank | ⟨p, hp, hblank⟩⟩ := hadded
            · rw [hg] at hblank
              cases hblank
            · rw [hu] at hblank
              cases hblank
            · rw [(hs.named p g ((hmapped p).mp hp)).2.2] at hblank
              cases hblank
        · rw [if_neg hjoins]
          show Provenance projects V W (s.addAdditionalGroup (sanitized username) user g)
          rw [addAdditionalGroup_frame]
          exact hs.setUsers
  · exact hs

theorem keeps_addUsersToGroup {bypass : Bool} {usernames : List String}
    (hsettled : ∀ username ∈ usernames, Settled V g username) :
    Keeps (Provenance projects V W) (addUsersToGroup ctx usernames g bypass) := by
  unfold addUsersToGroup
  refine Keeps.bind (Keeps.of_reads (Reads.whenRaise _)) fun _ => ?_
  rcases hg : isEmpty g with _ | _
  · refine Keeps.bind (Keeps.of_reads (reads_requireNotEmpty _ _)) fun _ =>
      Keeps.bind (Keeps.of_reads (reads_getGroup _)) ?_
    rintro (_ | group)
    · exact Keeps.raise _
    · exact Keeps.ite (fun _ => Keeps.raise _) fun _ =>
        Keeps.forEach fun username hmem => keeps_addUserToGroup hg (hsettled username hmem)
  · intro s hs
    rw [Proc.run_bind_of_error (run_requireNotEmpty_of_isEmpty hg _ s)]
    exact hs

/-! ## Removing users from a group -/

theorem isMember_dropAdditionalGroup_leave (db : Db) (u : String) (user : UserRow) (g x v : String) :
    ((db.dropAdditionalGroup u user g).leave g u).IsMember x v ↔ ¬ (x = g ∧ v = u) ∧ db.IsMember x v := by
  rw [Db.isMember_leave, dropAdditionalGroup_frame]
  rfl

/-- Removing a user from a group changes users and group-members only. -/
theorem dropAdditionalGroup_leave_frame (db : Db) (u : String) (user : UserRow) (g : String) :
    (db.dropAdditionalGroup u user g).leave g u =
      { db with
        users := ((db.dropAdditionalGroup u user g).leave g u).users
        groupMembers := ((db.dropAdditionalGroup u user g).leave g u).groupMembers } := by
  unfold Db.dropAdditionalGroup
  split <;> rfl

/-- The iteration of `remove_users_from_group` keeps the provenance when it returns, and when it raises
an exception that a caller may catch. -/
theorem triple_removeUserFromGroup {force : Bool} (hg : isEmpty g = false) (hsettled : Settled V g username) :
    Triple (Provenance projects V W) (removeUserFromGroup g force username)
      (fun _ => Provenance projects V W) (fun e s => Caught e → Provenance projects V W s) := by
  intro s hs
  rw [run_removeUserFromGroup hg]
  rcases hu : isEmpty username with _ | _
  · rcases s.users.getItem (sanitized username) with _ | user
    · cases force
      · exact fun _ => hs
      · exact hs
    · simp only [Bool.false_eq_true, if_false]
      by_cases hrefused : user.enabled = false ∧ force = false
      · rw [if_pos hrefused]
        exact fun _ => hs
      · rw [if_neg hrefused]
        let left := (s.dropAdditionalGroup (sanitized username) user g).leave g (sanitized username)
        have hframe : left = { s with users := left.users, groupMembers := left.groupMembers } :=
          dropAdditionalGroup_leave_frame s (sanitized username) user g
        have hremoved := triple_groupMemberRemoved left g username left
          (Resourced.refl left fun _ _ _ => Iff.rfl)
        split at hremoved <;> rename_i hrun
        · rw [show (UserProjectsDao.groupMemberRemoved g username).run left = _ from hrun]
          refine hs.removeMember username [g] hframe
            (fun p x v hV => ?_) (hremoved.congr fun u p x => ?_)
          · rw [isMember_dropAdditionalGroup_leave, and_comm, List.mem_singleton]
            rcases hsettled with hname | hunmapped
            · rw [hname, and_comm (a := v = username)]
            · have hx : x ≠ g := by
                rintro rfl
                exact hunmapped p hV
              simp [hx]
          · constructor
            · rintro ⟨hx, hkept⟩
              refine ⟨hx, ?_⟩
              rintro ⟨hu, hg, hp⟩
              rw [List.mem_singleton] at hg
              exact hkept ⟨⟨hu, hg ▸ hp⟩, hg⟩
            · rintro ⟨hx, hkept⟩
              refine ⟨hx, ?_⟩
              rintro ⟨⟨hu, hp⟩, rfl⟩
              exact hkept ⟨hu, List.mem_singleton_self _, hp⟩
        · rw [show (UserProjectsDao.groupMemberRemoved g username).run left = _ from hrun]
          exact fun hcaught => absurd hcaught hremoved
  · exact fun _ => hs

/-- `remove_users_from_group` keeps the provenance when it returns. -/
theorem triple_removeUsersFromGroup {force : Bool} {usernames : List String}
    (hsettled : ∀ username ∈ usernames, Settled V g username) :
    Triple (Provenance projects V W) (removeUsersFromGroup usernames g force)
      (fun _ => Provenance projects V W) (fun _ _ => True) := by
  unfold removeUsersFromGroup
  refine Triple.bind_reads (Reads.whenRaise _) (fun _ _ _ => trivial) fun _ => ?_
  rcases hg : isEmpty g with _ | _
  · refine Triple.bind_reads (reads_requireNotEmpty _ _) (fun _ _ _ => trivial) fun _ =>
      Triple.tryCatch (R := fun e s => Caught e → Provenance projects V W s) ?_ fun e => ?_
    · refine Triple.bind_reads (reads_getGroup _) (fun _ _ hs _ => hs) ?_
      rintro (_ | group)
      · exact Triple.raise fun _ hs _ => hs
      · refine Triple.ite (fun _ => Triple.raise fun _ hs _ => hs) fun _ => ?_
        exact Triple.forEach fun username hmem =>
          triple_removeUserFromGroup hg (hsettled username hmem)
    · refine Triple.ite (fun hcode => ?_) fun _ => Triple.raise fun _ _ => trivial
      -- the handler only reads
      have hreads : Keeps (Provenance projects V W)
          (Proc.forEach reportRemovalFromDeletedGroup usernames) := by
        refine Keeps.forEach fun username _ =>
          Keeps.bind (Keeps.of_reads (reads_getUser _)) ?_
        rintro (_ | user)
        · exact Keeps.raise _
        · exact Keeps.ite (fun _ => Keeps.pure _) fun _ => Keeps.raise _
      exact Triple.conseq hreads (fun _ hs => hs (.inl hcode)) (fun _ _ hs => hs)
        fun _ _ _ => trivial
  · intro s _
    rw [Proc.run_bind_of_error (run_requireNotEmpty_of_isEmpty hg _ s)]
    trivial

/-! ## Removing a user from several groups -/

/-- `remove_user_from_groups` may take the group from the sources of the user: the group is mapped to no
project, or the name is the one the tables use and the membership is deleted, if there is one. -/
def Removable (V : String → String → Prop) (db : Db) (username g : String) : Prop :=
  (∀ p, ¬ V p g) ∨
    sanitized username = username ∧ (db.IsEnabledGroup g ∨ ¬ db.IsMember g username)

/-- Deleting memberships of a user and writing its additional groups changes users and group-members
only. -/
theorem setAdditionalGroups_frame {groupNames : List String} {u : String} {db' : Db}
    (h : LeavesOnly groupNames u db db') (groups : List String) : db'.setAdditionalGroups u groups =
      { db with
        users := (db'.setAdditionalGroups u groups).users
        groupMembers := (db'.setAdditionalGroups u groups).groupMembers } := by
  rw [h.frame]
  rfl

/-- `remove_user_from_groups` keeps the provenance when it returns, and when it raises an exception that
a caller may catch. -/
theorem triple_removeUserFromGroups {groupNames : List String}
    (hremovable : ∀ g ∈ groupNames, Removable V db username g) :
    Triple (fun s => s = db ∧ Provenance projects V W s) (removeUserFromGroups username groupNames)
      (fun _ => Provenance projects V W) (fun e s => Caught e → Provenance projects V W s) := by
  rintro s ⟨rfl, hs⟩
  rcases hu : isEmpty username with _ | _
  · by_cases hne : groupNames = []
    · rw [removeUserFromGroups, Proc.run_bind_of_ok (run_requireNotEmpty_of_not_isEmpty hu _ s),
        Proc.run_bind, Proc.run_when_pos hne]
      exact fun _ => hs
    rcases huser : s.users.getItem (sanitized username) with _ | user
    · rw [removeUserFromGroups, Proc.run_bind_of_ok (run_requireNotEmpty_of_not_isEmpty hu _ s),
        Proc.run_bind_of_ok (Proc.run_when_neg hne s), Proc.run_bind, UserDao.run_getUser, hu, huser]
      exact fun _ => hs
    have hget : (UserDao.getUser username).run s = (.ok (some user), s) := by
      rw [UserDao.run_getUser, hu, huser]
      rfl
    by_cases henabled : user.enabled = false
    · rw [removeUserFromGroups, Proc.run_bind_of_ok (run_requireNotEmpty_of_not_isEmpty hu _ s),
        Proc.run_bind_of_ok (Proc.run_when_neg hne s), Proc.run_bind_of_ok hget]
      simp only [if_pos henabled]
      exact fun _ => hs
    by_cases hblank : ∃ g ∈ groupNames, isEmpty g = true
    · -- the loop raises before anything is told to the projects
      have hblank' : ∃ g ∈ groupsToRemove groupNames, isEmpty g = true := by
        obtain ⟨g, hg, hempty⟩ := hblank
        exact ⟨g, mem_groupsToRemove.mpr hg, hempty⟩
      obtain ⟨db', hrun⟩ := removeMemberships_raises hu user.isActive (groupsToRemove groupNames)
        user.additionalGroups hblank' s
      rw [removeUserFromGroups, Proc.run_bind_of_ok (run_requireNotEmpty_of_not_isEmpty hu _ s),
        Proc.run_bind_of_ok (Proc.run_when_neg hne s), Proc.run_bind_of_ok hget]
      simp only [if_neg henabled]
      rw [Proc.run_bind_of_error hrun]
      exact fun hcaught => absurd hcaught (not_caught_invalidParams _)
    · have hnames : ∀ g ∈ groupNames, isEmpty g = false := by
        intro g hg
        by_contra hempty
        exact hblank ⟨g, hg, by simpa using hempty⟩
      obtain ⟨db', hleaves, hgone, hrun⟩ := run_removeUserFromGroups hu hne huser (by simpa using henabled) hnames
      rw [hrun]
      let left := db'.setAdditionalGroups (sanitized username)
        (s.remaining user.isActive (groupsToRemove groupNames) user.additionalGroups)
      have hframe : left = { s with users := left.users, groupMembers := left.groupMembers } :=
        setAdditionalGroups_frame hleaves _
      have hremoved := triple_groupMembersRemoved left username (groupsToRemove groupNames) left
        (Resourced.refl left fun _ _ _ => Iff.rfl)
      split at hremoved <;> rename_i hr
      · rw [show (Proc.forEach (fun groupName =>
          UserProjectsDao.groupMemberRemoved groupName username)
          (groupsToRemove groupNames)).run left = _ from hr]
        refine hs.removeMember username groupNames hframe
          (fun p x v hV => ?_) (hremoved.congr fun u p x => by rw [mem_groupsToRemove])
        have hmember : left.IsMember x v ↔ db'.IsMember x v := Iff.rfl
        rw [hmember]
        constructor
        · intro hm
          refine ⟨hleaves.old x v hm, ?_⟩
          rintro ⟨rfl, hx⟩
          obtain ⟨hname, hok⟩ := (hremovable x hx).resolve_left fun hno => hno p hV
          rcases hok with hgroup | hnone
          · exact hgone x hx hgroup (hname.symm ▸ hm)
          · exact hnone (hleaves.old x v hm)
        · rintro ⟨hm, hkept⟩
          refine (hleaves.only x v hm).resolve_right fun hboth => ?_
          obtain ⟨hname, -⟩ := (hremovable x hboth.1).resolve_left fun hno => hno p hV
          exact hkept ⟨hboth.2.trans hname, hboth.1⟩
      · rw [show (Proc.forEach (fun groupName =>
          UserProjectsDao.groupMemberRemoved groupName username)
          (groupsToRemove groupNames)).run left = _ from hr]
        exact fun hcaught => absurd hcaught hremoved
  · rw [removeUserFromGroups, Proc.run_bind_of_error (run_requireNotEmpty_of_isEmpty hu _ s)]
    exact fun _ => hs

/-! ## Activating and deleting a user -/

theorem keeps_updateUser (username : String) (update : UserRow → UserRow) :
    Keeps (Provenance projects V W) (UserDao.updateUser username update) := by
  intro s hs
  rw [UserDao.run_updateUser]
  rcases isEmpty username with _ | _
  · rcases s.users.getItem (sanitized username) with _ | user
    · exact hs
    · exact hs.setUsers
  · exact hs

theorem keeps_activateUser {existingUser : User}
    (hsettled : existingUser.isActive ≠ some true → ∀ g ∈ existingUser.additionalGroups.getD [],
      Settled V g (existingUser.username.getD "")) :
    Keeps (Provenance projects V W) (activateUser ctx existingUser) := by
  unfold activateUser
  refine Keeps.ite (fun _ => Keeps.pure _) fun hinactive => ?_
  refine Keeps.bind (Keeps.forEach fun g hg => ?_) fun _ => keeps_updateUser _ _
  refine Keeps.tryCatch (keeps_addUsersToGroup fun username hmem => ?_) fun _ => Keeps.pure _
  rw [List.mem_singleton] at hmem
  exact hmem ▸ hsettled hinactive g hg

/-- `delete_user` keeps the provenance when it returns. -/
theorem triple_deleteUser (hremovable : ctx.isClusterAdministrator username = false → ∀ row,
      db.users.getItem (sanitized username) = some row → row.enabled = true →
      ∀ g ∈ row.additionalGroups, Removable V db username g) :
    Triple (fun s => s = db ∧ Provenance projects V W s) (deleteUser ctx username)
      (fun _ => Provenance projects V W) (fun _ _ => True) := by
  rintro s ⟨rfl, hs⟩
  unfold deleteUser
  by_cases hadmin : ctx.isClusterAdministrator username = true
  · rw [Proc.run_bind, Proc.run_when_pos hadmin]
    trivial
  rw [Proc.run_bind_of_ok (Proc.run_when_neg hadmin s), Proc.run_bind, UserDao.run_getUser]
  rcases hu : isEmpty username with _ | _
  · rcases huser : s.users.getItem (sanitized username) with _ | user
    · exact hs
    · simp only [Bool.false_eq_true, if_false]
      have hdelete : Keeps (Provenance projects V W) (UserDao.deleteUser username) := by
        intro t ht
        rw [UserDao.run_deleteUser, hu]
        exact ht.setUsers
      have hfirst : Triple (fun t => t = s ∧ Provenance projects V W t)
          (Proc.when (user.additionalGroups ≠ [])
            (passIfDisabled (removeUserFromGroups username user.additionalGroups)))
          (fun _ => Provenance projects V W) (fun _ _ => True) := by
        refine Triple.when (fun hne => ?_) fun _ _ ht => ht.2
        by_cases henabled : user.enabled = true
        · refine Triple.tryCatch (triple_removeUserFromGroups
            (hremovable (by simpa using hadmin) user huser henabled)) fun e => ?_
          exact Triple.ite (fun hcode => Triple.pure fun t ht => ht (.inr hcode))
            fun _ => Triple.raise fun _ _ => trivial
        · -- a disabled user is refused before anything is written
          rintro t ⟨rfl, ht⟩
          have hget : (UserDao.getUser username).run t = (.ok (some user), t) := by
            rw [UserDao.run_getUser, hu, huser]
            rfl
          have hrefused : user.enabled = false := by simpa using henabled
          have hrun : (removeUserFromGroups username user.additionalGroups).run t =
              (.error (userIsDisabled username), t) := by
            rw [removeUserFromGroups, Proc.run_bind_of_ok (run_requireNotEmpty_of_not_isEmpty hu _ t),
              Proc.run_bind_of_ok (Proc.run_when_neg hne t), Proc.run_bind_of_ok hget]
            simp only [if_pos hrefused, Proc.run_raise]
          rw [passIfDisabled, Proc.run_tryCatch, hrun]
          exact ht
      exact (Triple.bind hfirst fun _ => Triple.conseq hdelete (fun _ h => h) (fun _ _ h => h)
        fun _ _ _ => trivial) s ⟨rfl, hs⟩
  · trivial

/-! ## All membership operations -/

/-- The synchronous membership operations, with their arguments. -/
inductive MembershipOp
  | addUsersToGroup (usernames : List String) (groupName : String) (bypassActiveUserCheck : Bool)
  | removeUsersFromGroup (usernames : List String) (groupName : String) (force : Bool)
  | removeUserFromGroups (username : String) (groupNames : List String)
  | activateUser (existingUser : User)
  | deleteUser (username : String)

/-- The procedure of an operation. -/
def MembershipOp.proc (ctx : AccountsContext) : MembershipOp → DbProc PUnit
  | .addUsersToGroup usernames groupName bypass =>
    Accounts.addUsersToGroup ctx usernames groupName bypass
  | .removeUsersFromGroup usernames groupName force =>
    Accounts.removeUsersFromGroup usernames groupName force
  | .removeUserFromGroups username groupNames => Accounts.removeUserFromGroups username groupNames
  | .activateUser existingUser => Accounts.activateUser ctx existingUser
  | .deleteUser username => Accounts.deleteUser ctx username

/-- The condition on an operation, where `V` says which groups are mapped to which projects.

* A group that is mapped to a project gets and loses members under the name that the tables use.
* `remove_user_from_groups`, also as part of `delete_user` of an enabled user, removes the user from a
  group that is mapped to a project only if the group exists and is enabled, or the user is no member. -/
def MembershipOp.Sound (V : String → String → Prop) (db : Db) (ctx : AccountsContext) :
    MembershipOp → Prop
  | .addUsersToGroup usernames groupName _ => ∀ username ∈ usernames, Settled V groupName username
  | .removeUsersFromGroup usernames groupName _ =>
    ∀ username ∈ usernames, Settled V groupName username
  | .removeUserFromGroups username groupNames => ∀ g ∈ groupNames, Removable V db username g
  | .activateUser existingUser =>
    existingUser.isActive ≠ some true → ∀ g ∈ existingUser.additionalGroups.getD [],
      Settled V g (existingUser.username.getD "")
  | .deleteUser username =>
    ctx.isClusterAdministrator username = false → ∀ row,
      db.users.getItem (sanitized username) = some row → row.enabled = true →
      ∀ g ∈ row.additionalGroups, Removable V db username g

/-- **A membership operation keeps the provenance** when it returns. -/
theorem triple_membershipOp {op : MembershipOp} (h : op.Sound V db ctx) :
    Triple (fun s => s = db ∧ Provenance projects V W s) (op.proc ctx)
      (fun _ => Provenance projects V W) (fun _ _ => True) := by
  have hkeeps : ∀ {c : DbProc PUnit}, Keeps (Provenance projects V W) c →
      Triple (fun s => s = db ∧ Provenance projects V W s) c (fun _ => Provenance projects V W)
        (fun _ _ => True) :=
    fun hc => Triple.conseq hc (fun _ hs => hs.2) (fun _ _ hs => hs) fun _ _ _ => trivial
  cases op with
  | addUsersToGroup usernames groupName bypass => exact hkeeps (keeps_addUsersToGroup h)
  | removeUsersFromGroup usernames groupName force =>
    exact (triple_removeUsersFromGroup h).conseq (fun _ hs => hs.2) (fun _ _ hs => hs)
      fun _ _ _ => trivial
  | removeUserFromGroups username groupNames =>
    exact (triple_removeUserFromGroups h).conseq (fun _ hs => hs) (fun _ _ hs => hs)
      fun _ _ _ => trivial
  | activateUser existingUser => exact hkeeps (keeps_activateUser h)
  | deleteUser username => exact triple_deleteUser h

end ContainRes.Projects
