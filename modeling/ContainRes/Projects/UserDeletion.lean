import ContainRes.Projects.GroupRemoval
import ContainRes.Projects.Updates

/-! # Deleting a user

`delete_user` removes the user from the groups of its own list, and goes on without that for a disabled
user. The rows of a user's direct access, and what is not on its list, stay.

* **`returns_deleteUser`** — what the method leaves when it returns.
* **`Erased`** — nothing of a user is left.
* **`Cleaned`** — the groups that the method removes a user from.
* **`erased_iff`** — when nothing is left. -/

namespace ContainRes.Projects

open Accounts Effects Effects.Proc Store Text

variable {ctx : AccountsContext} {username : String} {db db' : Db}

/-! ## The exceptions of the removal -/

/-- A procedure that raises nothing that a caller goes on after. -/
def RaisesUncaught {α : Type} (c : DbProc α) : Prop :=
  Triple (fun _ => True) c (fun _ _ => True) fun e _ => ¬ Caught e

theorem RaisesUncaught.bind {α β : Type} {c : DbProc α} {f : α → DbProc β} (hc : RaisesUncaught c)
    (hf : ∀ a, RaisesUncaught (f a)) : RaisesUncaught (c >>= f) :=
  Triple.bind hc fun a => hf a

theorem RaisesUncaught.raise {α : Type} {e : Exc} (h : ¬ Caught e) : RaisesUncaught (Proc.raise e : DbProc α) :=
  Triple.raise fun _ _ => h

theorem RaisesUncaught.pure {α : Type} (a : α) : RaisesUncaught (Pure.pure a : DbProc α) :=
  Triple.pure fun _ _ => trivial

theorem RaisesUncaught.gets {α : Type} (f : Db → α) : RaisesUncaught (Proc.gets f) :=
  Triple.gets fun _ _ => trivial

theorem RaisesUncaught.modify (f : Db → Db) : RaisesUncaught (Proc.modify f) :=
  Triple.modify fun _ _ => trivial

theorem raisesUncaught_requireNotEmpty (value message : String) : RaisesUncaught (requireNotEmpty value message) :=
  Triple.ite (fun _ => RaisesUncaught.raise (not_caught_invalidParams _)) fun _ => RaisesUncaught.pure _

theorem raisesUncaught_sanitizeUsername (username : String) :
    RaisesUncaught (Proc.liftExcept (sanitizeUsername (some username))) := by
  unfold sanitizeUsername
  simp only
  split
  · exact .raise (not_caught_invalidParams _)
  · exact .pure _

/-- The loop over the groups raises for a blank name only. -/
theorem raisesUncaught_removeMemberships {isActive : Bool} (names groups : List String) :
    RaisesUncaught (removeMemberships username isActive names groups) := by
  induction names generalizing groups with
  | nil => exact .pure _
  | cons name names ih =>
    unfold removeMemberships
    refine .bind (.bind (raisesUncaught_requireNotEmpty _ _) fun _ => .gets _) fun group => ?_
    cases group with
    | none => exact ih _
    | some group =>
      refine Triple.ite (fun _ => ih _) fun _ => .bind ?_ fun _ => ih _
      exact .bind (raisesUncaught_sanitizeUsername _) fun _ =>
        .bind (raisesUncaught_requireNotEmpty _ _) fun _ => RaisesUncaught.modify _

theorem raisesUncaught_updateAdditionalGroups (groups : List String) :
    RaisesUncaught (updateAdditionalGroups username groups) := by
  refine .bind (raisesUncaught_sanitizeUsername _) fun _ => .bind (.gets _) fun user => ?_
  cases user with
  | none => exact .raise (by simp [Caught, conditionalCheckFailed, Exc.errorCode])
  | some user => exact RaisesUncaught.modify _

variable {user : UserRow}

/-- The removal of a user that is not disabled raises nothing that `delete_user` goes on after. -/
theorem not_disabled_of_removal {names : List String} {e : Exc}
    (huser : db.users.getItem (sanitized username) = some user) (henabled : user.enabled = true)
    (hrun : (removeUserFromGroups username names).run db = (.error e, db')) :
    e.errorCode ≠ some .authUserIsDisabled := by
  have hremoval : Triple (fun s => s = db) (removeUserFromGroups username names) (fun _ _ => True)
      fun e _ => ¬ Caught e := by
    have huncaught : ∀ {α : Type} {c : DbProc α}, RaisesUncaught c →
        Triple (fun s => s = db) c (fun _ _ => True) fun e _ => ¬ Caught e :=
      fun hc => hc.conseq (fun _ _ => trivial) (fun _ _ h => h) fun _ _ h => h
    unfold removeUserFromGroups
    rintro s rfl
    rcases hu : isEmpty username with _ | _
    · rw [run_bind_of_ok (run_requireNotEmpty_of_not_isEmpty hu _ s)]
      by_cases hnames : names = []
      · rw [run_bind_of_error (t := s) (e := .invalidParams "group_names is required")
          (by rw [run_when_pos hnames]; rfl)]
        exact not_caught_invalidParams _
      · have hget : (UserDao.getUser username).run s = (.ok (some user), s) := by
          rw [UserDao.run_getUser, hu, huser]
          rfl
        rw [run_bind_of_ok (run_when_neg hnames s), run_bind_of_ok hget]
        simp only [henabled, Bool.true_eq_false, if_false]
        -- from here on each part raises nothing of the kind
        refine huncaught (.bind (raisesUncaught_removeMemberships _ _) fun _ =>
          .bind (raisesUncaught_updateAdditionalGroups _) fun _ t _ => ?_) s rfl
        exact (triple_groupMembersRemoved t username _).conseq (fun _ h => h) (fun _ _ _ => trivial)
          (fun _ _ h => h) t (Resourced.refl t fun _ _ _ => Iff.rfl)
    · rw [run_bind_of_error (run_requireNotEmpty_of_isEmpty hu _ s)]
      exact not_caught_invalidParams _
  exact fun hcode => hremoval.of_error rfl hrun (.inr hcode)

/-- A disabled user is refused before anything is written. -/
theorem run_removal_of_disabled {names : List String} (hu : isEmpty username = false)
    (hnames : names ≠ []) (huser : db.users.getItem (sanitized username) = some user)
    (hdisabled : user.enabled = false) :
    (removeUserFromGroups username names).run db = (.error (userIsDisabled username), db) := by
  have hget : (UserDao.getUser username).run db = (.ok (some user), db) := by
    rw [UserDao.run_getUser, hu, huser]
    rfl
  unfold removeUserFromGroups
  rw [run_bind_of_ok (run_requireNotEmpty_of_not_isEmpty hu _ db), run_bind_of_ok (run_when_neg hnames db),
    run_bind_of_ok hget]
  simp only [hdisabled, if_true]
  rfl

/-! ## The method -/

/-- A user is taken out of the table. -/
def withoutUser (db : Db) (u : String) : Db := { db with users := db.users.deleteItem u }

/-- **What `delete_user` leaves** when it returns: there was no such user; or the user is taken out of the
table; or that and the removal from the additional groups, for a user that is enabled. -/
theorem returns_deleteUser (hrun : (deleteUser ctx username).run db = (.ok ⟨⟩, db')) :
    (db.users.getItem (sanitized username) = none ∧ db' = db) ∨
      ∃ user, db.users.getItem (sanitized username) = some user ∧
        (((user.additionalGroups = [] ∨ user.enabled = false) ∧ db' = withoutUser db (sanitized username)) ∨
          user.additionalGroups ≠ [] ∧ user.enabled = true ∧
            ∃ left, Removed db username user.additionalGroups user left ∧
              db' = withoutUser left (sanitized username)) := by
  unfold deleteUser at hrun
  obtain ⟨⟨⟩, s₁, h₁, hrest₁⟩ := returns_bind.mp hrun
  have hs₁ : s₁ = db := (Reads.whenRaise _).eq_of_run h₁
  rw [hs₁] at hrest₁
  obtain ⟨found, s₂, h₂, hrest₂⟩ := returns_bind.mp hrest₁
  rcases hu : isEmpty username with _ | _
  · unfold Returns at h₂
    rw [UserDao.run_getUser, hu] at h₂
    cases h₂
    have hdelete : ∀ s, (UserDao.deleteUser username).run s =
        (.ok ⟨⟩, withoutUser s (sanitized username)) := by
      intro s
      rw [UserDao.run_deleteUser, hu]
      rfl
    cases huser : db.users.getItem (sanitized username) with
    | none =>
      rw [huser] at hrest₂
      exact .inl ⟨rfl, (returns_pure.mp hrest₂).2.symm⟩
    | some user =>
      rw [huser] at hrest₂
      refine .inr ⟨user, rfl, ?_⟩
      obtain ⟨⟨⟩, s₃, h₃, hrest₃⟩ := returns_bind.mp hrest₂
      unfold Returns at hrest₃
      rw [hdelete] at hrest₃
      cases hrest₃
      by_cases hnone : user.additionalGroups = []
      · have hs₃ : s₃ = db := by
          unfold Returns at h₃
          rw [run_when_neg (not_not_intro hnone)] at h₃
          cases h₃
          rfl
        exact .inl ⟨.inl hnone, by rw [hs₃]⟩
      · unfold Returns at h₃
        rw [run_when_pos hnone, passIfDisabled, run_tryCatch] at h₃
        rcases hremoval : (removeUserFromGroups username user.additionalGroups).run db with ⟨e | ⟨⟨⟩⟩, t⟩
        · rw [hremoval] at h₃
          by_cases henabled : user.enabled = true
          · simp only [if_neg (not_disabled_of_removal huser henabled hremoval)] at h₃
            cases h₃
          · have hdisabled : user.enabled = false := by simpa using henabled
            rw [run_removal_of_disabled hu hnone huser hdisabled] at hremoval
            cases hremoval
            cases h₃
            exact .inl ⟨.inr hdisabled, rfl⟩
        · rw [hremoval] at h₃
          cases h₃
          obtain ⟨user', huser', henabled, hremoved⟩ := removed_of_run hremoval
          rw [huser] at huser'
          cases huser'
          exact .inr ⟨hnone, henabled, s₃, hremoved, rfl⟩
  · unfold Returns at h₂
    rw [UserDao.run_getUser, hu] at h₂
    cases h₂

/-! ## Nothing is left -/

/-- Nothing of the user `u` is left: no row of users, of group-members or of user-projects, and no project
lists it. -/
structure Erased (db : Db) (u : String) : Prop where
  user : db.users.getItem u = none
  member : ∀ g, ¬ db.IsMember g u
  access : ∀ p, ¬ db.userProjects.Has (u, p)
  unlisted : ∀ p, u ∉ usersOf db.projects p

/-- The user is enabled and has the group among its additional groups. -/
def Cleaned (db : Db) (u g : String) : Prop :=
  ∃ user, db.users.getItem u = some user ∧ user.enabled = true ∧ g ∈ user.additionalGroups

/-- What `delete_user` finds of a user that it leaves nothing of: no project lists the user, each membership is
in an enabled group of the user's own list, and each row of user-projects has only sources of that list that
are mapped to its project, and some group of the list is. -/
def LeavesNothing (db : Db) (username : String) : Prop :=
  (∀ p, sanitized username ∉ usersOf db.projects p) ∧
    (∀ g, db.IsMember g (sanitized username) → Cleaned db (sanitized username) g ∧ db.IsEnabledGroup g) ∧
    ∀ p, db.userProjects.Has (sanitized username, p) →
      sanitized username = username ∧ (∃ g, Cleaned db (sanitized username) g ∧ db.IsMapped g p) ∧
        ∀ x ∈ sources db (sanitized username) p, Cleaned db (sanitized username) x ∧ db.IsMapped x p

/-- Without groups to clean, the user has to be without memberships and rows. -/
theorem leavesNothing_of_not_cleaned (h : ∀ g, ¬ Cleaned db (sanitized username) g) :
    LeavesNothing db username ↔ (∀ p, sanitized username ∉ usersOf db.projects p) ∧
      (∀ g, ¬ db.IsMember g (sanitized username)) ∧ ∀ p, ¬ db.userProjects.Has (sanitized username, p) := by
  unfold LeavesNothing
  simp only [h, false_and, exists_false, and_false, imp_false]

theorem erased_withoutUser_iff (u : String) :
    Erased (withoutUser db u) u ↔ (∀ p, u ∉ usersOf db.projects p) ∧ (∀ g, ¬ db.IsMember g u) ∧
      ∀ p, ¬ db.userProjects.Has (u, p) := by
  constructor
  · intro h
    exact ⟨h.unlisted, h.member, h.access⟩
  · rintro ⟨hunlisted, hmember, haccess⟩
    exact ⟨Table.getItem_deleteItem_self _ _, hmember, haccess, hunlisted⟩

/-- The memberships and the rows of a user that is removed from its groups. -/
theorem Removed.leavesNothing_iff {left : Db} (h : Removed db username user.additionalGroups user left)
    (huser : db.users.getItem (sanitized username) = some user) (henabled : user.enabled = true) :
    ((∀ p, sanitized username ∉ usersOf left.projects p) ∧ (∀ g, ¬ left.IsMember g (sanitized username)) ∧
      ∀ p, ¬ left.userProjects.Has (sanitized username, p)) ↔ LeavesNothing db username := by
  have hcleaned : ∀ g, Cleaned db (sanitized username) g ↔ g ∈ user.additionalGroups := by
    intro g
    constructor
    · rintro ⟨user', huser', -, hg⟩
      rw [huser] at huser'
      cases huser'
      exact hg
    · exact fun hg => ⟨user, huser, henabled, hg⟩
  have hprojects : left.projects = db.projects := by rw [h.frame]
  unfold LeavesNothing
  rw [hprojects]
  simp only [hcleaned]
  refine and_congr_right fun _ => and_congr (forall_congr' fun g => ?_) (forall_congr' fun p => ?_)
  · rw [h.members]
    constructor
    · intro hnone hmember
      by_contra hkept
      exact hnone ⟨hmember, fun hgone => hkept ⟨hgone.2.1, hgone.2.2⟩⟩
    · rintro hgone ⟨hmember, hkept⟩
      exact hkept ⟨rfl, hgone hmember⟩
  · rw [h.rows]
    constructor
    · intro hnone hhas
      -- the row is gone, so it was in the loop and each source of it was taken
      have hloop : (sanitized username = username ∧ ∃ g ∈ user.additionalGroups, db.IsMapped g p) ∧
          ¬ ∃ x ∈ Projects.sources db (sanitized username) p,
            ¬ (sanitized username = username ∧ x ∈ user.additionalGroups ∧ db.IsMapped x p) := by
        by_contra hkept
        refine hnone ⟨hhas, fun htouched => ?_⟩
        by_contra hall
        exact hkept ⟨htouched, hall⟩
      obtain ⟨⟨hname, hmapped⟩, hall⟩ := hloop
      refine ⟨hname, hmapped, fun x hx => ?_⟩
      by_contra hother
      exact hall ⟨x, hx, fun htaken => hother htaken.2⟩
    · rintro hgone ⟨hhas, hkept⟩
      obtain ⟨hname, hmapped, hall⟩ := hgone hhas
      obtain ⟨x, hx, hnot⟩ := hkept ⟨hname, hmapped⟩
      exact hnot ⟨hname, hall x hx⟩

/-- A user that is created without groups gets no row of user-projects. -/
theorem userProjects_createUser {user : User} {emailVerified : Bool} {created : User}
    (hgroups : user.additionalGroups.getD [] = [])
    (hrun : (createUser ctx user emailVerified).run db = (.ok created, db')) : db'.userProjects = db.userProjects := by
  have hcreate : Triple (fun s => s = db) (createUser ctx user emailVerified)
      (fun _ s => s.userProjects = db.userProjects) fun _ _ => True := by
    unfold createUser
    refine Triple.bind ((triple_newUser user emailVerified db).conseq (fun _ h => h) (fun _ _ h => h)
      fun _ _ _ => trivial) ?_
    rintro ⟨username, row⟩ s ⟨rfl, hnew⟩
    have hnone : row.additionalGroups = [] := hnew.additionalGroups.trans hgroups
    let I : PUnit → Db → Prop := fun _ t => t.userProjects = s.userProjects
    have hkeeps : ∀ {c : DbProc PUnit}, Keeps (fun t => t.userProjects = s.userProjects) c →
        Triple (fun t => t.userProjects = s.userProjects) c I fun _ _ => True :=
      fun hc => hc.conseq (fun _ h => h) (fun _ _ h => h) fun _ _ _ => trivial
    have hrest : Triple (fun t => t.userProjects = s.userProjects)
        (UserDao.createUser username row >>= fun _ =>
          Proc.forEach (fun g => addUsersToGroup ctx [username] g false) row.additionalGroups >>= fun _ =>
          Proc.when (user.username.any ctx.isClusterAdministrator = false)
            (sendTask ⟨.createHomeDirectory username, some username, none⟩) >>= fun _ =>
          pure (UserDao.convertFromDb username row))
        (fun _ t => t.userProjects = s.userProjects) fun _ _ => True := by
      refine Triple.bind (R := I) (hkeeps fun t ht => ?_) fun _ => ?_
      · rw [UserDao.run_createUser]
        rcases isEmpty username with _ | _
        · rcases t.users.getItem (sanitized username) with _ | _ <;> exact ht
        · exact ht
      · rw [hnone]
        exact Triple.bind (R := I) (Triple.pure fun _ h => h) fun _ =>
          Triple.bind (R := I) (hkeeps (Keeps.when fun _ => Keeps.modify fun _ h => h)) fun _ =>
            Triple.pure fun _ h => h
    exact hrest s rfl
  exact hcreate.of_ok rfl hrun

/-- **Deletion.** When `delete_user` returns, nothing of the user is left exactly when it found nothing but
groups of the user's own list to remove an enabled user from; and then a user created without groups has no
project. -/
theorem erased_iff (hrun : (deleteUser ctx username).run db = (.ok ⟨⟩, db')) :
    (Erased db' (sanitized username) ↔ LeavesNothing db username) ∧
      (Erased db' (sanitized username) → ∀ ctx' user emailVerified created db'', user.additionalGroups.getD [] = [] →
        (createUser ctx' user emailVerified).run db' = (.ok created, db'') →
        ∀ p, ¬ db''.userProjects.Has (sanitized username, p)) := by
  refine ⟨?_, fun herased ctx' user emailVerified created db'' hgroups hcreate p => ?_⟩
  · rcases returns_deleteUser hrun with ⟨hnone, rfl⟩ | ⟨user, huser, ⟨hskipped, rfl⟩ | ⟨-, henabled, left, h, rfl⟩⟩
    · rw [leavesNothing_of_not_cleaned]
      · constructor
        · intro h
          exact ⟨h.unlisted, h.member, h.access⟩
        · rintro ⟨hunlisted, hmember, haccess⟩
          exact ⟨hnone, hmember, haccess, hunlisted⟩
      · rintro g ⟨user, huser, -⟩
        rw [hnone] at huser
        cases huser
    · rw [erased_withoutUser_iff, leavesNothing_of_not_cleaned]
      rintro g ⟨user', huser', henabled, hg⟩
      rw [huser] at huser'
      cases huser'
      rcases hskipped with hempty | hdisabled
      · rw [hempty] at hg
        cases hg
      · rw [hdisabled] at henabled
        cases henabled
    · rw [erased_withoutUser_iff]
      exact h.leavesNothing_iff huser henabled
  · rw [userProjects_createUser hgroups hcreate]
    exact herased.access p

/-! ## A user of a project -/

/-- What the deletion of `bob` leaves, who is a user of the project `p1`. -/
def bobDeleted : Db := ((deleteUser noDirectory "bob").run bobsProject).2

theorem run_bobDeleted : (deleteUser noDirectory "bob").run bobsProject = (.ok ⟨⟩, bobDeleted) := rfl

theorem erased_iff_bob : (Erased bobDeleted (sanitized "bob") ↔ LeavesNothing bobsProject "bob") :=
  (erased_iff run_bobDeleted).1

/-- **Access that stays.** The user is deleted, and the project lists it and gives it access. -/
theorem deleted_user_keeps_project : (deleteUser noDirectory "bob").run bobsProject = (.ok ⟨⟩, bobDeleted) ∧
      bobDeleted.users.getItem "bob" = none ∧ bobDeleted.userProjects.getItem ("bob", "p1") = some ["SELF"] ∧
      "bob" ∈ usersOf bobDeleted.projects "p1" ∧ ¬ Erased bobDeleted "bob" := by
  have hrow : bobDeleted.userProjects.getItem ("bob", "p1") = some ["SELF"] := by decide
  exact ⟨run_bobDeleted, by decide, hrow, by decide, fun h => h.access "p1" (Table.Has.of_getItem hrow)⟩

end ContainRes.Projects
