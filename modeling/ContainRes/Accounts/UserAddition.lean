import ContainRes.Accounts.ServiceSpec
import ContainRes.Effects.Faults

/-! # New users of the directory

A synchronisation hands each user that the directory has and the users table has not to
`ADSyncService.handle_user_addition`, which calls `create_user` and goes on after any exception. The row is
written first; the groups and the task of the home directory follow, and nothing is undone.

* **`AdditionFaults`** — an outcome for each step of one user.
* **`createUserWith`** — `create_user` where steps may fail; without failures it is `create_user`,
  **`createUserWith_done`**.
* **`handleUserAdditions`** — a list of users, one after the other.
* **`HasJoined`** — what `add_users_to_group` gives a user: for an inactive one the entry among the additional
  groups, and the membership row only later, at activation.
* **`CompleteOrAbsent`**, **`completeOrAbsent_iff`** — a user is complete or has no row exactly when the checks or
  the row fail, or every step after the row succeeds. -/

namespace ContainRes.Accounts.UserAddition

open Effects Store Tasks Text

/-! ## The users of the directory -/

/-- An entry of `ldap_users_by_unique_identifier`. -/
structure LdapUser where
  samAccountName : Option String
  email : Option String
  uid : Option Nat
  gid : Option Nat
  loginShell : Option String
  homeDir : Option String
  /-- The set of the groups, in the order in which it is iterated. -/
  additionalGroups : List String

/-- An outcome for each step of one user. -/
structure AdditionFaults where
  /-- The write of the row. -/
  createUser : Outcome
  /-- `add_users_to_group` for a group. -/
  addToGroup : String → Outcome
  /-- The message of the home directory. -/
  sendTask : Outcome

/-- A user to add, the password generated for it, and what becomes of the steps. -/
structure Addition where
  user : LdapUser
  password : String
  faults : AdditionFaults

/-- The key of the user's row. -/
def Addition.username (a : Addition) : String := sanitized (a.user.samAccountName.getD "")

/-- The exception of a step that fails. -/
def stepFailed : Exc := .other .clientError "the request failed"

/-- The message of the home directory of a user. -/
def homeDirectoryTask (username : String) : TaskMessage :=
  ⟨.createHomeDirectory username, some username, none⟩

variable (ctx : AccountsContext)

/-- The loop of `create_user` over the groups of the new user. -/
def joinGroups (faults : AdditionFaults) (username : String) (groups : List String) : DbProc PUnit :=
  Proc.forEach (fun additionalGroup => Proc.attempt (faults.addToGroup additionalGroup) stepFailed
    (addUsersToGroup ctx [username] additionalGroup false)) groups

/-- `create_user(user, email_verified)` from the row on. -/
def writeUser (faults : AdditionFaults) (isBootstrapUser : Bool) (username : String) (createdUser : UserRow) :
    DbProc PUnit := do
  Proc.attempt faults.createUser stepFailed (UserDao.createUser username createdUser)
  joinGroups ctx faults username createdUser.additionalGroups
  Proc.when (isBootstrapUser = false)
    (Proc.attempt faults.sendTask stepFailed (sendTask (homeDirectoryTask username)))

/-- `create_user(user, email_verified)` where steps may fail. -/
def createUserWith (faults : AdditionFaults) (user : User) (emailVerified : Bool) : DbProc User := do
  let (username, createdUser) ← newUser ctx user emailVerified
  writeUser ctx faults (user.username.any ctx.isClusterAdministrator) username createdUser
  return UserDao.convertFromDb username createdUser

theorem createUserWith_done (user : User) (emailVerified : Bool) :
    createUserWith ctx ⟨.done, fun _ => .done, .done⟩ user emailVerified = createUser ctx user emailVerified := by
  unfold createUserWith createUser writeUser joinGroups
  simp only [Proc.attempt_done, Proc.bind_assoc]
  rfl

variable (adminGroup : String)

/-- The user that `handle_user_addition` asks for. -/
def requestedUser (a : Addition) : User :=
  let isAdmin := decide (adminGroup ∈ a.user.additionalGroups)
  { username := a.user.samAccountName, password := some a.password, email := a.user.email, uid := a.user.uid,
    gid := a.user.gid, loginShell := a.user.loginShell, homeDir := a.user.homeDir,
    additionalGroups := some a.user.additionalGroups, isSudo := some isAdmin, isActive := some false,
    role := some (if isAdmin then adminRole else userRole) }

def handleUserAddition (a : Addition) : DbProc PUnit :=
  logException (do
    let _ ← createUserWith ctx a.faults (requestedUser adminGroup a) true
    pure ⟨⟩)

/-- The new users of a synchronisation, one after the other. -/
def handleUserAdditions (additions : List Addition) : DbProc PUnit :=
  Proc.forEach (handleUserAddition ctx adminGroup) additions

/-! ## What the checks depend on -/

variable {a : Addition} {username : String}

/-- The name that is given is the one of the entry. -/
theorem username_of_sanitizeUsername
    (h : sanitizeUsername a.user.samAccountName = .ok username) : a.username = username := by
  unfold Addition.username
  rcases hsam : a.user.samAccountName with _ | sam
  · rw [hsam] at h
    cases h
  · rw [hsam] at h
    rcases hempty : isEmpty sam with _ | _
    · rw [sanitizeUsername_of_not_isEmpty hempty] at h
      exact Except.ok.inj h
    · rw [sanitizeUsername_of_isEmpty hempty] at h
      cases h

/-- A name that was sanitized stays as it is. -/
theorem sanitized_of_sanitizeUsername {name : Option String}
    (h : sanitizeUsername name = .ok username) : sanitized username = username := by
  rcases name with _ | name
  · cases h
  · rcases hempty : isEmpty name with _ | _
    · rw [sanitizeUsername_of_not_isEmpty hempty, Except.ok.injEq] at h
      rw [← h, sanitized_idem]
    · rw [sanitizeUsername_of_isEmpty hempty] at h
      cases h

theorem reads_newUser (user : User) (emailVerified : Bool) : Reads (newUser ctx user emailVerified) :=
  fun db => Triple.state (I := fun s => s = db)
    ((triple_newUser user emailVerified db).conseq (fun _ h => h) (fun _ _ h => h.1) fun _ _ h => h) rfl

/-- The name that the checks give is the one that was asked for, sanitized. -/
theorem triple_newUser_name (user : User) (emailVerified : Bool) :
    Triple (fun _ : Db => True) (newUser ctx user emailVerified)
      (fun r _ => sanitizeUsername user.username = .ok r.1) (fun _ _ => True) := by
  unfold newUser
  refine Triple.bind (R := fun username _ => sanitizeUsername user.username = .ok username)
    (Triple.liftExcept (fun _ h _ _ => h) fun _ _ _ _ => trivial) fun username => ?_
  have herr : ∀ (e : Exc) (s : Db), sanitizeUsername user.username = .ok username → True :=
    fun _ _ _ => trivial
  refine Triple.bind_reads (reads_requireNotEmpty _ _) herr fun _ => ?_
  refine Triple.bind_reads (Reads.whenRaise _) herr fun _ => ?_
  -- what is reserved does not matter
  generalize checkAllowedUsername username = allowed
  refine Triple.bind_reads (Reads.liftExcept _) herr fun _ => ?_
  refine Triple.bind_reads (Reads.liftExcept _) herr fun _ => ?_
  refine Triple.bind_reads (Reads.whenRaise _) herr fun _ => ?_
  refine Triple.bind_reads (reads_getUser _) herr fun existing => ?_
  cases existing with
  | none =>
    refine Triple.bind_reads (Reads.liftExcept _) herr fun _ => ?_
    refine Triple.bind_reads (Reads.whenRaise _) herr fun _ => ?_
    refine Triple.bind_reads (Reads.when fun _ => Reads.liftExcept _) herr fun _ => ?_
    exact Triple.pure fun _ h => h
  | some row => exact Triple.raise fun _ _ => trivial

/-- The checks of `create_user` pass. -/
def PassesChecks (a : Addition) (db : Db) : Prop :=
  ∃ r, ((newUser ctx (requestedUser adminGroup a) true).run db).1 = .ok r

/-- The checks depend on the database only through the row of the user. -/
theorem result_newUser_congr {user : User} {emailVerified : Bool} {s s' : Db}
    (h : ∀ username, sanitizeUsername user.username = .ok username →
      s.users.getItem username = s'.users.getItem username) :
    ((newUser ctx user emailVerified).run s).1 = ((newUser ctx user emailVerified).run s').1 := by
  have hlift : ∀ {α : Type} (r : Except Exc α),
      ((Proc.liftExcept r : DbProc α).run s).1 = ((Proc.liftExcept r : DbProc α).run s').1 := by
    intro α r
    rw [Proc.run_liftExcept, Proc.run_liftExcept]
  have hwhen : ∀ (b : Prop) [Decidable b] (c : DbProc PUnit), (c.run s).1 = (c.run s').1 →
      ((Proc.when b c).run s).1 = ((Proc.when b c).run s').1 := by
    intro b _ c hc
    rw [Proc.run_when, Proc.run_when]
    split
    · exact hc
    · rfl
  have hempty : ∀ value message : String,
      ((requireNotEmpty value message).run s).1 = ((requireNotEmpty value message).run s').1 := by
    intro value message
    rw [run_requireNotEmpty, run_requireNotEmpty]
    split <;> rfl
  unfold newUser
  refine Reads.result_bind (Reads.liftExcept _) (hlift _) fun username husername => ?_
  rw [Proc.run_liftExcept] at husername
  refine Reads.result_bind (reads_requireNotEmpty _ _) (hempty _ _) fun _ _ => ?_
  refine Reads.result_bind (Reads.whenRaise _) (hwhen _ _ rfl) fun _ _ => ?_
  -- what is reserved does not matter
  generalize checkAllowedUsername username = allowed
  refine Reads.result_bind (Reads.liftExcept _) (hlift _) fun _ _ => ?_
  refine Reads.result_bind (Reads.liftExcept _) (hlift _) fun _ _ => ?_
  refine Reads.result_bind (Reads.whenRaise _) (hwhen _ _ rfl) fun _ _ => ?_
  refine Reads.result_bind (reads_getUser _) ?_ fun existing _ => ?_
  · -- the name is sanitized already, so the row that is read is the one under it
    rw [UserDao.run_getUser, UserDao.run_getUser]
    split
    · rfl
    · show Except.ok (s.users.getItem (sanitized username)) = .ok (s'.users.getItem (sanitized username))
      rw [sanitized_of_sanitizeUsername husername, h username husername]
  cases existing with
  | none =>
    refine Reads.result_bind (Reads.liftExcept _) (hlift _) fun _ _ => ?_
    refine Reads.result_bind (Reads.whenRaise _) (hwhen _ _ rfl) fun _ _ => ?_
    exact Reads.result_bind (Reads.when fun _ => Reads.liftExcept _) (hwhen _ _ (hlift _)) fun _ _ => rfl
  | some row => rfl

/-! ## The sources of the new member -/

theorem okIff_requireNotEmpty (I : Db → Prop) (value message : String) :
    OkIff I (requireNotEmpty value message) (isEmpty value = false) := by
  refine ⟨Keeps.of_reads (reads_requireNotEmpty _ _), fun s _ => ?_⟩
  rcases hempty : isEmpty value with _ | _
  · simp [hempty]
  · simp [hempty]

/-- `create_user_project` changes the sources only, and refuses a blank project. -/
theorem okIff_createUserProject (db : Db) (hu : isEmpty username = false) (projectId : String) (byLdaps : List String) :
    OkIff (fun s => ∃ sources, s = { db with userProjects := sources })
      (UserProjectsDao.createUserProject projectId username byLdaps) (isEmpty projectId = false) := by
  unfold UserProjectsDao.createUserProject
  refine (OkIff.bind (okIff_requireNotEmpty _ _ _) fun _ _ =>
    OkIff.bind (okIff_requireNotEmpty _ _ _) fun _ _ => OkIff.modify ?_).congr ?_
  · rintro s ⟨sources, rfl⟩
    exact ⟨_, rfl⟩
  · simp [hu]

/-- `group_member_added` changes the sources only, and returns when no project of the group is blank. -/
theorem run_groupMemberAdded_cases {groupName username : String} (hg : isEmpty groupName = false)
    (hu : isEmpty username = false) (db : Db) :
    ∃ r sources, (UserProjectsDao.groupMemberAdded groupName username).run db =
        (r, { db with userProjects := sources }) ∧
      ((∃ u, r = .ok u) ↔ ∀ p, db.IsMapped groupName p → isEmpty p = false) := by
  have hloop : OkIff _ (Proc.forEach (fun projectId => UserProjectsDao.createUserProject projectId username [groupName])
        (UserProjectsDao.projectIds db groupName)) _ :=
    OkIff.forEach fun projectId _ => okIff_createUserProject db hu projectId [groupName]
  rw [UserProjectsDao.run_groupMemberAdded hg hu]
  rcases hrun : (Proc.forEach (fun projectId => UserProjectsDao.createUserProject projectId username [groupName])
    (UserProjectsDao.projectIds db groupName)).run db with ⟨r, t⟩
  have hkeep := hloop.1.run ⟨db.userProjects, rfl⟩
  have hok := hloop.2 db ⟨db.userProjects, rfl⟩
  rw [hrun] at hkeep hok
  obtain ⟨sources, rfl⟩ := hkeep
  refine ⟨r, sources, rfl, ?_⟩
  simp only [UserProjectsDao.mem_projectIds] at hok
  rw [← hok]
  constructor
  · rintro ⟨u, rfl⟩
    exact ⟨u, _, rfl⟩
  · rintro ⟨u, t, h⟩
    exact ⟨u, (Prod.ext_iff.mp h).1⟩

/-! ## Joining the groups -/

/-- `add_users_to_group` takes a new user into the group: it is named and enabled, and in test mode, in which
memberships are made at once, no project of it is blank. -/
structure CanBeJoined (db : Db) (groupName : String) : Prop where
  named : isEmpty groupName = false
  enabled : db.IsEnabledGroup groupName
  projects : ctx.isTestMode = true → ∀ p, db.IsMapped groupName p → isEmpty p = false

/-- The row of the user is written, and everything else of the user's is as it was, up to memberships in test
mode. -/
structure Underway (db : Db) (username : String) (row : UserRow) (s : Db) : Prop where
  row : s.users.getItem username = some row
  users : ∀ m, m ≠ username → s.users.getItem m = db.users.getItem m
  groups : s.groups = db.groups
  projectGroups : s.projectGroups = db.projectGroups
  sent : s.sent = db.sent
  members : ∀ g m, m ≠ username ∨ ctx.isTestMode = false → (s.IsMember g m ↔ db.IsMember g m)

/-- The row of a user that can join its groups: enabled, not active, under a sanitized name. -/
structure IsJoining (username : String) (row : UserRow) : Prop where
  name : sanitized username = username
  named : isEmpty username = false
  enabled : row.enabled = true
  inactive : row.isActive = false

variable {ctx} {db s : Db} {username : String} {row : UserRow} {groupName : String}

/-- What `add_users_to_group` can do with the new user and one of its groups. -/
theorem run_addToGroup_cases (hrow : IsJoining username row) (hs : Underway ctx db username row s)
    (hgroup : groupName ∈ row.additionalGroups) :
    (∃ e, (addUsersToGroup ctx [username] groupName false).run s = (.error e, s) ∧ ¬ CanBeJoined ctx db groupName) ∨
      (ctx.isTestMode = false ∧ CanBeJoined ctx db groupName ∧
        (addUsersToGroup ctx [username] groupName false).run s = (.ok ⟨⟩, s)) ∨ ctx.isTestMode = true ∧ ∃ r sources,
        (addUsersToGroup ctx [username] groupName false).run s =
          (r, { s.join groupName username with userProjects := sources }) ∧
        ((∃ u, r = .ok u) ↔ CanBeJoined ctx db groupName) := by
  have hempty : ¬ ([username] : List String) = [] := List.cons_ne_nil _ _
  unfold addUsersToGroup
  rw [Proc.run_bind_of_ok (Proc.run_when_neg hempty s)]
  rcases hnamed : isEmpty groupName with _ | _
  swap
  · refine .inl ⟨_, Proc.run_bind_of_error (run_requireNotEmpty_of_isEmpty hnamed _ s), fun h => ?_⟩
    exact absurd (hnamed.symm.trans h.named) (by decide)
  rw [Proc.run_bind_of_ok (run_requireNotEmpty_of_not_isEmpty hnamed _ s)]
  have hget : (GroupDao.getGroup groupName).run s = (.ok (db.groups.getItem groupName), s) := by
    rw [GroupDao.run_getGroup, hnamed, hs.groups]
    rfl
  rw [Proc.run_bind_of_ok hget]
  rcases hfound : db.groups.getItem groupName with _ | group
  · refine .inl ⟨_, rfl, fun h => ?_⟩
    obtain ⟨group, hgroup', -⟩ := h.enabled
    exact absurd (hfound.symm.trans hgroup') (by simp)
  rcases henabled : group.enabled with _ | _
  · refine .inl ⟨.soca .authGroupIsDisabled "cannot add users to a disabled user group", ?_, fun h => ?_⟩
    · simp only [henabled, if_true]
      rfl
    · obtain ⟨group', hgroup', henabled'⟩ := h.enabled
      rw [hfound, Option.some.injEq] at hgroup'
      rw [← hgroup', henabled] at henabled'
      exact absurd henabled' (by decide)
  have hgroupEnabled : db.IsEnabledGroup groupName := ⟨group, hfound, henabled⟩
  -- the row lists the group already, so that it is not updated
  have hupdated : s.addAdditionalGroup username row groupName = s := if_pos hgroup
  have hone : (addUserToGroup ctx groupName false username).run s = _ := run_addUserToGroup hnamed s username
  simp only [hrow.named, hrow.name, hs.row, hrow.enabled, hrow.inactive, hupdated, Bool.false_or,
    Bool.false_eq_true, if_false, Bool.true_eq_false] at hone
  have hloop : ∀ r t, (addUserToGroup ctx groupName false username).run s = (r, t) →
      (Proc.forEach (addUserToGroup ctx groupName false) [username]).run s = (r, t) := by
    intro r t h
    rw [Proc.forEach_cons]
    cases r with
    | error e => exact Proc.run_bind_of_error h
    | ok u => exact Proc.run_bind_of_ok h
  simp only [henabled, Bool.true_eq_false, if_false]
  rcases htest : ctx.isTestMode with _ | _
  · rw [htest] at hone
    refine .inr (.inl ⟨rfl, ⟨hnamed, hgroupEnabled, fun h => absurd (htest.symm.trans h) (by decide)⟩, ?_⟩)
    exact hloop _ _ hone
  · rw [htest, if_pos rfl] at hone
    obtain ⟨r, sources, hrun, hok⟩ := run_groupMemberAdded_cases hnamed hrow.named (s.join groupName username)
    refine .inr (.inr ⟨rfl, r, sources, hloop _ _ (hone.trans hrun), hok.trans ?_⟩)
    have hmapped : ∀ p, (s.join groupName username).IsMapped groupName p ↔ db.IsMapped groupName p := by
      intro p
      show s.projectGroups.Has (groupName, p) ↔ db.projectGroups.Has (groupName, p)
      rw [hs.projectGroups]
    constructor
    · intro h
      exact ⟨hnamed, hgroupEnabled, fun _ p hp => h p ((hmapped p).mpr hp)⟩
    · intro h p hp
      exact h.projects htest p ((hmapped p).mp hp)

/-- A membership of the user in test mode, and new sources, leave the user underway. -/
theorem Underway.join (hs : Underway ctx db username row s) (htest : ctx.isTestMode = true) (groupName : String)
    (sources : Table (String × String) (List String)) :
    Underway ctx db username row { s.join groupName username with userProjects := sources } where
  row := hs.row
  users := hs.users
  groups := hs.groups
  projectGroups := hs.projectGroups
  sent := hs.sent
  members := by
    intro g m h
    have hother : m ≠ username := h.resolve_right (by rw [htest]; decide)
    show (s.join groupName username).IsMember g m ↔ db.IsMember g m
    rw [Db.isMember_join, hs.members g m h]
    simp [hother]

/-- Joining one group: it returns when the group can be joined, and leaves the user underway. -/
theorem okIff_addToGroup (hrow : IsJoining username row) (hgroup : groupName ∈ row.additionalGroups) :
    OkIff (Underway ctx db username row) (addUsersToGroup ctx [username] groupName false)
      (CanBeJoined ctx db groupName) := by
  constructor
  · refine Keeps.of_state fun s hs => ?_
    rcases run_addToGroup_cases hrow hs hgroup with ⟨e, hrun, -⟩ | ⟨-, -, hrun⟩ | ⟨htest, r, sources, hrun, -⟩
    · rw [hrun]
      exact hs
    · rw [hrun]
      exact hs
    · rw [hrun]
      exact hs.join htest groupName sources
  · intro s hs
    rcases run_addToGroup_cases hrow hs hgroup with ⟨e, hrun, hnot⟩ | ⟨-, hcan, hrun⟩ | ⟨-, r, sources, hrun, hok⟩
    · rw [hrun]
      simp [hnot]
    · rw [hrun]
      simp [hcan]
    · rw [hrun, ← hok]
      simp

/-- In test mode the user is in the groups that it has joined. -/
theorem triple_addToGroup (hrow : IsJoining username row)
    (hgroup : groupName ∈ row.additionalGroups) (joined : List String) :
    Triple (fun s => Underway ctx db username row s ∧ (ctx.isTestMode = true → ∀ g ∈ joined, s.IsMember g username))
      (addUsersToGroup ctx [username] groupName false) (fun _ s => Underway ctx db username row s ∧
        (ctx.isTestMode = true → ∀ g ∈ joined ++ [groupName], s.IsMember g username))
      (fun _ => Underway ctx db username row) := by
  rintro s ⟨hs, hjoined⟩
  rcases run_addToGroup_cases hrow hs hgroup with ⟨e, hrun, -⟩ | ⟨htest, -, hrun⟩ | ⟨htest, r, sources, hrun, -⟩
  · rw [hrun]
    exact hs
  · rw [hrun]
    exact ⟨hs, fun h => absurd (htest.symm.trans h) (by decide)⟩
  · rw [hrun]
    cases r with
    | error e => exact hs.join htest groupName sources
    | ok u =>
      refine ⟨hs.join htest groupName sources, fun _ g hg => ?_⟩
      show (s.join groupName username).IsMember g username
      rw [Db.isMember_join]
      rcases List.mem_append.mp hg with hbefore | hnow
      · exact .inr (hjoined htest g hbefore)
      · exact .inl ⟨List.mem_singleton.mp hnow, rfl⟩

/-- The loop returns when no step fails and each group can be joined. -/
theorem okIff_joinGroups (hrow : IsJoining username row) (faults : AdditionFaults) :
    OkIff (Underway ctx db username row) (joinGroups ctx faults username row.additionalGroups)
      (∀ g ∈ row.additionalGroups, faults.addToGroup g = .done ∧ CanBeJoined ctx db g) :=
  OkIff.forEach fun g hg => OkIff.attempt (okIff_addToGroup hrow hg) (faults.addToGroup g) stepFailed

variable {t : Db}

/-- In test mode the user is in all its groups after the loop. -/
theorem member_of_joinGroups (hrow : IsJoining username row) (faults : AdditionFaults) {u : PUnit}
    (hs : Underway ctx db username row s)
    (hrun : (joinGroups ctx faults username row.additionalGroups).run s = (.ok u, t))
    (htest : ctx.isTestMode = true) : ∀ g ∈ row.additionalGroups, t.IsMember g username := by
  have hloop : Triple
      (fun s => Underway ctx db username row s ∧
        (ctx.isTestMode = true → ∀ g ∈ ([] : List String), s.IsMember g username))
      (joinGroups ctx faults username row.additionalGroups)
      (fun _ s => Underway ctx db username row s ∧
        (ctx.isTestMode = true → ∀ g ∈ row.additionalGroups, s.IsMember g username))
      (fun _ => Underway ctx db username row) := by
    refine Triple.forEach_done (fun joined s => Underway ctx db username row s ∧
      (ctx.isTestMode = true → ∀ g ∈ joined, s.IsMember g username)) fun joined g rest hgroups => ?_
    have hg : g ∈ row.additionalGroups := by
      rw [hgroups]
      exact List.mem_append_right joined List.mem_cons_self
    cases faults.addToGroup g with
    | done => exact triple_addToGroup hrow hg joined
    | failed => exact Triple.raise fun _ h => h.1
    | lost => exact Triple.bind (triple_addToGroup hrow hg joined) fun _ => Triple.raise fun _ h => h.1
  exact (hloop.of_ok ⟨hs, fun _ g hg => absurd hg List.not_mem_nil⟩ hrun).2 htest

/-! ## One user -/

/-- Every step after the row succeeds: no step fails, each group can be joined, and the user is not the
administrator, for whom no home directory is made. -/
structure RunsThrough (ctx : AccountsContext) (a : Addition) (db : Db) : Prop where
  row : a.faults.createUser = .done
  groups : ∀ g ∈ a.user.additionalGroups, a.faults.addToGroup g = .done ∧ CanBeJoined ctx db g
  notBootstrap : a.user.samAccountName.any ctx.isClusterAdministrator = false
  task : a.faults.sendTask ≠ .failed

/-- The steps after the checks, from a state without the user's row. -/
theorem state_writeUser (a : Addition) (hrow : IsJoining username row)
    (hgroups : row.additionalGroups = a.user.additionalGroups) (habsent : db.users.getItem username = none)
    (ht : ((writeUser ctx a.faults (a.user.samAccountName.any ctx.isClusterAdministrator) username row).run db).2 = t) :
    (a.faults.createUser = .failed ∧ t = db) ∨ a.faults.createUser ≠ .failed ∧
      ((¬ RunsThrough ctx a db ∧ Underway ctx db username row t) ∨
        RunsThrough ctx a db ∧ ∃ u, Underway ctx db username row u ∧
          (ctx.isTestMode = true → ∀ g ∈ row.additionalGroups, u.IsMember g username) ∧
          t = { u with sent := u.sent ++ [homeDirectoryTask username] }) := by
  have hwritten : (UserDao.createUser username row).run db =
      (.ok ⟨⟩, { db with users := db.users.putItem username row }) := by
    rw [UserDao.run_createUser, hrow.named, hrow.name, habsent]
    rfl
  have hunderway : Underway ctx db username row { db with users := db.users.putItem username row } :=
    { row := Table.getItem_putItem_self _ _ _
      users := fun m hm => Table.getItem_putItem_of_ne _ _ hm
      groups := rfl, projectGroups := rfl, sent := rfl, members := fun _ _ _ => Iff.rfl }
  unfold writeUser at ht
  rcases hcreate : a.faults.createUser with _ | _ | _
  · refine .inr ⟨by decide, ?_⟩
    rw [hcreate, Proc.attempt_done, Proc.run_bind_of_ok hwritten] at ht
    have hloop : OkIff (Underway ctx db username row) (joinGroups ctx a.faults username row.additionalGroups) _ :=
      okIff_joinGroups hrow a.faults
    rcases hrun : (joinGroups ctx a.faults username row.additionalGroups).run
      { db with users := db.users.putItem username row } with ⟨e | u, s⟩
    · -- a group stopped the loop
      rw [Proc.run_bind_of_error hrun] at ht
      have hkeep := hloop.1.run hunderway
      have hok := hloop.2 _ hunderway
      rw [hrun] at hkeep hok
      refine .inl ⟨fun h => ?_, ht ▸ hkeep⟩
      obtain ⟨u, s', hreturns⟩ := hok.mpr fun g hg => h.groups g (hgroups ▸ hg)
      cases hreturns
    · have hkeep : Underway ctx db username row s := by simpa [hrun] using hloop.1.run hunderway
      have hjoined := (hloop.2 _ hunderway).mp ⟨u, s, hrun⟩
      have hmember := member_of_joinGroups hrow a.faults hunderway hrun
      rw [Proc.run_bind_of_ok hrun] at ht
      by_cases hboot : a.user.samAccountName.any ctx.isClusterAdministrator = false
      · rw [Proc.run_when_pos hboot] at ht
        have hthrough : a.faults.sendTask ≠ .failed → RunsThrough ctx a db := fun hsend =>
          { row := hcreate, groups := fun g hg => hjoined g (hgroups ▸ hg), notBootstrap := hboot, task := hsend }
        rcases hsend : a.faults.sendTask with _ | _ | _ <;> rw [hsend] at ht
        · exact .inr ⟨hthrough (by rw [hsend]; decide), s, hkeep, hmember, ht.symm⟩
        · exact .inl ⟨fun h => h.task hsend, ht ▸ hkeep⟩
        · exact .inr ⟨hthrough (by rw [hsend]; decide), s, hkeep, hmember, ht.symm⟩
      · rw [Proc.run_when_neg hboot] at ht
        exact .inl ⟨fun h => hboot h.notBootstrap, ht ▸ hkeep⟩
  · refine .inl ⟨rfl, ?_⟩
    rw [hcreate, Proc.run_bind_of_error (Proc.run_attempt_failed _ _ _)] at ht
    exact ht.symm
  · -- the row is written, and the call raises
    refine .inr ⟨by decide, .inl ⟨fun h => ?_, ?_⟩⟩
    · exact absurd (hcreate.symm.trans h.row) (by decide)
    · rw [hcreate, Proc.run_bind_of_error (Proc.run_attempt_lost hwritten)] at ht
      exact ht ▸ hunderway

/-- Going on after an exception does not change the state that it leaves. -/
theorem state_logException (c : DbProc PUnit) (db : Db) : ((logException c).run db).2 = (c.run db).2 := by
  unfold logException
  rw [Proc.run_tryCatch]
  rcases c.run db with ⟨e | u, t⟩ <;> rfl

variable {adminGroup : String}

/-- What `handle_user_addition` can do with a user that has no row. -/
theorem state_handleUserAddition (hnew : ¬ db.users.Has a.username)
    (ht : ((handleUserAddition ctx adminGroup a).run db).2 = t) :
    ((¬ PassesChecks ctx adminGroup a db ∨ a.faults.createUser = .failed) ∧ t = db) ∨
      PassesChecks ctx adminGroup a db ∧ a.faults.createUser ≠ .failed ∧
        ∃ row, IsJoining a.username row ∧ row.additionalGroups = a.user.additionalGroups ∧
          ((¬ RunsThrough ctx a db ∧ Underway ctx db a.username row t) ∨
            RunsThrough ctx a db ∧ ∃ u, Underway ctx db a.username row u ∧
              (ctx.isTestMode = true → ∀ g ∈ row.additionalGroups, u.IsMember g a.username) ∧
              t = { u with sent := u.sent ++ [homeDirectoryTask a.username] }) := by
  have hreads := reads_newUser ctx (requestedUser adminGroup a) true
  unfold handleUserAddition createUserWith at ht
  rw [state_logException, Proc.state_bind_of_reads fun _ => Reads.pure _] at ht
  rcases hchecks : (newUser ctx (requestedUser adminGroup a) true).run db with ⟨e | ⟨name, row⟩, s⟩
  · obtain rfl := hreads.eq_of_run hchecks
    rw [Proc.run_bind_of_error hchecks] at ht
    refine .inl ⟨.inl ?_, ht.symm⟩
    rintro ⟨r, hr⟩
    rw [hchecks] at hr
    cases hr
  · obtain rfl := hreads.eq_of_run hchecks
    have hpasses : PassesChecks ctx adminGroup a s := ⟨(name, row), by rw [hchecks]⟩
    have hname : a.username = name :=
      username_of_sanitizeUsername ((triple_newUser_name ctx (requestedUser adminGroup a) true).of_ok trivial hchecks)
    obtain ⟨-, hfresh⟩ := (triple_newUser (requestedUser adminGroup a) true s).of_ok rfl hchecks
    have hjoining : IsJoining a.username row :=
      { name := hname ▸ hfresh.name.1, named := hname ▸ hfresh.name.2, enabled := hfresh.enabled
        inactive := hfresh.isActive }
    rw [Proc.run_bind_of_ok hchecks, Proc.state_bind_of_reads fun _ => Reads.pure _] at ht
    rcases state_writeUser a hjoining hfresh.additionalGroups (Table.not_has_iff.mp hnew) (hname ▸ ht)
      with ⟨hfailed, hsame⟩ | ⟨hwritten, hcases⟩
    · exact .inl ⟨.inr hfailed, hsame⟩
    · exact .inr ⟨hpasses, hwritten, row, hjoining, hfresh.additionalGroups, hcases⟩

/-! ## Complete or absent -/

/-- The user has a row, is a `Member` of each of its groups that exists and is enabled, and its message of the
home directory was sent since `db`. -/
structure IsComplete (Member : Db → String → String → Prop) (db t : Db) (a : Addition) : Prop where
  row : t.users.Has a.username
  members : ∀ g ∈ a.user.additionalGroups, t.IsEnabledGroup g → Member t g a.username
  task : ∃ new, t.sent = db.sent ++ new ∧ homeDirectoryTask a.username ∈ new

/-- The user is complete or has no row. -/
def CompleteOrAbsent (Member : Db → String → String → Prop) (db t : Db) (a : Addition) : Prop :=
  ¬ t.users.Has a.username ∨ IsComplete Member db t a

/-- What `add_users_to_group` gives a user: the entry among the additional groups, and the membership row if the
user is active or in test mode; an inactive user gets it at activation. -/
def HasJoined (ctx : AccountsContext) (t : Db) (groupName username : String) : Prop :=
  ∃ row, t.users.getItem username = some row ∧ groupName ∈ row.additionalGroups ∧
    (row.isActive = true ∨ ctx.isTestMode = true → t.IsMember groupName username)

/-- The condition: the checks or the row fail, or every step after the row succeeds. -/
def Settles (ctx : AccountsContext) (adminGroup : String) (a : Addition) (db : Db) : Prop :=
  ¬ PassesChecks ctx adminGroup a db ∨ a.faults.createUser = .failed ∨ RunsThrough ctx a db

/-- The membership rows are there at once: memberships are made in test mode, or were left from before. -/
def MembersAtOnce (ctx : AccountsContext) (a : Addition) (db : Db) : Prop :=
  ctx.isTestMode = true ∨ ∀ g ∈ a.user.additionalGroups, db.IsMember g a.username

/-- The condition for the membership rows. -/
def SettlesAtOnce (ctx : AccountsContext) (adminGroup : String) (a : Addition) (db : Db) : Prop :=
  ¬ PassesChecks ctx adminGroup a db ∨ a.faults.createUser = .failed ∨
    RunsThrough ctx a db ∧ MembersAtOnce ctx a db

/-- A user with a row for whom no message was sent is neither. -/
theorem not_completeOrAbsent {Member : Db → String → String → Prop}
    (hs : Underway ctx db a.username row t) : ¬ CompleteOrAbsent Member db t a := by
  rintro (habsent | hcomplete)
  · exact habsent (.of_getItem hs.row)
  · obtain ⟨new, hsent, hmem⟩ := hcomplete.task
    rw [hs.sent] at hsent
    obtain rfl : new = [] := List.self_eq_append_right.mp hsent
    exact absurd hmem List.not_mem_nil

/-- **One user.** It is complete or absent exactly under the condition. -/
theorem completeOrAbsent_handleUserAddition
    (hnew : ¬ db.users.Has a.username) (ht : ((handleUserAddition ctx adminGroup a).run db).2 = t) :
    (CompleteOrAbsent (HasJoined ctx) db t a ↔ Settles ctx adminGroup a db) ∧
      (CompleteOrAbsent Db.IsMember db t a ↔ SettlesAtOnce ctx adminGroup a db) := by
  rcases state_handleUserAddition hnew ht with ⟨hstopped, rfl⟩ | ⟨hpasses, hwritten, row, hrow, hgroups, hcases⟩
  · have hsettles : Settles ctx adminGroup a t := hstopped.imp_right .inl
    have hatOnce : SettlesAtOnce ctx adminGroup a t := hstopped.imp_right .inl
    exact ⟨⟨fun _ => hsettles, fun _ => .inl hnew⟩, ⟨fun _ => hatOnce, fun _ => .inl hnew⟩⟩
  · have hrest : ∀ P : Prop, (¬ PassesChecks ctx adminGroup a db ∨ a.faults.createUser = .failed ∨ P) ↔ P := by
      intro P
      simp [hpasses, hwritten]
    unfold Settles SettlesAtOnce
    rw [hrest, hrest]
    rcases hcases with ⟨hnot, hs⟩ | ⟨hthrough, u, hs, hmember, rfl⟩
    · exact ⟨⟨fun h => absurd h (not_completeOrAbsent hs), fun h => absurd h hnot⟩,
        ⟨fun h => absurd h (not_completeOrAbsent hs), fun h => absurd h.1 hnot⟩⟩
    · have hrowThere : ({ u with sent := u.sent ++ [homeDirectoryTask a.username] } : Db).users.Has a.username :=
        .of_getItem hs.row
      have hsent : ∃ new, u.sent ++ [homeDirectoryTask a.username] = db.sent ++ new ∧
          homeDirectoryTask a.username ∈ new :=
        ⟨[homeDirectoryTask a.username], by rw [hs.sent], List.mem_singleton.mpr rfl⟩
      refine ⟨⟨fun _ => hthrough, fun _ => .inr ⟨hrowThere, fun g hg _ => ?_, hsent⟩⟩, ?_, ?_⟩
      · refine ⟨row, hs.row, hgroups ▸ hg, ?_⟩
        rintro (hactive | htest)
        · exact absurd (hrow.inactive.symm.trans hactive) (by decide)
        · exact hmember htest g (hgroups ▸ hg)
      · intro h
        refine ⟨hthrough, ?_⟩
        rcases htest : ctx.isTestMode with _ | _
        · refine .inr fun g hg => ?_
          have hcomplete := h.resolve_left (not_not_intro hrowThere)
          have henabled : u.IsEnabledGroup g := by
            show ∃ group, u.groups.getItem g = some group ∧ group.enabled = true
            rw [hs.groups]
            exact (hthrough.groups g hg).2.enabled
          exact (hs.members g a.username (.inr htest)).mp (hcomplete.members g hg henabled)
        · exact .inl htest
      · rintro ⟨-, hatOnce⟩
        refine .inr ⟨hrowThere, fun g hg _ => ?_, hsent⟩
        rcases htest : ctx.isTestMode with _ | _
        · have hbefore := hatOnce.resolve_left (by rw [htest]; decide) g hg
          exact (hs.members g a.username (.inr htest)).mpr hbefore
        · exact hmember htest g (hgroups ▸ hg)

/-! ## A list of users -/

/-- Nothing that concerns a user has changed. -/
structure Untouched (username : String) (db t : Db) : Prop where
  users : t.users.getItem username = db.users.getItem username
  groups : t.groups = db.groups
  projectGroups : t.projectGroups = db.projectGroups
  members : ∀ g, t.IsMember g username ↔ db.IsMember g username
  sent : ∃ new, t.sent = db.sent ++ new ∧ homeDirectoryTask username ∉ new

namespace Untouched

theorem refl (username : String) (db : Db) : Untouched username db db where
  users := rfl
  groups := rfl
  projectGroups := rfl
  members _ := Iff.rfl
  sent := ⟨[], (List.append_nil _).symm, List.not_mem_nil⟩

theorem trans {r t : Db} (h : Untouched username db r) (h' : Untouched username r t) : Untouched username db t where
  users := h'.users.trans h.users
  groups := h'.groups.trans h.groups
  projectGroups := h'.projectGroups.trans h.projectGroups
  members g := (h'.members g).trans (h.members g)
  sent := by
    obtain ⟨new, hnew, hno⟩ := h.sent
    obtain ⟨new', hnew', hno'⟩ := h'.sent
    refine ⟨new ++ new', by rw [hnew', hnew, List.append_assoc], ?_⟩
    simp [hno, hno']

theorem has_iff (h : Untouched username db t) : t.users.Has username ↔ db.users.Has username := by
  simp only [Table.Has, h.users]

/-- The addition of another user touches nothing of this one. -/
theorem handleUserAddition {adminGroup : String} {a : Addition} (hother : username ≠ a.username)
    (hnew : ¬ db.users.Has a.username) {t : Db} (ht : ((handleUserAddition ctx adminGroup a).run db).2 = t) :
    Untouched username db t := by
  have hunderway : ∀ {row : UserRow} {u : Db}, Underway ctx db a.username row u → Untouched username db u := by
    intro row u hu
    exact { users := hu.users username hother, groups := hu.groups, projectGroups := hu.projectGroups
            members := fun g => hu.members g username (.inl hother)
            sent := ⟨[], by rw [hu.sent, List.append_nil], List.not_mem_nil⟩ }
  rcases state_handleUserAddition hnew ht with ⟨-, rfl⟩ | ⟨-, -, row, -, -, ⟨-, hs⟩ | ⟨-, u, hs, -, rfl⟩⟩
  · exact refl username t
  · exact hunderway hs
  · have hu := hunderway hs
    refine { users := hu.users, groups := hu.groups, projectGroups := hu.projectGroups, members := hu.members
             sent := ⟨[homeDirectoryTask a.username], by rw [hs.sent], ?_⟩ }
    simp [homeDirectoryTask, hother]

/-- A list of other users touches nothing of this one. -/
theorem handleUserAdditions {adminGroup : String} {additions : List Addition}
    (hnodup : (additions.map Addition.username).Nodup) (hnew : ∀ a ∈ additions, ¬ db.users.Has a.username)
    (hother : username ∉ additions.map Addition.username) {r : Except Exc PUnit} {t : Db}
    (ht : (handleUserAdditions ctx adminGroup additions).run db = (r, t)) : Untouched username db t := by
  induction additions generalizing db with
  | nil =>
    cases ht
    exact refl username _
  | cons a rest ih =>
    rw [List.map_cons, List.nodup_cons] at hnodup
    rw [List.map_cons, List.mem_cons, not_or] at hother
    rcases hrun : (UserAddition.handleUserAddition ctx adminGroup a).run db with ⟨r', s⟩
    have hstate : ((UserAddition.handleUserAddition ctx adminGroup a).run db).2 = s := by rw [hrun]
    have hfirst : Untouched username db s := handleUserAddition hother.1 (hnew a List.mem_cons_self) hstate
    unfold UserAddition.handleUserAdditions at ht
    rw [Proc.forEach_cons] at ht
    cases r' with
    | error e =>
      rw [Proc.run_bind_of_error hrun, Prod.mk.injEq] at ht
      exact ht.2 ▸ hfirst
    | ok u =>
      rw [Proc.run_bind_of_ok hrun] at ht
      refine hfirst.trans (ih hnodup.2 (fun b hb => ?_) hother.2 ht)
      -- what the first one writes is not the row of a later one
      have hne : b.username ≠ a.username := by
        intro heq
        exact hnodup.1 (heq ▸ List.mem_map_of_mem hb)
      have hlater : Untouched b.username db s := handleUserAddition hne (hnew a List.mem_cons_self) hstate
      rw [hlater.has_iff]
      exact hnew b (List.mem_cons_of_mem a hb)

theorem isEnabledGroup_iff (h : Untouched username db t) (g : String) : t.IsEnabledGroup g ↔ db.IsEnabledGroup g := by
  simp only [Db.IsEnabledGroup, h.groups]

/-- The condition depends only on what concerns the user. -/
theorem canBeJoined_iff (h : Untouched username db t) (g : String) : CanBeJoined ctx t g ↔ CanBeJoined ctx db g := by
  have hmapped : ∀ p, t.IsMapped g p ↔ db.IsMapped g p := by
    intro p
    simp only [Db.IsMapped, h.projectGroups]
  constructor
  · intro hc
    exact ⟨hc.named, (h.isEnabledGroup_iff g).mp hc.enabled, fun ht p hp => hc.projects ht p ((hmapped p).mpr hp)⟩
  · intro hc
    exact ⟨hc.named, (h.isEnabledGroup_iff g).mpr hc.enabled, fun ht p hp => hc.projects ht p ((hmapped p).mp hp)⟩

variable {adminGroup : String} {a : Addition} {t : Db}

theorem passesChecks_iff (h : Untouched a.username db t) :
    PassesChecks ctx adminGroup a t ↔ PassesChecks ctx adminGroup a db := by
  unfold PassesChecks
  rw [result_newUser_congr ctx fun name hname => ?_]
  have hsam : sanitizeUsername a.user.samAccountName = .ok name := hname
  have hkey : a.username = name := username_of_sanitizeUsername hsam
  rw [← hkey]
  exact h.users

theorem runsThrough_iff (h : Untouched a.username db t) : RunsThrough ctx a t ↔ RunsThrough ctx a db := by
  constructor
  · intro hr
    exact ⟨hr.row, fun g hg => ⟨(hr.groups g hg).1, (h.canBeJoined_iff g).mp (hr.groups g hg).2⟩, hr.notBootstrap,
      hr.task⟩
  · intro hr
    exact ⟨hr.row, fun g hg => ⟨(hr.groups g hg).1, (h.canBeJoined_iff g).mpr (hr.groups g hg).2⟩, hr.notBootstrap,
      hr.task⟩

theorem settles_iff (h : Untouched a.username db t) : Settles ctx adminGroup a t ↔ Settles ctx adminGroup a db := by
  unfold Settles
  rw [h.passesChecks_iff, h.runsThrough_iff]

theorem settlesAtOnce_iff (h : Untouched a.username db t) :
    SettlesAtOnce ctx adminGroup a t ↔ SettlesAtOnce ctx adminGroup a db := by
  unfold SettlesAtOnce MembersAtOnce
  rw [h.passesChecks_iff, h.runsThrough_iff]
  simp only [h.members]

/-- What becomes of other users before and after does not matter. -/
theorem completeOrAbsent_congr {Member : Db → String → String → Prop} {s u : Db}
    (hbefore : Untouched a.username db s) (hown : ∃ new, u.sent = s.sent ++ new)
    (hafter : Untouched a.username u t) (hmember : ∀ g, Member t g a.username ↔ Member u g a.username) :
    CompleteOrAbsent Member db t a ↔ CompleteOrAbsent Member s u a := by
  obtain ⟨earlier, hearlier, hnotEarlier⟩ := hbefore.sent
  obtain ⟨own, hown⟩ := hown
  obtain ⟨later, hlater, hnotLater⟩ := hafter.sent
  have htask : (∃ new, t.sent = db.sent ++ new ∧ homeDirectoryTask a.username ∈ new) ↔
      ∃ new, u.sent = s.sent ++ new ∧ homeDirectoryTask a.username ∈ new := by
    have hsent : t.sent = db.sent ++ (earlier ++ own ++ later) := by
      rw [hlater, hown, hearlier]
      simp only [List.append_assoc]
    constructor
    · rintro ⟨new, hnew, hmem⟩
      rw [hsent] at hnew
      rw [← List.append_cancel_left hnew, List.mem_append, List.mem_append] at hmem
      exact ⟨own, hown, (hmem.resolve_right hnotLater).resolve_left hnotEarlier⟩
    · rintro ⟨new, hnew, hmem⟩
      rw [hown] at hnew
      rw [← List.append_cancel_left hnew] at hmem
      exact ⟨_, hsent, List.mem_append_left later (List.mem_append_right earlier hmem)⟩
  unfold CompleteOrAbsent
  refine or_congr (not_congr hafter.has_iff) ?_
  constructor
  · intro h
    exact ⟨hafter.has_iff.mp h.row, fun g hg he =>
      (hmember g).mp (h.members g hg ((hafter.isEnabledGroup_iff g).mpr he)), htask.mp h.task⟩
  · intro h
    exact ⟨hafter.has_iff.mpr h.row, fun g hg he =>
      (hmember g).mpr (h.members g hg ((hafter.isEnabledGroup_iff g).mp he)), htask.mpr h.task⟩

theorem hasJoined_iff (h : Untouched username db t) :
    HasJoined ctx t groupName username ↔ HasJoined ctx db groupName username := by
  simp only [HasJoined, h.users, h.members]

end Untouched

/-- `handle_user_addition` only adds messages. -/
theorem sent_handleUserAddition (hnew : ¬ db.users.Has a.username)
    (ht : ((handleUserAddition ctx adminGroup a).run db).2 = t) : ∃ new, t.sent = db.sent ++ new := by
  rcases state_handleUserAddition hnew ht with ⟨-, rfl⟩ | ⟨-, -, row, -, -, ⟨-, hs⟩ | ⟨-, u, hs, -, rfl⟩⟩
  · exact ⟨[], (List.append_nil _).symm⟩
  · exact ⟨[], by rw [hs.sent, List.append_nil]⟩
  · exact ⟨[homeDirectoryTask a.username], by rw [hs.sent]⟩

theorem run_handleUserAddition (ctx : AccountsContext) (adminGroup : String) (a : Addition) (db : Db) :
    ∃ t, (handleUserAddition ctx adminGroup a).run db = (.ok ⟨⟩, t) := by
  unfold handleUserAddition logException
  rw [Proc.run_tryCatch]
  split
  · exact ⟨_, rfl⟩
  · exact ⟨_, rfl⟩

/-- A list of users is added one after the other. -/
theorem run_handleUserAdditions_append (ctx : AccountsContext) (adminGroup : String)
    (before after : List Addition) (db : Db) : ∃ s, (handleUserAdditions ctx adminGroup before).run db = (.ok ⟨⟩, s) ∧
      (handleUserAdditions ctx adminGroup (before ++ after)).run db =
        (handleUserAdditions ctx adminGroup after).run s := by
  induction before generalizing db with
  | nil => exact ⟨db, rfl, rfl⟩
  | cons a before ih =>
    obtain ⟨s, hs⟩ := run_handleUserAddition ctx adminGroup a db
    obtain ⟨t, hbefore, happend⟩ := ih s
    refine ⟨t, ?_, ?_⟩
    · exact (Proc.run_bind_of_ok hs).trans hbefore
    · exact (Proc.run_bind_of_ok hs).trans happend

/-- A directory that knows every user. -/
def directory : AccountsContext where
  administratorUsername := "clusteradmin"
  isTestMode := false
  isReadonly := true
  getLdapGroup _ := .ok none
  getGidForGroup _ := none
  isExistingUser _ := .ok true
  getUidAndGidForUser _ := some (1001, 1001)
  isValidEmail _ := true
  passwordPolicy := ⟨8, true, true, true, true⟩
  adminCreateUser _ := .ok ()
  publishUserDisabledEvent _ := .ok ()

/-- The user `alice` of the directory, in the given groups; no step fails. -/
def addAlice (groups : List String) : Addition where
  user := ⟨some "alice", some "alice@lab.org", some 1001, some 1001, some "/bin/bash", some "/home/alice", groups⟩
  password := "secret"
  faults := ⟨.done, fun _ => .done, .done⟩

end ContainRes.Accounts.UserAddition
