import ContainRes.Snapshots.CompletedApply

/-! # Rolling back the roles of users

The merge of users sets roles through `add_admin_user` and `remove_admin_user`, which write `sudo` with the
role. The rollback goes through the deltas from the first to the last, and gives each user the role of the
record that the delta keeps.

* **`rollbackUsers`** — `UsersTableMerger.rollback`.
* **`giveRole`** — what giving a role makes of a row.
* **`mergeRoles`**, **`replaced`** — a row after the records of its user, and the roles that they replaced.
* **`returns_mergeUser`**, **`returns_rollbackUser`** — one record, and one delta.
* **`Undone`** — the rows that the rollback brings back; **`rollback_undoes_iff`** — when it brings back
  all of them. -/

namespace ContainRes.Snapshots

open Accounts (UserRow sanitized sanitizeUsername UserDao.convertFromDb isEmpty_sanitized sanitized_idem
  sanitizeUsername_of_not_isEmpty)
open Effects Effects.Proc Store Text

variable (services : Services)

/-! ## The method -/

/-- The loop of `UsersTableMerger.rollback` for a delta; all of them are updates. -/
def rollbackUser (delta : MergedUserDelta) : EnvProc PUnit :=
  applyRole services (UserDao.convertFromDb delta.originalRecord.1 delta.originalRecord.2)

/-- `UsersTableMerger.rollback(context, record_deltas, logger)`: the first delta is taken until none is
left. -/
def rollbackUsers (deltas : List MergedUserDelta) : EnvProc PUnit :=
  Proc.forEach (rollbackUser services) deltas

/-! ## Roles of a row -/

/-- The role that is given for a role: there are two. -/
def givenRole (role : String) : String := if role = adminRole then adminRole else userRole

/-- A row whose user is given a role: `sudo` is written with another role, and with the same one nothing is. -/
def giveRole (role : String) (row : UserRow) : UserRow :=
  if row.role = givenRole role then row
  else { row with role := givenRole role, isSudo := decide (role = adminRole) }

/-- A row after the records of its user were merged, which have these roles. -/
def mergeRoles (row : UserRow) : List String → UserRow
  | [] => row
  | role :: roles => if role = row.role then mergeRoles row roles else mergeRoles (giveRole role row) roles

/-- The roles that the records replace, in the order of the records. -/
def replaced (current : String) : List String → List String
  | [] => []
  | role :: roles => if role = current then replaced current roles else current :: replaced (givenRole role) roles

/-- A row after its user was given roles one after the other. -/
def giveRoles (row : UserRow) (roles : List String) : UserRow :=
  roles.foldl (fun row role => giveRole role row) row

/-- The user has `sudo` exactly as an administrator. -/
def SudoAsAdmin (row : UserRow) : Prop := row.isSudo = decide (row.role = adminRole)

variable {row : UserRow} {role : String}

@[simp] theorem role_giveRole (role : String) (row : UserRow) : (giveRole role row).role = givenRole role := by
  unfold giveRole
  split
  · assumption
  · rfl

theorem givenRole_eq_admin : givenRole role = adminRole ↔ role = adminRole := by
  unfold givenRole
  split
  · rename_i h
    simp [h]
  · rename_i h
    exact iff_of_false (by decide) h

theorem giveRole_eq_or (role : String) (row : UserRow) :
    giveRole role row = row ∧ row.role = givenRole role ∨ SudoAsAdmin (giveRole role row) := by
  by_cases h : row.role = givenRole role
  · exact .inl ⟨if_pos h, h⟩
  · refine .inr ?_
    rw [giveRole, if_neg h, SudoAsAdmin]
    simp [givenRole_eq_admin]

theorem SudoAsAdmin.giveRole (h : SudoAsAdmin row) (role : String) : SudoAsAdmin (giveRole role row) := by
  rcases giveRole_eq_or role row with ⟨hsame, -⟩ | hsudo
  · rwa [hsame]
  · exact hsudo

/-- Two rows that differ in `role` and `sudo` at most. -/
def SameUser (row row' : UserRow) : Prop := { row' with role := row.role, isSudo := row.isSudo } = row

theorem SameUser.trans {row' row'' : UserRow} (h : SameUser row row') (h' : SameUser row' row'') :
    SameUser row row'' := by
  have hwritten : { row'' with role := row.role, isSudo := row.isSudo } =
      { { row'' with role := row'.role, isSudo := row'.isSudo } with role := row.role, isSudo := row.isSudo } :=
    rfl
  unfold SameUser at h h' ⊢
  rw [hwritten, h', h]

/-- Rows of one user with one role are equal when `sudo` goes with it. -/
theorem SameUser.eq_of_sudoAsAdmin {row' : UserRow} (hsame : SameUser row row') (h : SudoAsAdmin row)
    (h' : SudoAsAdmin row') (hrole : row'.role = row.role) : row' = row := by
  have hsudo : row'.isSudo = row.isSudo := by rw [h, h', hrole]
  calc row' = { row' with role := row.role, isSudo := row.isSudo } := by rw [← hrole, ← hsudo]
    _ = row := hsame

theorem sameUser_giveRole (role : String) (row : UserRow) : SameUser row (giveRole role row) := by
  unfold giveRole
  split <;> rfl

theorem SudoAsAdmin.mergeRoles (h : SudoAsAdmin row) (roles : List String) : SudoAsAdmin (mergeRoles row roles) := by
  induction roles generalizing row with
  | nil => exact h
  | cons role roles ih =>
    unfold Snapshots.mergeRoles
    split
    · exact ih h
    · exact ih (h.giveRole role)

theorem SudoAsAdmin.giveRoles (h : SudoAsAdmin row) (roles : List String) : SudoAsAdmin (giveRoles row roles) := by
  induction roles generalizing row with
  | nil => exact h
  | cons role roles ih => exact ih (h.giveRole role)

/-- A row that the records leave as it was has the role that each of them gives. -/
theorem mergeRoles_eq_or (row : UserRow) (roles : List String) :
    (∀ role ∈ roles, role ≠ row.role → row.role = givenRole role) ∨ SudoAsAdmin (mergeRoles row roles) := by
  induction roles with
  | nil => exact .inl fun role hrole => absurd hrole List.not_mem_nil
  | cons role roles ih =>
    by_cases hsame : role = row.role
    · rw [mergeRoles, if_pos hsame]
      refine ih.imp_left fun hall role' hmem hne => ?_
      rcases List.mem_cons.mp hmem with rfl | hlater
      · exact absurd hsame hne
      · exact hall role' hlater hne
    · rw [mergeRoles, if_neg hsame]
      rcases giveRole_eq_or role row with ⟨hrow, hgiven⟩ | hsudo
      · rw [hrow]
        refine ih.imp_left fun hall role' hmem hne => ?_
        rcases List.mem_cons.mp hmem with rfl | hlater
        · exact hgiven
        · exact hall role' hlater hne
      · exact .inr (hsudo.mergeRoles roles)

variable {roles : List String}

/-- Records that replace a role have another one. -/
theorem exists_of_replaced {current o : String} (h : o ∈ replaced current roles) : ∃ role ∈ roles, role ≠ current := by
  induction roles with
  | nil => cases h
  | cons role roles ih =>
    by_cases hsame : role = current
    · rw [replaced, if_pos hsame] at h
      obtain ⟨role', hmem, hne⟩ := ih h
      exact ⟨role', List.mem_cons_of_mem role hmem, hne⟩
    · exact ⟨role, List.mem_cons_self, hsame⟩

/-- Records without an administrator leave a user as it is. -/
theorem mergeRoles_of_user (hrow : row.role = userRole) (hroles : adminRole ∉ roles) :
    mergeRoles row roles = row ∧ ∀ o ∈ replaced userRole roles, o = userRole := by
  induction roles with
  | nil => exact ⟨rfl, fun o ho => absurd ho List.not_mem_nil⟩
  | cons role roles ih =>
    obtain ⟨hne, hrest⟩ := not_or.mp (fun h => hroles (List.mem_cons.mpr h))
    obtain ⟨hsame, hreplaced⟩ := ih hrest
    have hgiven : givenRole role = userRole := if_neg fun h => hne h.symm
    have hkept : giveRole role row = row := if_pos (hrow.trans hgiven.symm)
    refine ⟨?_, fun o ho => ?_⟩
    · rw [mergeRoles, hkept, hsame, ite_self]
    · rw [replaced, hgiven] at ho
      split at ho
      · exact hreplaced o ho
      · rcases List.mem_cons.mp ho with rfl | hlater
        · rfl
        · exact hreplaced o hlater

theorem sameUser_giveRoles (row : UserRow) (roles : List String) : SameUser row (giveRoles row roles) := by
  induction roles generalizing row with
  | nil => rfl
  | cons role roles ih => exact (sameUser_giveRole role row).trans (ih (giveRole role row))

theorem sameUser_mergeRoles (row : UserRow) (roles : List String) : SameUser row (mergeRoles row roles) := by
  induction roles generalizing row with
  | nil => rfl
  | cons role roles ih =>
    unfold mergeRoles
    split
    · exact ih row
    · exact (sameUser_giveRole role row).trans (ih (giveRole role row))

theorem mergeRoles_of_replaced_nil (h : replaced row.role roles = []) : mergeRoles row roles = row := by
  induction roles with
  | nil => rfl
  | cons role roles ih =>
    by_cases hsame : role = row.role
    · rw [replaced, if_pos hsame] at h
      rw [mergeRoles, if_pos hsame, ih h]
    · rw [replaced, if_neg hsame] at h
      cases h

theorem giveRoles_of_same (h : ∀ role ∈ roles, giveRole role row = row) : giveRoles row roles = row := by
  induction roles with
  | nil => rfl
  | cons role roles ih =>
    show giveRoles (giveRole role row) roles = row
    rw [h role List.mem_cons_self]
    exact ih fun role' hmem => h role' (List.mem_cons_of_mem role hmem)

/-- The rollback brings a row back, for the roles that the records of its user have: they replaced nothing, or
the user was no administrator and none of them makes it one, or the role that was replaced last is given as
the role of the row, and `sudo` goes with that role. -/
def Undone (row : UserRow) (roles : List String) : Prop :=
  ∀ o ∈ (replaced row.role roles).getLast?,
    (row.role = userRole ∧ adminRole ∉ roles) ∨ givenRole o = row.role ∧ SudoAsAdmin row

instance (row : UserRow) (roles : List String) : Decidable (Undone row roles) := by
  unfold Undone SudoAsAdmin
  infer_instance

/-- A row is brought back exactly when it is undone. -/
theorem giveRoles_mergeRoles_iff (row : UserRow) (roles : List String) :
    giveRoles (mergeRoles row roles) (replaced row.role roles) = row ↔ Undone row roles := by
  unfold Undone
  rcases List.eq_nil_or_concat (replaced row.role roles) with hnone | ⟨before, o, hlast⟩
  · -- nothing is replaced, so every role is the one of the row
    rw [hnone, mergeRoles_of_replaced_nil hnone]
    exact iff_of_true rfl fun o ho => by cases ho
  · rw [List.concat_eq_append] at hlast
    have hrole : (giveRoles (mergeRoles row roles) (before ++ [o])).role = givenRole o := by
      rw [giveRoles, List.foldl_append]
      exact role_giveRole o _
    rw [hlast]
    simp only [List.getLast?_concat, Option.mem_def, Option.some.injEq, forall_eq']
    constructor
    · intro hsame
      rw [hsame] at hrole
      by_cases hsudo : SudoAsAdmin row
      · exact .inr ⟨hrole.symm, hsudo⟩
      · -- a row whose `sudo` does not go with its role was never written
        refine .inl ?_
        have hall : ∀ role ∈ roles, role ≠ row.role → row.role = givenRole role := by
          refine (mergeRoles_eq_or row roles).resolve_right fun h => hsudo ?_
          have hfinal := h.giveRoles (before ++ [o])
          rwa [hsame] at hfinal
        obtain ⟨role, hmem, hne⟩ := exists_of_replaced (o := o) (by rw [hlast]; simp)
        have hgiven := hall role hmem hne
        have hnot : row.role ≠ adminRole := by
          intro hadmin
          rw [hadmin] at hgiven
          exact hne ((givenRole_eq_admin.mp hgiven.symm).trans hadmin.symm)
        refine ⟨?_, fun hadmin => hnot ((hall adminRole hadmin (Ne.symm hnot)).trans (if_pos rfl))⟩
        rw [hgiven]
        exact if_neg fun hadmin => hnot (hgiven.trans (givenRole_eq_admin.mpr hadmin))
    · rintro (⟨huser, hnone⟩ | ⟨hgiven, hsudo⟩)
      · obtain ⟨hkept, hreplaced⟩ := mergeRoles_of_user huser hnone
        rw [hkept, ← hlast, huser]
        refine giveRoles_of_same fun o ho => ?_
        rw [hreplaced o ho]
        exact if_pos huser
      · exact ((sameUser_mergeRoles row roles).trans (sameUser_giveRoles _ _)).eq_of_sudoAsAdmin hsudo
          ((hsudo.mergeRoles roles).giveRoles _) (hrole.trans hgiven)

/-! ## One request -/

variable {services} {env env' : Environment}

/-- The table `users` is the one of `env` with the row of `u` given a role. -/
def RoleGiven (env : Environment) (u role : String) (env' : Environment) : Prop :=
  ∃ row, env.users.getItem u = some row ∧
    ∀ v, env'.users.getItem v = if v = u then some (giveRole role row) else env.users.getItem v

/-- The end of `add_admin_user` and `remove_admin_user`. -/
theorem roleGiven_setRole {username role : String}
    (h : (setRole username (givenRole role) (decide (role = adminRole))).run env = (.ok ⟨⟩, env')) :
    RoleGiven env (sanitized username) role env' := by
  unfold setRole at h
  rw [run_bind_of_ok (run_gets _ _)] at h
  cases huser : env.users.getItem (sanitized username) with
  | none =>
    rw [huser] at h
    cases h
  | some row =>
    rw [huser] at h
    refine ⟨row, huser, fun v => ?_⟩
    by_cases hsame : row.role = givenRole role
    · dsimp only at h
      rw [run_when_neg (not_not_intro hsame)] at h
      cases h
      rw [giveRole, if_pos hsame]
      split
      · rename_i hv
        rw [hv, huser]
      · rfl
    · dsimp only at h
      rw [run_when_pos hsame] at h
      cases h
      show (env.users.updateItem _ _).getItem v = _
      rw [Table.getItem_updateItem, huser, giveRole, if_neg hsame]
      rfl

/-- `UsersTableMerger.apply` gives the user the role, or raises and leaves everything. -/
theorem roleGiven_applyRole {user : User} {role : String} (hrole : user.role = some role) :
    Triple (fun s => s = env) (applyRole services user)
      (fun _ s => isEmpty (user.username.getD "") = false ∧ RoleGiven env (sanitized (user.username.getD "")) role s)
      fun _ s => s = env := by
  have hset : Triple (fun s => s = env)
      (answered services (.setRole (user.username.getD ""))
        (setRole (user.username.getD "") (givenRole role) (decide (role = adminRole))))
      (fun _ s => RoleGiven env (sanitized (user.username.getD "")) role s) fun _ s => s = env := by
    refine triple_answered (Triple.intro (fun s _ t hs hrun => ?_) fun s e t hs hrun => ?_) fun _ _ hs => hs
    · rw [hs] at hrun
      exact roleGiven_setRole hrun
    · rw [hs] at hrun
      unfold setRole at hrun
      rw [run_bind_of_ok (run_gets _ _)] at hrun
      cases huser : env.users.getItem (sanitized (user.username.getD "")) with
      | none =>
        rw [huser] at hrun
        cases hrun
        rfl
      | some row =>
        rw [huser] at hrun
        dsimp only at hrun
        rw [run_when] at hrun
        split at hrun <;> cases hrun
  have hstate : ∀ {e : Exc}, Triple (fun s => s = env) (Proc.raise e : EnvProc PUnit)
      (fun _ s => isEmpty (user.username.getD "") = false ∧ RoleGiven env (sanitized (user.username.getD "")) role s)
      fun _ s => s = env := Triple.raise fun _ hs => hs
  unfold applyRole addAdminUser removeAdminUser
  rw [hrole]
  by_cases hadmin : role = adminRole
  · rw [if_pos (congrArg some hadmin)]
    refine Triple.ite (fun _ => hstate) fun hname => ?_
    have hgiven : givenRole role = adminRole := givenRole_eq_admin.mpr hadmin
    rw [hgiven, decide_eq_true hadmin] at hset
    exact hset.conseq (fun _ h => h) (fun _ _ h => ⟨by simpa using hname, h⟩) fun _ _ h => h
  · rw [if_neg fun h => hadmin (Option.some.inj h)]
    refine Triple.ite (fun _ => hstate) fun hname => Triple.ite (fun _ => hstate) fun _ => ?_
    have hgiven : givenRole role = userRole := if_neg hadmin
    rw [hgiven, decide_eq_false hadmin] at hset
    exact hset.conseq (fun _ h => h) (fun _ _ h => ⟨by simpa using hname, h⟩) fun _ _ h => h

/-- The username of a record, as the tables store it. -/
def recordKey (record : String × UserRow) : String := sanitized record.1

theorem run_getUser (username : Option String) (env : Environment) : (getUser services username).run env =
      match sanitizeUsername username with
      | .error e => (.error e, env)
      | .ok u => match services.fault env (.getUser u) with
        | some fault => (.error fault.exc, env)
        | none => match env.users.getItem u with
          | none => (.error (.soca .authUserNotFound ("User not found: " ++ u)), env)
          | some row => (.ok (UserDao.convertFromDb u row), env) := by
  unfold getUser
  rw [run_bind, run_liftExcept]
  rcases sanitizeUsername username with e | u
  · rfl
  · dsimp only
    cases hfault : services.fault env (.getUser u) with
    | some fault => exact run_answered_of_fault hfault
    | none =>
      rw [run_answered_of_none hfault, run_bind_of_ok (run_gets _ _)]
      cases env.users.getItem u with
      | none => rfl
      | some row => rfl

variable {record : String × UserRow}

/-- The user of a record is found under the key of the record. -/
theorem findUser_ok {found : Merged User}
    (h : (findUser services (UserDao.convertFromDb record.1 record.2).username).run env = (.ok found, env')) :
    env' = env ∧ (found = .failed ∨ found = .skipped ∧ env.users.getItem (recordKey record) = none ∨
        ∃ row, env.users.getItem (recordKey record) = some row ∧ isEmpty record.1 = false ∧
          found = .merged (UserDao.convertFromDb (recordKey record) row)) := by
  unfold findUser at h
  rw [run_tryCatch, run_bind, run_getUser] at h
  rcases hname : isEmpty record.1 with _ | _
  · have hkey : sanitizeUsername (UserDao.convertFromDb record.1 record.2).username = .ok (recordKey record) := by
      have husername : (UserDao.convertFromDb record.1 record.2).username = some (strip record.1) :=
        getAsString_of_nonblank hname
      rw [husername, sanitizeUsername_of_not_isEmpty (by rw [isEmpty_strip, hname]), recordKey, sanitized,
        strip_strip, sanitized]
    rw [hkey] at h
    dsimp only at h
    cases hfault : services.fault env (.getUser (recordKey record)) with
    | some fault =>
      -- a failure is no answer
      have hcode : fault.exc.errorCode ≠ some .authUserNotFound := fun hcode =>
        fault.not_answer _ hcode (by simp [answerCodes])
      simp only [hfault, if_neg hcode] at h
      split at h
      · cases h
      · cases h
        exact ⟨rfl, .inl rfl⟩
    | none =>
      simp only [hfault] at h
      cases hrow : env.users.getItem (recordKey record) with
      | none =>
        simp only [hrow] at h
        cases h
        exact ⟨rfl, .inr (.inl ⟨rfl, rfl⟩)⟩
      | some row =>
        simp only [hrow] at h
        cases h
        exact ⟨rfl, .inr (.inr ⟨row, rfl, rfl, rfl⟩)⟩
  · have hblank : sanitizeUsername (UserDao.convertFromDb record.1 record.2).username =
        .error (.invalidParams "username is required") := by
      simp [UserDao.convertFromDb, getAsString, hname, sanitizeUsername]
    rw [hblank] at h
    cases h

theorem role_convertFromDb (username : String) (row : UserRow) :
    (UserDao.convertFromDb username row).role = some row.role := rfl

theorem username_convertFromDb (username : String) (row : UserRow) :
    (UserDao.convertFromDb username row).username = getAsString (some username) := by
  rw [UserDao.convertFromDb]

theorem sanitized_strip (s : String) : sanitized (strip s) = sanitized s := by
  rw [sanitized, strip_strip, sanitized]

theorem strip_recordKey (record : String × UserRow) : strip (recordKey record) = recordKey record := by
  apply String.toList_injective
  simp only [recordKey, sanitized, toList_strip, toList_lower, stripList_map_lowerChar, stripList_idem]

theorem username_convertFromDb_recordKey (hname : isEmpty record.1 = false)
    (row : UserRow) : (UserDao.convertFromDb (recordKey record) row).username = some (recordKey record) := by
  have hblank : isEmpty (recordKey record) = false := by rw [recordKey, isEmpty_sanitized, hname]
  rw [username_convertFromDb, getAsString_of_nonblank hblank, strip_recordKey]

/-- **One record.** A record is skipped when its user is not there or has its role, and otherwise its role is
given, and the delta keeps the row. -/
theorem returns_mergeUser {result : Merged MergedUserDelta}
    (h : (mergeUser services record).run env = (.ok result, env')) : (result = .failed ∧ env' = env) ∨
      (result = .skipped ∧ env' = env ∧
        ∀ row, env.users.getItem (recordKey record) = some row → record.2.role = row.role) ∨
      ∃ row, env.users.getItem (recordKey record) = some row ∧ record.2.role ≠ row.role ∧
        result = .merged ⟨(recordKey record, row), record⟩ ∧ RoleGiven env (recordKey record) record.2.role env' := by
  unfold mergeUser at h
  dsimp only at h
  obtain ⟨found, env₁, hfind, hrest⟩ := returns_bind.mp h
  obtain ⟨rfl, rfl | ⟨rfl, hnone⟩ | ⟨row, hrow, hname, rfl⟩⟩ := findUser_ok hfind
  · cases hrest
    exact .inl ⟨rfl, rfl⟩
  · cases hrest
    refine .inr (.inl ⟨rfl, rfl, fun row hrow => ?_⟩)
    rw [hnone] at hrow
    cases hrow
  · dsimp only at hrest
    rw [username_convertFromDb_recordKey hname, role_convertFromDb, role_convertFromDb] at hrest
    by_cases hsame : record.2.role = row.role
    · rw [if_pos (congrArg some hsame)] at hrest
      cases hrest
      refine .inr (.inl ⟨rfl, rfl, fun row' hrow' => ?_⟩)
      rw [hrow] at hrow'
      cases hrow'
      exact hsame
    · rw [if_neg fun hrole => hsame (Option.some.inj hrole)] at hrest
      have hspec : Triple (fun s => s = env₁) (applyRole services (UserDao.convertFromDb record.1 record.2)) _ _ :=
        roleGiven_applyRole (role_convertFromDb record.1 record.2)
      have husername : (UserDao.convertFromDb record.1 record.2).username = some (strip record.1) :=
        getAsString_of_nonblank hname
      unfold Returns orFailed at hrest
      rw [run_tryCatch, run_bind_of_ok (run_gets _ _), run_bind] at hrest
      rcases happly : (applyRole services (UserDao.convertFromDb record.1 record.2)).run env₁ with ⟨e | ⟨⟨⟩⟩, t⟩
      · obtain rfl := hspec.of_error rfl happly
        rw [happly] at hrest
        cases hrest
        exact .inl ⟨rfl, rfl⟩
      · obtain ⟨-, hgiven⟩ := hspec.of_ok rfl happly
        rw [happly] at hrest
        cases hrest
        have hkey : sanitized (strip record.1) = recordKey record := sanitized_strip record.1
        rw [husername, Option.getD_some, hkey] at hgiven
        refine .inr (.inr ⟨row, hrow, hsame, ?_, hgiven⟩)
        rw [Option.getD_some, hrow, Option.getD_some]

/-! ## The run -/

/-- The records of a user have these roles. -/
def rolesOf (u : String) (records : List (String × UserRow)) : List String :=
  (records.filter fun record => recordKey record = u).map fun record => record.2.role

/-- The roles of a user in the originals of the deltas. -/
def originalRoles (u : String) (deltas : List MergedUserDelta) : List String :=
  (deltas.filter fun delta => sanitized delta.originalRecord.1 = u).map fun delta => delta.originalRecord.2.role

/-- **What a merge makes of a row**, and what its deltas keep. -/
theorem merged_row {records : List (String × UserRow)} {deltas : List MergedUserDelta} {u : String}
    (h : Completes (mergeUser services) records env deltas env') : (∀ row, env.users.getItem u = some row →
      env'.users.getItem u = some (mergeRoles row (rolesOf u records)) ∧
        originalRoles u deltas = replaced row.role (rolesOf u records)) ∧
      (env.users.getItem u = none → env'.users.getItem u = none ∧ originalRoles u deltas = []) := by
  induction records generalizing env deltas with
  | nil =>
    obtain ⟨rfl, rfl⟩ := completes_nil.mp h
    exact ⟨fun row hrow => ⟨hrow, rfl⟩, fun hnone => ⟨hnone, rfl⟩⟩
  | cons record records ih =>
    rcases completes_cons.mp h with ⟨env₁, hstep, hrest⟩ | ⟨delta, rest, env₁, rfl, hstep, hrest⟩
    · -- the record is skipped
      rcases returns_mergeUser hstep with ⟨hfailed, -⟩ | ⟨-, rfl, hrole⟩ | ⟨row, -, -, hmerged, -⟩
      · cases hfailed
      · by_cases hkey : recordKey record = u
        · refine ⟨fun row hrow => ?_, (ih hrest).2⟩
          have hsame := hrole row (by rw [hkey]; exact hrow)
          have hroles : rolesOf u (record :: records) = record.2.role :: rolesOf u records := by
            simp [rolesOf, hkey]
          rw [hroles, mergeRoles, replaced, if_pos hsame, if_pos hsame]
          exact (ih hrest).1 row hrow
        · have hroles : rolesOf u (record :: records) = rolesOf u records := by simp [rolesOf, hkey]
          rw [hroles]
          exact ih hrest
      · cases hmerged
    · rcases returns_mergeUser hstep with ⟨hfailed, -⟩ | ⟨hskipped, -⟩ | ⟨row, hrow, hrole, hmerged, hgiven⟩
      · cases hfailed
      · cases hskipped
      · obtain rfl := Merged.merged.inj hmerged
        obtain ⟨row', hrow', hrows⟩ := hgiven
        rw [hrow] at hrow'
        cases hrow'
        have hidem : sanitized (recordKey record) = recordKey record := sanitized_idem record.1
        by_cases hkey : recordKey record = u
        · subst hkey
          have hnext : env₁.users.getItem (recordKey record) = some (giveRole record.2.role row) := by
            rw [hrows, if_pos rfl]
          have hroles : rolesOf (recordKey record) (record :: records) =
              record.2.role :: rolesOf (recordKey record) records := by simp [rolesOf]
          obtain ⟨hlast, horiginals⟩ := (ih hrest).1 _ hnext
          refine ⟨fun row' hrow' => ?_, fun hnone => ?_⟩
          · rw [hrow] at hrow'
            cases hrow'
            rw [hroles, mergeRoles, replaced, if_neg hrole, if_neg hrole]
            refine ⟨hlast, ?_⟩
            rw [← role_giveRole record.2.role row, ← horiginals]
            simp [originalRoles, hidem]
          · rw [hrow] at hnone
            cases hnone
        · have hroles : rolesOf u (record :: records) = rolesOf u records := by simp [rolesOf, hkey]
          have hdeltas : originalRoles u (⟨(recordKey record, row), record⟩ :: rest) = originalRoles u rest := by
            simp [originalRoles, hidem, hkey]
          have hother : env₁.users.getItem u = env.users.getItem u := by
            rw [hrows, if_neg fun hu => hkey hu.symm]
          rw [hroles, hdeltas, ← hother]
          exact ih hrest

/-- **What a rollback makes of a row.** -/
theorem rolledBack_row {deltas : List MergedUserDelta} {u : String}
    (h : (rollbackUsers services deltas).run env = (.ok ⟨⟩, env')) :
    env'.users.getItem u = (env.users.getItem u).map fun row => giveRoles row (originalRoles u deltas) := by
  induction deltas generalizing env with
  | nil =>
    cases h
    cases env'.users.getItem u <;> rfl
  | cons delta deltas ih =>
    obtain ⟨⟨⟩, env₁, hstep, hrest⟩ := returns_bind.mp h
    have hspec : Triple (fun s => s = env) (rollbackUser services delta) _ _ :=
      roleGiven_applyRole (role_convertFromDb delta.originalRecord.1 delta.originalRecord.2)
    obtain ⟨hname, row, hrow, hrows⟩ := hspec.of_ok rfl hstep
    have hkey : sanitized ((UserDao.convertFromDb delta.originalRecord.1 delta.originalRecord.2).username.getD "") =
        sanitized delta.originalRecord.1 := by
      rw [username_convertFromDb] at hname ⊢
      rcases hblank : isEmpty delta.originalRecord.1 with _ | _
      · rw [getAsString_of_nonblank hblank, Option.getD_some, sanitized_strip]
      · simp [getAsString, hblank] at hname
        exact absurd hname (by decide)
    rw [hkey] at hrow hrows
    rw [ih hrest, hrows]
    by_cases hu : u = sanitized delta.originalRecord.1
    · rw [if_pos hu, hu, hrow]
      simp [originalRoles, giveRoles]
    · rw [if_neg hu]
      have hother : originalRoles u (delta :: deltas) = originalRoles u deltas := by
        simp [originalRoles, Ne.symm hu]
      rw [hother]

/-- **When a rollback undoes the merge of users.** A merge that returns has gone through the records in `done`,
all of them when it succeeded, and otherwise those before the one that failed. When the rollback of its
deltas returns, every row is what it was before the merge exactly when every row is undone for the roles that
the records in `done` have for its user. -/
theorem rollback_undoes_iff {records : List (String × UserRow)} {deltas : List MergedUserDelta} {success : Bool}
    {merged env' : Environment}
    (hmerge : (mergeAll (mergeUser services) records).run env = (.ok (deltas, success), merged))
    (hrollback : (rollbackUsers services deltas).run merged = (.ok ⟨⟩, env')) :
    ∃ done rest, records = done ++ rest ∧ Completes (mergeUser services) done env deltas merged ∧
      (success = true ∧ rest = [] ∨ success = false ∧ ∃ record later, rest = record :: later ∧
        (mergeUser services record).run merged = (.ok .failed, merged)) ∧
      ((∀ u, env'.users.getItem u = env.users.getItem u) ↔
        ∀ u row, env.users.getItem u = some row → Undone row (rolesOf u done)) := by
  obtain ⟨done, rest, t, hrecords, hdone, hend⟩ := exists_completes_of_mergeAll hmerge
  have hstop : t = merged ∧ (success = true ∧ rest = [] ∨ success = false ∧ ∃ record later,
      rest = record :: later ∧ (mergeUser services record).run t = (.ok .failed, t)) := by
    rcases hend with ⟨hsuccess, hrest, hsame⟩ | ⟨hsuccess, record, later, hrest, hfailed⟩
    · exact ⟨hsame, .inl ⟨hsuccess, hrest⟩⟩
    · rcases returns_mergeUser hfailed with ⟨-, hsame⟩ | ⟨hskipped, -⟩ | ⟨row, -, -, hmerged, -⟩
      · rw [hsame] at hfailed
        exact ⟨hsame.symm, .inr ⟨hsuccess, record, later, hrest, hfailed⟩⟩
      · cases hskipped
      · cases hmerged
  obtain ⟨rfl, hstop⟩ := hstop
  refine ⟨done, rest, hrecords, hdone, hstop, ?_⟩
  -- each row is merged and rolled back on its own
  have hfinal : ∀ u row, env.users.getItem u = some row → env'.users.getItem u =
      some (giveRoles (mergeRoles row (rolesOf u done)) (replaced row.role (rolesOf u done))) := by
    intro u row hrow
    obtain ⟨hmerged, hroles⟩ := (merged_row hdone).1 row hrow
    rw [rolledBack_row hrollback, hmerged, hroles]
    rfl
  constructor
  · intro h u row hrow
    have hback := h u
    rw [hfinal u row hrow, hrow] at hback
    exact (giveRoles_mergeRoles_iff row _).mp (Option.some.inj hback)
  · intro h u
    cases hrow : env.users.getItem u with
    | none =>
      rw [rolledBack_row hrollback, ((merged_row hdone).2 hrow).1]
      rfl
    | some row => rw [hfinal u row hrow, (giveRoles_mergeRoles_iff row _).mpr (h u row hrow)]

/-! ## Two users, and one with `sudo` -/

/-- A row with a role and `sudo`. -/
def userWith (role : String) (isSudo : Bool) : UserRow where
  email := "member@example.org"
  uid := some 1
  gid := some 1
  additionalGroups := []
  loginShell := "/bin/bash"
  homeDir := "/home/member"
  isSudo := isSudo
  enabled := true
  role := role
  isActive := true

/-- An administrator and a user, each with the `sudo` of its role. -/
def twoUsers : Environment :=
  { Environment.empty with
    users := ((∅ : Table String UserRow).putItem "alice" (userWith userRole false)).putItem "bob"
      (userWith adminRole true) }

/-- The snapshot has their roles the other way round. -/
def swappedRoles : List (String × UserRow) :=
  [("alice", userWith adminRole true), ("bob", userWith userRole false)]

/-- Both rows are brought back. -/
theorem rollback_undoes_swappedRoles : ∃ deltas merged env',
    (mergeAll (mergeUser answeringServices) swappedRoles).run twoUsers = (.ok (deltas, true), merged) ∧
      (rollbackUsers answeringServices deltas).run merged = (.ok ⟨⟩, env') ∧
      ∀ u, env'.users.getItem u = twoUsers.users.getItem u := by
  obtain ⟨deltas, merged, hmerge⟩ : ∃ deltas merged,
      (mergeAll (mergeUser answeringServices) swappedRoles).run twoUsers = (.ok (deltas, true), merged) :=
    ⟨_, _, rfl⟩
  obtain ⟨env', hrollback⟩ : ∃ env', (rollbackUsers answeringServices deltas).run merged = (.ok ⟨⟩, env') := by
    cases hmerge
    exact ⟨_, rfl⟩
  obtain ⟨done, rest, hrecords, -, hend, hiff⟩ := rollback_undoes_iff hmerge hrollback
  obtain ⟨-, rfl⟩ := hend.resolve_right fun h => by cases h.1
  rw [List.append_nil] at hrecords
  refine ⟨deltas, merged, env', hmerge, hrollback, hiff.mpr fun u row hrow => ?_⟩
  rw [← hrecords]
  by_cases hbob : u = "bob"
  · subst hbob
    cases hrow
    decide
  · by_cases halice : u = "alice"
    · subst halice
      cases hrow
      decide
    · simp [twoUsers, Environment.empty, hbob, halice] at hrow

/-- **Sudo that is lost.** A user with `sudo` who is no administrator is made one and rolled back, and has no
`sudo` any more. -/
theorem sudo_not_restored : ¬ ∀ services records (env : Environment) deltas success merged env',
    (mergeAll (mergeUser services) records).run env = (.ok (deltas, success), merged) →
      (rollbackUsers services deltas).run merged = (.ok ⟨⟩, env') →
      ∀ u, env'.users.getItem u = env.users.getItem u := by
  intro h
  have halice := h answeringServices [("alice", userWith adminRole true)]
    { Environment.empty with users := (∅ : Table String UserRow).putItem "alice" (userWith userRole true) }
    _ _ _ _ rfl rfl "alice"
  exact absurd halice (by decide)

end ContainRes.Snapshots
