import Mathlib.Data.List.Dedup
import ContainRes.VirtualDesktop.Events
import ContainRes.VirtualDesktop.SessionPermissionDb

/-! # Requests that change session permissions

`VirtualDesktopSessionPermissionUtils.update_permission_for_sessions`: permissions are created, updated
and deleted one after another, and after the last of them an enforce event is published for each session
that was named.

* **`Change`**, **`Change.apply`** — one permission of a request, and what is done with it.
* **`updatePermissionForSessions`** — the whole request, with an outcome for each call.
* **`touched`** — the sessions of which a row is written before the request ends or fails.
* **`touched_enforced_iff`** — all of them get their event exactly when no row is written or every
  call of the request succeeds. -/

namespace ContainRes.VirtualDesktop.SessionPermissions

open Effects Store Text

/-- The permissions table, and what has been published. -/
structure World where
  permissions : Permissions
  outbox : Outbox := {}

/-- A function on the permissions table. -/
def onPermissions {α : Type} (c : Proc Permissions Exc α) : Proc World Exc α :=
  Proc.zoom World.permissions (fun t w => { w with permissions := t }) c

/-- A publication. -/
def onOutbox {α : Type} (c : Proc Outbox Exc α) : Proc World Exc α :=
  Proc.zoom World.outbox (fun o w => { w with outbox := o }) c

/-- The exception of a call that fails. -/
def callFailed : Exc := .other .clientError "ClientError"

/-- A session by its id and its owner. -/
abbrev SessionInfo : Type := Option String × Option String

/-- The order in which a set is run through. -/
structure SetOrder where
  list : List SessionInfo → List SessionInfo
  perm : ∀ l, (list l).Perm l.dedup

/-- The order of the first additions. -/
def SetOrder.dedup : SetOrder := ⟨List.dedup, fun _ => List.Perm.refl _⟩

/-- One permission of a request. -/
inductive Change
  | create (p : SessionPermission)
  | update (p : SessionPermission)
  | delete (p : SessionPermission)
  deriving DecidableEq, Repr

/-- The permission that a change is about. -/
def Change.permission : Change → SessionPermission
  | .create p | .update p | .delete p => p

/-- The session that a change names. -/
def Change.session (c : Change) : SessionInfo := (c.permission.ideaSessionId, c.permission.ideaSessionOwner)

/-- What is done for one permission, and what it adds to the response. -/
def Change.apply : Change → Proc Permissions Exc (List SessionPermission)
  | .create p => do
    let created ← SessionPermissions.create p
    return [created]
  | .update p => do
    let updated ← SessionPermissions.update p
    return [updated]
  | .delete p => do
    SessionPermissions.delete p
    return []

/-- The row that a change writes, if it gets so far. -/
def Change.key : Change → Option (String × String)
  | .create p | .update p => if p.permissionProfile.isSome then (keyOf p).toOption else none
  | .delete p =>
    if isEmptyOpt p.ideaSessionId || isEmptyOpt p.actorName then none
    else some (p.ideaSessionId.getD "", p.actorName.getD "")

structure UpdateSessionPermissionRequest where
  create : List SessionPermission
  update : List SessionPermission
  delete : List SessionPermission
  deriving DecidableEq, Repr

/-- The changes of a request in the order in which they are made. -/
def UpdateSessionPermissionRequest.changes (request : UpdateSessionPermissionRequest) : List Change :=
  request.create.map .create ++ request.update.map .update ++ request.delete.map .delete

/-- What each call of a request meets, by its position. -/
structure RequestOutcomes where
  change : Nat → Outcome
  publish : Nat → Outcome

/-- The loops over the permissions, from the position `i` on. -/
def applyChanges (o : Nat → Outcome) : Nat → List Change → Proc World Exc (List SessionPermission)
  | _, [] => pure []
  | i, c :: rest => do
    let response ← Proc.attempt (o i) callFailed (onPermissions c.apply)
    let more ← applyChanges o (i + 1) rest
    return response ++ more

/-- The loop over the sessions, from the position `i` on. -/
def publishAll (clock : Nat → Int) (o : Nat → Outcome) : Nat → List SessionInfo → Proc World Exc PUnit
  | _, [] => pure ⟨⟩
  | i, session :: rest => do
    Proc.attempt (o i) callFailed
      (onOutbox (publishEnforceSessionPermissionsEvent clock session.1 session.2))
    publishAll clock o (i + 1) rest

def updatePermissionForSessions (order : SetOrder) (clock : Nat → Int) (o : RequestOutcomes)
    (request : UpdateSessionPermissionRequest) : Proc World Exc (List SessionPermission) := do
  let response ← applyChanges o.change 0 request.changes
  publishAll clock o.publish 0 (order.list (request.changes.map Change.session))
  return response

/-! ## What a change needs -/

/-- The change gets as far as to write a row: a permission that is put has a profile and a key, one that
is deleted has a row. -/
def Change.Writes (c : Change) (t : Permissions) : Prop :=
  match c with
  | .create p | .update p => p.permissionProfile.isSome ∧ (keyOf p).toOption.isSome
  | .delete p =>
    (isEmptyOpt p.ideaSessionId || isEmptyOpt p.actorName) = false ∧
      t.Has (p.ideaSessionId.getD "", p.actorName.getD "")

instance (c : Change) (t : Permissions) : Decidable (c.Writes t) := by
  unfold Change.Writes
  cases c <;> infer_instance

/-- The change succeeds: a permission that is put can also be read back. -/
def Change.Succeeds (c : Change) (t : Permissions) : Prop :=
  c.Writes t ∧
    match c with
    | .create p | .update p =>
      p.ideaSessionBaseOs.isSome ∧ p.ideaSessionState.isSome ∧ p.ideaSessionType.isSome ∧
        p.actorType.isSome
    | .delete _ => True

instance (c : Change) (t : Permissions) : Decidable (c.Succeeds t) := by
  unfold Change.Succeeds
  cases c <;> infer_instance

/-- The table that a change leaves when its call is answered. -/
def Change.applied (c : Change) (t : Permissions) : Permissions := (c.apply.run t).2

/-- The sessions of which a row is written, from the position `i` on: the change that fails is the
last. -/
def touched (o : Nat → Outcome) : Nat → List Change → Permissions → List SessionInfo
  | _, [], _ => []
  | i, c :: rest, t =>
    if o i ≠ .failed ∧ c.Writes t then
      c.session :: if o i = .done ∧ c.Succeeds t then touched o (i + 1) rest (c.applied t) else []
    else []

/-- Every change is answered and succeeds on the table that those in front of it leave. -/
def AllSucceed (o : Nat → Outcome) : Nat → List Change → Permissions → Prop
  | _, [], _ => True
  | i, c :: rest, t => o i = .done ∧ c.Succeeds t ∧ AllSucceed o (i + 1) rest (c.applied t)

/-- Every publication is answered, or the answer to the last is lost. -/
def AllPublished (o : Nat → Outcome) (n : Nat) : Prop :=
  ∀ i < n, o i = .done ∨ (o i = .lost ∧ i + 1 = n)

/-! ## One change -/

/-- A permission is put. -/
theorem run_putPermission (p : SessionPermission) (t : Permissions) :
    ((p.permissionProfile.isSome ∧ (keyOf p).toOption.isSome →
        ∃ key row, keyOf p = .ok key ∧ ((putPermission p).run t).2 = t.putItem key row) ∧
      (¬ (p.permissionProfile.isSome ∧ (keyOf p).toOption.isSome) → ∃ e, (putPermission p).run t = (.error e, t))) ∧
    ((∃ q, ((putPermission p).run t).1 = .ok q) ↔
      (p.permissionProfile.isSome ∧ (keyOf p).toOption.isSome) ∧ p.ideaSessionBaseOs.isSome ∧
        p.ideaSessionState.isSome ∧ p.ideaSessionType.isSome ∧ p.actorType.isSome) := by
  unfold putPermission
  cases hprofile : p.permissionProfile with
  | none =>
    have hdict : convertSessionPermissionObjectToDbDict p =
        .error (.other .attributeError "'NoneType' object has no attribute 'profile_id'") := by
      simp only [convertSessionPermissionObjectToDbDict, hprofile, required]
      rfl
    rw [hdict]
    refine ⟨⟨fun h => absurd h.1 (by simp), fun _ => ⟨_, rfl⟩⟩, ?_⟩
    simp [Proc.run_bind]
  | some profile =>
    obtain ⟨row, hdict, hrow⟩ : ∃ row, convertSessionPermissionObjectToDbDict p = .ok row ∧
        (row.Readable ↔ p.ideaSessionBaseOs.isSome ∧ p.ideaSessionState.isSome ∧
          p.ideaSessionType.isSome ∧ p.actorType.isSome) := by
      simp only [convertSessionPermissionObjectToDbDict, hprofile, required]
      exact ⟨_, rfl, Iff.rfl⟩
    cases hkey : keyOf p with
    | error e =>
      refine ⟨⟨fun h => absurd h.2 (by simp [Except.toOption]), fun _ => ⟨e, ?_⟩⟩, ?_⟩
      · simp [Proc.run_bind, hdict]
      · simp [Proc.run_bind, hdict, Except.toOption]
    | ok key =>
      have hrun : (Proc.liftExcept (convertSessionPermissionObjectToDbDict p) >>= fun row =>
          Proc.liftExcept (.ok key) >>= fun key => Proc.modify (fun t : Permissions => t.putItem key row) >>= fun _ =>
              Proc.liftExcept (convertDbDictToSessionPermissionObject key row)).run t =
            (convertDbDictToSessionPermissionObject key row, t.putItem key row) := by
        simp [Proc.run_bind, hdict]
      rw [hrun]
      refine ⟨⟨fun _ => ⟨key, row, rfl, rfl⟩, fun h => absurd ⟨rfl, rfl⟩ h⟩, ?_⟩
      rw [← hrow]
      refine ⟨?_, ?_⟩
      · rintro ⟨q, hq⟩
        exact ⟨⟨rfl, rfl⟩, readable_of_convert hq⟩
      · rintro ⟨-, hreadable⟩
        obtain ⟨q, hq, -⟩ := exists_convert hreadable key
        exact ⟨q, hq⟩

/-- A session whose permission is put has an id, and the row is one of the session. -/
theorem keyOf_fst {p : SessionPermission} {key : String × String} (h : keyOf p = .ok key) :
    p.ideaSessionId = some key.1 := by
  unfold keyOf at h
  cases hid : p.ideaSessionId with
  | none => simp [hid] at h
  | some id =>
    cases hactor : p.actorName with
    | none => simp [hid, hactor] at h
    | some actor =>
      simp only [hid, hactor] at h
      split at h
      · exact absurd h (by simp)
      · rw [← Except.ok.inj h]

/-- A deletion succeeds exactly when there is a row to delete. -/
theorem run_delete_isOk (p : SessionPermission) (t : Permissions) :
    (∃ u, ((delete p).run t).1 = .ok u) ↔ (Change.delete p).Writes t := by
  have hwrites : (Change.delete p).Writes t ↔
      (isEmptyOpt p.ideaSessionId || isEmptyOpt p.actorName) = false ∧
        t.Has (p.ideaSessionId.getD "", p.actorName.getD "") := Iff.rfl
  rw [hwrites]
  unfold delete
  by_cases hguard : (isEmptyOpt p.ideaSessionId || isEmptyOpt p.actorName) = true
  · rw [if_pos hguard, hguard]
    simp
  · have hguard' : (isEmptyOpt p.ideaSessionId || isEmptyOpt p.actorName) = false := by simpa using hguard
    rw [if_neg hguard, hguard', Proc.run_bind_of_ok (Proc.run_gets _ t),
      Proc.run_bind_of_ok (Proc.run_modify _ t), Proc.run_when]
    cases hget : t.getItem (p.ideaSessionId.getD "", p.actorName.getD "") with
    | none => simp [Table.Has, hget]
    | some row => simp [Table.Has, hget]

/-- A change returns exactly when it succeeds. -/
theorem run_apply_isOk (c : Change) (t : Permissions) :
    (∃ response, (c.apply.run t).1 = .ok response) ↔ c.Succeeds t := by
  cases c with
  | create p =>
    have hput := (run_putPermission p t).2
    unfold Change.Succeeds Change.Writes
    rw [← hput, Change.apply, SessionPermissions.create, Proc.run_bind]
    rcases (putPermission p).run t with ⟨e | q, t'⟩ <;> simp
  | update p =>
    have hput := (run_putPermission p t).2
    unfold Change.Succeeds Change.Writes
    rw [← hput, Change.apply, SessionPermissions.update, Proc.run_bind]
    rcases (putPermission p).run t with ⟨e | q, t'⟩ <;> simp
  | delete p =>
    have hdelete := run_delete_isOk p t
    unfold Change.Succeeds
    rw [← hdelete, and_true, Change.apply, Proc.run_bind]
    rcases (delete p).run t with ⟨e | q, t'⟩ <;> simp

variable {t : Permissions}

/-- A session of which a row is written has an id. -/
theorem Change.Writes.isSome {c : Change} (h : c.Writes t) : c.session.1.isSome := by
  have hput : ∀ p : SessionPermission, (keyOf p).toOption.isSome → p.ideaSessionId.isSome := by
    intro p hp
    cases hkey : keyOf p with
    | error e => simp [hkey, Except.toOption] at hp
    | ok key => rw [keyOf_fst hkey, Option.isSome_some]
  cases c with
  | create p => exact hput p h.2
  | update p => exact hput p h.2
  | delete p =>
    have hid : isEmptyOpt p.ideaSessionId = false := (Bool.or_eq_false_iff.mp h.1).1
    change p.ideaSessionId.isSome
    cases hp : p.ideaSessionId with
    | none => simp [hp, isEmptyOpt] at hid
    | some id => rfl

/-! ## The loops -/

/-- What the loop over the permissions leaves of the outbox, and when it returns. -/
theorem run_applyChanges (o : Nat → Outcome) (i : Nat) (changes : List Change) (w : World) :
    ((applyChanges o i changes).run w).2.outbox = w.outbox ∧
      ((∃ response, ((applyChanges o i changes).run w).1 = .ok response) ↔ AllSucceed o i changes w.permissions) := by
  induction changes generalizing i w with
  | nil => exact ⟨rfl, iff_of_true ⟨[], rfl⟩ trivial⟩
  | cons c rest ih =>
    unfold applyChanges
    rw [AllSucceed, Proc.run_bind]
    have hzoom : (onPermissions c.apply).run w =
        ((c.apply.run w.permissions).1, { w with permissions := c.applied w.permissions }) := rfl
    rcases hrun : (Proc.attempt (o i) callFailed (onPermissions c.apply)).run w with ⟨e | response, w'⟩
    · -- the change fails, and what follows is not reached
      have houtbox : w'.outbox = w.outbox := by
        rcases Proc.run_attempt_cases hrun with ⟨-, h⟩ | ⟨-, -, rfl⟩ | ⟨-, -, rfl⟩
        · rw [hzoom] at h
          exact congrArg (fun r => r.2.outbox) h.symm
        · rfl
        · rw [hzoom]
      refine ⟨houtbox, iff_of_false (by simp) ?_⟩
      rintro ⟨hdone, hsucceeds, -⟩
      obtain ⟨response, hok⟩ := (run_apply_isOk c w.permissions).mpr hsucceeds
      rw [hdone, Proc.attempt_done, hzoom, hok] at hrun
      exact absurd (congrArg Prod.fst hrun) (by simp)
    · have hdone : o i = .done := Proc.done_of_returns_attempt hrun
      rw [hdone, Proc.attempt_done, hzoom] at hrun
      have hok : (c.apply.run w.permissions).1 = .ok response := congrArg Prod.fst hrun
      have hw' : { w with permissions := c.applied w.permissions } = w' := congrArg Prod.snd hrun
      have hsucceeds := (run_apply_isOk c w.permissions).mp ⟨response, hok⟩
      obtain ⟨houtbox, hiff⟩ := ih (i + 1) w'
      subst hw'
      dsimp only
      rw [Proc.run_bind]
      rcases hrest : (applyChanges o (i + 1) rest).run { w with permissions := c.applied w.permissions } with
        ⟨e | more, w''⟩
      · rw [hrest] at houtbox hiff
        exact ⟨houtbox, by simpa [hdone, hsucceeds] using hiff⟩
      · rw [hrest] at houtbox hiff
        exact ⟨houtbox, by simpa [hdone, hsucceeds] using hiff⟩

variable {o : Nat → Outcome}

/-- Where every change succeeds, all their sessions are touched. -/
theorem touched_of_allSucceed {i : Nat} {changes : List Change}
    (h : AllSucceed o i changes t) : touched o i changes t = changes.map Change.session := by
  induction changes generalizing i t with
  | nil => rfl
  | cons c rest ih =>
    obtain ⟨hdone, hsucceeds, hrest⟩ := h
    have hwrites : o i ≠ .failed ∧ c.Writes t := ⟨by rw [hdone]; decide, hsucceeds.1⟩
    rw [touched, if_pos hwrites, if_pos ⟨hdone, hsucceeds⟩, ih hrest, List.map_cons]

/-- A touched session has an id. -/
theorem isSome_of_mem_touched {i : Nat} {changes : List Change}
    {s : SessionInfo} (h : s ∈ touched o i changes t) : s.1.isSome := by
  induction changes generalizing i t with
  | nil => exact absurd h List.not_mem_nil
  | cons c rest ih =>
    unfold touched at h
    split at h
    · rename_i hwrites
      rcases List.mem_cons.mp h with rfl | hlater
      · exact hwrites.2.isSome
      · split at hlater
        · exact ih hlater
        · exact absurd hlater List.not_mem_nil
    · exact absurd h List.not_mem_nil

/-- The loop over the sessions publishes for those in front of a place, which is the end exactly when
every publication is answered or the answer to the last is lost. -/
theorem run_publishAll (clock : Nat → Int) (o : Nat → Outcome) (i : Nat) (sessions : List SessionInfo)
    (h : ∀ s ∈ sessions, s.1.isSome) (w : World) : ∃ n ≤ sessions.length,
      (∀ s, Enforced s ((publishAll clock o i sessions).run w).2.outbox ↔ Enforced s w.outbox ∨ s ∈ sessions.take n) ∧
      (n = sessions.length ↔ AllPublished (fun k => o (i + k)) sessions.length) ∧
      ((publishAll clock o i sessions).run w).2.permissions = w.permissions := by
  induction sessions generalizing i w with
  | nil =>
    refine ⟨0, le_rfl, fun s => ?_, iff_of_true rfl fun k hk => absurd hk (Nat.not_lt_zero k), rfl⟩
    simp [publishAll]
  | cons s rest ih =>
    obtain ⟨o', hpublish, henforced⟩ := run_publishEnforce clock (h s List.mem_cons_self) w.outbox
    have hzoom : (onOutbox (publishEnforceSessionPermissionsEvent clock s.1 s.2)).run w =
        (.ok ⟨⟩, { w with outbox := o' }) := Proc.run_zoom_of hpublish
    unfold publishAll
    cases ho : o i with
    | failed =>
      refine ⟨0, Nat.zero_le _, fun s' => ?_, iff_of_false (by simp) fun hall => ?_, rfl⟩
      · simp [Proc.run_bind]
      · have hfirst := hall 0 (Nat.succ_pos _)
        simp [ho] at hfirst
    | lost =>
      have hrun := Proc.run_attempt_lost (e := callFailed) hzoom
      rw [Proc.run_bind_of_error hrun]
      refine ⟨1, by simp, fun s' => ?_, ?_, rfl⟩
      · rw [henforced s', List.take_succ_cons, List.take_zero, List.mem_singleton]
      · constructor
        · intro hlen k hk
          have hk0 : k = 0 := by omega
          subst hk0
          exact .inr ⟨ho, hlen⟩
        · intro hall
          rcases hall 0 (Nat.succ_pos _) with hdone | ⟨-, hlast⟩
          · simp [ho] at hdone
          · exact hlast
    | done =>
      rw [Proc.attempt_done, Proc.run_bind_of_ok hzoom]
      obtain ⟨n, hn, hmem, hiff, hperm⟩ :=
        ih (i + 1) (fun s' hs' => h s' (List.mem_cons_of_mem _ hs')) { w with outbox := o' }
      refine ⟨n + 1, by simpa using hn, fun s' => ?_, ?_, hperm⟩
      · rw [hmem s', henforced s', List.take_succ_cons, List.mem_cons, or_assoc]
      · rw [List.length_cons, Nat.add_right_cancel_iff, hiff]
        constructor
        · intro hall k hk
          cases k with
          | zero => exact .inl ho
          | succ k =>
            have hnext : o (i + 1 + k) = .done ∨ o (i + 1 + k) = .lost ∧ k + 1 = rest.length := hall k (by omega)
            have hindex : i + 1 + k = i + (k + 1) := by omega
            rw [hindex] at hnext
            rcases hnext with hdone | ⟨hlost, hlast⟩
            · exact .inl hdone
            · exact .inr ⟨hlost, by omega⟩
        · intro hall k hk
          have hnext : o (i + (k + 1)) = .done ∨ o (i + (k + 1)) = .lost ∧ k + 1 + 1 = rest.length + 1 :=
            hall (k + 1) (by omega)
          have hindex : i + (k + 1) = i + 1 + k := by omega
          rw [hindex] at hnext
          rcases hnext with hdone | ⟨hlost, hlast⟩
          · exact .inl hdone
          · exact .inr ⟨hlost, by omega⟩

/-- The loop over the sessions returns when every publication is answered. -/
theorem run_publishAll_of_done (clock : Nat → Int) (ho : ∀ i, o i = .done) (i : Nat)
    (sessions : List SessionInfo) (h : ∀ s ∈ sessions, s.1.isSome) (w : World) :
    ((publishAll clock o i sessions).run w).1 = .ok ⟨⟩ := by
  induction sessions generalizing i w with
  | nil => rfl
  | cons s rest ih =>
    obtain ⟨o', hpublish, -⟩ := run_publishEnforce clock (h s List.mem_cons_self) w.outbox
    have hzoom : (onOutbox (publishEnforceSessionPermissionsEvent clock s.1 s.2)).run w =
        (.ok ⟨⟩, { w with outbox := o' }) := Proc.run_zoom_of hpublish
    unfold publishAll
    rw [ho i, Proc.attempt_done, Proc.run_bind_of_ok hzoom]
    exact ih (i + 1) (fun s' hs' => h s' (List.mem_cons_of_mem _ hs')) _

/-! ## Sessions that are not touched -/

/-- A change leaves the rows other than its own. -/
theorem getItem_applied_of_key_ne (c : Change) (t : Permissions) {key : String × String}
    (h : c.key ≠ some key) : (c.applied t).getItem key = t.getItem key := by
  have hput : ∀ p : SessionPermission,
      (if p.permissionProfile.isSome then (keyOf p).toOption else none) ≠ some key →
        ((putPermission p).run t).2.getItem key = t.getItem key := by
    intro p hp
    by_cases hwrites : p.permissionProfile.isSome ∧ (keyOf p).toOption.isSome
    · obtain ⟨key', row, hkey, hrun⟩ := (run_putPermission p t).1.1 hwrites
      have hne : key ≠ key' := by
        rintro rfl
        rw [if_pos hwrites.1, hkey] at hp
        exact hp rfl
      rw [hrun, Table.getItem_putItem_of_ne _ _ hne]
    · obtain ⟨e, hrun⟩ := (run_putPermission p t).1.2 hwrites
      rw [hrun]
  have hstate : ∀ {α : Type} (c : Proc Permissions Exc α) (f : α → List SessionPermission),
      ((c >>= fun a => pure (f a)).run t).2 = (c.run t).2 :=
    fun c f => Proc.state_bind_of_reads (fun a => Reads.pure (f a)) t
  cases c with
  | create p => exact (congrArg (Table.getItem · key) (hstate _ _)).trans (hput p h)
  | update p => exact (congrArg (Table.getItem · key) (hstate _ _)).trans (hput p h)
  | delete p =>
    refine (congrArg (Table.getItem · key) (hstate _ _)).trans ?_
    unfold delete
    by_cases hguard : (isEmptyOpt p.ideaSessionId || isEmptyOpt p.actorName) = true
    · rw [if_pos hguard]
      rfl
    · have hne : key ≠ (p.ideaSessionId.getD "", p.actorName.getD "") := by
        rintro rfl
        exact h (if_neg hguard)
      rw [if_neg hguard, Proc.run_bind_of_ok (Proc.run_gets _ t),
        Proc.run_bind_of_ok (Proc.run_modify _ t), Proc.state_when_raise]
      exact Table.getItem_deleteItem_of_ne _ hne

/-! ## The request -/

/-- No session is touched exactly when the first change writes no row. -/
theorem touched_eq_nil_iff (o : Nat → Outcome) (i : Nat) (changes : List Change) (t : Permissions) :
    touched o i changes t = [] ↔ ∀ c, changes.head? = some c → o i = .failed ∨ ¬ c.Writes t := by
  cases changes with
  | nil => simp [touched]
  | cons c rest =>
    rw [touched]
    by_cases hwrites : o i ≠ .failed ∧ c.Writes t
    · rw [if_pos hwrites]
      refine iff_of_false (by simp) fun h => ?_
      rcases h c rfl with hfailed | hnot
      · exact hwrites.1 hfailed
      · exact hnot hwrites.2
    · rw [if_neg hwrites]
      refine iff_of_true rfl ?_
      rintro c' hc'
      obtain rfl : c = c' := Option.some.inj hc'
      by_cases ho : o i = .failed
      · exact .inl ho
      · exact .inr fun hc => hwrites ⟨ho, hc⟩

/-- Where all of a list without repetitions is among its first elements, these are all. -/
theorem eq_length_of_subset_take {α : Type} {l : List α} (hnodup : l.Nodup) {n : Nat} (hn : n ≤ l.length)
    (h : ∀ a ∈ l, a ∈ l.take n) : n = l.length := by
  have hlength : l.length ≤ (l.take n).length := (List.subperm_of_subset hnodup h).length_le
  rw [List.length_take] at hlength
  omega

/-- **A request.** Every session of which a row is written gets its enforce event if and only if the first
change writes no row, or every change of the request succeeds and so does every publication, except
that the answer to the last may be lost. -/
theorem touched_enforced_iff (order : SetOrder) (clock : Nat → Int) (o : RequestOutcomes)
    (request : UpdateSessionPermissionRequest) (t : Permissions) : (∀ s ∈ touched o.change 0 request.changes t,
        Enforced s ((updatePermissionForSessions order clock o request).run { permissions := t }).2.outbox) ↔
      (∀ c, request.changes.head? = some c → o.change 0 = .failed ∨ ¬ c.Writes t) ∨
        (AllSucceed o.change 0 request.changes t ∧
          AllPublished o.publish (order.list (request.changes.map Change.session)).length) := by
  obtain ⟨houtbox, hiff⟩ := run_applyChanges o.change 0 request.changes { permissions := t }
  unfold updatePermissionForSessions
  rw [Proc.run_bind]
  rcases hrun : (applyChanges o.change 0 request.changes).run { permissions := t } with ⟨e | response, w⟩
  · -- the loops raise, and nothing is published
    rw [hrun] at houtbox hiff
    have hnot : ¬ AllSucceed o.change 0 request.changes t := fun h => by simpa using hiff.mpr h
    have hempty : w.outbox = {} := houtbox
    rw [← touched_eq_nil_iff, or_iff_left fun h => hnot h.1]
    dsimp only
    rw [hempty, List.eq_nil_iff_forall_not_mem]
    exact forall₂_congr fun s _ => iff_false_intro (not_enforced_empty s)
  · rw [hrun] at houtbox hiff
    have hall : AllSucceed o.change 0 request.changes t := hiff.mp ⟨response, rfl⟩
    have hempty : w.outbox = {} := houtbox
    have htouched := touched_of_allSucceed hall
    have hperm := order.perm (request.changes.map Change.session)
    have hmem : ∀ s, s ∈ order.list (request.changes.map Change.session) ↔
        s ∈ request.changes.map Change.session := by
      intro s
      rw [hperm.mem_iff, List.mem_dedup]
    have hnodup : (order.list (request.changes.map Change.session)).Nodup := hperm.nodup_iff.mpr (List.nodup_dedup _)
    have hsome : ∀ s ∈ order.list (request.changes.map Change.session), s.1.isSome := by
      intro s hs
      have hs' : s ∈ touched o.change 0 request.changes t := by
        rw [htouched]
        exact (hmem s).mp hs
      exact isSome_of_mem_touched hs'
    obtain ⟨n, hn, henforced, hcomplete, -⟩ := run_publishAll clock o.publish 0 _ hsome w
    have hstate : ((publishAll clock o.publish 0 (order.list (request.changes.map Change.session)) >>=
        fun _ => pure response).run w).2.outbox =
        ((publishAll clock o.publish 0 (order.list (request.changes.map Change.session))).run w).2.outbox := by
      rw [Proc.run_bind]
      rcases (publishAll clock o.publish 0 (order.list (request.changes.map Change.session))).run w with
        ⟨e | u, w'⟩ <;> rfl
    have hpublished : (∀ s ∈ touched o.change 0 request.changes t, Enforced s
        ((publishAll clock o.publish 0 (order.list (request.changes.map Change.session))).run w).2.outbox) ↔
          n = (order.list (request.changes.map Change.session)).length := by
      rw [htouched]
      constructor
      · intro h
        refine eq_length_of_subset_take hnodup hn fun s hs => ?_
        have hs' := (henforced s).mp (h s ((hmem s).mp hs))
        rw [hempty] at hs'
        exact hs'.resolve_left (not_enforced_empty s)
      · rintro rfl s hs
        rw [henforced, List.take_length]
        exact .inr ((hmem s).mpr hs)
    dsimp only
    rw [hstate, hpublished, hcomplete]
    have hindex : (fun k => o.publish (0 + k)) = o.publish := funext fun k => congrArg o.publish (Nat.zero_add k)
    rw [hindex]
    constructor
    · exact fun h => .inr ⟨hall, h⟩
    · rintro (hnone | ⟨-, h⟩)
      · -- a request that writes nothing has no session to publish for
        have hnil := (touched_eq_nil_iff o.change 0 request.changes t).mpr hnone
        rw [htouched] at hnil
        have hlist : order.list (request.changes.map Change.session) = [] := by
          refine List.eq_nil_iff_forall_not_mem.mpr fun s hs => ?_
          have hs' := (hmem s).mp hs
          rw [hnil] at hs'
          exact absurd hs' List.not_mem_nil
        rw [hlist]
        exact fun k hk => absurd hk (Nat.not_lt_zero k)
      · exact h

end ContainRes.VirtualDesktop.SessionPermissions
