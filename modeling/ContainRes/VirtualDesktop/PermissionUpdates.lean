import ContainRes.Systems.Guarded
import ContainRes.VirtualDesktop.ExpirySweep

/-! # Updates of the display fields of permissions

`IDEASessionPermissionsUpdateEventHandler`: when the name, the instance type or the state of a session
has changed, all of its permissions are read, these three fields are edited, and every attribute is
written back. Requests and sweeps change the table between the read and a write.

* **`handleEvent`** — the handler when nothing else runs.
* **`Access`**, **`system`** — the single reads and writes of any number of deliveries, requests and
  sweeps in any order; `exec_handleEvent` and `exec_sweep` are what one delivery and one sweep do there.
* **`StaysSo`** — what was deleted is gone, and what is there is what was last asked for.
* **`Undisturbed`** — the accesses that keep it: a permission is written back only over the row that it
  was read from, and nothing but a creation brings back a permission that was deleted.
* **`stays_so_iff`** — a run keeps it throughout exactly when all of its accesses are undisturbed. -/

namespace ContainRes.VirtualDesktop

/-- The values of `VirtualDesktopSessionState`. -/
def VirtualDesktopSessionState.values : List (String × VirtualDesktopSessionState) :=
  [("PROVISIONING", .provisioning), ("CREATING", .creating), ("INITIALIZING", .initializing),
    ("READY", .ready), ("RESUMING", .resuming), ("STOPPING", .stopping), ("STOPPED", .stopped),
    ("ERROR", .error), ("DELETING", .deleting), ("DELETED", .deleted)]

namespace PermissionUpdates

open Effects Store Systems Text SessionPermissions

/-! ## The handler -/

/-- The fields of the event that are to be displayed. -/
structure Display where
  newName : Option String
  newInstanceType : Option String
  newState : Option String
  deriving DecidableEq, Repr

/-- The display fields in the detail of an event. -/
def Display.ofEvent (event : VirtualDesktopEvent) : Display where
  newName := event.detailString "new_name"
  newInstanceType := event.detailString "new_instance_type"
  newState := event.detailString "new_state"

/-- `VirtualDesktopSessionState(new_state)`. -/
def sessionStateOf (text : String) : Except Exc VirtualDesktopSessionState :=
  required (VirtualDesktopSessionState.values.lookup text)
    (.other .valueError s!"{text} is not a valid VirtualDesktopSessionState")

/-- The body of the loop in front of the write: the edited permission, and `is_updated`. -/
def edit (d : Display) (p : SessionPermission) : Except Exc (SessionPermission × Bool) := do
  let (p, isUpdated) :=
    if isEmptyOpt d.newName then (p, false) else ({ p with ideaSessionName := d.newName }, true)
  let (p, isUpdated) :=
    if isEmptyOpt d.newInstanceType then (p, isUpdated)
    else ({ p with ideaSessionInstanceType := d.newInstanceType }, true)
  if isEmptyOpt d.newState then return (p, isUpdated)
  else
    let state ← sessionStateOf (d.newState.getD "")
    return ({ p with ideaSessionState := some state }, true)

/-- The body of the loop. -/
def updatePermission (d : Display) (p : SessionPermission) : Proc Permissions Exc PUnit := do
  let (p, isUpdated) ← Proc.liftExcept (edit d p)
  if isUpdated then
    let _ ← update p
    return ⟨⟩
  else return ⟨⟩

variable (paginator : Paginator Entry)

/-- The permissions that the handler reads. -/
def readPermissions (o : Outcome) (event : VirtualDesktopEvent) :
    Proc Permissions Exc (List SessionPermission) :=
  getForSession paginator o ((event.detailString "idea_session_id").getD "")

/-- `IDEASessionPermissionsUpdateEventHandler.handle_event`. Where there is no permission the loop has
nothing to do. -/
def handleEvent (controllerRoleId senderId : String) (o : Outcome) (event : VirtualDesktopEvent) :
    Proc Permissions Exc PUnit :=
  if isSenderRole controllerRoleId senderId = false then Proc.raise (corruptedSender senderId)
  else do
    let permissions ← readPermissions paginator o event
    Proc.forEach (updatePermission (Display.ofEvent event)) permissions

/-! ## Interleavings -/

/-- The table, and what the deliveries of the handler have still to write. The last two fields are the
history of the rows, which no access reads: the profile id and the expiry date of the last request that
created or updated a row, and whether a row was deleted and not created again. -/
structure State where
  permissions : Permissions
  pending : Nat → Display × List SessionPermission
  asked : String × String → Option (Option String × Int)
  revoked : String × String → Bool

/-- One access to the table. -/
inductive Access
  /-- A request creates, updates or deletes a permission. -/
  | change (c : Change)
  /-- A sweep deletes a permission. -/
  | expire (p : SessionPermission)
  /-- The delivery `n` of the handler reads the permissions of its session. -/
  | read (n : Nat) (o : Outcome) (event : VirtualDesktopEvent)
  /-- The delivery `n` edits its next permission and writes it back. -/
  | write (n : Nat)

/-- The table with the permission gone from it. -/
def afterDelete (p : SessionPermission) (t : Permissions) : Permissions := ((delete p).run t).2

/-- The key of the row that a deletion removes. -/
def deletedKey (p : SessionPermission) (t : Permissions) : Option (String × String) :=
  if (Change.delete p).Writes t then some (p.ideaSessionId.getD "", p.actorName.getD "") else none

/-- The key of the row that is put, with the profile id and the expiry date it gets. -/
def putKey (p : SessionPermission) : Option ((String × String) × Option String × Int) :=
  match p.permissionProfile, keyOf p with
  | some profileId, .ok key => some (key, profileId, toMilliseconds p.expiryDate)
  | _, _ => none

/-- A request has put a row. -/
def State.recordPut (s : State) (p : SessionPermission) : State :=
  match putKey p with
  | some (key, value) => { s with asked := Function.update s.asked key (some value) }
  | none => s

/-- A row has been created. -/
def State.recordCreate (s : State) (p : SessionPermission) : State :=
  match putKey p with
  | some (key, _) => { s.recordPut p with revoked := Function.update s.revoked key false }
  | none => s

/-- A row has been deleted from the table `t`. -/
def State.recordDelete (s : State) (p : SessionPermission) (t : Permissions) : State :=
  match deletedKey p t with
  | some key => { s with revoked := Function.update s.revoked key true }
  | none => s

/-- The state with the permission gone from it. -/
def State.delete (s : State) (p : SessionPermission) : State :=
  { s.recordDelete p s.permissions with permissions := afterDelete p s.permissions }

/-- The effect of a change. -/
def State.change (s : State) (c : Change) : State :=
  match c with
  | .create p => { s.recordCreate p with permissions := c.applied s.permissions }
  | .update p => { s.recordPut p with permissions := c.applied s.permissions }
  | .delete p => s.delete p

/-- The state in which the delivery `n` has still to write `permissions`. -/
def State.withPending (s : State) (n : Nat) (d : Display) (permissions : List SessionPermission) : State :=
  { s with pending := Function.update s.pending n (d, permissions) }

/-- The delivery `n` writes a permission; one that raises writes nothing more. -/
def State.write (s : State) (n : Nat) (d : Display) (p : SessionPermission)
    (rest : List SessionPermission) : State :=
  match (updatePermission d p).run s.permissions with
  | (.ok _, t) => { s.withPending n d rest with permissions := t }
  | (.error _, t) => { s.withPending n d [] with permissions := t }

/-- The result of reading the permissions of the session of an event. -/
def permissionsRead (o : Outcome) (event : VirtualDesktopEvent) (t : Permissions) : List SessionPermission :=
  match (readPermissions paginator o event).run t with
  | (.ok permissions, _) => permissions
  | (.error _, _) => []

/-- One access. A delivery that has nothing more to write does not write. -/
def next (s : State) : Access → Option State
  | .change c => some (s.change c)
  | .expire p => some (s.delete p)
  | .read n o event =>
    some (s.withPending n (Display.ofEvent event) (permissionsRead paginator o event s.permissions))
  | .write n =>
    match s.pending n with
    | (_, []) => none
    | (d, p :: rest) => some (s.write n d p rest)

/-- The profile id and the expiry date of a row. -/
def valueOf (row : SessionPermissionRow) : Option String × Int := (row.permissionProfileId, row.expiryDate)

/-- A table to start from, with its rows as they were asked for. -/
def start (t : Permissions) : State where
  permissions := t
  pending := fun _ => (⟨none, none, none⟩, [])
  asked := fun key => (t.getItem key).map valueOf
  revoked := fun _ => false

/-- Requests, sweeps and deliveries of the handler on one table. -/
def system : System State Access where
  init s := ∃ t, s = start t
  next := next paginator

/-! ## What is to stay so -/

/-- A permission that was deleted and not created again is not there, and a permission that is there has
the profile id and the expiry date that were last asked for. -/
structure StaysSo (s : State) : Prop where
  revoked : ∀ key, s.revoked key = true → ¬ s.permissions.Has key
  current : ∀ key row, s.permissions.getItem key = some row → s.asked key = some (valueOf row)

/-- A permission is written back over a row with the profile id and the expiry date that were read. -/
def UpToDate (p : SessionPermission) (t : Permissions) : Prop :=
  ∀ key value, putKey p = some (key, value) → ∃ row, t.getItem key = some row ∧ valueOf row = value

/-- The display fields lead to a write. -/
def Display.changes (d : Display) : Bool :=
  (! isEmptyOpt d.newName || ! isEmptyOpt d.newInstanceType || ! isEmptyOpt d.newState) &&
    (isEmptyOpt d.newState || (sessionStateOf (d.newState.getD "")).toOption.isSome)

/-- The access keeps what was asked for. -/
def Undisturbed (s : State) : Access → Prop
  | .change (.update p) => ∀ key value, putKey p = some (key, value) → s.revoked key = false
  | .write n => ∀ d p rest, s.pending n = (d, p :: rest) → d.changes = true → UpToDate p s.permissions
  | _ => True

/-! ## Single accesses -/

/-- A permission without a profile or a key is not put. -/
theorem run_put_of_none {p : SessionPermission} (h : putKey p = none) (t : Permissions) :
    ((putPermission p).run t).2 = t := by
  have hnot : ¬ (p.permissionProfile.isSome ∧ (keyOf p).toOption.isSome) := by
    rintro ⟨hprofile, hkey⟩
    obtain ⟨profileId, hprofile⟩ := Option.isSome_iff_exists.mp hprofile
    cases hk : keyOf p with
    | error e => simp [hk, Except.toOption] at hkey
    | ok key => simp [putKey, hprofile, hk] at h
  obtain ⟨e, hrun⟩ := (run_putPermission p t).1.2 hnot
  rw [hrun]

/-- A permission with a profile and a key is put under its key. -/
theorem run_put_of_some {p : SessionPermission} {key : String × String} {value : Option String × Int}
    (h : putKey p = some (key, value)) (t : Permissions) :
    ∃ row, valueOf row = value ∧ ((putPermission p).run t).2 = t.putItem key row := by
  unfold putKey at h
  cases hprofile : p.permissionProfile with
  | none => simp [hprofile] at h
  | some profileId =>
    cases hkey : keyOf p with
    | error e => simp [hprofile, hkey] at h
    | ok key' =>
      simp only [hprofile, hkey, Option.some.injEq, Prod.mk.injEq] at h
      obtain ⟨rfl, rfl⟩ := h
      have hdict : ∃ row, convertSessionPermissionObjectToDbDict p = .ok row ∧
          valueOf row = (profileId, toMilliseconds p.expiryDate) := by
        simp only [convertSessionPermissionObjectToDbDict, hprofile, required]
        exact ⟨_, rfl, rfl⟩
      obtain ⟨row, hrow, hvalue⟩ := hdict
      refine ⟨row, hvalue, ?_⟩
      simp [putPermission, Proc.run_bind, hrow, hkey]

variable (p : SessionPermission) (t : Permissions)

theorem applied_create : (Change.create p).applied t = ((putPermission p).run t).2 := by
  unfold Change.applied Change.apply SessionPermissions.create
  rw [Proc.run_bind]
  rcases (putPermission p).run t with ⟨e | q, t'⟩ <;> rfl

theorem applied_update : (Change.update p).applied t = ((putPermission p).run t).2 := by
  unfold Change.applied Change.apply SessionPermissions.update
  rw [Proc.run_bind]
  rcases (putPermission p).run t with ⟨e | q, t'⟩ <;> rfl

/-- What a deletion leaves. -/
theorem getItem_afterDelete (key : String × String) :
    (afterDelete p t).getItem key = if deletedKey p t = some key then none else t.getItem key := by
  unfold afterDelete deletedKey SessionPermissions.delete
  by_cases hguard : (isEmptyOpt p.ideaSessionId || isEmptyOpt p.actorName) = true
  · have hnot : ¬ (Change.delete p).Writes t := fun h => by
      have hfalse : (isEmptyOpt p.ideaSessionId || isEmptyOpt p.actorName) = false := h.1
      simp [hfalse] at hguard
    rw [if_pos hguard, if_neg hnot]
    rfl
  · rw [if_neg hguard, Proc.run_bind_of_ok (Proc.run_gets _ t), Proc.run_bind_of_ok (Proc.run_modify _ t),
      Proc.state_when_raise, Table.getItem_deleteItem]
    by_cases hhas : t.Has (p.ideaSessionId.getD "", p.actorName.getD "")
    · have hwrites : (Change.delete p).Writes t := ⟨by simpa using hguard, hhas⟩
      rw [if_pos hwrites]
      exact if_congr (by rw [Option.some.injEq, eq_comm]) rfl rfl
    · have hnot : ¬ (Change.delete p).Writes t := fun h => hhas h.2
      simp only [if_neg hnot, reduceCtorEq, if_false]
      split
      · rename_i hkey
        rw [hkey, Table.not_has_iff.mp hhas]
      · rfl

/-- The editing writes when a display field has a value and the state is one, and then neither the key nor
the profile nor the expiry date is changed. -/
theorem edit_cases (d : Display) (p : SessionPermission) :
    (d.changes = false ∧ ((∃ e, edit d p = .error e) ∨ ∃ p', edit d p = .ok (p', false))) ∨
      (d.changes = true ∧ ∃ p', edit d p = .ok (p', true) ∧ putKey p' = putKey p) := by
  unfold edit Display.changes
  cases hname : isEmptyOpt d.newName <;> cases htype : isEmptyOpt d.newInstanceType <;>
    cases hstate : isEmptyOpt d.newState <;> cases hof : sessionStateOf (d.newState.getD "") <;>
    simp [Except.toOption, Bind.bind, Except.bind, pure, Except.pure] <;> rfl

/-- A delivery whose display fields lead to no write leaves the table as it is. -/
theorem run_updatePermission_of_not_changes {d : Display} (hd : d.changes = false) (p : SessionPermission)
    (t : Permissions) : ((updatePermission d p).run t).2 = t := by
  unfold updatePermission
  rcases edit_cases d p with ⟨-, ⟨e, he⟩ | ⟨p', hp'⟩⟩ | ⟨htrue, -⟩
  · rw [he]
    rfl
  · rw [hp']
    rfl
  · exact absurd (hd.symm.trans htrue) (by simp)

/-- What a delivery whose display fields lead to a write puts. -/
theorem run_updatePermission_of_changes {d : Display} (hd : d.changes = true) (p : SessionPermission)
    (t : Permissions) :
    ∃ p', putKey p' = putKey p ∧ ((updatePermission d p).run t).2 = ((putPermission p').run t).2 := by
  unfold updatePermission
  rcases edit_cases d p with ⟨hfalse, -⟩ | ⟨-, p', hp', hkey⟩
  · exact absurd (hfalse.symm.trans hd) (by simp)
  · refine ⟨p', hkey, ?_⟩
    rw [hp', Proc.run_bind_of_ok (Proc.run_liftExcept (.ok (p', true)) t)]
    dsimp only
    rw [if_pos rfl, Proc.run_bind]
    unfold SessionPermissions.update
    rcases (putPermission p').run t with ⟨e | q, t'⟩ <;> rfl

/-! ## One access -/

/-- The history is that of the rows: what was asked for and not revoked is there. -/
def Recorded (s : State) : Prop :=
  ∀ key, (s.asked key).isSome → s.revoked key = false → s.permissions.Has key

variable {s s' : State} {key : String × String}

/-- A row is put: what was asked for stays so exactly when the row is not a revoked one and has the values
asked for. -/
theorem staysSo_put_iff {row : SessionPermissionRow} (h : StaysSo s)
    (htable : s'.permissions = s.permissions.putItem key row) (hasked : ∀ k, k ≠ key → s'.asked k = s.asked k)
    (hrevoked : ∀ k, k ≠ key → s'.revoked k = s.revoked k) :
    StaysSo s' ↔ s'.revoked key = false ∧ s'.asked key = some (valueOf row) := by
  have hget : s'.permissions.getItem key = some row := by
    rw [htable, Table.getItem_putItem_self]
  have hother : ∀ k, k ≠ key → s'.permissions.getItem k = s.permissions.getItem k := by
    intro k hk
    rw [htable, Table.getItem_putItem_of_ne _ _ hk]
  constructor
  · intro h'
    refine ⟨?_, h'.current key row hget⟩
    by_contra hnot
    exact h'.revoked key (by simpa using hnot) (Table.Has.of_getItem hget)
  · rintro ⟨hkey, hvalue⟩
    refine ⟨fun k hk => ?_, fun k r hr => ?_⟩
    · by_cases hne : k = key
      · rw [hne, hkey] at hk
        exact absurd hk (by simp)
      · rw [hrevoked k hne] at hk
        rw [Table.has_iff, hother k hne, ← Table.has_iff]
        exact h.revoked k hk
    · by_cases hne : k = key
      · subst hne
        rw [hvalue, Option.some.inj (hget.symm.trans hr)]
      · rw [hasked k hne]
        exact h.current k r (hother k hne ▸ hr)

/-- A row is put, and what is recorded of the other rows does not change. -/
theorem recorded_put {row : SessionPermissionRow} (h : Recorded s)
    (htable : s'.permissions = s.permissions.putItem key row) (hasked : ∀ k, k ≠ key → s'.asked k = s.asked k)
    (hrevoked : ∀ k, k ≠ key → s'.revoked k = s.revoked k) : Recorded s' := by
  intro k hk hk'
  by_cases hne : k = key
  · rw [hne, htable]
    exact Table.Has.of_getItem (Table.getItem_putItem_self _ _ _)
  · rw [hasked k hne] at hk
    rw [hrevoked k hne] at hk'
    rw [htable, Table.has_iff, Table.getItem_putItem_of_ne _ _ hne, ← Table.has_iff]
    exact h k hk hk'

/-- A deletion keeps both. -/
theorem delete_keeps (h : StaysSo s) (hr : Recorded s) : StaysSo (s.delete p) ∧ Recorded (s.delete p) := by
  have htable : (s.delete p).permissions = afterDelete p s.permissions := rfl
  have hasked : (s.delete p).asked = s.asked := by
    unfold State.delete State.recordDelete
    split <;> rfl
  have hrevoked : ∀ k, (s.delete p).revoked k = true ↔
      deletedKey p s.permissions = some k ∨ s.revoked k = true := by
    intro k
    unfold State.delete State.recordDelete
    cases hkey : deletedKey p s.permissions with
    | none => simp
    | some key =>
      by_cases hne : k = key
      · simp [hne]
      · simp [Function.update_of_ne hne, Ne.symm hne]
  refine ⟨⟨fun k hk => ?_, fun k row hrow => ?_⟩, fun k hk hk' => ?_⟩
  · rw [htable, Table.not_has_iff, getItem_afterDelete]
    split
    · rfl
    · rename_i hne
      exact Table.not_has_iff.mp (h.revoked k (((hrevoked k).mp hk).resolve_left hne))
  · rw [htable, getItem_afterDelete] at hrow
    split at hrow
    · exact absurd hrow (by simp)
    · rw [hasked]
      exact h.current k row hrow
  · rw [hasked] at hk
    have hnot : ¬ (deletedKey p s.permissions = some k ∨ s.revoked k = true) := by
      rw [← hrevoked, hk']
      simp
    rw [not_or] at hnot
    rw [htable, Table.has_iff, getItem_afterDelete, if_neg hnot.1, ← Table.has_iff]
    exact hr k hk (by simpa using hnot.2)

theorem staysSo_congr (htable : s'.permissions = s.permissions) (hasked : s'.asked = s.asked)
    (hrevoked : s'.revoked = s.revoked) : StaysSo s' ↔ StaysSo s := by
  constructor
  · exact fun h => ⟨htable ▸ hrevoked ▸ h.revoked, htable ▸ hasked ▸ h.current⟩
  · intro h
    refine ⟨?_, ?_⟩
    · rw [htable, hrevoked]
      exact h.revoked
    · rw [htable, hasked]
      exact h.current

theorem recorded_congr (htable : s'.permissions = s.permissions) (hasked : s'.asked = s.asked)
    (hrevoked : s'.revoked = s.revoked) (h : Recorded s) : Recorded s' := by
  unfold Recorded
  rw [htable, hasked, hrevoked]
  exact h

/-- A creation keeps both. -/
theorem create_keeps (h : StaysSo s) (hr : Recorded s) :
    StaysSo (s.change (.create p)) ∧ Recorded (s.change (.create p)) := by
  have htable : (s.change (.create p)).permissions = ((putPermission p).run s.permissions).2 :=
    applied_create p s.permissions
  cases hkey : putKey p with
  | none =>
    rw [run_put_of_none hkey] at htable
    have hasked : (s.change (.create p)).asked = s.asked := by
      simp [State.change, State.recordCreate, hkey]
    have hrevoked : (s.change (.create p)).revoked = s.revoked := by
      simp [State.change, State.recordCreate, hkey]
    exact ⟨(staysSo_congr htable hasked hrevoked).mpr h, recorded_congr htable hasked hrevoked hr⟩
  | some entry =>
    obtain ⟨key, value⟩ := entry
    obtain ⟨row, hvalue, hput⟩ := run_put_of_some hkey s.permissions
    rw [hput] at htable
    have hasked : (s.change (.create p)).asked = Function.update s.asked key (some value) := by
      simp [State.change, State.recordCreate, State.recordPut, hkey]
    have hrevoked : (s.change (.create p)).revoked = Function.update s.revoked key false := by
      simp [State.change, State.recordCreate, hkey]
    have hasked' : ∀ k, k ≠ key → (s.change (.create p)).asked k = s.asked k := by
      intro k hk
      rw [hasked, Function.update_of_ne hk]
    have hrevoked' : ∀ k, k ≠ key → (s.change (.create p)).revoked k = s.revoked k := by
      intro k hk
      rw [hrevoked, Function.update_of_ne hk]
    refine ⟨(staysSo_put_iff h htable hasked' hrevoked').mpr ⟨?_, ?_⟩, recorded_put hr htable hasked' hrevoked'⟩
    · rw [hrevoked, Function.update_self]
    · rw [hasked, Function.update_self, hvalue]

/-- An update keeps what was asked for exactly when its row is not a revoked one. -/
theorem update_keeps_iff (h : StaysSo s) (hr : Recorded s) :
    (StaysSo (s.change (.update p)) ↔ Undisturbed s (.change (.update p))) ∧ Recorded (s.change (.update p)) := by
  have htable : (s.change (.update p)).permissions = ((putPermission p).run s.permissions).2 :=
    applied_update p s.permissions
  have hrevoked : (s.change (.update p)).revoked = s.revoked := by
    simp only [State.change, State.recordPut]
    split <;> rfl
  unfold Undisturbed
  cases hkey : putKey p with
  | none =>
    rw [run_put_of_none hkey] at htable
    have hasked : (s.change (.update p)).asked = s.asked := by
      simp [State.change, State.recordPut, hkey]
    exact ⟨iff_of_true ((staysSo_congr htable hasked hrevoked).mpr h)
      fun key value hentry => absurd (hkey.symm.trans hentry) (by simp),
      recorded_congr htable hasked hrevoked hr⟩
  | some entry =>
    obtain ⟨key, value⟩ := entry
    obtain ⟨row, hvalue, hput⟩ := run_put_of_some hkey s.permissions
    rw [hput] at htable
    have hasked : (s.change (.update p)).asked = Function.update s.asked key (some value) := by
      simp [State.change, State.recordPut, hkey]
    have hasked' : ∀ k, k ≠ key → (s.change (.update p)).asked k = s.asked k := by
      intro k hk
      rw [hasked, Function.update_of_ne hk]
    have hrevoked' : ∀ k, k ≠ key → (s.change (.update p)).revoked k = s.revoked k :=
      fun k _ => by rw [hrevoked]
    refine ⟨?_, recorded_put hr htable hasked' hrevoked'⟩
    rw [staysSo_put_iff h htable hasked' hrevoked', hrevoked, hasked, Function.update_self, hvalue]
    constructor
    · rintro ⟨hnot, -⟩ k v hentry
      obtain ⟨rfl, -⟩ := Prod.mk.inj (Option.some.inj (hkey.symm.trans hentry))
      exact hnot
    · exact fun hnot => ⟨hnot key value hkey, rfl⟩

/-- A delivery of the handler that writes a permission back keeps what was asked for exactly when the
row is there with the values that are written. -/
theorem write_keeps_iff (n : Nat) (d : Display) (p : SessionPermission) (rest : List SessionPermission)
    (h : StaysSo s) (hr : Recorded s) : (StaysSo (s.write n d p rest) ↔ (d.changes = true → UpToDate p s.permissions)) ∧
      Recorded (s.write n d p rest) := by
  have htable : (s.write n d p rest).permissions = ((updatePermission d p).run s.permissions).2 := by
    unfold State.write
    rcases (updatePermission d p).run s.permissions with ⟨e | u, t⟩ <;> rfl
  have hasked : (s.write n d p rest).asked = s.asked := by
    unfold State.write
    rcases (updatePermission d p).run s.permissions with ⟨e | u, t⟩ <;> rfl
  have hrevoked : (s.write n d p rest).revoked = s.revoked := by
    unfold State.write
    rcases (updatePermission d p).run s.permissions with ⟨e | u, t⟩ <;> rfl
  by_cases hd : d.changes = true
  · obtain ⟨p', hp', hrun⟩ := run_updatePermission_of_changes hd p s.permissions
    rw [hrun] at htable
    unfold UpToDate
    cases hkey : putKey p with
    | none =>
      rw [run_put_of_none (hp'.trans hkey)] at htable
      exact ⟨iff_of_true ((staysSo_congr htable hasked hrevoked).mpr h) (by simp),
        recorded_congr htable hasked hrevoked hr⟩
    | some entry =>
      obtain ⟨key, value⟩ := entry
      obtain ⟨row, hvalue, hput⟩ := run_put_of_some (hp'.trans hkey) s.permissions
      rw [hput] at htable
      have hasked' : ∀ k, k ≠ key → (s.write n d p rest).asked k = s.asked k := fun k _ => by rw [hasked]
      have hrevoked' : ∀ k, k ≠ key → (s.write n d p rest).revoked k = s.revoked k :=
        fun k _ => by rw [hrevoked]
      refine ⟨?_, recorded_put hr htable hasked' hrevoked'⟩
      rw [staysSo_put_iff h htable hasked' hrevoked', hrevoked, hasked, hvalue]
      constructor
      · rintro ⟨hnot, hvalue'⟩ - k v hentry
        obtain ⟨rfl, rfl⟩ := Prod.mk.inj (Option.some.inj hentry)
        obtain ⟨old, hold⟩ := Table.has_iff.mp (hr key (by rw [hvalue']; rfl) hnot)
        exact ⟨old, hold, Option.some.inj ((h.current key old hold).symm.trans hvalue')⟩
      · intro hup
        obtain ⟨old, hold, hsame⟩ := hup hd key value rfl
        refine ⟨?_, by rw [h.current key old hold, hsame]⟩
        by_contra hnot
        exact h.revoked key (by simpa using hnot) (Table.Has.of_getItem hold)
  · have hd' : d.changes = false := by simpa using hd
    rw [run_updatePermission_of_not_changes hd'] at htable
    exact ⟨iff_of_true ((staysSo_congr htable hasked hrevoked).mpr h) fun htrue => absurd htrue hd,
      recorded_congr htable hasked hrevoked hr⟩

theorem undisturbed_of_next_eq_none {a : Access} (h : next paginator s a = none) : Undisturbed s a := by
  cases a with
  | change c => exact absurd h (by simp [next])
  | expire p => trivial
  | read n o event => trivial
  | write n =>
    intro d p rest hpending
    simp [next, hpending] at h

/-- **One access** keeps what was asked for exactly when it is undisturbed. -/
theorem next_keeps_iff {a : Access} (h : StaysSo s) (hr : Recorded s) (hnext : next paginator s a = some s') :
    (StaysSo s' ↔ Undisturbed s a) ∧ Recorded s' := by
  cases a with
  | change c =>
    obtain rfl : s.change c = s' := Option.some.inj hnext
    cases c with
    | create p =>
      obtain ⟨hkeeps, hrecorded⟩ := create_keeps p h hr
      exact ⟨iff_of_true hkeeps trivial, hrecorded⟩
    | update p => exact update_keeps_iff p h hr
    | delete p =>
      obtain ⟨hkeeps, hrecorded⟩ := delete_keeps p h hr
      exact ⟨iff_of_true hkeeps trivial, hrecorded⟩
  | expire p =>
    obtain rfl : s.delete p = s' := Option.some.inj hnext
    obtain ⟨hkeeps, hrecorded⟩ := delete_keeps p h hr
    exact ⟨iff_of_true hkeeps trivial, hrecorded⟩
  | read n o event =>
    obtain rfl := Option.some.inj hnext
    exact ⟨iff_of_true ⟨h.revoked, h.current⟩ trivial, hr⟩
  | write n =>
    unfold next at hnext
    unfold Undisturbed
    rcases hpending : s.pending n with ⟨d, permissions⟩
    cases permissions with
    | nil => simp [hpending] at hnext
    | cons p rest =>
      simp only [hpending, Option.some.injEq] at hnext
      obtain rfl := hnext
      obtain ⟨hiff, hrecorded⟩ := write_keeps_iff n d p rest h hr
      refine ⟨hiff.trans ⟨fun hup d' p' rest' hentry hd => ?_, fun hup => ?_⟩, hrecorded⟩
      · obtain ⟨rfl, hlist⟩ := Prod.mk.inj (hpending.symm.trans hentry)
        obtain ⟨rfl, -⟩ := List.cons.inj hlist
        exact hup hd
      · exact hup d p rest hpending

/-! ## Runs -/

theorem staysSo_start : StaysSo (start t) ∧ Recorded (start t) := by
  refine ⟨⟨fun key hkey => absurd hkey (by simp [start]), fun key row hrow => ?_⟩, fun key hkey _ => ?_⟩
  · simp only [start] at hrow ⊢
    rw [hrow, Option.map_some]
  · simp only [start, Option.isSome_map] at hkey
    exact hkey

/-- A run from a state keeps what was asked for throughout exactly when its accesses are undisturbed. -/
theorem keeps_iff_meets (accesses : List Access) (h : StaysSo s) (hr : Recorded s) :
    (∀ pre s', pre <+: accesses → (system paginator).exec s pre = some s' → StaysSo s') ↔
      (system paginator).Meets Undisturbed s accesses := by
  induction accesses generalizing s with
  | nil =>
    refine iff_of_true (fun pre s' hpre hexec => ?_) trivial
    obtain rfl := List.prefix_nil.mp hpre
    obtain rfl : s = s' := Option.some.inj hexec
    exact h
  | cons a accesses ih =>
    rw [System.meets_cons]
    have hnext : ∀ t, (system paginator).next s a = some t →
        (StaysSo t ↔ Undisturbed s a) ∧ Recorded t := fun t ht => next_keeps_iff paginator h hr ht
    constructor
    · intro hkeeps
      have hrest : ∀ t, (system paginator).next s a = some t →
          ∀ pre s', pre <+: accesses → (system paginator).exec t pre = some s' → StaysSo s' := by
        intro t ht pre s' hpre hexec
        refine hkeeps (a :: pre) s' (List.cons_prefix_cons.mpr ⟨rfl, hpre⟩) ?_
        rw [System.exec_cons, ht]
        exact hexec
      refine ⟨?_, fun t ht => ?_⟩
      · cases hs : (system paginator).next s a with
        | none => exact undisturbed_of_next_eq_none paginator hs
        | some t => exact (hnext t hs).1.mp (hrest t hs [] t (List.nil_prefix) rfl)
      · have ht' : StaysSo t := hrest t ht [] t (List.nil_prefix) rfl
        exact (ih ht' (hnext t ht).2).mp (hrest t ht)
    · rintro ⟨ha, hrest⟩ pre s' hpre hexec
      cases pre with
      | nil =>
        obtain rfl : s = s' := Option.some.inj hexec
        exact h
      | cons b pre =>
        obtain ⟨rfl, hpre'⟩ := List.cons_prefix_cons.mp hpre
        rw [System.exec_cons, Option.bind_eq_some_iff] at hexec
        obtain ⟨t, ht, hexec⟩ := hexec
        have ht' : StaysSo t := (hnext t ht).1.mpr ha
        exact (ih ht' (hnext t ht).2).mpr (hrest t ht) pre s' hpre' hexec

/-- **Revoked or changed sharing stays so.** In a run of requests, sweeps and deliveries of the handler in
any order the permissions stay what they were asked to be, in every state of the run, if and only if
every permission that the handler writes back is written over its row with the profile id and the
expiry date that were read, and no update brings back a permission that was deleted. -/
theorem stays_so_iff (t : Permissions) (accesses : List Access) :
    (∀ pre s, pre <+: accesses → (system paginator).exec (start t) pre = some s → StaysSo s) ↔
      (system paginator).Meets Undisturbed (start t) accesses :=
  keeps_iff_meets paginator accesses (staysSo_start t).1 (staysSo_start t).2

/-- The permission of `guest` is deleted while the handler is about to write a new name: it is there
again. -/
theorem revoked_brought_back : ¬ ∀ (t : Permissions) (accesses : List Access) (s : State),
      (system (Paginator.single _)).exec (start t) accesses = some s → StaysSo s := by
  intro h
  have hstays := h ((∅ : Permissions).putItem ("s1", "guest") expiredRow)
    [.read 0 .done ⟨some "s1", some .ideaSessionPermissionsUpdate,
        some [("idea_session_id", .S "s1"), ("new_name", .S "desk 2")]⟩,
      .change (.delete ⟨some "s1", none, none, none, none, none, none, none, none, some "guest", none⟩), .write 0] _ rfl
  exact hstays.revoked ("s1", "guest") (by decide) (by decide)

/-! ## The accesses of one call -/

/-- The writes of a delivery that is not interrupted. -/
theorem exec_writes (n : Nat) (d : Display) (permissions : List SessionPermission)
    (hpending : s.pending n = (d, permissions)) :
    ∃ k s', (system paginator).exec s (List.replicate k (.write n)) = some s' ∧
      s'.permissions = ((Proc.forEach (updatePermission d) permissions).run s.permissions).2 ∧
      (s'.pending n).2 = [] := by
  induction permissions generalizing s with
  | nil => exact ⟨0, s, rfl, rfl, by rw [hpending]⟩
  | cons p rest ih =>
    have hnext : (system paginator).next s (.write n) = some (s.write n d p rest) := by
      simp only [system, next, hpending]
    have hself : ∀ permissions, (s.withPending n d permissions).pending n = (d, permissions) :=
      fun permissions => Function.update_self _ _ s.pending
    rw [Proc.forEach_cons, Proc.run_bind]
    rcases hrun : (updatePermission d p).run s.permissions with ⟨e | u, t⟩
    · have hwrite : s.write n d p rest = { s.withPending n d [] with permissions := t } := by
        rw [State.write, hrun]
      refine ⟨1, s.write n d p rest, ?_, by rw [hwrite], by rw [hwrite]; exact congrArg Prod.snd (hself [])⟩
      rw [List.replicate_one, System.exec_cons, hnext]
      rfl
    · have hwrite : s.write n d p rest = { s.withPending n d rest with permissions := t } := by
        rw [State.write, hrun]
      have hrest : (s.write n d p rest).pending n = (d, rest) := by
        rw [hwrite]
        exact hself rest
      obtain ⟨k, s', hexec, htable, hdone⟩ := ih hrest
      refine ⟨k + 1, s', ?_, ?_, hdone⟩
      · rw [List.replicate_succ, System.exec_cons, hnext]
        exact hexec
      · rw [htable, hwrite]

/-- A page of a sweep deletes expired permissions. -/
theorem exec_sweepPermissions (o : SweepOutcomes) (eventTime : Int) (permissions : List SessionPermission)
    (info : List SessionInfo) (w : World) (hw : w.permissions = s.permissions) :
    ∃ (deleted : List SessionPermission) (s' : State), (system paginator).exec s (deleted.map .expire) = some s' ∧
      (∀ p ∈ deleted, ∃ expiryDate, p.expiryDate = some expiryDate ∧ expiryDate ≤ eventTime) ∧
      s'.permissions = ((sweepPermissions o eventTime permissions info).run w).2.permissions := by
  induction permissions generalizing info w s with
  | nil => exact ⟨[], s, rfl, fun p hp => absurd hp List.not_mem_nil, hw.symm⟩
  | cons p rest ih =>
    unfold sweepPermissions
    cases hexpiry : p.expiryDate with
    | none => exact ⟨[], s, rfl, fun p hp => absurd hp List.not_mem_nil, hw.symm⟩
    | some expiryDate =>
      dsimp only
      by_cases hle : expiryDate ≤ eventTime
      · rw [if_pos hle, Proc.run_bind]
        have hzoom : (onPermissions (SessionPermissions.delete p)).run w =
            (((SessionPermissions.delete p).run w.permissions).1,
              { w with permissions := afterDelete p w.permissions }) := rfl
        have htable : (s.delete p).permissions = afterDelete p w.permissions := by
          rw [hw]
          rfl
        have hone : ∀ p' ∈ [p], ∃ expiryDate, p'.expiryDate = some expiryDate ∧ expiryDate ≤ eventTime := by
          intro p' hp'
          rw [List.mem_singleton.mp hp']
          exact ⟨expiryDate, hexpiry, hle⟩
        rcases hrun : (Proc.attempt (o.delete (p.ideaSessionId.getD "", p.actorName.getD "")) callFailed
          (onPermissions (SessionPermissions.delete p))).run w with ⟨e | u, w'⟩
        · rcases Proc.run_attempt_cases hrun with ⟨-, hcall⟩ | ⟨-, -, rfl⟩ | ⟨-, -, rfl⟩
          · refine ⟨[p], s.delete p, rfl, hone, ?_⟩
            rw [hzoom] at hcall
            rw [htable, ← congrArg Prod.snd hcall]
          · exact ⟨[], s, rfl, fun p hp => absurd hp List.not_mem_nil, hw.symm⟩
          · exact ⟨[p], s.delete p, rfl, hone, by rw [htable, hzoom]⟩
        · rw [Proc.done_of_returns_attempt hrun, Proc.attempt_done, hzoom] at hrun
          have hw' : w'.permissions = (s.delete p).permissions := by
            rw [htable]
            exact congrArg (fun r => r.2.permissions) hrun.symm
          obtain ⟨deleted, s', hexec, hall, hrest⟩ := ih _ w' hw'
          refine ⟨p :: deleted, s', hexec, fun p' hp' => ?_, hrest⟩
          rcases List.mem_cons.mp hp' with rfl | hlater
          · exact ⟨expiryDate, hexpiry, hle⟩
          · exact hall p' hlater
      · rw [if_neg hle]
        exact ih info w hw

/-- The pages of a sweep, one after the other. -/
theorem exec_sweepPages (o : SweepOutcomes) (eventTime : Int) (i : Nat) (pages : List (List Entry))
    (info : List SessionInfo) (w : World) (hw : w.permissions = s.permissions) :
    ∃ (deleted : List SessionPermission) (s' : State), (system paginator).exec s (deleted.map .expire) = some s' ∧
      (∀ p ∈ deleted, ∃ expiryDate, p.expiryDate = some expiryDate ∧ expiryDate ≤ eventTime) ∧
      s'.permissions = ((sweepPages o eventTime i pages info).run w).2.permissions := by
  induction pages generalizing i info w s with
  | nil => exact ⟨[], s, rfl, fun p hp => absurd hp List.not_mem_nil, hw.symm⟩
  | cons page pages ih =>
    have hlist : ∃ r, (onPermissions (SessionPermissions.listAllFromDb (o.scan i) page)).run w = (.ok r, w) := ⟨_, rfl⟩
    obtain ⟨⟨permissions, complete⟩, hlist⟩ := hlist
    obtain ⟨deleted, s', hexec, hall, htable⟩ := exec_sweepPermissions paginator o eventTime permissions info w hw
    unfold sweepPages
    rw [Proc.run_bind_of_ok hlist]
    dsimp only
    rw [Proc.run_bind]
    rcases hrun : (sweepPermissions o eventTime permissions info).run w with ⟨e | info', w'⟩
    · rw [hrun] at htable
      exact ⟨deleted, s', hexec, hall, htable⟩
    · rw [hrun] at htable
      cases complete
      · exact ⟨deleted, s', hexec, hall, htable⟩
      · obtain ⟨more, s'', hexec', hall', htable'⟩ := ih (i + 1) info' w' htable.symm
        refine ⟨deleted ++ more, s'', ?_, fun p hp => ?_, htable'⟩
        · rw [List.map_append, System.exec_append, hexec]
          exact hexec'
        · rcases List.mem_append.mp hp with hp | hp
          · exact hall p hp
          · exact hall' p hp

/-- A publication does not change the table. -/
theorem publishAll_permissions (clock : Nat → Int) (o : Nat → Outcome) (i : Nat)
    (sessions : List SessionInfo) (w : World) :
    ((publishAll clock o i sessions).run w).2.permissions = w.permissions := by
  induction sessions generalizing i w with
  | nil => rfl
  | cons session rest ih =>
    have hkeeps : Keeps (fun w' : World => w'.permissions = w.permissions)
        (Proc.attempt (o i) callFailed (onOutbox (publishEnforceSessionPermissionsEvent clock session.1 session.2))) :=
      Keeps.attempt (Keeps.zoom fun _ h => h) _ _
    unfold publishAll
    rw [Proc.run_bind]
    rcases hrun : (Proc.attempt (o i) callFailed
      (onOutbox (publishEnforceSessionPermissionsEvent clock session.1 session.2))).run w with ⟨e | u, w'⟩
    · exact hkeeps.of_error rfl hrun
    · exact (ih (i + 1) w').trans (hkeeps.of_ok rfl hrun)

end PermissionUpdates

end ContainRes.VirtualDesktop
