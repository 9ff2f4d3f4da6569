import ContainRes.Common.Exceptions
import ContainRes.Effects.Faults
import ContainRes.Store.Scan
import ContainRes.Store.Table
import ContainRes.VirtualDesktop.Model

/-! # The session permissions table

`VirtualDesktopSessionPermissionDB`: who may connect to a session besides its owner, one row for a session
and an actor. Creation times and the other attributes that no modelled function looks at are left out.

* **`SessionPermission`**, **`SessionPermissionRow`** — a permission as an object and as the attributes of
  its row; a row without an operating system, a state or a type cannot be read back.
* **`create`**, **`update`** — both put the attributes whether or not there is a row.
* **`delete`** — the deletion of a row that is not there raises.
* **`getForSession`**, **`readPage`** — what a query returns: nothing when it fails, and what a page of
  the scan returns: the permissions in front of the first row that cannot be read. -/

namespace ContainRes.VirtualDesktop.SessionPermissions

open Effects Store Text

/-- `VirtualDesktopBaseOS`. -/
inductive BaseOS
  | amazonLinux2
  | centos7
  | rhel7
  | rhel8
  | rhel9
  | windows
  deriving DecidableEq, Repr

/-- `VirtualDesktopSessionType`. -/
inductive SessionType
  | console
  | virtual
  deriving DecidableEq, Repr

/-- `VirtualDesktopSessionPermissionActorType`. -/
inductive ActorType
  | user
  | group
  deriving DecidableEq, Repr

/-- `VirtualDesktopSessionPermission`, with the id of its profile if it has one. The expiry date is in
milliseconds. -/
structure SessionPermission where
  ideaSessionId : Option String
  ideaSessionOwner : Option String
  ideaSessionName : Option String
  ideaSessionInstanceType : Option String
  ideaSessionState : Option VirtualDesktopSessionState
  ideaSessionBaseOs : Option BaseOS
  ideaSessionType : Option SessionType
  permissionProfile : Option (Option String)
  actorType : Option ActorType
  actorName : Option String
  expiryDate : Option Int
  deriving DecidableEq, Repr

/-- The attributes of a row beside its key. -/
structure SessionPermissionRow where
  ideaSessionOwner : Option String
  ideaSessionName : Option String
  ideaSessionInstanceType : Option String
  ideaSessionState : Option VirtualDesktopSessionState
  ideaSessionBaseOs : Option BaseOS
  ideaSessionType : Option SessionType
  permissionProfileId : Option String
  actorType : Option ActorType
  expiryDate : Int
  deriving DecidableEq, Repr

/-- The table, under the id of the session and the name of the actor. -/
abbrev Permissions : Type := Table (String × String) SessionPermissionRow

def toMilliseconds (datetime : Option Int) : Int := datetime.getD 0

/-- `Utils.to_datetime`, which drops what is less than a second. -/
def toDatetime (milliseconds : Int) : Int := milliseconds.tdiv 1000 * 1000

/-- `Utils.get_value_as_string` with an empty default. -/
def textOf (s : Option String) : String := (getAsString s).getD ""

/-- A value of an enumeration that may be missing from the row. -/
def required {α : Type} (value : Option α) (e : Exc) : Except Exc α :=
  match value with
  | some a => .ok a
  | none => .error e

def convertDbDictToSessionPermissionObject (key : String × String) (row : SessionPermissionRow) :
    Except Exc SessionPermission := do
  let baseOs ← required row.ideaSessionBaseOs (.other .valueError "'' is not a valid VirtualDesktopBaseOS")
  let state ← required row.ideaSessionState
    (.other .valueError "'' is not a valid VirtualDesktopSessionState")
  let sessionType ← required row.ideaSessionType (.other .keyError "None")
  let actorType ← required row.actorType
    (.other .valueError "'' is not a valid VirtualDesktopSessionPermissionActorType")
  return {
    ideaSessionId := some (textOf (some key.1))
    ideaSessionOwner := some (textOf row.ideaSessionOwner)
    ideaSessionName := some (textOf row.ideaSessionName)
    ideaSessionInstanceType := some (textOf row.ideaSessionInstanceType)
    ideaSessionState := some state
    ideaSessionBaseOs := some baseOs
    ideaSessionType := some sessionType
    permissionProfile := some (some (textOf row.permissionProfileId))
    actorType := some actorType
    actorName := some (textOf (some key.2))
    expiryDate := some (toDatetime row.expiryDate) }

/-- `convert_session_permission_object_to_db_dict`, without the key. -/
def convertSessionPermissionObjectToDbDict (p : SessionPermission) : Except Exc SessionPermissionRow := do
  let profileId ← required p.permissionProfile
    (.other .attributeError "'NoneType' object has no attribute 'profile_id'")
  return {
    ideaSessionOwner := p.ideaSessionOwner
    ideaSessionName := p.ideaSessionName
    ideaSessionInstanceType := p.ideaSessionInstanceType
    ideaSessionState := p.ideaSessionState
    ideaSessionBaseOs := p.ideaSessionBaseOs
    ideaSessionType := p.ideaSessionType
    permissionProfileId := profileId
    actorType := p.actorType
    expiryDate := toMilliseconds p.expiryDate }

/-- The key of a permission; the store rejects one with a part that is missing or empty. -/
def keyOf (p : SessionPermission) : Except Exc (String × String) :=
  match p.ideaSessionId, p.actorName with
  | some id, some actor =>
    if id = "" ∨ actor = "" then .error (.other .clientError "ValidationException") else .ok (id, actor)
  | _, _ => .error (.other .clientError "ValidationException")

/-- The attributes are put under the key, and the permission is made from them again. -/
def putPermission (p : SessionPermission) : Proc Permissions Exc SessionPermission := do
  let row ← Proc.liftExcept (convertSessionPermissionObjectToDbDict p)
  let key ← Proc.liftExcept (keyOf p)
  Proc.modify fun t => t.putItem key row
  Proc.liftExcept (convertDbDictToSessionPermissionObject key row)

/-- `VirtualDesktopSessionPermissionDB.create`: `put_item`. -/
def create (p : SessionPermission) : Proc Permissions Exc SessionPermission := putPermission p

/-- `VirtualDesktopSessionPermissionDB.update`: `update_item` sets every attribute, and makes a row where
there is none. -/
def update (p : SessionPermission) : Proc Permissions Exc SessionPermission := putPermission p

/-- `VirtualDesktopSessionPermissionDB.delete`: the event about the deletion is made from the row that was
there, and without one that raises. -/
def delete (p : SessionPermission) : Proc Permissions Exc PUnit :=
  if isEmptyOpt p.ideaSessionId || isEmptyOpt p.actorName then
    Proc.raise (Exc.invalidParams "idea_session_id and actor_name is required")
  else do
    let key := (p.ideaSessionId.getD "", p.actorName.getD "")
    let old ← Proc.gets fun t : Permissions => t.getItem key
    Proc.modify fun t => t.deleteItem key
    Proc.when (old = none) (Proc.raise (.other .keyError "'idea_session_id'"))

/-- The permissions read from rows, and whether every row could be read: the first that cannot ends the
loop, and the exception is logged. -/
def readPage : List ((String × String) × SessionPermissionRow) → List SessionPermission × Bool
  | [] => ([], true)
  | (key, row) :: rest =>
    match convertDbDictToSessionPermissionObject key row with
    | .ok p => (p :: (readPage rest).1, (readPage rest).2)
    | .error _ => ([], false)

variable (paginator : Paginator ((String × String) × SessionPermissionRow))

/-- The rows of a session that one query reads. -/
def queryRows (ideaSessionId : String) (t : Permissions) : List ((String × String) × SessionPermissionRow) :=
  paginator.first (t.scan.filter fun entry => entry.1.1 = ideaSessionId)

/-- `VirtualDesktopSessionPermissionDB.get_for_session`, with the outcome of the query: one page of the
session's rows, and nothing when the query fails or a row cannot be read. -/
def getForSession (o : Outcome) (ideaSessionId : String) :
    Proc Permissions Exc (List SessionPermission) :=
  if isEmpty ideaSessionId then pure []
  else Proc.gets fun t =>
    if o = .done then
      let (permissions, complete) := readPage (queryRows paginator ideaSessionId t)
      if complete then permissions else []
    else []

/-! ## What the operations do -/

/-- A row that can be read back. -/
def SessionPermissionRow.Readable (row : SessionPermissionRow) : Prop :=
  row.ideaSessionBaseOs.isSome ∧ row.ideaSessionState.isSome ∧ row.ideaSessionType.isSome ∧
    row.actorType.isSome

instance (row : SessionPermissionRow) : Decidable row.Readable := by
  unfold SessionPermissionRow.Readable
  infer_instance

/-- A name that is read back as it is. -/
def Plain (s : String) : Prop := getAsString (some s) = some s

instance (s : String) : Decidable (Plain s) := inferInstanceAs (Decidable (_ = _))

variable {s : String}

theorem Plain.textOf (h : Plain s) : textOf (some s) = s := by
  have hs : getAsString (some s) = some s := h
  rw [SessionPermissions.textOf, hs, Option.getD_some]

theorem Plain.isEmpty (h : Plain s) : isEmpty s = false := by
  by_contra hblank
  have hblank' : Text.isEmpty s = true := by simpa using hblank
  have hs : getAsString (some s) = some s := h
  simp [getAsString, hblank'] at hs

theorem Plain.getAsString (h : Plain s) : getAsString (some s) = some s := h

theorem Plain.isEmptyOpt (h : Plain s) : isEmptyOpt (some s) = false := by
  simp [Text.isEmptyOpt, h.isEmpty]

variable {row : SessionPermissionRow}

/-- A row that can be read is read back under its key. -/
theorem exists_convert (h : row.Readable) (key : String × String) :
    ∃ p, convertDbDictToSessionPermissionObject key row = .ok p ∧
      p.ideaSessionId = some (textOf (some key.1)) ∧ p.actorName = some (textOf (some key.2)) ∧
      p.ideaSessionOwner = some (textOf row.ideaSessionOwner) ∧
      p.permissionProfile = some (some (textOf row.permissionProfileId)) ∧
      p.expiryDate = some (toDatetime row.expiryDate) := by
  obtain ⟨hos, hstate, htype, hactor⟩ := h
  obtain ⟨os, hos⟩ := Option.isSome_iff_exists.mp hos
  obtain ⟨state, hstate⟩ := Option.isSome_iff_exists.mp hstate
  obtain ⟨sessionType, htype⟩ := Option.isSome_iff_exists.mp htype
  obtain ⟨actorType, hactor⟩ := Option.isSome_iff_exists.mp hactor
  simp only [convertDbDictToSessionPermissionObject, hos, hstate, htype, hactor, required]
  exact ⟨_, rfl, rfl, rfl, rfl, rfl, rfl⟩

variable {p : SessionPermission} {key : String × String}

/-- Only a row that can be read is read back. -/
theorem readable_of_convert (h : convertDbDictToSessionPermissionObject key row = .ok p) : row.Readable := by
  simp only [convertDbDictToSessionPermissionObject] at h
  unfold SessionPermissionRow.Readable
  cases hos : row.ideaSessionBaseOs <;> cases hstate : row.ideaSessionState <;>
    cases htype : row.ideaSessionType <;> cases hactor : row.actorType <;>
    simp_all [required, Bind.bind, Except.bind]

theorem expiryDate_of_convert
    (h : convertDbDictToSessionPermissionObject key row = .ok p) : p.expiryDate = some (toDatetime row.expiryDate) := by
  obtain ⟨p', hp', -, -, -, -, hexpiry⟩ := exists_convert (readable_of_convert h) key
  rw [h] at hp'
  rw [Except.ok.inj hp', hexpiry]

/-- Each permission read from a page has its row there. -/
theorem exists_entry_of_mem_readPage {entries : List ((String × String) × SessionPermissionRow)}
    (h : p ∈ (readPage entries).1) :
    ∃ entry ∈ entries, convertDbDictToSessionPermissionObject entry.1 entry.2 = .ok p := by
  induction entries with
  | nil => exact absurd h List.not_mem_nil
  | cons entry rest ih =>
    cases hconv : convertDbDictToSessionPermissionObject entry.1 entry.2 with
    | error e =>
      simp only [readPage, hconv] at h
      exact absurd h List.not_mem_nil
    | ok q =>
      simp only [readPage, hconv] at h
      rcases List.mem_cons.mp h with rfl | hlater
      · exact ⟨entry, List.mem_cons_self, hconv⟩
      · obtain ⟨entry', hmem, hconv'⟩ := ih hlater
        exact ⟨entry', List.mem_cons_of_mem _ hmem, hconv'⟩

/-- The permissions read from a page of rows that can all be read. -/
theorem readPage_of_readable (rows : List ((String × String) × SessionPermissionRow))
    (h : ∀ entry ∈ rows, entry.2.Readable) : (readPage rows).2 = true ∧
      List.Forall₂ (fun entry p => convertDbDictToSessionPermissionObject entry.1 entry.2 = .ok p) rows
        (readPage rows).1 := by
  induction rows with
  | nil => exact ⟨rfl, .nil⟩
  | cons entry rest ih =>
    obtain ⟨p, hp, -⟩ := exists_convert (h entry List.mem_cons_self) entry.1
    obtain ⟨hcomplete, hread⟩ := ih fun e he => h e (List.mem_cons_of_mem _ he)
    simp only [readPage, hp]
    exact ⟨hcomplete, .cons hp hread⟩

/-- Each row that was read has its permission. -/
theorem exists_permission_of_mem {entries : List ((String × String) × SessionPermissionRow)}
    {permissions : List SessionPermission}
    (h : List.Forall₂ (fun entry p => convertDbDictToSessionPermissionObject entry.1 entry.2 = .ok p)
      entries permissions)
    {entry : (String × String) × SessionPermissionRow} (hmem : entry ∈ entries) :
    ∃ p ∈ permissions, convertDbDictToSessionPermissionObject entry.1 entry.2 = .ok p := by
  induction h with
  | nil => exact absurd hmem List.not_mem_nil
  | cons hp _ ih =>
    rcases List.mem_cons.mp hmem with rfl | hlater
    · exact ⟨_, List.mem_cons_self, hp⟩
    · obtain ⟨p, hmem', hp'⟩ := ih hlater
      exact ⟨p, List.mem_cons_of_mem _ hmem', hp'⟩

theorem reads_getForSession (o : Outcome) (ideaSessionId : String) : Reads (getForSession paginator o ideaSessionId) :=
  Reads.ite (fun _ => Reads.pure _) fun _ => Reads.gets _

theorem run_getForSession_of_ne_done {o : Outcome} (h : o ≠ .done) (ideaSessionId : String)
    (t : Permissions) : (getForSession paginator o ideaSessionId).run t = (.ok [], t) := by
  unfold getForSession
  by_cases hid : isEmpty ideaSessionId = true
  · rw [if_pos hid, Proc.run_pure]
  · rw [if_neg hid, Proc.run_gets, if_neg h]

variable {ideaSessionId : String}

/-- A query whose rows can all be read returns a permission for each of them. -/
theorem run_getForSession (hid : isEmpty ideaSessionId = false) (t : Permissions)
    (h : ∀ entry ∈ queryRows paginator ideaSessionId t, entry.2.Readable) :
    ∃ permissions, (getForSession paginator .done ideaSessionId).run t = (.ok permissions, t) ∧
      List.Forall₂ (fun entry p => convertDbDictToSessionPermissionObject entry.1 entry.2 = .ok p)
        (queryRows paginator ideaSessionId t) permissions := by
  obtain ⟨hcomplete, hread⟩ := readPage_of_readable _ h
  refine ⟨(readPage (queryRows paginator ideaSessionId t)).1, ?_, hread⟩
  unfold getForSession
  rw [if_neg (by simp [hid]), Proc.run_gets, if_pos rfl]
  simp only [hcomplete, if_true]

variable {t : Permissions}

theorem mem_of_mem_queryRows
    {entry : (String × String) × SessionPermissionRow} (h : entry ∈ queryRows paginator ideaSessionId t) :
    t.getItem entry.1 = some entry.2 ∧ entry.1.1 = ideaSessionId := by
  have hmem := paginator.mem_of_mem_first h
  rw [List.mem_filter] at hmem
  exact ⟨Table.mem_scan.mp hmem.1, by simpa using hmem.2⟩

/-- Each permission that a query returns has its row. -/
theorem exists_row_of_mem_getForSession {o : Outcome}
    {permissions : List SessionPermission} (h : ((getForSession paginator o ideaSessionId).run t).1 = .ok permissions)
    (hp : p ∈ permissions) : isEmpty ideaSessionId = false ∧ ∃ entry : (String × String) × SessionPermissionRow,
      t.getItem entry.1 = some entry.2 ∧ entry.1.1 = ideaSessionId ∧
        convertDbDictToSessionPermissionObject entry.1 entry.2 = .ok p := by
  unfold getForSession at h
  by_cases hid : isEmpty ideaSessionId = true
  · rw [if_pos hid] at h
    rw [← Except.ok.inj h] at hp
    exact absurd hp List.not_mem_nil
  · rw [if_neg hid, Proc.run_gets] at h
    have hpermissions := Except.ok.inj h
    rw [← hpermissions] at hp
    split at hp
    · dsimp only at hp
      split at hp
      · obtain ⟨entry, hentry, hconv⟩ := exists_entry_of_mem_readPage hp
        obtain ⟨hrow, hkey⟩ := mem_of_mem_queryRows paginator hentry
        exact ⟨by simpa using hid, entry, hrow, hkey, hconv⟩
      · exact absurd hp List.not_mem_nil
    · exact absurd hp List.not_mem_nil

/-- What is left after a deletion was there before. -/
theorem getItem_of_run_delete (h : ((delete p).run t).2.getItem key = some row) : t.getItem key = some row := by
  unfold delete at h
  split at h
  · exact h
  · rw [Proc.run_bind_of_ok (Proc.run_gets _ t), Proc.run_bind_of_ok (Proc.run_modify _ t)] at h
    rw [Proc.state_when_raise, Table.getItem_deleteItem] at h
    split at h
    · exact absurd h (by simp)
    · exact h

/-- The deletion of a row that is there. -/
theorem run_delete (hid : p.ideaSessionId = some key.1) (hactor : p.actorName = some key.2)
    (hidText : isEmpty key.1 = false) (hactorText : isEmpty key.2 = false)
    (hrow : t.getItem key = some row) : (delete p).run t = (.ok ⟨⟩, t.deleteItem key) := by
  have hguard : (isEmptyOpt p.ideaSessionId || isEmptyOpt p.actorName) = false := by
    simp [isEmptyOpt, hid, hactor, hidText, hactorText]
  have hkey : (p.ideaSessionId.getD "", p.actorName.getD "") = key := by
    rw [hid, hactor]
    rfl
  unfold delete
  rw [hguard]
  simp only [Bool.false_eq_true, if_false, hkey]
  rw [Proc.run_bind_of_ok (Proc.run_gets _ t), hrow, Proc.run_bind_of_ok (Proc.run_modify _ t)]
  exact Proc.run_when_neg (by simp) _

end ContainRes.VirtualDesktop.SessionPermissions
