import ContainRes.Effects.Faults
import ContainRes.VirtualDesktop.Model
import ContainRes.VirtualDesktop.ScheduleDb

/-! # The sessions and servers tables

`VirtualDesktopSessionDB` and `VirtualDesktopServerDB`. A session is stored under its owner and its id,
with its week of schedules and its server; a server is stored once more under the id of its instance. The
attributes that no modelled function looks at are left out.

* **`VirtualDesktopSession`**, **`SessionRow`** — a session as an object and as a row.
* **`getFromDb`** — the session under an owner and an id, if there is one.
* **`update`** — the attributes are put whether or not there is a row, and without one that raises
  afterwards; **`delete`** — the deletion of a row that is not there raises.
* **`getServer`**, **`updateServer`**, **`deleteServer`** — the same for servers, where an update without a row does
  not raise. -/

namespace ContainRes.VirtualDesktop.Sessions

open Effects Store Text Schedules

structure VirtualDesktopServer where
  instanceId : Option String := none
  instanceType : Option String := none
  ideaSessionId : Option String := none
  ideaSessionOwner : Option String := none
  state : Option String := none
  locked : Bool := false
  deriving DecidableEq, Repr

/-- The attributes of a server's row beside its key. -/
structure ServerRow where
  instanceType : Option String
  ideaSessionId : Option String
  ideaSessionOwner : Option String
  state : Option String
  locked : Bool
  deriving DecidableEq, Repr

/-- The servers table, under the id of the instance. -/
abbrev ServerTable : Type := Table String ServerRow

/-- `convert_server_object_to_db_dict`, without the key. -/
def convertServerObjectToDbDict (server : VirtualDesktopServer) : ServerRow where
  instanceType := server.instanceType
  ideaSessionId := server.ideaSessionId
  ideaSessionOwner := server.ideaSessionOwner
  state := server.state
  locked := server.locked

/-- `convert_db_entry_to_server_object`, which does not read the state. -/
def convertDbEntryToServerObject (instanceId : Option String) (row : ServerRow) : VirtualDesktopServer where
  instanceId := getAsString instanceId
  instanceType := getAsString row.instanceType
  ideaSessionId := getAsString row.ideaSessionId
  ideaSessionOwner := getAsString row.ideaSessionOwner
  locked := row.locked

/-- `VirtualDesktopServerDB.get`. -/
def getServer (instanceId : Option String) : Proc ServerTable Exc (Option VirtualDesktopServer) :=
  if isEmptyOpt instanceId then Proc.raise (Exc.invalidParams "instance_id is required")
  else Proc.gets fun t =>
    (t.getItem (instanceId.getD "")).map (convertDbEntryToServerObject instanceId)

/-- `VirtualDesktopServerDB.update`. -/
def updateServer (server : VirtualDesktopServer) : Proc ServerTable Exc PUnit :=
  match server.instanceId with
  | none => Proc.raise (.other .clientError "ValidationException")
  | some id => Proc.modify fun t => t.putItem id (convertServerObjectToDbDict server)

/-- `VirtualDesktopServerDB.delete`. -/
def deleteServer (instanceId : Option String) : Proc ServerTable Exc PUnit :=
  if isEmptyOpt instanceId then Proc.raise (Exc.invalidParams "instance_id is required")
  else do
    let old ← Proc.gets fun t : ServerTable => t.getItem (instanceId.getD "")
    Proc.modify fun t => t.deleteItem (instanceId.getD "")
    Proc.when (old = none) (Proc.raise (.other .keyError "'instance_id'"))

structure VirtualDesktopSession where
  owner : Option String
  ideaSessionId : Option String
  name : Option String
  description : Option String
  dcvSessionId : Option String
  state : VirtualDesktopSessionState
  hibernationEnabled : Bool
  server : Option VirtualDesktopServer
  schedule : DayOfWeek → Option Schedule

/-- The attributes of a session's row beside its key. -/
structure SessionRow where
  name : Option String
  description : Option String
  dcvSessionId : Option String
  state : VirtualDesktopSessionState
  hibernationEnabled : Bool
  server : Option VirtualDesktopServer
  schedule : DayOfWeek → Option ScheduleDict

/-- The sessions table, under the owner and the id. -/
abbrev SessionTable : Type := Table (String × String) SessionRow

variable (hours : WorkingHours)

def convertDbDictToSessionObject (key : String × String) (row : SessionRow) :
    Except Exc VirtualDesktopSession := do
  let schedule ← loadWeek hours row.schedule
  return {
    owner := getAsString (some key.1)
    ideaSessionId := getAsString (some key.2)
    name := getAsString row.name
    description := some ((getAsString row.description).getD "")
    dcvSessionId := some ((getAsString row.dcvSessionId).getD "")
    state := row.state
    hibernationEnabled := row.hibernationEnabled
    server := row.server.map fun s => convertDbEntryToServerObject s.instanceId (convertServerObjectToDbDict s)
    schedule := schedule }

/-- `convert_session_object_to_db_dict`, without the key. -/
def convertSessionObjectToDbDict (session : VirtualDesktopSession) : SessionRow where
  name := session.name
  description := session.description
  dcvSessionId := session.dcvSessionId
  state := session.state
  hibernationEnabled := session.hibernationEnabled
  server := session.server
  schedule := fun d => (session.schedule d).map convertScheduleObjectToDbDict

def getFromDb (ideaSessionOwner ideaSessionId : Option String) :
    Proc SessionTable Exc (Option VirtualDesktopSession) :=
  if isEmptyOpt ideaSessionOwner || isEmptyOpt ideaSessionId then pure none
  else do
    let key := (ideaSessionOwner.getD "", ideaSessionId.getD "")
    let row ← Proc.gets fun t : SessionTable => t.getItem key
    match row with
    | none => pure none
    | some row => Proc.liftExcept ((convertDbDictToSessionObject hours key row).map some)

/-- `VirtualDesktopSessionDB.update`: `update_item` makes a row where there is none, and the event about
the update is made from the row that was there. -/
def update (session : VirtualDesktopSession) : Proc SessionTable Exc PUnit :=
  match session.owner, session.ideaSessionId with
  | some owner, some id => do
    let old ← Proc.gets fun t : SessionTable => (t.getItem (owner, id)).isSome
    Proc.modify fun t => t.putItem (owner, id) (convertSessionObjectToDbDict session)
    Proc.when (old = false) (Proc.raise (.other .keyError "'Attributes'"))
  | _, _ => Proc.raise (.other .clientError "ValidationException")

def delete (session : VirtualDesktopSession) : Proc SessionTable Exc PUnit :=
  if isEmptyOpt session.ideaSessionId || isEmptyOpt session.owner then
    Proc.raise (Exc.invalidParams "idea_session_id and owner is required")
  else do
    let key := (session.owner.getD "", session.ideaSessionId.getD "")
    let old ← Proc.gets fun t : SessionTable => (t.getItem key).isSome
    Proc.modify fun t => t.deleteItem key
    Proc.when (old = false) (Proc.raise (.other .keyError "'Attributes'"))

/-! ## What the operations do -/

theorem reads_getFromDb (owner id : Option String) : Reads (getFromDb hours owner id) := by
  unfold getFromDb
  refine Reads.ite (fun _ => Reads.pure _) fun _ => Reads.bind (Reads.gets _) fun row => ?_
  cases row with
  | none => exact Reads.pure _
  | some row => exact Reads.liftExcept _

/-- A session that is put has its row, and the others are left. -/
theorem getItem_update (session : VirtualDesktopSession) (t : SessionTable) (key : String × String) :
    ((update session).run t).2.getItem key = if session.owner = some key.1 ∧ session.ideaSessionId = some key.2 then
        some (convertSessionObjectToDbDict session) else t.getItem key := by
  unfold update
  cases howner : session.owner with
  | none => simp
  | some owner =>
    cases hid : session.ideaSessionId with
    | none => simp
    | some id =>
      dsimp only
      rw [Proc.run_bind_of_ok (Proc.run_gets _ t), Proc.run_bind_of_ok (Proc.run_modify _ t),
        Proc.state_when_raise, Table.getItem_putItem]
      refine if_congr ?_ rfl rfl
      rw [Option.some.injEq, Option.some.injEq, Prod.ext_iff, eq_comm, @eq_comm _ key.2]

/-- The row of a session that is deleted is gone, and the others are left. -/
theorem getItem_delete (session : VirtualDesktopSession) (t : SessionTable) (key : String × String) :
    ((delete session).run t).2.getItem key =
      if session.owner = some key.1 ∧ session.ideaSessionId = some key.2 ∧ isEmpty key.1 = false ∧
        isEmpty key.2 = false then none else t.getItem key := by
  unfold delete
  cases howner : session.owner with
  | none => simp [isEmptyOpt]
  | some owner =>
    cases hid : session.ideaSessionId with
    | none => simp [isEmptyOpt]
    | some id =>
      by_cases hblank : (isEmptyOpt (some id) || isEmptyOpt (some owner)) = true
      · rw [if_pos hblank]
        have hblank' : isEmpty id = true ∨ isEmpty owner = true := by simpa [isEmptyOpt] using hblank
        rw [if_neg]
        · rfl
        · rintro ⟨howner', hid', hkey⟩
          cases howner'
          cases hid'
          rcases hblank' with h | h <;> simp [h] at hkey
      · have hplain : isEmpty id = false ∧ isEmpty owner = false := by
          simpa [isEmptyOpt] using hblank
        rw [if_neg hblank, Proc.run_bind_of_ok (Proc.run_gets _ t),
          Proc.run_bind_of_ok (Proc.run_modify _ t), Proc.state_when_raise, Table.getItem_deleteItem]
        refine if_congr ?_ rfl rfl
        rw [Option.some.injEq, Option.some.injEq]
        constructor
        · rintro rfl
          exact ⟨rfl, rfl, hplain.2, hplain.1⟩
        · rintro ⟨rfl, rfl, -, -⟩
          rfl

end ContainRes.VirtualDesktop.Sessions
