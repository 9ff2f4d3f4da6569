import ContainRes.Effects.Collecting
import ContainRes.Store.PagedScan
import ContainRes.VirtualDesktop.SessionHandlers

/-! # Stopping, resuming, rebooting and terminating many sessions

The four calls of `VirtualDesktopSessionUtils` for a list of requests, with the part of `DCVBrokerClient` that
they use. Each of them reads all sessions, sorts them, asks the broker or EC2, and answers with the sessions for
which the call succeeded and those for which it failed. The texts of the failures and the events are left out.

* **`DcvBroker`** — what the broker answers: the pages of a description, and what became of a deletion.
* **`getActiveCounts`** — the numbers of connections, from the first page of a description.
* **`deleteSessions`** — the client's deletion of DCV sessions.
* **`stopSessions`**, **`resumeSessions`**, **`rebootSessions`**, **`terminateSessions`** — the calls. -/

namespace ContainRes.VirtualDesktop.BatchOperations

open Effects Store Text
open Schedules Sessions

/-! ## The broker -/

/-- A DCV session in the answer to `DescribeSessions`. -/
structure DescribedSession where
  id : String
  numOfConnections : Option ℕ := none
  deriving DecidableEq, Repr

/-- An entry of the answer to `DeleteSessions`. -/
structure DeleteEntry where
  sessionId : Option String
  failureReason : Option String := none
  deriving DecidableEq, Repr

/-- The answer to `DeleteSessions`. -/
structure DeleteAnswer where
  successfulList : List DeleteEntry := []
  unsuccessfulList : List DeleteEntry := []
  deriving DecidableEq, Repr

/-- The broker: the pages that describe some DCV sessions, under the tokens of type `κ`, and the answer to the
deletion of some. -/
structure DcvBroker (κ : Type) where
  describe : List (Option String) → PagedRows κ DescribedSession
  delete : List (Option String) → DeleteAnswer

/-- `DCV_SESSION_DELETE_ERROR_SESSION_DOESNT_EXIST`. -/
def sessionDoesntExist : String := "The requested dcvSession does not exist"

/-! ## Requests -/

/-- The session that a request names. -/
structure Request where
  owner : Option String
  ideaSessionId : Option String
  force : Option Bool := none
  deriving DecidableEq, Repr

/-- A session that was read, with the `force` of its request. -/
structure Requested where
  session : VirtualDesktopSession
  force : Option Bool

namespace Requested

/-- `Utils.is_not_empty(session.force) and session.force`. -/
def forced (r : Requested) : Bool := r.force == some true

/-- The id of the DCV session. -/
def dcvSessionId (r : Requested) : Option String := r.session.dcvSessionId

end Requested

variable (hours : WorkingHours)

/-- The sessions are read one after the other, and `check` looks at each. One that is not there raises when its
id is put into the text of the failure. -/
def readRequests (check : VirtualDesktopSession → Except Exc PUnit) :
    List Request → Proc SessionTable Exc (List Requested)
  | [] => pure []
  | request :: rest => do
    let session ← Sessions.getFromDb hours request.owner request.ideaSessionId
    match session with
    | none => do
      Proc.liftExcept (Lifecycle.noAttribute "idea_session_id")
      return []
    | some session => do
      Proc.liftExcept (check session)
      let sessions ← readRequests check rest
      return ⟨session, request.force⟩ :: sessions

/-- `VirtualDesktopSessionDB.update`, with the session that is made from what was put. -/
def save (session : VirtualDesktopSession) : Proc SessionTable Exc VirtualDesktopSession := do
  Sessions.update session
  Proc.liftExcept (Sessions.convertDbDictToSessionObject hours
    (session.owner.getD "", session.ideaSessionId.getD "") (convertSessionObjectToDbDict session))

/-! ## Counting connections -/

variable {κ : Type} [DecidableEq κ] (broker : DcvBroker κ)

/-- `describe_sessions`: one request, without a token. -/
def describeSessions (ids : List (Option String)) : List DescribedSession :=
  ((broker.describe ids).read none).1

/-- A count is written to the last session with the id, which is the one in `dcv_session_id_map`. -/
def setConnectionCount (id : String) (n : ℕ) : List (Requested × ℕ) → Option (List (Requested × ℕ))
  | [] => none
  | counted :: rest =>
    match setConnectionCount id n rest with
    | some rest' => some (counted :: rest')
    | none => if counted.1.dcvSessionId = some id then some ((counted.1, n) :: rest) else none

/-- The loop over the described sessions. -/
def addConnectionCounts : List DescribedSession → List (Requested × ℕ) → Except Exc (List (Requested × ℕ))
  | [], counted => .ok counted
  | entry :: entries, counted =>
    match setConnectionCount entry.id (entry.numOfConnections.getD 0) counted with
    | some counted => addConnectionCounts entries counted
    | none => .error (.other .keyError entry.id)

/-- `get_active_counts_for_sessions`: the count of every session starts at zero. -/
def getActiveCounts (sessions : List Requested) : Except Exc (List (Requested × ℕ)) :=
  match sessions with
  | [] => .ok []
  | _ => addConnectionCounts (describeSessions broker (sessions.map Requested.dcvSessionId))
      (sessions.map fun r => (r, 0))

/-! ## What the counts are -/

/-- The sessions with counts of their ids, which only the last session with an id has. -/
def countedWith (count : Option String → ℕ) : List Requested → List (Requested × ℕ)
  | [] => []
  | r :: rest =>
    (r, if r.dcvSessionId ∈ rest.map Requested.dcvSessionId then 0 else count r.dcvSessionId) ::
      countedWith count rest

theorem map_fst_countedWith (count : Option String → ℕ) (sessions : List Requested) :
    (countedWith count sessions).map Prod.fst = sessions := by
  induction sessions with
  | nil => rfl
  | cons r rest ih => rw [countedWith, List.map_cons, ih]

theorem countedWith_zero (sessions : List Requested) :
    countedWith (fun _ => 0) sessions = sessions.map fun r => (r, 0) := by
  induction sessions with
  | nil => rfl
  | cons r rest ih => rw [countedWith, ih, List.map_cons, ite_self]

/-- A count is written when the id is one of the sessions'. -/
theorem setConnectionCount_countedWith (id : String) (n : ℕ) (count : Option String → ℕ) (sessions : List Requested) :
    setConnectionCount id n (countedWith count sessions) = if some id ∈ sessions.map Requested.dcvSessionId then
        some (countedWith (Function.update count (some id) n) sessions)
      else none := by
  induction sessions with
  | nil => simp [countedWith, setConnectionCount]
  | cons r rest ih =>
    by_cases hrest : some id ∈ rest.map Requested.dcvSessionId
    · -- A later session has the id, so this one keeps its count.
      have hcount : (if r.dcvSessionId ∈ rest.map Requested.dcvSessionId then 0 else count r.dcvSessionId) =
          if r.dcvSessionId ∈ rest.map Requested.dcvSessionId then 0
            else Function.update count (some id) n r.dcvSessionId := by
        by_cases hid : r.dcvSessionId ∈ rest.map Requested.dcvSessionId
        · rw [if_pos hid, if_pos hid]
        · have hne : r.dcvSessionId ≠ some id := fun heq => hid (heq ▸ hrest)
          rw [if_neg hid, if_neg hid, Function.update_of_ne hne]
      simp only [countedWith, setConnectionCount, ih, List.map_cons, List.mem_cons, hrest, or_true, if_true, hcount]
    · by_cases hid : r.dcvSessionId = some id
      · have hsame : countedWith (Function.update count (some id) n) rest = countedWith count rest := by
          clear ih
          induction rest with
          | nil => rfl
          | cons r' rest ih' =>
            rw [List.map_cons, List.mem_cons, not_or] at hrest
            rw [countedWith, countedWith, ih' hrest.2, Function.update_of_ne (Ne.symm hrest.1)]
        simp only [countedWith, setConnectionCount, ih, if_neg hrest, List.map_cons, List.mem_cons, hid,
          true_or, if_true, hsame, Function.update_self]
      · have hne : some id ≠ r.dcvSessionId := Ne.symm hid
        simp only [countedWith, setConnectionCount, ih, List.map_cons, List.mem_cons, hne, hrest,
          hid, or_self, if_false]

/-- The counts after the described sessions. -/
def countsAfter (entries : List DescribedSession) (count : Option String → ℕ) : Option String → ℕ :=
  entries.foldl (fun count e => Function.update count (some e.id) (e.numOfConnections.getD 0)) count

/-- The counts are added when every described session is one of the sessions, and else the loop raises. -/
theorem addConnectionCounts_countedWith (entries : List DescribedSession) (count : Option String → ℕ)
    (sessions : List Requested) : (∀ e ∈ entries, some e.id ∈ sessions.map Requested.dcvSessionId) ∧
        addConnectionCounts entries (countedWith count sessions) =
          .ok (countedWith (countsAfter entries count) sessions) ∨
      (¬ ∀ e ∈ entries, some e.id ∈ sessions.map Requested.dcvSessionId) ∧
        ∃ e, addConnectionCounts entries (countedWith count sessions) = .error e := by
  induction entries generalizing count with
  | nil => exact .inl ⟨fun e he => absurd he List.not_mem_nil, rfl⟩
  | cons e rest ih =>
    rw [addConnectionCounts, setConnectionCount_countedWith, List.forall_mem_cons]
    by_cases hid : some e.id ∈ sessions.map Requested.dcvSessionId
    · rw [if_pos hid]
      rcases ih (Function.update count (some e.id) (e.numOfConnections.getD 0)) with ⟨hall, heq⟩ | ⟨hall, herr⟩
      · exact .inl ⟨⟨hid, hall⟩, heq⟩
      · exact .inr ⟨fun h => hall h.2, herr⟩
    · rw [if_neg hid]
      exact .inr ⟨fun h => hid h.1, _, rfl⟩

/-- The sessions of the first page are among the sessions that are counted. -/
def AnswersAsked (sessions : List Requested) : Prop :=
  ∀ e ∈ describeSessions broker (sessions.map Requested.dcvSessionId),
    some e.id ∈ sessions.map Requested.dcvSessionId

/-- The counts of the first page. -/
def firstPageCount (sessions : List Requested) : Option String → ℕ :=
  countsAfter (describeSessions broker (sessions.map Requested.dcvSessionId)) fun _ => 0

/-- The counts are those of the first page, unless that page has a session that was not asked for. -/
theorem getActiveCounts_cases (sessions : List Requested) : (sessions ≠ [] → AnswersAsked broker sessions) ∧
        getActiveCounts broker sessions = .ok (countedWith (firstPageCount broker sessions) sessions) ∨
      (¬ (sessions ≠ [] → AnswersAsked broker sessions)) ∧ ∃ e, getActiveCounts broker sessions = .error e := by
  cases sessions with
  | nil => exact .inl ⟨fun h => absurd rfl h, rfl⟩
  | cons r rest =>
    have hcases := addConnectionCounts_countedWith
      (describeSessions broker ((r :: rest).map Requested.dcvSessionId)) (fun _ => 0) (r :: rest)
    rw [countedWith_zero] at hcases
    rcases hcases with ⟨hall, heq⟩ | ⟨hall, herr⟩
    · exact .inl ⟨fun _ => hall, heq⟩
    · exact .inr ⟨fun h => hall (h (by simp)), herr⟩

/-! ## Deleting DCV sessions -/

/-- The sessions of a call, in those that it goes on with and those that have connections. -/
structure Split where
  accepted : List Requested
  connected : List Requested

/-- Those with `force` are accepted, and then those of the others that have no connections. -/
def splitByConnections (sessions : List Requested) : Except Exc Split := do
  let counted ← getActiveCounts broker (sessions.filter fun r => !r.forced)
  return {
    accepted := (sessions.filter fun r => r.forced) ++ (counted.filter fun c => c.2 = 0).map Prod.fst
    connected := (counted.filter fun c => 0 < c.2).map Prod.fst }

/-- What became of the deletion of DCV sessions, under their ids. -/
structure Deletion where
  successful : List (Option String)
  unsuccessful : List (Option String)

/-- The ids of the answer to a deletion; a DCV session that does not exist counts as deleted. -/
def DeleteAnswer.deletion (answer : DeleteAnswer) : Deletion where
  successful := (answer.successfulList ++ answer.unsuccessfulList.filter fun e =>
    getAsString e.failureReason = some sessionDoesntExist).map fun e => getAsString e.sessionId
  unsuccessful := (answer.unsuccessfulList.filter fun e =>
    getAsString e.failureReason ≠ some sessionDoesntExist).map fun e => getAsString e.sessionId

/-- `_delete_sessions`, which asks for nothing when there is nothing to delete. -/
def deleteAccepted (accepted : List Requested) : DeleteAnswer :=
  match accepted with
  | [] => {}
  | _ => broker.delete (accepted.map Requested.dcvSessionId)

def deleteSessions (sessions : List Requested) : Except Exc Deletion :=
  match sessions with
  | [] => .ok ⟨[], []⟩
  | _ => do
    let split ← splitByConnections broker sessions
    let deletion := (deleteAccepted broker split.accepted).deletion
    return ⟨deletion.successful, split.connected.map Requested.dcvSessionId ++ deletion.unsuccessful⟩

/-! ## The calls -/

/-- The calls to EC2 with what is written to the servers table after them, and the deletion of what belongs to a
session. Starting instances tells by a flag whether it failed; the others raise. -/
structure Hosts where
  stop : List (Option VirtualDesktopServer) → List (Option VirtualDesktopServer) → Except Exc PUnit.{1}
  start : List (Option VirtualDesktopServer) → Except Exc Bool
  reboot : List (Option VirtualDesktopServer) → Except Exc PUnit.{1}
  terminate : List (Option VirtualDesktopServer) → Except Exc PUnit.{1}
  /-- `delete_schedules_for_session` and `delete_permissions_for_session`. -/
  cleanUp : VirtualDesktopSession → Except Exc PUnit.{1}

/-- The sessions for which a call succeeded, and those for which it failed. -/
structure Response where
  success : List VirtualDesktopSession
  fail : List VirtualDesktopSession

/-- `session_map`: the last of the sessions with an id. -/
def sessionUnder {ι : Type} [DecidableEq ι] (key : Requested → ι) (sessions : List Requested) (id : ι) :
    Except Exc VirtualDesktopSession :=
  match sessions.reverse.find? fun r => key r = id with
  | some r => .ok r.session
  | none => .error (.other .keyError "")

/-- A session is written back in another state. -/
def saveIn (state : VirtualDesktopSessionState) (session : VirtualDesktopSession) :
    Proc SessionTable Exc VirtualDesktopSession :=
  save hours (Lifecycle.withState session state)

/-- The sessions of a call that goes through the broker: those in another state, those for which there is no DCV
session to delete, and the others. -/
structure Selection where
  wrongState : List Requested
  withoutDcv : List Requested
  toDelete : List Requested

/-- The sorting of `stop_sessions`. -/
def stopSelection (sessions : List Requested) : Selection :=
  let ready := sessions.filter fun r => r.session.state = .ready
  { wrongState := sessions.filter fun r => r.session.state ≠ .ready
    withoutDcv := ready.filter fun r => isEmptyOpt r.dcvSessionId
    toDelete := ready.filter fun r => !isEmptyOpt r.dcvSessionId }

/-- The sorting of `terminate_sessions`. -/
def terminateSelection (sessions : List Requested) : Selection where
  wrongState := []
  withoutDcv := sessions.filter fun r => isEmptyOpt r.dcvSessionId || r.session.state = .stopped
  toDelete := sessions.filter fun r => !(isEmptyOpt r.dcvSessionId || r.session.state = .stopped)

/-- The sessions whose DCV session is gone are put in a state. -/
def saveDeleted (state : VirtualDesktopSessionState) (toDelete : List Requested) (ids : List (Option String)) :
    Proc SessionTable Exc (List VirtualDesktopSession) :=
  Proc.collect (fun id => do
    let session ← Proc.liftExcept (sessionUnder Requested.dcvSessionId toDelete id)
    saveIn hours state session) ids

variable (hosts : Hosts)

/-- `stop_sessions`, for the sessions that were read. -/
def stopRead (sessions : List Requested) : Proc SessionTable Exc Response := do
  let selection := stopSelection sessions
  let deletion ← Proc.liftExcept (deleteSessions broker selection.toDelete)
  let deleted ← saveDeleted hours .stopping selection.toDelete deletion.successful
  let stopped ← Proc.collect (saveIn hours .stopping) (selection.withoutDcv.map Requested.session)
  let failed ← Proc.liftExcept
    (deletion.unsuccessful.mapM (sessionUnder Requested.dcvSessionId selection.toDelete))
  Proc.liftExcept (hosts.stop
    ((selection.withoutDcv.filter fun r => !r.session.hibernationEnabled).map fun r => r.session.server)
    ((selection.withoutDcv.filter fun r => r.session.hibernationEnabled).map fun r => r.session.server))
  return ⟨deleted ++ stopped, selection.wrongState.map Requested.session ++ failed⟩

def stopSessions (requests : List Request) : Proc SessionTable Exc Response := do
  let sessions ← readRequests hours (fun _ => .ok ⟨⟩) requests
  stopRead hours broker hosts sessions

/-- `session.server.instance_id` of a session that is to be resumed. -/
def instanceIdOf (session : VirtualDesktopSession) : Except Exc (Option String) :=
  match session.server with
  | none => .error (.other .attributeError "'NoneType' object has no attribute 'instance_id'")
  | some server => .ok server.instanceId

/-- The id of the instance of a session that has a server. -/
def Requested.instanceId (r : Requested) : Option String := r.session.server.bind VirtualDesktopServer.instanceId

/-- What `resume_sessions` looks at while it reads. -/
def resumeCheck (session : VirtualDesktopSession) : Except Exc PUnit.{1} :=
  if session.state = .stopped then (instanceIdOf session).map fun _ => ⟨⟩ else .ok ⟨⟩

/-- `resume_sessions`, for the sessions that were read: when EC2 does not start the instances, all fail. -/
def resumeRead (sessions : List Requested) : Proc SessionTable Exc Response := do
  let wrongState := sessions.filter fun r => r.session.state ≠ .stopped
  let stopped := sessions.filter fun r => r.session.state = .stopped
  let started ← Proc.liftExcept (hosts.start (stopped.map fun r => r.session.server))
  let mapped ← Proc.liftExcept
    ((stopped.map Requested.instanceId).mapM (sessionUnder Requested.instanceId stopped))
  if started then do
    let resumed ← Proc.collect (saveIn hours .resuming) mapped
    return ⟨resumed, wrongState.map Requested.session⟩
  else
    return ⟨[], wrongState.map Requested.session ++ mapped⟩

def resumeSessions (requests : List Request) : Proc SessionTable Exc Response := do
  let sessions ← readRequests hours resumeCheck requests
  resumeRead hours hosts sessions

/-- The sessions that can be rebooted by their state. -/
def rebootable (r : Requested) : Bool := r.session.state = .ready || r.session.state = .error

/-- `reboot_sessions`, for the sessions that were read. -/
def rebootRead (sessions : List Requested) : Proc SessionTable Exc Response := do
  let split ← Proc.liftExcept (splitByConnections broker (sessions.filter rebootable))
  let rebooted ← Proc.collect (saveIn hours .resuming) (split.accepted.map Requested.session)
  Proc.when (rebooted ≠ []) <| Proc.liftExcept (hosts.reboot (rebooted.map fun s => s.server))
  return ⟨rebooted, (sessions.filter fun r => !rebootable r).map Requested.session ++
    split.connected.map Requested.session⟩

def rebootSessions (requests : List Request) : Proc SessionTable Exc Response := do
  let sessions ← readRequests hours (fun _ => .ok ⟨⟩) requests
  rebootRead hours broker hosts sessions

/-- What is done with a session that has no DCV session to delete. -/
def remove (session : VirtualDesktopSession) : Proc SessionTable Exc VirtualDesktopSession := do
  Proc.liftExcept (hosts.cleanUp session)
  Sessions.delete session
  return Lifecycle.withState session .deleted

/-- `terminate_sessions`, for the sessions that were read. -/
def terminateRead (sessions : List Requested) : Proc SessionTable Exc Response := do
  let selection := terminateSelection sessions
  let deletion ← Proc.liftExcept (deleteSessions broker selection.toDelete)
  let deleted ← saveDeleted hours .deleting selection.toDelete deletion.successful
  Proc.when (selection.withoutDcv ≠ []) <|
    Proc.liftExcept (hosts.terminate (selection.withoutDcv.map fun r => r.session.server))
  let removed ← Proc.collect (fun r : Requested => remove hosts r.session) selection.withoutDcv
  let failed ← Proc.liftExcept
    (deletion.unsuccessful.mapM (sessionUnder Requested.dcvSessionId selection.toDelete))
  return ⟨deleted ++ removed, selection.wrongState.map Requested.session ++ failed⟩

def terminateSessions (requests : List Request) : Proc SessionTable Exc Response := do
  let sessions ← readRequests hours (fun _ => .ok ⟨⟩) requests
  terminateRead hours broker hosts sessions

end ContainRes.VirtualDesktop.BatchOperations
