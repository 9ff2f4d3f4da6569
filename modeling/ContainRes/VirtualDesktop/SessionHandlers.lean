import ContainRes.VirtualDesktop.SessionDeletion

/-! # The calls that move a session from state to state

Four calls of `VirtualDesktopSessionUtils` and six event handlers read a session, decide from its state
and from what the broker, the instance and the counters say, and write the whole session back or delete
its row. What they do to servers, counters and commands and the events they publish are left out; what
they are told by them is an argument.

* **`Handling`** — what a call does with the session that it has read.
* **`stop`**, **`resume`**, **`reboot`**, **`terminate`** — the calls of a user, for one session.
* **`ec2StateChange`**, **`dcvHostReady`**, **`dcvHostRebootComplete`**, **`validateCreation`**,
  **`validateDeletion`**, **`resumeCommandProgress`** — the handlers.
* **`handleSessionEvent`**, **`callForSessions`** — the reading around them. -/

namespace ContainRes.VirtualDesktop.Lifecycle

open Effects Text
open Sessions SessionDeletion

/-- A write to the sessions table. -/
inductive SessionWrite
  | put (session : VirtualDesktopSession)
  | remove (session : VirtualDesktopSession)

/-- What a call does with the session that it has read: at most one write, and how it ends. -/
structure Handling where
  write : Option SessionWrite := none
  result : Except Exc PUnit := .ok ⟨⟩

/-- The session in another state. -/
def withState (session : VirtualDesktopSession) (state : VirtualDesktopSessionState) :
    VirtualDesktopSession :=
  { session with state := state }

@[simp] theorem withState_state (session : VirtualDesktopSession) (state : VirtualDesktopSessionState) :
    (withState session state).state = state := rfl

/-- The session is written back in another state. -/
def moveTo (session : VirtualDesktopSession) (state : VirtualDesktopSessionState) : Handling where
  write := some (.put (withState session state))

/-- The exception that keeps the message in the queue. -/
def doNotDeleteMessage (text : String) : Except Exc PUnit := .error (.soca .doNotDeleteMessage text)

/-- The exception for an attribute of a value that is missing. -/
def noAttribute (name : String) : Except Exc PUnit :=
  .error (.other .attributeError ("'NoneType' object has no attribute '" ++ name ++ "'"))

/-! ## The calls of a user -/

/-- `stop_sessions` for one session; `deleted` is whether the broker accepts the deletion of the DCV
session. A failure is a reason in the response. -/
def stop (deleted : Bool) (session : VirtualDesktopSession) : Handling :=
  if session.state ≠ .ready then {}
  else if isEmptyOpt session.dcvSessionId then moveTo session .stopping
  else if deleted then moveTo session .stopping
  else {}

/-- `resume_sessions` for one session; `started` is whether the instances could be started. -/
def resume (started : Bool) (session : VirtualDesktopSession) : Handling :=
  if session.state ≠ .stopped then {}
  else if started then moveTo session .resuming
  else {}

/-- `reboot_sessions` for one session; a session with connections is rebooted only by force. -/
def reboot (force : Bool) (connectionCount : Nat) (session : VirtualDesktopSession) : Handling :=
  if session.state ≠ .ready ∧ session.state ≠ .error then {}
  else if force = false ∧ 0 < connectionCount then {}
  else moveTo session .resuming

/-- `terminate_sessions` for one session. -/
def terminate (deleted : Bool) (session : VirtualDesktopSession) : Handling :=
  if isEmptyOpt session.dcvSessionId ∨ session.state = .stopped then { write := some (.remove session) }
  else if deleted then moveTo session .deleting
  else {}

/-! ## The handlers -/

/-- `EC2StateChangeEventHandler`; `serverFound` is whether the instance has a row in the servers table. -/
def ec2StateChange (state : String) (serverFound : Bool) (session : VirtualDesktopSession) : Handling :=
  if state = "stopping" ∨ state = "stopped" then
    match session.state with
    | .stopped | .deleting | .deleted | .error => {}
    | .provisioning | .creating | .initializing | .resuming => moveTo session .error
    | .ready | .stopping =>
      if serverFound = false then { result := noAttribute "state" }
      else if state = "stopping" then moveTo session .stopping
      else moveTo session .stopped
  else if state = "running" ∧ serverFound = false then { result := noAttribute "state" }
  else {}

/-- The check of the sender of an event from a host, in front of what is done with it. -/
def fromHost (senderId senderInstanceId : String) (session : VirtualDesktopSession) (k : Handling) :
    Handling :=
  match session.server with
  | none => { result := noAttribute "instance_id" }
  | some server =>
    if server.instanceId ≠ some senderInstanceId then { result := .error (corruptedSender senderId) }
    else k

def sessionCreationThresholdCount : Int := 30

/-- `DCVHostReadyEventHandler`, with the broker's answer to the creation of the DCV session, and the
number of creations before. -/
def dcvHostReady (senderId senderInstanceId : String) (failureReason dcvSessionId : Option String)
    (counter : Int) (session : VirtualDesktopSession) : Handling :=
  fromHost senderId senderInstanceId session <|
    if session.state ≠ .provisioning ∧ session.state ≠ .creating then {}
    else if isEmptyOpt failureReason then
      moveTo { session with dcvSessionId := dcvSessionId } .initializing
    else if counter < sessionCreationThresholdCount then
      let creating := withState session .creating
      let write := if session.state ≠ .creating then some (SessionWrite.put creating) else none
      ⟨write, doNotDeleteMessage "Session state is CREATING. Not handling now."⟩
    else moveTo { session with dcvSessionId := some "" } .error

def resumeRequestCountThreshold : Int := 6

/-- `DcvBrokerClient.resume_session`: a session whose resumption was submitted is in `RESUMING`. -/
def resumeSession (failureReason : Option String) (session : VirtualDesktopSession) :
    VirtualDesktopSession :=
  if isEmptyOpt failureReason then withState session .resuming else session

/-- `DCVHostRebootCompleteEventHandler`, with the state that the broker reports, the number of events
before, and the reason why the session could not be resumed. -/
def dcvHostRebootComplete (senderId senderInstanceId : String) (brokerState : Option String)
    (counter : Int) (failureReason : Option String) (session : VirtualDesktopSession) : Handling :=
  fromHost senderId senderInstanceId session <|
    if session.state ≠ .resuming ∧ session.state ≠ .ready ∧ session.state ≠ .error ∧
        session.state ≠ .stopped then {}
    else if session.state = .ready ∧ brokerState = some "CREATING" then {}
    else if session.state = .ready ∧ brokerState = some "READY" then
      if counter < resumeRequestCountThreshold then
        let id := session.ideaSessionId.getD "None"
        let name := session.name.getD "None"
        let count := counter + 1
        let threshold := resumeRequestCountThreshold
        ⟨none, doNotDeleteMessage
          s!"RES session {id}:{name} might stable with state: READY. No need to handle event now. Resume request count: {count}. Threshold: {threshold}"⟩
      else {}
    else if isEmptyOpt failureReason = false then
      let reason := failureReason.getD "None"
      ⟨none, doNotDeleteMessage s!"Issue in resuming session: {reason}. Will try again later"⟩
    else
      let session := resumeSession failureReason session
      if session.state ≠ .resuming then moveTo session .resuming else {}

def validationRequestThreshold : Int := 30

def sessionDeletedThreshold : Int := 4

/-- `ValidateDCVSessionCreationEventHandler`, with the number of validations before and the state that
the broker reports. -/
def validateCreation (counter : Int) (brokerState : Option String) (session : VirtualDesktopSession) :
    Handling :=
  if session.state = .deleting ∨ session.state = .deleted then {}
  else if brokerState = some "READY" then moveTo session .ready
  else if sessionDeletedThreshold < counter ∧ brokerState = some "DELETED" then moveTo session .error
  else if validationRequestThreshold < counter then moveTo session .error
  else if session.state = .stopping then {}
  else
    let initializing := withState session .initializing
    let write := if session.state ≠ .initializing then some (SessionWrite.put initializing) else none
    let id := session.ideaSessionId.getD "None"
    let name := session.name.getD "None"
    let state := brokerState.getD "None"
    let count := counter + 1
    ⟨write, doNotDeleteMessage
      s!"RES Session ID: {id}:{name} is not stable with state: {state}. {count} times already validated. Will continue to validate"⟩

/-- `ValidateDCVSessionDeletionEventHandler`, with the state that the broker reports; `cleaned` is
whether the schedules and permissions in front of the session's row could be deleted. -/
def validateDeletion (brokerState : Option String) (cleaned : Bool) (session : VirtualDesktopSession) :
    Handling :=
  if session.state ≠ .stopping ∧ session.state ≠ .deleting then {}
  else if isEmptyOpt brokerState ∨ brokerState = some "DELETED" then
    if session.state = .deleting then
      if cleaned then { write := some (.remove session) } else { result := .error callFailed }
    else {}
  else { result := doNotDeleteMessage (notDeletedText session brokerState) }

/-- `IDEAResumeSessionCommandProgressEventHandler`. -/
def resumeCommandProgress (status : String) (session : VirtualDesktopSession) : Handling :=
  if status = "Success" then moveTo session .initializing
  else if status = "Failed" then moveTo session .error
  else {}

/-! ## Reading and writing -/

/-- A write is made. -/
def makeWrite : Option SessionWrite → Proc SessionTable Exc PUnit
  | none => pure ⟨⟩
  | some (.put session) => Sessions.update session
  | some (.remove session) => Sessions.delete session

/-- What a call does with its session is carried out. -/
def carryOut (h : Handling) : Proc SessionTable Exc PUnit := do
  makeWrite h.write
  Proc.liftExcept h.result

variable (hours : Schedules.WorkingHours)

/-- The session is read, and `k` is carried out for it. -/
def handleSession (owner id : Option String) (missing : Except Exc PUnit)
    (k : VirtualDesktopSession → Handling) : Proc SessionTable Exc PUnit := do
  let session ← Sessions.getFromDb hours owner id
  match session with
  | none => Proc.liftExcept missing
  | some session => carryOut (k session)

/-- The handlers of events about a session: the sender is checked, and a session that is not there is
ignored. -/
def handleSessionEvent (accepted : Bool) (senderId : String) (event : VirtualDesktopEvent)
    (k : VirtualDesktopSession → Handling) : Proc SessionTable Exc PUnit :=
  if accepted = false then Proc.raise (corruptedSender senderId)
  else
    let ideaSessionId := event.detailString "idea_session_id"
    let ideaSessionOwner := event.detailString "idea_session_owner"
    if isEmptyOpt ideaSessionId ∨ isEmptyOpt ideaSessionOwner then pure ⟨⟩
    else handleSession hours ideaSessionOwner ideaSessionId (.ok ⟨⟩) k

/-- `get_dcv_instance_id_from_sender_id`. -/
def dcvInstanceIdFromSenderId (senderId : String) : Option String := (splitChar ':' senderId)[1]?

/-- `ValidateDCVSessionCreationEventHandler.handle_event`. -/
def handleValidateCreation (controllerRoleId senderId : String) (event : VirtualDesktopEvent)
    (counter : Int) (brokerState : Option String) : Proc SessionTable Exc PUnit :=
  handleSessionEvent hours (isSenderRole controllerRoleId senderId) senderId event
    (validateCreation counter brokerState)

/-- `ValidateDCVSessionDeletionEventHandler.handle_event`. -/
def handleValidateDeletion (controllerRoleId senderId : String) (event : VirtualDesktopEvent)
    (brokerState : Option String) (cleaned : Bool) : Proc SessionTable Exc PUnit :=
  handleSessionEvent hours (isSenderRole controllerRoleId senderId) senderId event
    (validateDeletion brokerState cleaned)

/-- `DCVHostReadyEventHandler.handle_event`. -/
def handleDcvHostReady (senderId : String) (event : VirtualDesktopEvent)
    (failureReason dcvSessionId : Option String) (counter : Int) : Proc SessionTable Exc PUnit :=
  let sender := dcvInstanceIdFromSenderId senderId
  handleSessionEvent hours (! isEmptyOpt sender) senderId event
    (dcvHostReady senderId (sender.getD "") failureReason dcvSessionId counter)

/-- `DCVHostRebootCompleteEventHandler.handle_event`. -/
def handleDcvHostRebootComplete (senderId : String) (event : VirtualDesktopEvent)
    (brokerState : Option String) (counter : Int) (failureReason : Option String) :
    Proc SessionTable Exc PUnit :=
  let sender := dcvInstanceIdFromSenderId senderId
  handleSessionEvent hours (! isEmptyOpt sender) senderId event
    (dcvHostRebootComplete senderId (sender.getD "") brokerState counter failureReason)

/-- `EC2StateChangeEventHandler.handle_event`, where the owner and the id are not checked. -/
def handleEc2StateChange (controllerRoleId senderId : String) (event : VirtualDesktopEvent)
    (serverFound : Bool) : Proc SessionTable Exc PUnit :=
  if isSenderRole controllerRoleId senderId = false then Proc.raise (corruptedSender senderId)
  else if isEmptyOpt (event.detailString "instance_id") then pure ⟨⟩
  else
    match event.detailString "state" with
    | none => pure ⟨⟩
    | some state =>
      if state = "stopping" ∨ state = "stopped" ∨ state = "running" then
        handleSession hours (event.detailString "idea_session_owner")
          (event.detailString "idea_session_id") (.ok ⟨⟩) (ec2StateChange state serverFound)
      else pure ⟨⟩

/-- `IDEAResumeSessionCommandProgressEventHandler.handle_event`, where a session that is not there
raises. -/
def handleResumeCommandProgress (controllerRoleId senderId : String) (event : VirtualDesktopEvent) :
    Proc SessionTable Exc PUnit :=
  if isSenderRole controllerRoleId senderId = false then Proc.raise (corruptedSender senderId)
  else
    let status := (event.detailString "status").getD ""
    if status = "Success" ∨ status = "Failed" then
      handleSession hours (event.detailString "idea_session_owner")
        (event.detailString "idea_session_id") (noAttribute "state") (resumeCommandProgress status)
    else pure ⟨⟩

/-- The sessions of a call are read one after the other; one that is not there raises when its id is put
into the text of the failure. -/
def readSessions : List (Option String × Option String) →
    Proc SessionTable Exc (List VirtualDesktopSession)
  | [] => pure []
  | (owner, id) :: rest => do
    let session ← Sessions.getFromDb hours owner id
    match session with
    | none => do
      Proc.liftExcept (noAttribute "idea_session_id")
      return []
    | some session => do
      let sessions ← readSessions rest
      return session :: sessions

/-- Reading the sessions does not change the table. -/
theorem reads_readSessions (ids : List (Option String × Option String)) : Reads (readSessions hours ids) := by
  induction ids with
  | nil => exact Reads.pure _
  | cons key rest ih =>
    refine Reads.bind (Sessions.reads_getFromDb hours key.1 key.2) fun session => ?_
    cases session with
    | none => exact Reads.bind (Reads.liftExcept _) fun _ => Reads.pure _
    | some session => exact Reads.bind ih fun _ => Reads.pure _

/-- A call of a user for a list of sessions: all are read before the first is written. `order` gives those
that are written, in the order of the broker's answer. -/
def callForSessions (order : List VirtualDesktopSession → List VirtualDesktopSession)
    (k : VirtualDesktopSession → Handling) (ids : List (Option String × Option String)) :
    Proc SessionTable Exc PUnit := do
  let sessions ← readSessions hours ids
  Proc.forEach (fun session => carryOut (k session)) (order sessions)

def stopSessions (order : List VirtualDesktopSession → List VirtualDesktopSession)
    (deleted : VirtualDesktopSession → Bool) (ids : List (Option String × Option String)) :
    Proc SessionTable Exc PUnit :=
  callForSessions hours order (fun session => stop (deleted session) session) ids

def resumeSessions (order : List VirtualDesktopSession → List VirtualDesktopSession) (started : Bool)
    (ids : List (Option String × Option String)) : Proc SessionTable Exc PUnit :=
  callForSessions hours order (resume started) ids

def rebootSessions (order : List VirtualDesktopSession → List VirtualDesktopSession)
    (force : VirtualDesktopSession → Bool) (connectionCount : VirtualDesktopSession → Nat)
    (ids : List (Option String × Option String)) : Proc SessionTable Exc PUnit :=
  callForSessions hours order
    (fun session => reboot (force session) (connectionCount session) session) ids

def terminateSessions (order : List VirtualDesktopSession → List VirtualDesktopSession)
    (deleted : VirtualDesktopSession → Bool) (ids : List (Option String × Option String)) :
    Proc SessionTable Exc PUnit :=
  callForSessions hours order (fun session => terminate (deleted session) session) ids

/-- The resumption that was submitted has already put the session in `RESUMING`, so the handler of a
reboot never writes. -/
theorem dcvHostRebootComplete_write (senderId senderInstanceId : String) (brokerState : Option String)
    (counter : Int) (failureReason : Option String) (session : VirtualDesktopSession) :
    (dcvHostRebootComplete senderId senderInstanceId brokerState counter failureReason session).write = none := by
  unfold dcvHostRebootComplete fromHost
  cases session.server with
  | none => rfl
  | some server =>
    dsimp only
    split
    · rfl
    · split
      · rfl
      · split
        · rfl
        · split
          · split <;> rfl
          · cases hreason : isEmptyOpt failureReason with
            | false => rfl
            | true =>
              have hstate : (resumeSession failureReason session).state = .resuming := by
                rw [resumeSession, if_pos hreason]
                rfl
              simp only [Bool.true_eq_false, if_false, hstate, ne_eq, not_true_eq_false]

end ContainRes.VirtualDesktop.Lifecycle
