import ContainRes.VirtualDesktop.SessionHandlers

/-! # Resuming a hibernated session

When the instance of a hibernated session is running again, the controller itself publishes the event that a
rebooted host would have published. The handler of that event takes the instance that it comes from out of the
sender's id, and the sender is the controller.

* **`handleRunningEvent`** — the controller's part: the event is published, and the server is marked `CREATED`.
* **`handleDcvHostRebootComplete`** — the handler: the sender is checked, and the command that resumes the DCV
  session is sent to the host.
* **`RunsOn`** — the server of a session is a given instance.
* **`handshake_iff`** — the event of the controller is taken exactly when the session runs on the controller's own
  instance. -/

namespace ContainRes.VirtualDesktop.HibernationResume

open Effects Text
open Sessions Lifecycle

/-- What the two handlers read and write. -/
structure World where
  sessions : SessionTable := ∅
  servers : ServerTable := ∅
  /-- The messages that the controller has published. -/
  messages : List QueueMessage := []
  /-- The instances that the command for resuming their DCV session was sent to. -/
  resumed : List (Option String) := []

variable {α : Type}

/-- A procedure on the sessions table. -/
def onSessions (c : Proc SessionTable Exc α) : Proc World Exc α :=
  Proc.zoom World.sessions (fun t w => { w with sessions := t }) c

/-- A procedure on the servers table. -/
def onServers (c : Proc ServerTable Exc α) : Proc World Exc α :=
  Proc.zoom World.servers (fun t w => { w with servers := t }) c

theorem run_onSessions_getFromDb (hours : Schedules.WorkingHours) (owner id : Option String) (w : World) :
    (onSessions (Sessions.getFromDb hours owner id)).run w =
      (((Sessions.getFromDb hours owner id).run w.sessions).1, w) := by
  have hreads := Sessions.reads_getFromDb hours owner id w.sessions
  unfold onSessions
  rw [Proc.run_zoom, hreads]

/-! ## The controller's part -/

/-- The event of `publish_dcv_host_reboot_complete_event`. -/
def dcvHostRebootCompleteEvent (ideaSessionId ideaSessionOwner instanceId : Option String) :
    VirtualDesktopEvent where
  eventGroupId := ideaSessionId
  eventType := some .dcvHostRebootComplete
  detail := some (sessionDetail ideaSessionId ideaSessionOwner ++ [("instance_id", .ofOption instanceId)])

def publishDcvHostRebootCompleteEvent (ideaSessionId ideaSessionOwner instanceId : Option String) :
    Proc World Exc PUnit := do
  let message ← Proc.liftExcept
    (messageOf (dcvHostRebootCompleteEvent ideaSessionId ideaSessionOwner instanceId))
  Proc.modify fun w => { w with messages := w.messages ++ [message] }

variable (hours : Schedules.WorkingHours)

def handleRunningEvent (event : VirtualDesktopEvent) : Proc World Exc PUnit := do
  let instanceId := event.detailString "instance_id"
  let ideaSessionId := event.detailString "idea_session_id"
  let ideaSessionOwner := event.detailString "idea_session_owner"
  let session ← onSessions (Sessions.getFromDb hours ideaSessionOwner ideaSessionId)
  match session with
  | none => pure ⟨⟩
  | some session =>
    Proc.when (session.hibernationEnabled = true ∧ session.state = .resuming)
      (publishDcvHostRebootCompleteEvent ideaSessionId ideaSessionOwner instanceId)
    let server ← onServers (getServer instanceId)
    match server with
    | none => Proc.liftExcept (noAttribute "state")
    | some server => onServers (updateServer { server with state := some "CREATED" })

/-- `EC2StateChangeEventHandler.handle_event`; what it does to a session whose instance stops is
`Lifecycle.handleEc2StateChange`. -/
def handleEc2StateChange (controllerRoleId senderId : String) (event : VirtualDesktopEvent) (serverFound : Bool) :
    Proc World Exc PUnit :=
  if isSenderRole controllerRoleId senderId = false then Proc.raise (corruptedSender senderId)
  else if isEmptyOpt (event.detailString "instance_id") then pure ⟨⟩
  else if event.detailString "state" = some "running" then handleRunningEvent hours event
  else onSessions (Lifecycle.handleEc2StateChange hours controllerRoleId senderId event serverFound)

/-! ## The handler of the event -/

/-- Whether the handler gets as far as the command that resumes the DCV session. -/
def Resumable (brokerState : Option String) (session : VirtualDesktopSession) : Prop :=
  (session.state = .resuming ∨ session.state = .ready ∨ session.state = .error ∨ session.state = .stopped) ∧
    ¬ (session.state = .ready ∧ (brokerState = some "CREATING" ∨ brokerState = some "READY"))

instance (brokerState : Option String) (session : VirtualDesktopSession) :
    Decidable (Resumable brokerState session) := by
  unfold Resumable
  infer_instance

/-- The command is sent to the host of the session, and the server is marked `CREATED`. -/
def submitResume (session : VirtualDesktopSession) : Proc World Exc PUnit := do
  let instanceId := session.server.bind (·.instanceId)
  Proc.modify fun w => { w with resumed := w.resumed ++ [instanceId] }
  let server ← onServers (getServer instanceId)
  match server with
  | none => Proc.liftExcept (noAttribute "state")
  | some server =>
    Proc.when (server.state ≠ some "CREATED") (onServers (updateServer { server with state := some "CREATED" }))

/-- `DCVHostRebootCompleteEventHandler.handle_event`, with the command and the server that
`Lifecycle.dcvHostRebootComplete` leaves out. `refused` is why the host cannot take the command, if it cannot;
the handler raises then. -/
def handleDcvHostRebootComplete (senderId : String) (event : VirtualDesktopEvent) (brokerState : Option String)
    (counter : Int) (refused : Option String) : Proc World Exc PUnit :=
  let sender := dcvInstanceIdFromSenderId senderId
  if isEmptyOpt sender then Proc.raise (corruptedSender senderId)
  else
    let ideaSessionId := event.detailString "idea_session_id"
    let ideaSessionOwner := event.detailString "idea_session_owner"
    if isEmptyOpt ideaSessionId ∨ isEmptyOpt ideaSessionOwner then pure ⟨⟩
    else do
      let session ← onSessions (Sessions.getFromDb hours ideaSessionOwner ideaSessionId)
      match session with
      | none => pure ⟨⟩
      | some session =>
        onSessions (carryOut (dcvHostRebootComplete senderId (sender.getD "") brokerState counter refused session))
        Proc.when (Resumable brokerState session) (submitResume session)

/-! ## Values that are read off an event twice -/

theorem isSpace_of_mem_repr {n : ℕ} {c : Char} (h : c ∈ n.repr.toList) : isSpace c = false := by
  rw [Nat.repr_eq_ofList_toDigits, String.toList_ofList] at h
  exact isSpace_of_isDigit (Nat.isDigit_of_mem_toDigits (by decide) (by decide) h)

/-- A value of an event's detail is stripped already. -/
theorem getAsString_detailString (event : VirtualDesktopEvent) (key : String) :
    getAsString (event.detailString key) = event.detailString key := by
  unfold VirtualDesktopEvent.detailString
  cases (event.detail.getD []).lookup key with
  | none => rfl
  | some value =>
    cases value with
    | S s => exact getAsString_getAsString (some s)
    | NULL => rfl
    | BOOL b => cases b <;> decide
    | N n =>
      show getAsString (some (toString n)) = some (toString n)
      rw [Int.toString_eq_repr, Int.repr_eq_if]
      split
      · exact getAsString_of_noSpace Nat.repr_ne_empty fun c hc => isSpace_of_mem_repr hc
      · refine getAsString_of_noSpace (fun h => ?_) fun c hc => ?_
        · simp at h
        · rw [String.toList_append, List.mem_append] at hc
          rcases hc with hminus | hdigits
          · have hc' : c = '-' := by simpa using hminus
            rw [hc']
            decide
          · exact isSpace_of_mem_repr hdigits

/-! ## Who the sender is -/

/-- The id that the queue gives to the messages of an instance with a role. -/
def senderIdOf (roleId instanceId : String) : String := roleId ++ ":" ++ instanceId

/-- The instance behind the colon is the one that sent the message. -/
theorem dcvInstanceIdFromSenderId_senderIdOf {roleId instanceId : String} (hrole : ':' ∉ roleId.toList)
    (hinstance : ':' ∉ instanceId.toList) :
    dcvInstanceIdFromSenderId (senderIdOf roleId instanceId) = some instanceId := by
  have hsplit : (senderIdOf roleId instanceId).toList.splitOn ':' = [roleId.toList, instanceId.toList] := by
    have hplain : ∀ l ∈ [roleId.toList, instanceId.toList], ':' ∉ l := by
      simpa using ⟨hrole, hinstance⟩
    have hjoin : (senderIdOf roleId instanceId).toList =
        [':'].intercalate [roleId.toList, instanceId.toList] := by
      simp [senderIdOf, String.toList_append]
    rw [hjoin]
    exact List.splitOn_intercalate ':' hplain (List.cons_ne_nil _ _)
  unfold dcvInstanceIdFromSenderId splitChar
  rw [hsplit]
  simp

/-- The server of a session is the instance. -/
def RunsOn (instanceId : String) (session : VirtualDesktopSession) : Prop :=
  ∃ server, session.server = some server ∧ server.instanceId = some instanceId

/-- The event is not taken for that of a corrupted sender, and the session is moved on: the command for resuming
is sent to its host, or, if the host cannot take it yet, the message stays in the queue. -/
def Accepted (senderId : String) (refused : Option String) (session : VirtualDesktopSession) (w : World)
    (outcome : Except Exc PUnit × World) : Prop :=
  outcome.1 ≠ .error (corruptedSender senderId) ∧
    (if isEmptyOpt refused then outcome.2.resumed = w.resumed ++ [session.server.bind (·.instanceId)]
      else ∃ text, outcome.1 = .error (.soca .doNotDeleteMessage text))

section Handshake

variable {roleId instanceId : String} {session : VirtualDesktopSession} {w : World}

/-- The session that the event is about. -/
def sessionOf (event : VirtualDesktopEvent) (w : World) : Except Exc (Option VirtualDesktopSession) :=
  ((Sessions.getFromDb hours (event.detailString "idea_session_owner")
    (event.detailString "idea_session_id")).run w.sessions).1

variable {hours} {event : VirtualDesktopEvent}

/-- A session is read only under an owner and an id. -/
theorem nonblank_of_sessionOf (h : sessionOf hours event w = .ok (some session)) :
    isEmptyOpt (event.detailString "idea_session_owner") = false ∧
      isEmptyOpt (event.detailString "idea_session_id") = false := by
  unfold sessionOf Sessions.getFromDb at h
  by_cases hblank : (isEmptyOpt (event.detailString "idea_session_owner") ||
      isEmptyOpt (event.detailString "idea_session_id")) = true
  · rw [if_pos hblank] at h
    cases h
  · simpa using hblank

theorem messages_onServers {β : Type} (c : Proc ServerTable Exc β) (w : World) :
    ((onServers c).run w).2.messages = w.messages := rfl

/-- **The controller's part.** The running event of a hibernated session publishes the event of a rebooted
host. -/
theorem run_handleEc2StateChange {controllerRoleId senderId : String}
    (serverFound : Bool) (hsender : isSenderRole controllerRoleId senderId = true)
    (hinstance : isEmptyOpt (event.detailString "instance_id") = false)
    (hrunning : event.detailString "state" = some "running") (hsession : sessionOf hours event w = .ok (some session))
    (hresuming : session.state = .resuming) (hhibernation : session.hibernationEnabled = true) :
    ∃ message, ((handleEc2StateChange hours controllerRoleId senderId event serverFound).run w).2.messages =
        w.messages ++ [message] ∧ message.body = dcvHostRebootCompleteEvent (event.detailString "idea_session_id")
        (event.detailString "idea_session_owner") (event.detailString "instance_id") := by
  obtain ⟨-, hid⟩ := nonblank_of_sessionOf hsession
  obtain ⟨id, hid'⟩ : ∃ id, event.detailString "idea_session_id" = some id := by
    cases h : event.detailString "idea_session_id" with
    | none => simp [h, isEmptyOpt] at hid
    | some id => exact ⟨id, rfl⟩
  have hread : (onSessions (Sessions.getFromDb hours (event.detailString "idea_session_owner")
      (event.detailString "idea_session_id"))).run w = (.ok (some session), w) := by
    rw [run_onSessions_getFromDb]
    exact congrArg (·, w) hsession
  unfold handleEc2StateChange
  rw [if_neg (by simp [hsender]), if_neg (by simp [hinstance]), if_pos hrunning]
  unfold handleRunningEvent
  rw [Proc.run_bind_of_ok hread]
  dsimp only
  rw [hid']
  refine ⟨⟨replaceBlanks id, _⟩, ?_, rfl⟩
  set message : QueueMessage := ⟨replaceBlanks id, dcvHostRebootCompleteEvent (some id)
    (event.detailString "idea_session_owner") (event.detailString "instance_id")⟩
  have hpublish : (Proc.when (session.hibernationEnabled = true ∧ session.state = .resuming)
      (publishDcvHostRebootCompleteEvent (some id) (event.detailString "idea_session_owner")
        (event.detailString "instance_id"))).run w =
      (.ok ⟨⟩, { w with messages := w.messages ++ [message] }) :=
    Proc.run_when_pos ⟨hhibernation, hresuming⟩ w
  rw [Proc.run_bind_of_ok hpublish, Proc.run_bind]
  -- whatever becomes of the server, the message is there
  set w' : World := { w with messages := w.messages ++ [message] }
  have hserver := messages_onServers (getServer (event.detailString "instance_id")) w'
  rcases hget : (onServers (getServer (event.detailString "instance_id"))).run w' with ⟨e | server, t⟩
  · rw [hget] at hserver
    exact hserver
  · rw [hget] at hserver
    cases server with
    | none => exact hserver
    | some server => exact (messages_onServers _ t).trans hserver

/-- How the handler ends for a session in `RESUMING` whose sender is its host, before the command is recorded. -/
def resumeOutcome (refused : Option String) : Except Exc PUnit :=
  if isEmptyOpt refused = false then
    let reason := refused.getD "None"
    doNotDeleteMessage s!"Issue in resuming session: {reason}. Will try again later"
  else .ok ⟨⟩

variable (brokerState refused : Option String) {senderId : String} (counter : Int)

/-- What the handler decides for a session in `RESUMING`. -/
theorem dcvHostRebootComplete_resuming (hresuming : session.state = .resuming) :
    dcvHostRebootComplete senderId instanceId brokerState counter refused session =
      fromHost senderId instanceId session ⟨none, resumeOutcome refused⟩ := by
  have hresumed : (resumeSession refused session).state = .resuming := by
    unfold resumeSession
    split
    · rfl
    · exact hresuming
  unfold dcvHostRebootComplete resumeOutcome
  simp only [hresuming, hresumed, ne_eq, not_true_eq_false, false_and, if_false, reduceCtorEq]
  split <;> rfl

/-- The handler, for a session in `RESUMING`, up to the sending of the command. -/
theorem run_handleDcvHostRebootComplete
    (hsender : dcvInstanceIdFromSenderId senderId = some instanceId) (hinstance : isEmpty instanceId = false)
    (hsession : sessionOf hours event w = .ok (some session)) (hresuming : session.state = .resuming) :
    (handleDcvHostRebootComplete hours senderId event brokerState counter refused).run w =
      match (fromHost senderId instanceId session ⟨none, resumeOutcome refused⟩).result with
      | .ok _ => (submitResume session).run w
      | .error e => (.error e, w) := by
  obtain ⟨howner, hid⟩ := nonblank_of_sessionOf hsession
  have hread : (onSessions (Sessions.getFromDb hours (event.detailString "idea_session_owner")
      (event.detailString "idea_session_id"))).run w = (.ok (some session), w) := by
    rw [run_onSessions_getFromDb]
    exact congrArg (·, w) hsession
  have hwrite := dcvHostRebootComplete_write senderId instanceId brokerState counter refused session
  have hcarry : (onSessions (carryOut
      (dcvHostRebootComplete senderId instanceId brokerState counter refused session))).run w =
      ((dcvHostRebootComplete senderId instanceId brokerState counter refused session).result, w) := by
    refine Proc.run_zoom_of ?_
    unfold carryOut
    rw [hwrite]
    exact Proc.run_liftExcept _ _
  have hresumable : Resumable brokerState session := by
    refine ⟨.inl hresuming, ?_⟩
    rintro ⟨hready, -⟩
    rw [hresuming] at hready
    cases hready
  unfold handleDcvHostRebootComplete
  rw [hsender]
  dsimp only [Option.getD_some]
  rw [if_neg (by simp [isEmptyOpt, hinstance]), if_neg (by simp [howner, hid]), Proc.run_bind_of_ok hread]
  dsimp only
  rw [Proc.run_bind, hcarry, dcvHostRebootComplete_resuming brokerState refused counter hresuming]
  cases (fromHost senderId instanceId session ⟨none, resumeOutcome refused⟩).result with
  | error e => rfl
  | ok _ => exact Proc.run_when_pos hresumable w

/-- Marking a server as `CREATED` fails in other ways than the check of the sender. -/
theorem submitResume_ne_corruptedSender (session : VirtualDesktopSession) (w : World) (senderId : String) :
    ((submitResume session).run w).1 ≠ .error (corruptedSender senderId) := by
  unfold submitResume
  rw [Proc.run_bind_of_ok (Proc.run_modify _ w)]
  set w' : World := { w with resumed := w.resumed ++ [session.server.bind (·.instanceId)] }
  by_cases hblank : isEmptyOpt (session.server.bind (·.instanceId)) = true
  · have hget : (onServers (getServer (session.server.bind (·.instanceId)))).run w' =
        (.error (Exc.invalidParams "instance_id is required"), w') := by
      refine Proc.run_zoom_of ?_
      unfold getServer
      rw [if_pos hblank, Proc.run_raise]
    rw [Proc.run_bind_of_error hget]
    intro h
    cases h
  · obtain ⟨server, hget⟩ : ∃ server, (onServers (getServer (session.server.bind (·.instanceId)))).run w' =
        (.ok server, w') := by
      unfold onServers getServer
      rw [if_neg hblank]
      exact ⟨_, rfl⟩
    rw [Proc.run_bind_of_ok hget]
    cases server with
    | none =>
      intro h
      cases h
    | some server =>
      dsimp only
      rw [Proc.run_when]
      split
      · unfold updateServer
        cases server.instanceId with
        | none =>
          intro h
          cases h
        | some id =>
          intro h
          cases h
      · intro h
        cases h

/-- The command is among those that were sent, whatever becomes of the server. -/
theorem resumed_submitResume (session : VirtualDesktopSession) (w : World) :
    ((submitResume session).run w).2.resumed = w.resumed ++ [session.server.bind (·.instanceId)] := by
  unfold submitResume
  rw [Proc.run_bind_of_ok (Proc.run_modify _ w), Proc.run_bind]
  set w' : World := { w with resumed := w.resumed ++ [session.server.bind (·.instanceId)] }
  have hresumed : ∀ {β : Type} (c : Proc ServerTable Exc β) (v : World),
      ((onServers c).run v).2.resumed = v.resumed := fun _ _ => rfl
  have hserver := hresumed (getServer (session.server.bind (·.instanceId))) w'
  rcases hget : (onServers (getServer (session.server.bind (·.instanceId)))).run w' with ⟨e | server, t⟩
  · rw [hget] at hserver
    exact hserver
  · rw [hget] at hserver
    cases server with
    | none => exact hserver
    | some server =>
      show ((Proc.when (server.state ≠ some "CREATED") _).run t).2.resumed = _
      rw [Proc.run_when]
      split
      · exact (hresumed _ t).trans hserver
      · exact hserver

/-- The handler's check of the sender, for a session in `RESUMING`: the event is accepted exactly when the session
runs on the instance that sent it. -/
theorem accepted_iff (hsender : dcvInstanceIdFromSenderId senderId = some instanceId)
    (hinstance : isEmpty instanceId = false) (hsession : sessionOf hours event w = .ok (some session))
    (hresuming : session.state = .resuming) : Accepted senderId refused session w
        ((handleDcvHostRebootComplete hours senderId event brokerState counter refused).run w) ↔
      RunsOn instanceId session := by
  rw [run_handleDcvHostRebootComplete brokerState refused counter hsender hinstance hsession hresuming]
  have hgrow : w.resumed ≠ w.resumed ++ [session.server.bind (·.instanceId)] := by simp
  unfold fromHost RunsOn
  cases hserver : session.server with
  | none =>
    refine iff_of_false ?_ (by simp)
    rintro ⟨-, htaken⟩
    rw [hserver] at hgrow
    split at htaken
    · exact hgrow (by rw [hserver] at htaken; exact htaken)
    · obtain ⟨text, htext⟩ := htaken
      cases htext
  | some server =>
    dsimp only
    by_cases hhost : server.instanceId = some instanceId
    · rw [if_neg (not_not.mpr hhost)]
      refine iff_of_true ?_ ⟨server, rfl, hhost⟩
      unfold resumeOutcome
      cases hrefused : isEmptyOpt refused with
      | true =>
        rw [if_neg (by simp)]
        refine ⟨submitResume_ne_corruptedSender session w senderId, ?_⟩
        rw [hrefused, if_pos rfl]
        exact resumed_submitResume session w
      | false =>
        rw [if_pos rfl]
        refine ⟨?_, ?_⟩
        · intro h
          cases h
        · rw [hrefused, if_neg (by simp)]
          exact ⟨_, rfl⟩
    · rw [if_pos hhost]
      refine iff_of_false ?_ ?_
      · rintro ⟨hnot, -⟩
        exact hnot rfl
      · rintro ⟨server', h, hhost'⟩
        obtain rfl := Option.some.inj h
        exact hhost hhost'

/-- **The handshake.** A session in `RESUMING` with hibernation whose instance runs: the controller publishes one
event, and whenever that event is delivered while the session is still in `RESUMING`, under the id of the
controller's role and instance, it is accepted exactly when the session runs on the controller's own instance. -/
theorem handshake_iff {roleId instanceId : String} (hrole : ':' ∉ roleId.toList)
    (hcontroller : ':' ∉ instanceId.toList) (hnonblank : isEmpty instanceId = false) {senderId : String}
    {event : VirtualDesktopEvent} (serverFound : Bool) (hsender : isSenderRole roleId senderId = true)
    (hinstance : isEmptyOpt (event.detailString "instance_id") = false)
    (hrunning : event.detailString "state" = some "running")
    (hsession : sessionOf hours event w = .ok (some session)) (hresuming : session.state = .resuming)
    (hhibernation : session.hibernationEnabled = true) :
    ∃ message, ((handleEc2StateChange hours roleId senderId event serverFound).run w).2.messages =
        w.messages ++ [message] ∧
      ∀ (w' : World) (session' : VirtualDesktopSession), sessionOf hours event w' = .ok (some session') →
        session'.state = .resuming → ∀ (brokerState refused : Option String) (counter : Int),
          Accepted (senderIdOf roleId instanceId) refused session' w'
              ((handleDcvHostRebootComplete hours (senderIdOf roleId instanceId) message.body brokerState counter
                refused).run w') ↔ RunsOn instanceId session' := by
  obtain ⟨message, hmessages, hbody⟩ :=
    run_handleEc2StateChange serverFound hsender hinstance hrunning hsession hresuming hhibernation
  refine ⟨message, hmessages, fun w' session' hsession' hresuming' brokerState refused counter => ?_⟩
  -- the event names the session that the first event named
  obtain ⟨hid, howner⟩ := detailString_sessionDetail
    (dcvHostRebootCompleteEvent (event.detailString "idea_session_id") (event.detailString "idea_session_owner")
      (event.detailString "instance_id")) rfl
  have hread : sessionOf hours message.body w' = .ok (some session') := by
    unfold sessionOf at hsession' ⊢
    rw [hbody, hid, howner, getAsString_detailString, getAsString_detailString]
    exact hsession'
  exact accepted_iff brokerState refused counter (dcvInstanceIdFromSenderId_senderIdOf hrole hcontroller) hnonblank
    hread hresuming'

end Handshake

/-! ## A controller that rejects its own event -/

/-- The hibernated session of alice, on her host. -/
def sleepingSession : Sessions.SessionRow where
  name := some "desktop"
  description := none
  dcvSessionId := some "dcv-1"
  state := .resuming
  hibernationEnabled := true
  server := some { instanceId := some "i-host" }
  schedule := fun _ => none

/-- The sessions table with it. -/
def sleepingWorld : World where
  sessions := (∅ : SessionTable).putItem ("alice", "session-1") sleepingSession

/-- Her instance runs. -/
def runningEvent : VirtualDesktopEvent where
  eventGroupId := some "session-1"
  eventType := some .ec2InstanceStateChanged
  detail := some (sessionDetail (some "session-1") (some "alice") ++
    [("instance_id", .S "i-host"), ("state", .S "running")])

/-- Working hours. -/
def officeHours : Schedules.WorkingHours := ⟨"09:00", "17:00"⟩

/-- The session as it is read. -/
def sleepingObject : VirtualDesktopSession where
  owner := some "alice"
  ideaSessionId := some "session-1"
  name := some "desktop"
  description := some ""
  dcvSessionId := some "dcv-1"
  state := .resuming
  hibernationEnabled := true
  server := some { instanceId := some "i-host" }
  schedule := fun _ => some (Schedules.getEmptySchedule none)

theorem sessionOf_runningEvent : sessionOf officeHours runningEvent sleepingWorld = .ok (some sleepingObject) := by
  have hid : runningEvent.detailString "idea_session_id" = some "session-1" := by decide
  have howner : runningEvent.detailString "idea_session_owner" = some "alice" := by decide
  unfold sessionOf
  rw [hid, howner]
  with_unfolding_all rfl

theorem controllerSender_plain :
    ':' ∉ "vdc-role".toList ∧ ':' ∉ "i-controller".toList ∧ isEmpty "i-controller" = false := by
  decide

/-- The handshake of alice's session, which would be completed on the controller's instance only. -/
theorem handshake_iff_runningEvent :
    ∃ message, ((handleEc2StateChange officeHours "vdc-role" "vdc-role:i-controller" runningEvent true).run
        sleepingWorld).2.messages = sleepingWorld.messages ++ [message] ∧
      ∀ (w' : World) (session' : VirtualDesktopSession),
        sessionOf officeHours runningEvent w' = .ok (some session') → session'.state = .resuming →
        ∀ (brokerState refused : Option String) (counter : Int),
          Accepted (senderIdOf "vdc-role" "i-controller") refused session' w'
              ((handleDcvHostRebootComplete officeHours (senderIdOf "vdc-role" "i-controller") message.body brokerState
                counter refused).run w') ↔ RunsOn "i-controller" session' := by
  obtain ⟨hrole, hcontroller, hnonblank⟩ := controllerSender_plain
  have hsender : isSenderRole "vdc-role" "vdc-role:i-controller" = true := by decide
  exact handshake_iff hrole hcontroller hnonblank true hsender (by decide) (by decide) sessionOf_runningEvent rfl rfl

/-- **The controller rejects its own event.** What it publishes for the session of alice is not accepted. -/
theorem own_event_rejected :
    ∃ message, ((handleEc2StateChange officeHours "vdc-role" "vdc-role:i-controller" runningEvent true).run
        sleepingWorld).2.messages = [message] ∧
      ¬ Accepted (senderIdOf "vdc-role" "i-controller") none sleepingObject sleepingWorld
        ((handleDcvHostRebootComplete officeHours (senderIdOf "vdc-role" "i-controller") message.body none 0
          none).run sleepingWorld) := by
  obtain ⟨hrole, hinstance, hnonblank⟩ := controllerSender_plain
  have hsender : isSenderRole "vdc-role" "vdc-role:i-controller" = true := by decide
  obtain ⟨message, hmessages, hbody⟩ :=
    run_handleEc2StateChange true hsender (by decide) (by decide) sessionOf_runningEvent rfl rfl
  refine ⟨message, hmessages, ?_⟩
  have hsession : sessionOf officeHours message.body sleepingWorld = .ok (some sleepingObject) := by
    have hid : message.body.detailString "idea_session_id" = runningEvent.detailString "idea_session_id" := by
      rw [hbody]
      decide
    have howner : message.body.detailString "idea_session_owner" = runningEvent.detailString "idea_session_owner" := by
      rw [hbody]
      decide
    have hread := sessionOf_runningEvent
    unfold sessionOf at hread ⊢
    rw [hid, howner]
    exact hread
  rw [accepted_iff none none 0 (dcvInstanceIdFromSenderId_senderIdOf hrole hinstance) hnonblank hsession rfl]
  rintro ⟨server, hserver, hhost⟩
  obtain rfl := Option.some.inj hserver
  exact absurd hhost (by decide)

end ContainRes.VirtualDesktop.HibernationResume
