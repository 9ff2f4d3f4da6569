import ContainRes.VirtualDesktop.SessionStates

/-! # The counters of a session

`VirtualDesktopSessionCounterDB` and the three handlers that count: the creations of the DCV session that were
refused, the validations of a creation, and the deliveries of a completed reboot. A session goes through many
rounds of validation, and the counters of one round are to be gone before the next.

* **`CounterRows`** — the rows of one session in the counters table.
* **`World`**, **`Event`**, **`system`** — the session, its counters and its messages, in any order of events.
* **`PerRound`** — the counters are zero at the end of every round, and every round allows as many attempts as one
  that starts from zero.
* **`Sound`**, **`perRound_of_sound`** — the steps that keep to it.
* **`counter_kept_in_error`** — a round that ends in `ERROR` keeps its counter, and the next starts with it. -/

namespace ContainRes.VirtualDesktop.SessionCounters

open Systems Text
open Sessions Lifecycle

/-! ## The counters table -/

/-- `VirtualDesktopSessionCounterType`. -/
inductive CounterType
  | dcvSessionCreationRequestAccepted
  | dcvSessionResumed
  | validateDcvSessionCreated
  deriving DecidableEq, Repr

/-- The rows of one session in the counters table, under the type of the counter. -/
abbrev CounterRows : Type := CounterType → Option Int

namespace CounterRows

/-- No counter has a row. -/
def empty : CounterRows := fun _ => none

variable (rows : CounterRows) (type : CounterType)

/-- `VirtualDesktopSessionCounterDB.get`: a counter without a row is zero. -/
def get : Int := (rows type).getD 0

def createOrUpdate (counter : Int) : CounterRows := Function.update rows type (some counter)

def delete : CounterRows := Function.update rows type none

@[simp] theorem get_createOrUpdate (counter : Int) (type' : CounterType) :
    (rows.createOrUpdate type counter).get type' = if type' = type then counter else rows.get type' := by
  unfold get createOrUpdate
  by_cases h : type' = type
  · rw [if_pos h, h, Function.update_self, Option.getD_some]
  · rw [if_neg h, Function.update_of_ne h]

@[simp] theorem get_delete (type' : CounterType) :
    (rows.delete type).get type' = if type' = type then 0 else rows.get type' := by
  unfold get delete
  by_cases h : type' = type
  · rw [if_pos h, h, Function.update_self, Option.getD_none]
  · rw [if_neg h, Function.update_of_ne h]

/-- The number of creations of the DCV session that were refused. -/
def creations : Int := rows.get .dcvSessionCreationRequestAccepted

/-- The number of validations so far. -/
def validations : Int := rows.get .validateDcvSessionCreated

/-- Both counters of the validation are back to zero. -/
def Zero : Prop := rows.creations = 0 ∧ rows.validations = 0

end CounterRows

/-! ## Events -/

/-- What happens to the session, with what the handlers are told beside the counters. -/
inductive Event
  | dcvHostReady (senderId senderInstanceId : String) (failureReason dcvSessionId : Option String)
  | validateCreation (brokerState : Option String)
  | dcvHostRebootComplete (senderId senderInstanceId : String) (brokerState failureReason : Option String)
  | resumeCommandProgress (status : String)
  | resume (started : Bool)
  | reboot (force : Bool) (connectionCount : Nat)
  | stop (deleted : Bool)
  | terminate (deleted : Bool)
  | ec2StateChange (state : String) (serverFound : Bool)
  | validateDeletion (brokerState : Option String) (cleaned : Bool)

/-- The operation of an event, which reads its counter. -/
def Event.operation (rows : CounterRows) : Event → Lifecycle.Operation
  | .dcvHostReady senderId senderInstanceId failureReason dcvSessionId =>
    .dcvHostReady senderId senderInstanceId failureReason dcvSessionId rows.creations
  | .validateCreation brokerState => .validateCreation rows.validations brokerState
  | .dcvHostRebootComplete senderId senderInstanceId brokerState failureReason =>
    .dcvHostRebootComplete senderId senderInstanceId brokerState (rows.get .dcvSessionResumed) failureReason
  | .resumeCommandProgress status => .resumeCommandProgress status
  | .resume started => .resume started
  | .reboot force connectionCount => .reboot force connectionCount
  | .stop deleted => .stop deleted
  | .terminate deleted => .terminate deleted
  | .ec2StateChange state serverFound => .ec2StateChange state serverFound
  | .validateDeletion brokerState cleaned => .validateDeletion brokerState cleaned

/-- The event comes from the host of the session. -/
def isHost (session : VirtualDesktopSession) (senderInstanceId : String) : Bool :=
  session.server.any fun server => server.instanceId = some senderInstanceId

/-- What `DCVHostReadyEventHandler` does with its counter: it is cleared after a creation that was accepted, and
counts one that was refused until the session is in error. -/
def hostReadyCounters (rows : CounterRows) (session : VirtualDesktopSession) (senderInstanceId : String)
    (failureReason : Option String) : CounterRows :=
  if isHost session senderInstanceId = false then rows
  else if session.state ≠ .provisioning ∧ session.state ≠ .creating then rows
  else if isEmptyOpt failureReason then
    if rows.creations = 0 then rows else rows.delete .dcvSessionCreationRequestAccepted
  else if rows.creations < sessionCreationThresholdCount then
    rows.createOrUpdate .dcvSessionCreationRequestAccepted (rows.creations + 1)
  else rows.createOrUpdate .dcvSessionCreationRequestAccepted rows.creations

/-- What `ValidateDCVSessionCreationEventHandler` does with its counter: it is deleted when the session is `READY` or
being deleted, and kept when the session is put in error. -/
def validateCreationCounters (rows : CounterRows) (session : VirtualDesktopSession)
    (brokerState : Option String) : CounterRows :=
  if session.state = .deleting ∨ session.state = .deleted then rows.delete .validateDcvSessionCreated
  else if brokerState = some "READY" then rows.delete .validateDcvSessionCreated
  else if sessionDeletedThreshold < rows.validations ∧ brokerState = some "DELETED" then rows
  else if validationRequestThreshold < rows.validations then rows
  else if session.state = .stopping then rows
  else rows.createOrUpdate .validateDcvSessionCreated (rows.validations + 1)

/-- What `DCVHostRebootCompleteEventHandler` does with its counter. -/
def rebootCompleteCounters (rows : CounterRows) (session : VirtualDesktopSession) (senderInstanceId : String)
    (brokerState : Option String) : CounterRows :=
  if isHost session senderInstanceId = false then rows
  else if session.state = .ready ∧ brokerState = some "READY" then
    if rows.get .dcvSessionResumed < resumeRequestCountThreshold then
      rows.createOrUpdate .dcvSessionResumed (rows.get .dcvSessionResumed + 1)
    else rows.delete .dcvSessionResumed
  else rows

/-- The counters after an event. -/
def Event.counters (rows : CounterRows) (session : VirtualDesktopSession) : Event → CounterRows
  | .dcvHostReady _ senderInstanceId failureReason _ =>
    hostReadyCounters rows session senderInstanceId failureReason
  | .validateCreation brokerState => validateCreationCounters rows session brokerState
  | .dcvHostRebootComplete _ senderInstanceId brokerState _ =>
    rebootCompleteCounters rows session senderInstanceId brokerState
  | _ => rows

/-- The handler of a reboot submits the command that resumes the DCV session. -/
def submitsResume (session : VirtualDesktopSession) (senderInstanceId : String)
    (brokerState failureReason : Option String) : Bool :=
  isHost session senderInstanceId &&
    (session.state = .resuming || session.state = .error || session.state = .stopped ||
      (session.state = .ready && brokerState ≠ some "CREATING" && brokerState ≠ some "READY")) &&
    isEmptyOpt failureReason

/-! ## The system -/

/-- The session, its counters, and its messages: validations of a creation in the queue, and commands that resume
its DCV session. What the counters were when a round ended or started is noted, and no step reads it. -/
structure World where
  session : Option VirtualDesktopSession
  counters : CounterRows
  validations : Nat := 0
  commands : Nat := 0
  /-- The counters after every round that has ended. -/
  ended : List CounterRows := []
  /-- The number of validations before every round that has started. -/
  started : List Int := []

/-- The session after a write. -/
def afterWrite (session : VirtualDesktopSession) : Option SessionWrite → Option VirtualDesktopSession
  | none => some session
  | some (.put written) => some written
  | some (.remove _) => none

/-- The state in which a session was put. -/
def putState : Option SessionWrite → Option VirtualDesktopSessionState
  | some (.put written) => some written.state
  | _ => none

/-- A handler of the validation ends a round: it puts the session in `READY` or `ERROR`, or finds it deleted. -/
def endsRound (session : VirtualDesktopSession) (write : Option SessionWrite) : Event → Bool
  | .dcvHostReady .. => putState write = some .ready || putState write = some .error
  | .validateCreation _ =>
    putState write = some .ready || putState write = some .error || session.state = .deleting ||
      session.state = .deleted
  | _ => false

/-- A round starts when the session becomes `INITIALIZING`. -/
def startsRound (session : VirtualDesktopSession) (write : Option SessionWrite) : Bool :=
  session.state ≠ .initializing && putState write = some .initializing

/-- A message is handled when its handler returns. -/
def handled (handling : Handling) : Bool :=
  match handling.result with
  | .ok _ => true
  | .error _ => false

/-- The validations in the queue after an event. -/
def Event.validationsAfter (handling : Handling) (n : Nat) : Event → Nat
  | .dcvHostReady .. => if putState handling.write = some .initializing then n + 1 else n
  | .validateCreation _ => if handled handling then n - 1 else n
  | .resumeCommandProgress status => if status = "Success" then n + 1 else n
  | _ => n

/-- The commands under way after an event. -/
def Event.commandsAfter (session : VirtualDesktopSession) (n : Nat) : Event → Nat
  | .dcvHostRebootComplete _ senderInstanceId brokerState failureReason =>
    if submitsResume session senderInstanceId brokerState failureReason then n + 1 else n
  | .resumeCommandProgress status => if status = "Success" ∨ status = "Failed" then n - 1 else n
  | _ => n

/-- An event that happens to a session that is there. -/
def World.react (w : World) (session : VirtualDesktopSession) (e : Event) : World :=
  let handling := (e.operation w.counters).handling session
  let counters := e.counters w.counters session
  { session := afterWrite session handling.write
    counters := counters
    validations := e.validationsAfter handling w.validations
    commands := e.commandsAfter session w.commands
    ended := if endsRound session handling.write e then counters :: w.ended else w.ended
    started := if startsRound session handling.write then w.counters.validations :: w.started else w.started }

/-- The event has its message: a validation is in the queue, or a command is under way. -/
def World.enabled (w : World) : Event → Bool
  | .validateCreation _ => 0 < w.validations
  | .resumeCommandProgress _ => 0 < w.commands
  | _ => true

/-- One event. For a session that is not there, a validation is dropped and everything else changes nothing. -/
def next (w : World) (e : Event) : Option World :=
  if w.enabled e = false then none
  else
    match w.session with
    | some session => some (w.react session e)
    | none =>
      match e with
      | .validateCreation _ => some { w with validations := w.validations - 1 }
      | _ => some w

/-- A session in any state, without counters and messages. -/
def start (session : VirtualDesktopSession) : World where
  session := some session
  counters := .empty

/-- The events of one session in any order. -/
def system : System World Event where
  init w := ∃ session, w = start session
  next := next

/-! ## What is to hold of the rounds -/

/-- The number of validations that a session in a round is allowed for the answers of the broker, until the handler
is through with it. -/
def attempts (session : VirtualDesktopSession) : Int → List (Option String) → Nat
  | _, [] => 0
  | counter, brokerState :: rest =>
    if handled (Lifecycle.validateCreation counter brokerState session) then 0
    else attempts session (counter + 1) rest + 1

/-- The counters are zero after every round, and every round allows what one that starts from zero does. -/
structure PerRound (w : World) : Prop where
  ended : ∀ rows ∈ w.ended, rows.Zero
  started : ∀ counter ∈ w.started, ∀ session brokerStates,
    attempts session counter brokerStates = attempts session 0 brokerStates

/-- The steps that keep to it: none puts the session in error while one of its counters is not zero, and none takes
a session that is being deleted with such a counter back into a round. -/
def Sound (w : World) : Event → Prop
  | .dcvHostReady _ senderInstanceId failureReason _ =>
    ∀ session, w.session = some session → session.state = .provisioning ∨ session.state = .creating →
      isHost session senderInstanceId = true →
        isEmptyOpt failureReason = true ∨ w.counters.creations < sessionCreationThresholdCount
  | .validateCreation brokerState =>
    ∀ session, w.session = some session → session.state = .deleting ∨ session.state = .deleted ∨
      brokerState = some "READY" ∨ w.counters.validations ≤ validationRequestThreshold ∧
        (brokerState = some "DELETED" → w.counters.validations ≤ sessionDeletedThreshold)
  | .ec2StateChange state _ =>
    ∀ session, w.session = some session → state = "stopping" ∨ state = "stopped" →
      session.state = .creating ∨ session.state = .initializing → w.counters.Zero
  | .resumeCommandProgress status =>
    ∀ session, w.session = some session → status = "Failed" ∨ status = "Success" ∧ session.state = .deleting →
      w.counters.validations = 0
  | _ => True

/-- The invariant: a counter that is not zero belongs to a round that is under way or to a session that is being
deleted, and while there are messages no creation has been refused. -/
structure Kept (w : World) : Prop where
  ended : ∀ rows ∈ w.ended, rows.Zero
  started : ∀ counter ∈ w.started, counter = 0
  creations : ∀ session, w.session = some session → w.counters.creations ≠ 0 →
    session.state = .creating ∨ session.state = .deleting
  validations : ∀ session, w.session = some session → w.counters.validations ≠ 0 →
    session.state = .initializing ∨ session.state = .deleting
  pending : 0 < w.validations + w.commands → w.counters.creations = 0 ∧
    ∀ session, w.session = some session → session.state ≠ .provisioning ∧ session.state ≠ .creating

variable {w : World} {session : VirtualDesktopSession}

/-- A session that is in no round and is not being deleted has no counters. -/
theorem Kept.zero (h : Kept w) (hs : w.session = some session) (hcreating : session.state ≠ .creating)
    (hinitializing : session.state ≠ .initializing) (hdeleting : session.state ≠ .deleting) : w.counters.Zero := by
  constructor
  · by_contra hne
    rcases h.creations session hs hne with hstate | hstate
    · exact hcreating hstate
    · exact hdeleting hstate
  · by_contra hne
    rcases h.validations session hs hne with hstate | hstate
    · exact hinitializing hstate
    · exact hdeleting hstate

/-- A write that goes on to a state outside of the rounds, where the counters are zero or the session is being
deleted. -/
theorem Kept.write (h : Kept w) (hs : w.session = some session) {write : Option SessionWrite}
    (hput : ∀ state, putState write = some state → state ≠ .provisioning ∧ state ≠ .creating ∧
      (state = .deleting ∨ w.counters.Zero)) :
    Kept { w with session := afterWrite session write } := by
  rcases write with _ | ⟨written⟩ | _
  · have heq : ({ w with session := afterWrite session none } : World) = w := by
      rw [afterWrite, ← hs]
    rw [heq]
    exact h
  · obtain ⟨hprovisioning, hcreating, hrest⟩ := hput written.state rfl
    refine ⟨h.ended, h.started, ?_, ?_, fun hpending => ⟨(h.pending hpending).1, ?_⟩⟩
    · rintro s hsome hne
      obtain rfl := Option.some.inj hsome
      exact hrest.elim .inr fun hzero => absurd hzero.1 hne
    · rintro s hsome hne
      obtain rfl := Option.some.inj hsome
      exact hrest.elim .inr fun hzero => absurd hzero.2 hne
    · rintro s hsome
      obtain rfl := Option.some.inj hsome
      exact ⟨hprovisioning, hcreating⟩
  · refine ⟨h.ended, h.started, ?_, ?_, fun hpending => ⟨(h.pending hpending).1, ?_⟩⟩ <;>
      exact fun s hsome => absurd hsome (by simp [afterWrite])

theorem Kept.fewer (h : Kept w) {n : Nat} (hn : n ≤ w.validations) : Kept { w with validations := n } := by
  refine ⟨h.ended, h.started, h.creations, h.validations, fun hpending => h.pending ?_⟩
  have hpending' : 0 < n + w.commands := hpending
  omega

/-! ## Where the other handlers put a session -/

@[simp] theorem putState_none : putState none = none := rfl

@[simp] theorem putState_put (written : VirtualDesktopSession) : putState (some (.put written)) = some written.state :=
  rfl

@[simp] theorem putState_remove (removed : VirtualDesktopSession) : putState (some (.remove removed)) = none := rfl

theorem putState_moveTo (state : VirtualDesktopSessionState) : putState (moveTo session state).write = some state := rfl

variable {state : VirtualDesktopSessionState}

theorem putState_resume {started : Bool} (h : putState (Lifecycle.resume started session).write = some state) :
    session.state = .stopped ∧ state = .resuming := by
  unfold Lifecycle.resume at h
  by_cases hstate : session.state ≠ .stopped
  · rw [if_pos hstate] at h
    exact absurd h (by simp)
  · rw [if_neg hstate] at h
    cases started with
    | false => exact absurd h (by simp)
    | true => exact ⟨not_not.mp hstate, (Option.some.inj h).symm⟩

theorem putState_reboot {force : Bool} {connectionCount : Nat}
    (h : putState (Lifecycle.reboot force connectionCount session).write = some state) :
    (session.state = .ready ∨ session.state = .error) ∧ state = .resuming := by
  unfold Lifecycle.reboot at h
  by_cases hstate : session.state ≠ .ready ∧ session.state ≠ .error
  · rw [if_pos hstate] at h
    exact absurd h (by simp)
  · rw [if_neg hstate] at h
    have hstate' : session.state = .ready ∨ session.state = .error := by
      by_contra hno
      exact hstate (not_or.mp hno)
    by_cases hconnected : force = false ∧ 0 < connectionCount
    · rw [if_pos hconnected] at h
      exact absurd h (by simp)
    · rw [if_neg hconnected] at h
      exact ⟨hstate', (Option.some.inj h).symm⟩

theorem putState_stop {deleted : Bool} (h : putState (Lifecycle.stop deleted session).write = some state) :
    session.state = .ready ∧ state = .stopping := by
  unfold Lifecycle.stop at h
  by_cases hstate : session.state ≠ .ready
  · rw [if_pos hstate] at h
    exact absurd h (by simp)
  · rw [if_neg hstate] at h
    refine ⟨not_not.mp hstate, ?_⟩
    by_cases hblank : isEmptyOpt session.dcvSessionId = true
    · rw [if_pos hblank] at h
      exact (Option.some.inj h).symm
    · rw [if_neg hblank] at h
      cases deleted with
      | false => exact absurd h (by simp)
      | true => exact (Option.some.inj h).symm

theorem putState_terminate {deleted : Bool}
    (h : putState (Lifecycle.terminate deleted session).write = some state) : state = .deleting := by
  unfold Lifecycle.terminate at h
  by_cases hgone : isEmptyOpt session.dcvSessionId = true ∨ session.state = .stopped
  · rw [if_pos hgone] at h
    exact absurd h (by simp)
  · rw [if_neg hgone] at h
    cases deleted with
    | false => exact absurd h (by simp)
    | true => exact (Option.some.inj h).symm

theorem putState_validateDeletion {brokerState : Option String} {cleaned : Bool} :
    putState (Lifecycle.validateDeletion brokerState cleaned session).write = none := by
  unfold Lifecycle.validateDeletion
  by_cases hstate : session.state ≠ .stopping ∧ session.state ≠ .deleting
  · rw [if_pos hstate]
    rfl
  · rw [if_neg hstate]
    by_cases hgone : isEmptyOpt brokerState = true ∨ brokerState = some "DELETED"
    · rw [if_pos hgone]
      by_cases hdeleting : session.state = .deleting
      · rw [if_pos hdeleting]
        cases cleaned <;> rfl
      · rw [if_neg hdeleting]
        rfl
    · rw [if_neg hgone]
      rfl

/-- A stop of the instance puts the session in error unless it was expected. -/
theorem putState_ec2StateChange {ec2State : String} {serverFound : Bool}
    (h : putState (Lifecycle.ec2StateChange ec2State serverFound session).write = some state) :
    ((ec2State = "stopping" ∨ ec2State = "stopped") ∧ state = .error ∧
        (session.state = .provisioning ∨ session.state = .creating ∨ session.state = .initializing ∨
          session.state = .resuming)) ∨
      ((state = .stopping ∨ state = .stopped) ∧ (session.state = .ready ∨ session.state = .stopping)) := by
  unfold Lifecycle.ec2StateChange at h
  by_cases hstop : ec2State = "stopping" ∨ ec2State = "stopped"
  · rw [if_pos hstop] at h
    have hexpected : ∀ {state : VirtualDesktopSessionState}, putState (if serverFound = false then
        { result := noAttribute "state" } else if ec2State = "stopping" then moveTo session .stopping
          else moveTo session .stopped : Handling).write = some state → state = .stopping ∨ state = .stopped := by
      intro state h
      cases serverFound with
      | false => exact absurd h (by simp)
      | true =>
        by_cases hstopping : ec2State = "stopping"
        · rw [if_neg (by simp), if_pos hstopping] at h
          exact .inl (Option.some.inj h).symm
        · rw [if_neg (by simp), if_neg hstopping] at h
          exact .inr (Option.some.inj h).symm
    cases hstate : session.state <;> rw [hstate] at h
    case provisioning => exact .inl ⟨hstop, (Option.some.inj h).symm, .inl rfl⟩
    case creating => exact .inl ⟨hstop, (Option.some.inj h).symm, .inr (.inl rfl)⟩
    case initializing => exact .inl ⟨hstop, (Option.some.inj h).symm, .inr (.inr (.inl rfl))⟩
    case resuming => exact .inl ⟨hstop, (Option.some.inj h).symm, .inr (.inr (.inr rfl))⟩
    case ready => exact .inr ⟨hexpected h, .inl rfl⟩
    case stopping => exact .inr ⟨hexpected h, .inr rfl⟩
    all_goals exact absurd h (by simp)
  · rw [if_neg hstop] at h
    by_cases hrunning : ec2State = "running" ∧ serverFound = false
    · rw [if_pos hrunning] at h
      exact absurd h (by simp)
    · rw [if_neg hrunning] at h
      exact absurd h (by simp)

/-! ## One step -/

variable {e : Event}

/-- A call or handler without counters and messages, which starts and ends no round. -/
theorem kept_move (h : Kept w) (hs : w.session = some session) (hcounters : e.counters w.counters session = w.counters)
    (hvalidations : ∀ handling n, e.validationsAfter handling n = n) (hcommands : ∀ n, e.commandsAfter session n = n)
    (hends : ∀ write, endsRound session write e = false)
    (hput : ∀ state, putState ((e.operation w.counters).handling session).write = some state →
      state ≠ .provisioning ∧ state ≠ .creating ∧ state ≠ .initializing ∧ (state = .deleting ∨ w.counters.Zero)) :
    Kept (w.react session e) := by
  have hstarts : startsRound session ((e.operation w.counters).handling session).write = false := by
    unfold startsRound
    rw [Bool.and_eq_false_iff]
    refine .inr (decide_eq_false fun hinitializing => ?_)
    exact (hput _ hinitializing).2.2.1 rfl
  have hreact : w.react session e =
      { w with session := afterWrite session ((e.operation w.counters).handling session).write } := by
    simp only [World.react, hcounters, hvalidations, hcommands, hends, hstarts, Bool.false_eq_true, if_false]
  rw [hreact]
  exact h.write hs fun state hstate =>
    ⟨(hput state hstate).1, (hput state hstate).2.1, (hput state hstate).2.2.2⟩

/-- The sender of an event from a host is the host of the session, or the handler raises. -/
theorem fromHost_eq (session : VirtualDesktopSession) (senderId senderInstanceId : String) (handling : Handling) :
    (isHost session senderInstanceId = true ∧ fromHost senderId senderInstanceId session handling = handling) ∨
      (isHost session senderInstanceId = false ∧
        (fromHost senderId senderInstanceId session handling).write = none) := by
  unfold fromHost isHost
  cases session.server with
  | none => exact .inr ⟨rfl, rfl⟩
  | some server =>
    by_cases hid : server.instanceId = some senderInstanceId
    · exact .inl ⟨by simp [hid], if_neg (not_not.mpr hid)⟩
    · exact .inr ⟨by simp [hid], by dsimp only; rw [if_pos hid]⟩

/-- What is to be shown of an event: its round ends with counters that are zero, its round starts with none, and the
counters, messages and states after it fit together. -/
theorem kept_react (h : Kept w) {write : Option SessionWrite}
    (hwrite : ((e.operation w.counters).handling session).write = write) {rows : CounterRows}
    (hrows : e.counters w.counters session = rows) (hends : endsRound session write e = true → rows.Zero)
    (hstarts : startsRound session write = true → w.counters.validations = 0)
    (hcreations : ∀ s, afterWrite session write = some s → rows.creations ≠ 0 →
      s.state = .creating ∨ s.state = .deleting)
    (hvalidations : ∀ s, afterWrite session write = some s → rows.validations ≠ 0 →
      s.state = .initializing ∨ s.state = .deleting)
    (hpending : 0 < e.validationsAfter ((e.operation w.counters).handling session) w.validations +
        e.commandsAfter session w.commands →
      rows.creations = 0 ∧ ∀ s, afterWrite session write = some s → s.state ≠ .provisioning ∧ s.state ≠ .creating) :
    Kept (w.react session e) := by
  subst hwrite hrows
  refine ⟨?_, ?_, hcreations, hvalidations, hpending⟩
  · intro rows hrows
    simp only [World.react] at hrows
    by_cases hround : endsRound session ((e.operation w.counters).handling session).write e = true
    · rw [if_pos hround] at hrows
      rcases List.mem_cons.mp hrows with rfl | hlater
      · exact hends hround
      · exact h.ended _ hlater
    · rw [if_neg hround] at hrows
      exact h.ended _ hrows
  · intro counter hcounter
    simp only [World.react] at hcounter
    by_cases hround : startsRound session ((e.operation w.counters).handling session).write = true
    · rw [if_pos hround] at hcounter
      rcases List.mem_cons.mp hcounter with rfl | hlater
      · exact hstarts hround
      · exact h.started _ hlater
    · rw [if_neg hround] at hcounter
      exact h.started _ hcounter

/-- What `DCVHostReadyEventHandler` can do: nothing, or with a session that is being created, one of three. -/
theorem dcvHostReady_cases (rows : CounterRows) (session : VirtualDesktopSession)
    (senderId senderInstanceId : String) (failureReason dcvSessionId : Option String) :
    ((dcvHostReady senderId senderInstanceId failureReason dcvSessionId rows.creations session).write = none ∧
        hostReadyCounters rows session senderInstanceId failureReason = rows) ∨
      (session.state = .provisioning ∨ session.state = .creating) ∧ ((isEmptyOpt failureReason = true ∧
            (dcvHostReady senderId senderInstanceId failureReason dcvSessionId rows.creations session).write =
              some (.put (withState { session with dcvSessionId := dcvSessionId } .initializing)) ∧
            hostReadyCounters rows session senderInstanceId failureReason =
              if rows.creations = 0 then rows else rows.delete .dcvSessionCreationRequestAccepted) ∨
          (∃ write, (write = none ∧ session.state = .creating ∨ write = some (.put (withState session .creating))) ∧
            (dcvHostReady senderId senderInstanceId failureReason dcvSessionId rows.creations session).write = write ∧
            hostReadyCounters rows session senderInstanceId failureReason =
              rows.createOrUpdate .dcvSessionCreationRequestAccepted (rows.creations + 1)) ∨
          isHost session senderInstanceId = true ∧ isEmptyOpt failureReason = false ∧
            ¬ rows.creations < sessionCreationThresholdCount) := by
  unfold dcvHostReady hostReadyCounters
  rcases fromHost_eq session senderId senderInstanceId
    (if session.state ≠ .provisioning ∧ session.state ≠ .creating then {}
      else if isEmptyOpt failureReason then
        moveTo { session with dcvSessionId := dcvSessionId } .initializing
      else if rows.creations < sessionCreationThresholdCount then
        ⟨if session.state ≠ .creating then some (SessionWrite.put (withState session .creating)) else none,
          doNotDeleteMessage "Session state is CREATING. Not handling now."⟩
      else moveTo { session with dcvSessionId := some "" } .error) with ⟨hhost, heq⟩ | ⟨hhost, hnone⟩
  · rw [heq, hhost, if_neg (show ¬ (true = false) by simp)]
    by_cases hstate : session.state ≠ .provisioning ∧ session.state ≠ .creating
    · rw [if_pos hstate, if_pos hstate]
      exact .inl ⟨rfl, rfl⟩
    · rw [if_neg hstate, if_neg hstate]
      refine .inr ⟨?_, ?_⟩
      · by_contra hno
        exact hstate (not_or.mp hno)
      · by_cases haccepted : isEmptyOpt failureReason = true
        · rw [if_pos haccepted, if_pos haccepted]
          exact .inl ⟨haccepted, rfl, rfl⟩
        · rw [if_neg haccepted, if_neg haccepted]
          by_cases hcount : rows.creations < sessionCreationThresholdCount
          · rw [if_pos hcount, if_pos hcount]
            refine .inr (.inl ⟨_, ?_, rfl, rfl⟩)
            by_cases hcreating : session.state = .creating
            · exact .inl ⟨if_neg (not_not.mpr hcreating), hcreating⟩
            · exact .inr (if_pos hcreating)
          · exact .inr (.inr ⟨rfl, by simpa using haccepted, hcount⟩)
  · rw [if_pos hhost]
    exact .inl ⟨hnone, rfl⟩

/-- An event that leaves the session and the two counters as they are. -/
theorem kept_stay (h : Kept w) (hs : w.session = some session)
    (hwrite : ((e.operation w.counters).handling session).write = none)
    (hcreations : (e.counters w.counters session).creations = w.counters.creations)
    (hvalidations : (e.counters w.counters session).validations = w.counters.validations)
    (hends : endsRound session none e = false)
    (hpending : 0 < e.validationsAfter ((e.operation w.counters).handling session) w.validations +
        e.commandsAfter session w.commands →
      w.counters.creations = 0 ∧ session.state ≠ .provisioning ∧ session.state ≠ .creating) :
    Kept (w.react session e) := by
  refine kept_react h hwrite rfl ?_ ?_ ?_ ?_ fun hmessages => ⟨?_, ?_⟩
  · rw [hends]
    exact fun hround => absurd hround (by simp)
  · exact fun hround => absurd hround (by simp [startsRound])
  · intro s hsome hne
    obtain rfl := Option.some.inj hsome
    exact h.creations _ hs (hcreations ▸ hne)
  · intro s hsome hne
    obtain rfl := Option.some.inj hsome
    exact h.validations _ hs (hvalidations ▸ hne)
  · exact hcreations.trans (hpending hmessages).1
  · intro s hsome
    obtain rfl := Option.some.inj hsome
    exact (hpending hmessages).2

theorem Kept.unvalidated (h : Kept w) (hs : w.session = some session)
    (hstate : session.state = .provisioning ∨ session.state = .creating) : w.counters.validations = 0 := by
  by_contra hne
  rcases h.validations session hs hne with hinitializing | hdeleting <;> rcases hstate with hstate | hstate <;>
    simp_all

/-- The host is ready: the session is created, or the refusal is counted. -/
theorem kept_dcvHostReady (h : Kept w) (hs : w.session = some session)
    {senderId senderInstanceId : String} {failureReason dcvSessionId : Option String}
    (hsound : Sound w (.dcvHostReady senderId senderInstanceId failureReason dcvSessionId)) :
    Kept (w.react session (.dcvHostReady senderId senderInstanceId failureReason dcvSessionId)) := by
  rcases dcvHostReady_cases w.counters session senderId senderInstanceId failureReason dcvSessionId with
    ⟨hwrite, hrows⟩ | ⟨hstate, ⟨-, hwrite, hrows⟩ | ⟨write, hwhich, hwrite, hrows⟩ | ⟨hhost, hrefused, hcount⟩⟩
  · refine kept_stay h hs hwrite (congrArg _ hrows) (congrArg _ hrows) rfl fun hmessages => ?_
    have hsame : 0 < w.validations + w.commands := by
      simpa [Event.validationsAfter, Event.commandsAfter, Event.operation, Lifecycle.Operation.handling,
        hwrite] using hmessages
    exact ⟨(h.pending hsame).1, (h.pending hsame).2 session hs⟩
  · -- The creation was accepted: a round starts, and the counter of the refusals is cleared.
    have hcleared : (if w.counters.creations = 0 then w.counters
        else w.counters.delete .dcvSessionCreationRequestAccepted).creations = 0 := by
      by_cases hzero : w.counters.creations = 0
      · rw [if_pos hzero, hzero]
      · rw [if_neg hzero]
        simp [CounterRows.creations]
    refine kept_react h hwrite hrows (fun hround => absurd hround (by simp [endsRound]))
      (fun _ => h.unvalidated hs hstate) (fun s _ hne => absurd hcleared hne) ?_ fun _ => ⟨hcleared, ?_⟩
    · intro s hsome _
      obtain rfl := Option.some.inj hsome
      exact .inl rfl
    · intro s hsome
      obtain rfl := Option.some.inj hsome
      exact ⟨by simp, by simp⟩
  · -- The creation was refused, which happens while there are no messages.
    have hput : putState write = none ∨ putState write = some .creating := by
      rcases hwhich with ⟨rfl, -⟩ | rfl
      · exact .inl rfl
      · exact .inr rfl
    have hafter : ∀ s, afterWrite session write = some s → s.state = .creating := by
      rcases hwhich with ⟨rfl, hcreating⟩ | rfl
      · intro s hsome
        obtain rfl := Option.some.inj hsome
        exact hcreating
      · intro s hsome
        obtain rfl := Option.some.inj hsome
        rfl
    have hunvalidated : (w.counters.createOrUpdate .dcvSessionCreationRequestAccepted
        (w.counters.creations + 1)).validations = 0 := by
      simpa [CounterRows.validations] using h.unvalidated hs hstate
    refine kept_react h hwrite hrows ?_ ?_ (fun s hsome _ => .inl (hafter s hsome))
      (fun s _ hne => absurd hunvalidated hne) fun hmessages => ?_
    · intro hround
      rcases hput with hput | hput <;> simp [endsRound, hput] at hround
    · intro hround
      rcases hput with hput | hput <;> simp [startsRound, hput] at hround
    · have hsame : 0 < w.validations + w.commands := by
        have hnot : putState write ≠ some .initializing := by
          rcases hput with hput | hput <;> simp [hput]
        simpa [Event.validationsAfter, Event.commandsAfter, Event.operation, Lifecycle.Operation.handling, hwrite,
          hnot] using hmessages
      obtain ⟨hprovisioning, hcreating⟩ := (h.pending hsame).2 session hs
      exact absurd hstate (not_or.mpr ⟨hprovisioning, hcreating⟩)
  · rcases hsound session hs hstate hhost with haccepted | hbelow
    · rw [haccepted] at hrefused
      exact absurd hrefused (by simp)
    · exact absurd hbelow hcount

/-- What `ValidateDCVSessionCreationEventHandler` can do. -/
theorem validateCreation_cases (rows : CounterRows) (session : VirtualDesktopSession) (brokerState : Option String) :
    ((session.state = .deleting ∨ session.state = .deleted) ∧
        Lifecycle.validateCreation rows.validations brokerState session = {} ∧
        validateCreationCounters rows session brokerState = rows.delete .validateDcvSessionCreated) ∨
      ¬ (session.state = .deleting ∨ session.state = .deleted) ∧ ((brokerState = some "READY" ∧
            Lifecycle.validateCreation rows.validations brokerState session = moveTo session .ready ∧
            validateCreationCounters rows session brokerState = rows.delete .validateDcvSessionCreated) ∨
          (brokerState ≠ some "READY" ∧ (sessionDeletedThreshold < rows.validations ∧ brokerState = some "DELETED" ∨
            validationRequestThreshold < rows.validations)) ∨
          (session.state = .stopping ∧ Lifecycle.validateCreation rows.validations brokerState session = {} ∧
            validateCreationCounters rows session brokerState = rows) ∨
          (∃ write, (write = none ∧ session.state = .initializing ∨
              write = some (.put (withState session .initializing))) ∧
            (Lifecycle.validateCreation rows.validations brokerState session).write = write ∧
            handled (Lifecycle.validateCreation rows.validations brokerState session) = false ∧
            validateCreationCounters rows session brokerState =
              rows.createOrUpdate .validateDcvSessionCreated (rows.validations + 1))) := by
  unfold Lifecycle.validateCreation validateCreationCounters
  by_cases hdeleted : session.state = .deleting ∨ session.state = .deleted
  · rw [if_pos hdeleted, if_pos hdeleted]
    exact .inl ⟨hdeleted, rfl, rfl⟩
  · rw [if_neg hdeleted, if_neg hdeleted]
    refine .inr ⟨hdeleted, ?_⟩
    by_cases hready : brokerState = some "READY"
    · rw [if_pos hready, if_pos hready]
      exact .inl ⟨hready, rfl, rfl⟩
    · rw [if_neg hready, if_neg hready]
      by_cases hfailed : sessionDeletedThreshold < rows.validations ∧ brokerState = some "DELETED"
      · exact .inr (.inl ⟨hready, .inl hfailed⟩)
      · rw [if_neg hfailed, if_neg hfailed]
        by_cases hcount : validationRequestThreshold < rows.validations
        · exact .inr (.inl ⟨hready, .inr hcount⟩)
        · rw [if_neg hcount, if_neg hcount]
          by_cases hstopping : session.state = .stopping
          · rw [if_pos hstopping, if_pos hstopping]
            exact .inr (.inr (.inl ⟨hstopping, rfl, rfl⟩))
          · rw [if_neg hstopping, if_neg hstopping]
            refine .inr (.inr (.inr ⟨_, ?_, rfl, rfl, rfl⟩))
            by_cases hinitializing : session.state = .initializing
            · exact .inl ⟨if_neg (not_not.mpr hinitializing), hinitializing⟩
            · exact .inr (if_pos hinitializing)

/-- A creation is validated: the round goes on, or it ends and the counter is deleted. -/
theorem kept_validateCreation (h : Kept w) (hs : w.session = some session) {brokerState : Option String}
    (hmessage : 0 < w.validations) (hsound : Sound w (.validateCreation brokerState)) :
    Kept (w.react session (.validateCreation brokerState)) := by
  obtain ⟨hrefusals, hstates⟩ := h.pending (by omega)
  obtain ⟨hprovisioning, hcreating⟩ := hstates session hs
  have hcleared : (w.counters.delete .validateDcvSessionCreated).Zero :=
    ⟨by simpa [CounterRows.creations] using hrefusals, by simp [CounterRows.validations]⟩
  rcases validateCreation_cases w.counters session brokerState with
    ⟨-, hhandling, hrows⟩ | ⟨hdeleted, ⟨-, hhandling, hrows⟩ | ⟨hready, herror⟩ | ⟨hstopping, hhandling, hrows⟩ |
      ⟨write, hwhich, hwrite, hhandled, hrows⟩⟩
  · refine kept_react h (congrArg Handling.write hhandling) hrows (fun _ => hcleared)
      (fun hround => absurd hround (by simp [startsRound])) (fun _ _ hne => absurd hcleared.1 hne)
      (fun _ _ hne => absurd hcleared.2 hne) fun _ => ⟨hcleared.1, ?_⟩
    intro s hsome
    obtain rfl := Option.some.inj hsome
    exact ⟨hprovisioning, hcreating⟩
  · refine kept_react h (congrArg Handling.write hhandling) hrows (fun _ => hcleared)
      (fun hround => absurd hround (by simp [startsRound, putState_moveTo]))
      (fun _ _ hne => absurd hcleared.1 hne) (fun _ _ hne => absurd hcleared.2 hne) fun _ => ⟨hcleared.1, ?_⟩
    intro s hsome
    obtain rfl := Option.some.inj hsome
    exact ⟨by simp, by simp⟩
  · -- The session would be put in error, which the condition rules out.
    rcases hsound session hs with hdeleting | hgone | hstable | ⟨hcount, hthreshold⟩
    · exact absurd (.inl hdeleting) hdeleted
    · exact absurd (.inr hgone) hdeleted
    · exact absurd hstable hready
    · rcases herror with ⟨hover, hlost⟩ | hover
      · exact absurd (hthreshold hlost) (not_le.mpr hover)
      · exact absurd hcount (not_le.mpr hover)
  · refine kept_stay h hs (congrArg Handling.write hhandling) (congrArg _ hrows) (congrArg _ hrows) ?_ fun _ =>
      ⟨hrefusals, hprovisioning, hcreating⟩
    simp [endsRound, hstopping]
  · -- The round goes on with one more validation, and starts where it had not started yet.
    have hafter : ∀ s, afterWrite session write = some s → s.state = .initializing := by
      rcases hwhich with ⟨rfl, hinitializing⟩ | rfl
      · intro s hsome
        obtain rfl := Option.some.inj hsome
        exact hinitializing
      · intro s hsome
        obtain rfl := Option.some.inj hsome
        rfl
    have hput : putState write = none ∨ putState write = some .initializing := by
      rcases hwhich with ⟨rfl, -⟩ | rfl
      · exact .inl rfl
      · exact .inr rfl
    have hcounted : (w.counters.createOrUpdate .validateDcvSessionCreated (w.counters.validations + 1)).creations =
        0 := by
      simpa [CounterRows.creations] using hrefusals
    refine kept_react h hwrite hrows ?_ ?_ (fun _ _ hne => absurd hcounted hne)
      (fun s hsome _ => .inl (hafter s hsome)) fun _ => ⟨hcounted, fun s hsome => ?_⟩
    · obtain ⟨hdeleting, hgone⟩ := not_or.mp hdeleted
      intro hround
      rcases hput with hput | hput <;> simp [endsRound, hput, hdeleting, hgone] at hround
    · intro hround
      have hstate : session.state ≠ .initializing := by
        intro heq
        simp [startsRound, heq] at hround
      by_contra hne
      rcases h.validations session hs hne with heq | heq
      · exact hstate heq
      · exact hdeleted (.inl heq)
    · rw [hafter s hsome]
      exact ⟨by simp, by simp⟩

/-- A reboot is complete: only the third counter changes, and a command is submitted for a session that has been
created. -/
theorem kept_dcvHostRebootComplete (h : Kept w) (hs : w.session = some session)
    (senderId senderInstanceId : String) (brokerState failureReason : Option String) :
    Kept (w.react session (.dcvHostRebootComplete senderId senderInstanceId brokerState failureReason)) := by
  have hresumed : ∀ type, type ≠ .dcvSessionResumed →
      (rebootCompleteCounters w.counters session senderInstanceId brokerState).get type = w.counters.get type := by
    intro type htype
    unfold rebootCompleteCounters
    by_cases hhost : isHost session senderInstanceId = false
    · rw [if_pos hhost]
    · rw [if_neg hhost]
      by_cases hready : session.state = .ready ∧ brokerState = some "READY"
      · rw [if_pos hready]
        by_cases hcount : w.counters.get .dcvSessionResumed < resumeRequestCountThreshold
        · rw [if_pos hcount, CounterRows.get_createOrUpdate, if_neg htype]
        · rw [if_neg hcount, CounterRows.get_delete, if_neg htype]
      · rw [if_neg hready]
  refine kept_stay h hs (dcvHostRebootComplete_write _ _ _ _ _ _) (hresumed _ (by simp)) (hresumed _ (by simp)) rfl
    fun hmessages => ?_
  by_cases hsubmits : submitsResume session senderInstanceId brokerState failureReason = true
  · have hstate : session.state = .resuming ∨ session.state = .error ∨ session.state = .stopped ∨
        session.state = .ready := by
      simp only [submitsResume, Bool.and_eq_true, Bool.or_eq_true, decide_eq_true_eq] at hsubmits
      tauto
    refine ⟨?_, ?_, ?_⟩
    · by_contra hne
      rcases h.creations session hs hne with heq | heq <;> rw [heq] at hstate <;> simp at hstate
    · intro heq
      rw [heq] at hstate
      simp at hstate
    · intro heq
      rw [heq] at hstate
      simp at hstate
  · have hsame : 0 < w.validations + w.commands := by
      simpa [Event.validationsAfter, Event.commandsAfter, hsubmits] using hmessages
    exact ⟨(h.pending hsame).1, (h.pending hsame).2 session hs⟩

/-- The command that resumes the session has made progress: it starts a round, or puts the session in error. -/
theorem kept_resumeCommandProgress (h : Kept w) (hs : w.session = some session) {status : String}
    (hcommand : 0 < w.commands) (hsound : Sound w (.resumeCommandProgress status)) :
    Kept (w.react session (.resumeCommandProgress status)) := by
  obtain ⟨hrefusals, hstates⟩ := h.pending (by omega)
  by_cases hsuccess : status = "Success"
  · have hwrite : (Lifecycle.resumeCommandProgress status session).write =
        some (.put (withState session .initializing)) := by
      rw [Lifecycle.resumeCommandProgress, if_pos hsuccess]
      rfl
    refine kept_react h hwrite rfl (fun hround => absurd hround (by simp [endsRound])) ?_
      (fun _ _ hne => absurd hrefusals hne) ?_ fun _ => ⟨hrefusals, ?_⟩
    · intro hround
      by_contra hne
      rcases h.validations session hs hne with heq | heq
      · simp [startsRound, heq] at hround
      · exact hne (hsound session hs (.inr ⟨hsuccess, heq⟩))
    · intro s hsome _
      obtain rfl := Option.some.inj hsome
      exact .inl rfl
    · intro s hsome
      obtain rfl := Option.some.inj hsome
      exact ⟨by simp, by simp⟩
  · by_cases hfailed : status = "Failed"
    · have hwrite : (Lifecycle.resumeCommandProgress status session).write =
          some (.put (withState session .error)) := by
        rw [Lifecycle.resumeCommandProgress, if_neg hsuccess, if_pos hfailed]
        rfl
      refine kept_react h hwrite rfl (fun hround => absurd hround (by simp [endsRound]))
        (fun hround => absurd hround (by simp [startsRound])) (fun _ _ hne => absurd hrefusals hne)
        (fun _ _ hne => absurd (hsound session hs (.inl hfailed)) hne) fun _ => ⟨hrefusals, ?_⟩
      intro s hsome
      obtain rfl := Option.some.inj hsome
      exact ⟨by simp, by simp⟩
    · have hwrite : (Lifecycle.resumeCommandProgress status session).write = none := by
        rw [Lifecycle.resumeCommandProgress, if_neg hsuccess, if_neg hfailed]
      exact kept_stay h hs hwrite rfl rfl rfl fun _ => ⟨hrefusals, hstates session hs⟩

/-- **A step that meets the condition keeps the invariant.** -/
theorem kept_next {w w' : World} (h : Kept w) (hsound : Sound w e) (hnext : next w e = some w') : Kept w' := by
  unfold next at hnext
  by_cases henabled : w.enabled e = false
  · rw [if_pos henabled] at hnext
    exact absurd hnext (by simp)
  rw [if_neg henabled] at hnext
  cases hs : w.session with
  | none =>
    rw [hs] at hnext
    cases e with
    | validateCreation brokerState =>
      have hdropped := Option.some.inj hnext
      rw [← hs] at hdropped
      exact hdropped ▸ h.fewer (Nat.sub_le _ _)
    | _ =>
      obtain rfl := Option.some.inj hnext
      exact h
  | some session =>
    rw [hs] at hnext
    obtain rfl : w.react session e = w' := Option.some.inj hnext
    cases e with
    | dcvHostReady => exact kept_dcvHostReady h hs hsound
    | validateCreation brokerState =>
      refine kept_validateCreation h hs ?_ hsound
      simpa [World.enabled, Nat.pos_iff_ne_zero] using henabled
    | dcvHostRebootComplete => exact kept_dcvHostRebootComplete h hs _ _ _ _
    | resumeCommandProgress status =>
      refine kept_resumeCommandProgress h hs ?_ hsound
      simpa [World.enabled, Nat.pos_iff_ne_zero] using henabled
    | resume started =>
      refine kept_move h hs rfl (fun _ _ => rfl) (fun _ => rfl) (fun _ => rfl) fun state hput => ?_
      obtain ⟨hstopped, rfl⟩ := putState_resume hput
      refine ⟨by simp, by simp, by simp, .inr (h.zero hs ?_ ?_ ?_)⟩ <;> rw [hstopped] <;> simp
    | reboot force connectionCount =>
      refine kept_move h hs rfl (fun _ _ => rfl) (fun _ => rfl) (fun _ => rfl) fun state hput => ?_
      obtain ⟨hready | herror, rfl⟩ := putState_reboot hput
      · refine ⟨by simp, by simp, by simp, .inr (h.zero hs ?_ ?_ ?_)⟩ <;> rw [hready] <;> simp
      · refine ⟨by simp, by simp, by simp, .inr (h.zero hs ?_ ?_ ?_)⟩ <;> rw [herror] <;> simp
    | stop deleted =>
      refine kept_move h hs rfl (fun _ _ => rfl) (fun _ => rfl) (fun _ => rfl) fun state hput => ?_
      obtain ⟨hready, rfl⟩ := putState_stop hput
      refine ⟨by simp, by simp, by simp, .inr (h.zero hs ?_ ?_ ?_)⟩ <;> rw [hready] <;> simp
    | terminate deleted =>
      refine kept_move h hs rfl (fun _ _ => rfl) (fun _ => rfl) (fun _ => rfl) fun state hput => ?_
      obtain rfl := putState_terminate hput
      exact ⟨by simp, by simp, by simp, .inl rfl⟩
    | ec2StateChange state serverFound =>
      refine kept_move h hs rfl (fun _ _ => rfl) (fun _ => rfl) (fun _ => rfl) fun new hput => ?_
      rcases putState_ec2StateChange hput with ⟨hstop, rfl, hstate⟩ | ⟨hstopped, hstate⟩
      · refine ⟨by simp, by simp, by simp, .inr ?_⟩
        rcases hstate with heq | heq | heq | heq
        · refine h.zero hs ?_ ?_ ?_ <;> rw [heq] <;> simp
        · exact hsound session hs hstop (.inl heq)
        · exact hsound session hs hstop (.inr heq)
        · refine h.zero hs ?_ ?_ ?_ <;> rw [heq] <;> simp
      · have hzero : w.counters.Zero := by
          rcases hstate with heq | heq <;> refine h.zero hs ?_ ?_ ?_ <;> rw [heq] <;> simp
        rcases hstopped with rfl | rfl <;> exact ⟨by simp, by simp, by simp, .inr hzero⟩
    | validateDeletion brokerState cleaned =>
      refine kept_move h hs rfl (fun _ _ => rfl) (fun _ => rfl) (fun _ => rfl) fun state hput => ?_
      exact absurd hput (by
        show putState (Lifecycle.validateDeletion brokerState cleaned session).write ≠ some state
        rw [putState_validateDeletion]
        simp)

/-! ## Every run -/

/-- Without messages, counters and rounds there is nothing to show. -/
theorem kept_start (session : VirtualDesktopSession) : Kept (start session) where
  ended := fun _ hrows => absurd hrows (by simp [start])
  started := fun _ hcounter => absurd hcounter (by simp [start])
  creations := fun _ _ hne => absurd rfl hne
  validations := fun _ _ hne => absurd rfl hne
  pending := fun hpending => absurd hpending (by simp [start])

theorem Kept.perRound (h : Kept w) : PerRound w where
  ended := h.ended
  started := fun counter hcounter session brokerStates => by rw [h.started counter hcounter]

/-- **The counters are those of one round.** In a run whose steps all meet the condition, every round ends with
counters that are zero, and every round allows the attempts of the first. -/
theorem perRound_of_sound {w : World} (h : system.Reach Sound w) : PerRound w := by
  have hkept : Kept w := h.invariant
    (by
      rintro w ⟨session, rfl⟩
      exact kept_start session)
    fun w e w' hw hsound hnext => kept_next hw hsound hnext
  exact hkept.perRound

/-- A session whose host is starting. -/
def provisioned : VirtualDesktopSession where
  owner := some "ada"
  ideaSessionId := some "s-1"
  name := some "desk"
  description := none
  dcvSessionId := none
  state := .provisioning
  hibernationEnabled := false
  server := some { instanceId := some "i-1" }
  schedule := fun _ => none

/-- A round that ends in `READY` after one more validation. -/
def readyRound : List Event :=
  [.dcvHostReady "AROA:i-1" "i-1" none (some "dcv-1"), .validateCreation (some "CREATING"),
    .validateCreation (some "READY")]

theorem meets_readyRound : system.Meets Sound (start provisioned) readyRound := by
  refine ⟨fun _ _ _ _ => .inl rfl, fun w hw => ?_⟩
  obtain rfl := Option.some.inj hw
  refine ⟨fun _ _ => .inr (.inr (.inr ⟨by decide, fun hlost => absurd hlost (by decide)⟩)), fun w hw => ?_⟩
  obtain rfl := Option.some.inj hw
  exact ⟨fun _ _ => .inr (.inr (.inl rfl)), fun _ _ => trivial⟩

/-- The round is run, it has ended, and it keeps to what is to hold. -/
theorem perRound_readyRound :
    ∃ w, system.exec (start provisioned) readyRound = some w ∧ w.ended.length = 1 ∧ w.started = [0] ∧ PerRound w :=
  ⟨_, rfl, rfl, rfl, perRound_of_sound (System.Reach.of_exec (.init ⟨provisioned, rfl⟩) meets_readyRound rfl)⟩

/-- A round that ends in `ERROR`, since the broker has lost the session, and the reboot after it. -/
def lostRound : List Event :=
  .dcvHostReady "AROA:i-1" "i-1" none (some "dcv-1") ::
    (List.replicate 6 (.validateCreation (some "DELETED")) ++
      [.reboot true 0, .dcvHostRebootComplete "AROA:i-1" "i-1" none none, .resumeCommandProgress "Success"])

/-- **The counter outlives the round.** The round ends in `ERROR` after five validations that are kept, and the round
after the reboot starts with them: its first validation is also its last. -/
theorem counter_kept_in_error :
    ∃ w, system.Reachable w ∧ w.ended.map CounterRows.validations = [5] ∧ w.started = [5, 0] ∧
      attempts provisioned 5 [some "DELETED"] = 0 ∧ attempts provisioned 0 [some "DELETED"] = 1 ∧ ¬ PerRound w := by
  obtain ⟨w, hexec, hended, hstarted⟩ : ∃ w, system.exec (start provisioned) lostRound = some w ∧
      w.ended.map CounterRows.validations = [5] ∧ w.started = [5, 0] := ⟨_, rfl, rfl, rfl⟩
  refine ⟨w, System.Reachable.of_exec (.init ⟨provisioned, rfl⟩) hexec, hended, hstarted, rfl, rfl, fun h => ?_⟩
  have hsame := h.started 5 (by simp [hstarted]) provisioned [some "DELETED"]
  exact absurd hsame (by decide)

end ContainRes.VirtualDesktop.SessionCounters
