import ContainRes.Common.Exceptions
import ContainRes.Effects.Proc
import ContainRes.Text.Python

/-! # Events of the virtual desktop controller

The events that the controller and its hosts send to the events queue, and the publishers of
`events_utils.py` that the modelled handlers use. Most publishers put the current time into the detail;
the deletion validation and the two scheduled events do not.

* **`VirtualDesktopEvent`**, **`QueueMessage`** — an event, and the message its publication sends: the
  group is the event's group with blanks replaced, the body is the event.
* **`validateDcvSessionDeletionEvent`**, **`ideaSessionTerminateEvent`**, … — the publishers' events.
* **`Outbox`**, **`Enforced`** — what has been published, and that an enforce event for a session has. -/

namespace ContainRes.VirtualDesktop

open Effects Text

inductive VirtualDesktopEventType
  | validateSoftwareStackCreation
  | validateDcvSessionDeletion
  | validateDcvSessionCreation
  | ideaSessionResumeSessionCommandProgress
  | ideaSessionCpuUtilizationCommandProgress
  | enableUserdataWindowsCommandProgress
  | disableUserdataWindowsCommandProgress
  | ideaSessionScheduledResume
  | ideaSessionScheduledStop
  | ideaSessionTerminate
  | ideaSessionSoftwareStackUpdated
  | ideaSessionPermissionsEnforce
  | ideaSessionPermissionsUpdate
  | ec2InstanceStateChanged
  | dbEntryCreated
  | dbEntryUpdated
  | dbEntryDeleted
  | dcvHostReady
  | dcvHostRebootComplete
  | dcvBrokerUserdataExecutionComplete
  | scheduled
  | userCreated
  | userDisabled
  deriving DecidableEq, Repr

/-- The values of `VirtualDesktopEventType`. -/
def VirtualDesktopEventType.values : List (String × VirtualDesktopEventType) :=
  [("VALIDATE_SOFTWARE_STACK_CREATION_EVENT", .validateSoftwareStackCreation),
    ("VALIDATE_DCV_SESSION_DELETION_EVENT", .validateDcvSessionDeletion),
    ("VALIDATE_DCV_SESSION_CREATION_EVENT", .validateDcvSessionCreation),
    ("IDEA_SESSION_RESUME_SESSION_COMMAND_PROGRESS_EVENT", .ideaSessionResumeSessionCommandProgress),
    ("IDEA_SESSION_CPU_UTILIZATION_COMMAND_PROGRESS_EVENT", .ideaSessionCpuUtilizationCommandProgress),
    ("ENABLE_USERDATA_WINDOWS_COMMAND_PROGRESS_EVENT", .enableUserdataWindowsCommandProgress),
    ("DISABLE_USERDATA_WINDOWS_COMMAND_PROGRESS_EVENT", .disableUserdataWindowsCommandProgress),
    ("IDEA_SESSION_SCHEDULED_RESUME_EVENT", .ideaSessionScheduledResume),
    ("IDEA_SESSION_SCHEDULED_STOP_EVENT", .ideaSessionScheduledStop),
    ("IDEA_SESSION_TERMINATE_EVENT", .ideaSessionTerminate),
    ("IDEA_SESSION_SOFTWARE_STACK_UPDATED_EVENT", .ideaSessionSoftwareStackUpdated),
    ("IDEA_SESSION_PERMISSIONS_ENFORCE_EVENT", .ideaSessionPermissionsEnforce),
    ("IDEA_SESSION_PERMISSIONS_UPDATE_EVENT", .ideaSessionPermissionsUpdate),
    ("EC2_INSTANCE_STATE_CHANGED_EVENT", .ec2InstanceStateChanged), ("DB_ENTRY_CREATED_EVENT", .dbEntryCreated),
    ("DB_ENTRY_UPDATED_EVENT", .dbEntryUpdated), ("DB_ENTRY_DELETED_EVENT", .dbEntryDeleted),
    ("DCV_HOST_READY_EVENT", .dcvHostReady), ("DCV_HOST_REBOOT_COMPLETE_EVENT", .dcvHostRebootComplete),
    ("DCV_BROKER_USERDATA_EXECUTION_COMPLETE_EVENT", .dcvBrokerUserdataExecutionComplete),
    ("SCHEDULED_EVENT", .scheduled), ("USER_CREATED_EVENT", .userCreated), ("USER_DISABLED_EVENT", .userDisabled)]

/-- A value in the detail of an event. -/
inductive DetailValue
  | S (s : String)
  | N (n : Int)
  | BOOL (b : Bool)
  | NULL
  deriving DecidableEq, Repr

/-- A string that may be missing. -/
def DetailValue.ofOption : Option String → DetailValue
  | none => .NULL
  | some s => .S s

/-- `Utils.get_as_string` of a value. -/
def DetailValue.asString : DetailValue → Option String
  | .S s => getAsString (some s)
  | .N n => some (toString n)
  | .BOOL true => some "True"
  | .BOOL false => some "False"
  | .NULL => none

@[simp] theorem DetailValue.asString_ofOption (s : Option String) :
    (DetailValue.ofOption s).asString = getAsString s := by
  cases s <;> rfl

/-- The detail of an event. -/
abbrev EventDetail : Type := List (String × DetailValue)

structure VirtualDesktopEvent where
  eventGroupId : Option String
  eventType : Option VirtualDesktopEventType
  detail : Option EventDetail
  deriving DecidableEq, Repr

/-- `Utils.get_value_as_string(key, event.detail, None)`. -/
def VirtualDesktopEvent.detailString (event : VirtualDesktopEvent) (key : String) : Option String :=
  ((event.detail.getD []).lookup key).bind DetailValue.asString

/-- A message of the events queue: its group, and the event its body is the JSON text of. -/
structure QueueMessage where
  messageGroupId : String
  body : VirtualDesktopEvent
  deriving DecidableEq, Repr

/-- `event_group_id.replace(' ', '_')`. -/
def replaceBlanks (s : String) : String := s.map fun c => if c = ' ' then '_' else c

/-- The message that `EventsClient.publish_event` sends. -/
def messageOf (event : VirtualDesktopEvent) : Except Exc QueueMessage :=
  match event.eventGroupId with
  | none => .error (.other .attributeError "'NoneType' object has no attribute 'replace'")
  | some group => .ok { messageGroupId := replaceBlanks group, body := event }

/-! ## The publishers' events -/

/-- The two attributes that identify the session of an event. -/
def sessionDetail (ideaSessionId ideaSessionOwner : Option String) : EventDetail :=
  [("idea_session_id", .ofOption ideaSessionId), ("idea_session_owner", .ofOption ideaSessionOwner)]

/-- The event of `publish_validate_dcv_session_deletion_event`. -/
def validateDcvSessionDeletionEvent (ideaSessionId ideaSessionOwner : Option String) :
    VirtualDesktopEvent where
  eventGroupId := ideaSessionId
  eventType := some .validateDcvSessionDeletion
  detail := some (sessionDetail ideaSessionId ideaSessionOwner)

/-- The event of `publish_idea_session_scheduled_resume_event`. -/
def ideaSessionScheduledResumeEvent (ideaSessionId ideaSessionOwner : Option String) :
    VirtualDesktopEvent where
  eventGroupId := ideaSessionId
  eventType := some .ideaSessionScheduledResume
  detail := some (sessionDetail ideaSessionId ideaSessionOwner)

/-- The event of `publish_idea_session_scheduled_stop_event`. -/
def ideaSessionScheduledStopEvent (ideaSessionId ideaSessionOwner : Option String) :
    VirtualDesktopEvent where
  eventGroupId := ideaSessionId
  eventType := some .ideaSessionScheduledStop
  detail := some (sessionDetail ideaSessionId ideaSessionOwner)

/-- The event of `publish_idea_session_terminate_event` at the time `timestamp`. -/
def ideaSessionTerminateEvent (timestamp : Int) (ideaSessionId ideaSessionOwner : Option String)
    (force : Bool) : VirtualDesktopEvent where
  eventGroupId := ideaSessionId
  eventType := some .ideaSessionTerminate
  detail := some (sessionDetail ideaSessionId ideaSessionOwner ++ [("timestamp", .N timestamp), ("force", .BOOL force)])

/-- A detail that begins with the attributes of a session identifies the session. -/
theorem detailString_sessionDetail (event : VirtualDesktopEvent)
    {ideaSessionId ideaSessionOwner : Option String} {more : EventDetail}
    (h : event.detail = some (sessionDetail ideaSessionId ideaSessionOwner ++ more)) :
    event.detailString "idea_session_id" = getAsString ideaSessionId ∧
      event.detailString "idea_session_owner" = getAsString ideaSessionOwner := by
  have howner : ("idea_session_owner" == "idea_session_id") = false := by decide
  simp only [VirtualDesktopEvent.detailString, h, sessionDetail, Option.getD_some, List.cons_append,
    List.lookup_cons, beq_self_eq_true, howner, Option.bind_some, DetailValue.asString_ofOption, and_self]

/-- The event of `publish_enforce_session_permissions_event` at the time `timestamp`. -/
def enforceSessionPermissionsEvent (timestamp : Int) (ideaSessionId ideaSessionOwner : Option String) :
    VirtualDesktopEvent where
  eventGroupId := ideaSessionId
  eventType := some .ideaSessionPermissionsEnforce
  detail := some (sessionDetail ideaSessionId ideaSessionOwner ++ [("timestamp", .N timestamp)])

/-! ### The status of a command -/

/-- The attributes of an event about the status of a command that stand in front of the time. -/
def commandStatusDetail (ideaSessionId ideaSessionOwner instanceId : String) (status : Option String)
    (commandId : String) : EventDetail :=
  sessionDetail (some ideaSessionId) (some ideaSessionOwner) ++
    [("instance_id", .S instanceId), ("status", .ofOption status), ("command_id", .S commandId)]

/-- The event of `publish_resume_session_command_status_event` at the time `timestamp`. -/
def resumeSessionCommandStatusEvent (timestamp : Int) (ideaSessionId ideaSessionOwner instanceId : String)
    (status : Option String) (commandId : String) : VirtualDesktopEvent where
  eventGroupId := some ideaSessionId
  eventType := some .ideaSessionResumeSessionCommandProgress
  detail := some (commandStatusDetail ideaSessionId ideaSessionOwner instanceId status commandId ++
    [("timestamp", .N timestamp)])

/-- The event of `publish_enable_userdata_windows_status_event` at the time `timestamp`. -/
def enableUserdataWindowsStatusEvent (timestamp : Int) (ideaSessionId ideaSessionOwner instanceId : String)
    (status : Option String) (commandId softwareStackId : String) : VirtualDesktopEvent where
  eventGroupId := some ideaSessionId
  eventType := some .enableUserdataWindowsCommandProgress
  detail := some (commandStatusDetail ideaSessionId ideaSessionOwner instanceId status commandId ++
    [("software_stack_id", .S softwareStackId), ("timestamp", .N timestamp)])

/-- The event of `publish_disable_userdata_windows_status_event` at the time `timestamp`. -/
def disableUserdataWindowsStatusEvent (timestamp : Int) (ideaSessionId ideaSessionOwner instanceId : String)
    (status : Option String) (commandId : String) : VirtualDesktopEvent where
  eventGroupId := some ideaSessionId
  eventType := some .disableUserdataWindowsCommandProgress
  detail := some (commandStatusDetail ideaSessionId ideaSessionOwner instanceId status commandId ++
    [("timestamp", .N timestamp)])

/-- The event of `publish_idea_session_cpu_utilization_command_status_event` at the time `timestamp`. -/
def ideaSessionCpuUtilizationCommandStatusEvent (timestamp : Int)
    (ideaSessionId ideaSessionOwner instanceId : String) (status : Option String) (commandId : String) :
    VirtualDesktopEvent where
  eventGroupId := some ideaSessionId
  eventType := some .ideaSessionCpuUtilizationCommandProgress
  detail := some (commandStatusDetail ideaSessionId ideaSessionOwner instanceId status commandId ++
    [("timestamp", .N timestamp)])

/-- The command and the status can be read off the event. -/
theorem detailString_commandStatusDetail (event : VirtualDesktopEvent)
    {ideaSessionId ideaSessionOwner instanceId commandId : String} {status : Option String}
    {more : EventDetail} (h : event.detail =
      some (commandStatusDetail ideaSessionId ideaSessionOwner instanceId status commandId ++ more)) :
    event.detailString "command_id" = getAsString (some commandId) ∧
      event.detailString "status" = getAsString status := by
  constructor
  · simp [VirtualDesktopEvent.detailString, h, commandStatusDetail, sessionDetail, List.lookup_cons, DetailValue.asString]
  · simp [VirtualDesktopEvent.detailString, h, commandStatusDetail, sessionDetail, List.lookup_cons]

/-! ## Publishing -/

/-- What a handler writes to: the messages it published, and how often it read the clock. -/
structure Outbox where
  clockReads : Nat := 0
  messages : List QueueMessage := []
  deriving DecidableEq, Repr

/-- `publish_enforce_session_permissions_event`; `clock` gives the times that are read one after another. -/
def publishEnforceSessionPermissionsEvent (clock : Nat → Int)
    (ideaSessionId ideaSessionOwner : Option String) : Proc Outbox Exc PUnit := do
  let n ← Proc.gets Outbox.clockReads
  let message ← Proc.liftExcept
    (messageOf (enforceSessionPermissionsEvent (clock n) ideaSessionId ideaSessionOwner))
  Proc.modify fun o => { clockReads := o.clockReads + 1, messages := o.messages ++ [message] }

/-- An enforce event for the session is among the messages. -/
def Enforced (session : Option String × Option String) (o : Outbox) : Prop :=
  ∃ message ∈ o.messages, ∃ timestamp,
    message.body = enforceSessionPermissionsEvent timestamp session.1 session.2

theorem not_enforced_empty (session : Option String × Option String) : ¬ Enforced session {} := by
  rintro ⟨message, hmem, -⟩
  exact absurd hmem List.not_mem_nil

/-- The session of an enforce event can be read off the event. -/
theorem enforceSessionPermissionsEvent_injective {timestamp timestamp' : Int}
    {session session' : Option String × Option String}
    (h : enforceSessionPermissionsEvent timestamp session.1 session.2 =
      enforceSessionPermissionsEvent timestamp' session'.1 session'.2) : session = session' := by
  obtain ⟨id, owner⟩ := session
  obtain ⟨id', owner'⟩ := session'
  simp only [enforceSessionPermissionsEvent, sessionDetail, VirtualDesktopEvent.mk.injEq, List.cons_append,
    Option.some.injEq, List.cons.injEq, Prod.mk.injEq, true_and] at h
  obtain ⟨rfl, -, howner, -⟩ := h
  cases owner <;> cases owner' <;> simp_all [DetailValue.ofOption]

/-- The publication for a session that has an id. -/
theorem run_publishEnforce (clock : Nat → Int) {session : Option String × Option String}
    (h : session.1.isSome) (o : Outbox) :
    ∃ o', (publishEnforceSessionPermissionsEvent clock session.1 session.2).run o = (.ok ⟨⟩, o') ∧
      ∀ s, Enforced s o' ↔ Enforced s o ∨ s = session := by
  obtain ⟨id, hid⟩ := Option.isSome_iff_exists.mp h
  have hmessage : messageOf (enforceSessionPermissionsEvent (clock o.clockReads) session.1 session.2) =
      .ok ⟨replaceBlanks id, enforceSessionPermissionsEvent (clock o.clockReads) session.1 session.2⟩ := by
    have hgroup : (enforceSessionPermissionsEvent (clock o.clockReads) session.1 session.2).eventGroupId =
        some id := hid
    simp only [messageOf, hgroup]
  refine ⟨⟨o.clockReads + 1, o.messages ++ [⟨replaceBlanks id,
    enforceSessionPermissionsEvent (clock o.clockReads) session.1 session.2⟩]⟩, ?_, ?_⟩
  · unfold publishEnforceSessionPermissionsEvent
    rw [Proc.run_bind_of_ok (Proc.run_gets Outbox.clockReads o), hmessage]
    rfl
  · intro s
    simp only [Enforced, List.mem_append, List.mem_singleton, or_and_right, exists_or, exists_eq_left]
    refine or_congr Iff.rfl ⟨?_, ?_⟩
    · rintro ⟨timestamp, hbody⟩
      exact (enforceSessionPermissionsEvent_injective hbody).symm
    · rintro rfl
      exact ⟨_, rfl⟩

/-! ## Who sent an event -/

def retrieveIamRoleIdFromSender (senderId : String) : Option String := (splitChar ':' senderId).head?

/-- `is_sender_controller_role` and its siblings: the role in front of the first colon is the one that
the configuration names. -/
def isSenderRole (roleId senderId : String) : Bool :=
  let role := retrieveIamRoleIdFromSender senderId
  if isEmptyOpt role then false else role == some roleId

/-- The exception of `message_source_validation_failed(f'Corrupted sender_id: …')`. -/
def corruptedSender (senderId : String) : Exc :=
  .soca .messageSourceValidationFailed s!"Corrupted sender_id: {senderId}. Ignoring message"

end ContainRes.VirtualDesktop
