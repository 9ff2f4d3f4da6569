import ContainRes.Store.Table
import ContainRes.VirtualDesktop.Events

/-! # Commands that the controller has run on the hosts

The controller sends a command to a host through SSM, records in the ssm-commands table what the command
is for, and reads the record back when a notification about the status of the command arrives.

* **`SubmitCall`** — a call of one of the `submit_ssm_command_*` methods: what it sends (`request`) and
  what it records (`command`).
* **`getCommand`**, **`createCommand`** — `VirtualDesktopSSMCommandsDB`; `convertDb_convertDb` is the round
  trip of a record.
* **`handleSsmCommands`** — `_handle_ssm_commands`: a recorded command is published
  (`run_handleSsmCommands_of_row`), an unknown one is dropped (`run_handleSsmCommands_of_none`). -/

namespace ContainRes.VirtualDesktop

open Effects Store Text

/-! ## The table of commands -/

inductive VirtualDesktopSSMCommandType
  | resumeSession
  | cpuUtilizationCheckStopScheduledSession
  | windowsEnableUserdataExecution
  | windowsDisableUserdataExecution
  deriving DecidableEq, Repr

namespace VirtualDesktopSSMCommandType

/-- The value of a member. -/
def value : VirtualDesktopSSMCommandType → String
  | resumeSession => "RESUME_SESSION"
  | cpuUtilizationCheckStopScheduledSession => "CPU_UTILIZATION_CHECK_STOP_SCHEDULED_SESSION"
  | windowsEnableUserdataExecution => "WINDOWS_ENABLE_USERDATA_EXECUTION"
  | windowsDisableUserdataExecution => "WINDOWS_DISABLE_USERDATA_EXECUTION"

/-- The members. -/
def members : List VirtualDesktopSSMCommandType :=
  [resumeSession, cpuUtilizationCheckStopScheduledSession, windowsEnableUserdataExecution,
    windowsDisableUserdataExecution]

/-- `VirtualDesktopSSMCommandType(value)`. -/
def ofValue (text : Option String) : Except Exc VirtualDesktopSSMCommandType :=
  match members.find? fun member => text == some member.value with
  | some member => .ok member
  | none =>
    let shown := text.getD "None"
    .error (.other .valueError s!"{shown} is not a valid VirtualDesktopSSMCommandType")

theorem ofValue_value (commandType : VirtualDesktopSSMCommandType) :
    ofValue (getAsString (some commandType.value)) = .ok commandType := by
  cases commandType <;> rfl

end VirtualDesktopSSMCommandType

/-- `VirtualDesktopSSMCommand` without its id: a record is written under the id, and the number that a
record read back has in its place is never used. -/
structure VirtualDesktopSSMCommand where
  commandType : VirtualDesktopSSMCommandType
  additionalPayload : List (String × String)
  deriving DecidableEq, Repr

/-- An item of the ssm-commands table. -/
structure SsmCommandItem where
  commandType : String
  additionalPayload : List (String × String)
  deriving DecidableEq, Repr

def convertDbModelToDbDict (command : VirtualDesktopSSMCommand) : SsmCommandItem where
  commandType := command.commandType.value
  additionalPayload := command.additionalPayload

/-- `_convert_db_dict_to_db_model` of an item. -/
def convertDbDictToDbModel (item : SsmCommandItem) : Except Exc VirtualDesktopSSMCommand := do
  let commandType ← VirtualDesktopSSMCommandType.ofValue (getAsString (some item.commandType))
  return { commandType, additionalPayload := item.additionalPayload }

theorem convertDb_convertDb (command : VirtualDesktopSSMCommand) :
    convertDbDictToDbModel (convertDbModelToDbDict command) = .ok command := by
  have htype := VirtualDesktopSSMCommandType.ofValue_value command.commandType
  unfold convertDbDictToDbModel convertDbModelToDbDict
  rw [htype]
  rfl

/-- `VirtualDesktopSSMCommandsDB.get`. -/
def getCommand (table : Table String SsmCommandItem) (commandId : Option String) :
    Except Exc (Option VirtualDesktopSSMCommand) :=
  match commandId with
  | none => .error (Exc.invalidParams "command_id required")
  | some id =>
    if isEmpty id then .error (Exc.invalidParams "command_id required")
    else
      match table.getItem id with
      | none => .ok none
      | some item => (convertDbDictToDbModel item).map some

/-- `VirtualDesktopSSMCommandsDB.create`. -/
def createCommand (table : Table String SsmCommandItem) (commandId : String)
    (command : VirtualDesktopSSMCommand) : Table String SsmCommandItem :=
  table.putItem commandId (convertDbModelToDbDict command)

/-- `VirtualDesktopSSMCommandsDB.delete`. -/
def deleteCommand (table : Table String SsmCommandItem) (commandId : String) :
    Table String SsmCommandItem :=
  table.deleteItem commandId

/-! ## The submit methods -/

/-- The settings that a request names. -/
structure SsmSettings where
  clusterName : String
  moduleId : String
  ssmCommandsPassRoleArn : String
  ssmCommandsSnsTopicArn : String
  clusterS3Bucket : String
  deriving DecidableEq, Repr

/-- The arguments of `send_command`. -/
structure SendCommandRequest where
  instanceIds : List String
  documentName : String
  comment : String
  commands : List String
  serviceRoleArn : String
  notificationArn : String
  notificationEvents : List String := ["All"]
  notificationType : String := "Invocation"
  cloudWatchOutputEnabled : Bool := true
  cloudWatchLogGroupName : String
  outputS3BucketName : String
  outputS3KeyPrefix : String
  deriving DecidableEq, Repr

/-- The request that the four methods have in common; `folder` is the last part of the output path. -/
def SsmSettings.request (settings : SsmSettings) (instanceId ideaSessionId documentName comment : String)
    (commands : List String) (folder : String) : SendCommandRequest :=
  let cluster := settings.clusterName
  let moduleId := settings.moduleId
  let output := s!"/{cluster}/{moduleId}/dcv-session/{ideaSessionId}/{folder}"
  { instanceIds := [instanceId]
    documentName
    comment
    commands
    serviceRoleArn := settings.ssmCommandsPassRoleArn
    notificationArn := settings.ssmCommandsSnsTopicArn
    cloudWatchLogGroupName := output
    outputS3BucketName := settings.clusterS3Bucket
    outputS3KeyPrefix := output }

/-- A call of one of the `submit_ssm_command_*` methods. -/
inductive SubmitCall
  /-- `submit_ssm_command_to_resume_session`. -/
  | resumeSession (instanceId ideaSessionId ideaSessionOwner : String) (commands : List String)
      (documentName : String)
  /-- `submit_ssm_command_to_disable_userdata_execution_on_windows`. -/
  | disableUserdataExecutionOnWindows (instanceId ideaSessionId ideaSessionOwner : String)
  /-- `submit_ssm_command_to_enable_userdata_execution_on_windows`. -/
  | enableUserdataExecutionOnWindows (instanceId ideaSessionId ideaSessionOwner softwareStackId : String)
  /-- `submit_ssm_command_to_get_cpu_utilization`; the flag is `base_os == VirtualDesktopBaseOS.WINDOWS`. -/
  | getCpuUtilization (instanceId ideaSessionId ideaSessionOwner : String) (windows : Bool)
  deriving DecidableEq, Repr

namespace SubmitCall

/-- The commands that measure the CPU utilization of a Windows host. -/
def windowsCpuCommands : List String :=
  ["$CPUAveragePerformanceLast10Secs = (GET-COUNTER -Counter \"\\Processor(_Total)\\% Processor Time\" " ++
      "-SampleInterval 2 -MaxSamples 5 |select -ExpandProperty countersamples | " ++
      "select -ExpandProperty cookedvalue | Measure-Object -Average).average", "$output = @\x7b\x7d",
    "$output[\"CPUAveragePerformanceLast10Secs\"] = $CPUAveragePerformanceLast10Secs", "$output | ConvertTo-Json"]

/-- The commands that measure the CPU utilization of any other host. -/
def linuxCpuCommands : List String :=
  ["CPUAveragePerformanceLast10Secs=$(top -d 5 -b -n2 | grep 'Cpu(s)' |tail -n 1 | " ++ "awk '\x7bprint $2 + $4\x7d')",
    "echo '\x7b\"CPUAveragePerformanceLast10Secs\": '\"'$CPUAveragePerformanceLast10Secs'\"'\x7d'"]

/-- What a call sends. -/
def request (settings : SsmSettings) : SubmitCall → SendCommandRequest
  | resumeSession instanceId ideaSessionId ideaSessionOwner commands documentName =>
    settings.request instanceId ideaSessionId documentName
      s!"idea_session_id: {ideaSessionId}, owner: {ideaSessionOwner}" commands "resume"
  | disableUserdataExecutionOnWindows instanceId ideaSessionId _ =>
    settings.request instanceId ideaSessionId "AWS-RunPowerShellScript"
      "Enabling userdata execution for Windows EC2 Instance"
      ["Unregister-ScheduledTask -TaskName \"Amazon Ec2 Launch - Instance Initialization\" " ++ "-Confirm$False"]
      "disable-userdata"
  | enableUserdataExecutionOnWindows instanceId ideaSessionId _ _ =>
    settings.request instanceId ideaSessionId "AWS-RunPowerShellScript"
      "Enabling userdata execution for Windows EC2 Instance"
      ["C:\\ProgramData\\Amazon\\EC2-Windows\\Launch\\Scripts\\InitializeInstance.ps1 -Schedule"]
      "enable-userdata"
  | getCpuUtilization instanceId ideaSessionId _ windows =>
    settings.request instanceId ideaSessionId
      (if windows then "AWS-RunPowerShellScript" else "AWS-RunShellScript")
      s!"Checking CPU Utilization for {instanceId}"
      (if windows then windowsCpuCommands else linuxCpuCommands) "cpu-utilization"

/-- The payload that the four methods have in common. -/
def sessionPayload (instanceId ideaSessionId ideaSessionOwner : String) : List (String × String) :=
  [("idea_session_id", ideaSessionId), ("idea_session_owner", ideaSessionOwner), ("instance_id", instanceId)]

/-- What a call records. -/
def command : SubmitCall → VirtualDesktopSSMCommand
  | resumeSession instanceId ideaSessionId ideaSessionOwner _ _ =>
    ⟨.resumeSession, sessionPayload instanceId ideaSessionId ideaSessionOwner⟩
  | disableUserdataExecutionOnWindows instanceId ideaSessionId ideaSessionOwner =>
    ⟨.windowsDisableUserdataExecution, sessionPayload instanceId ideaSessionId ideaSessionOwner⟩
  | enableUserdataExecutionOnWindows instanceId ideaSessionId ideaSessionOwner softwareStackId =>
    ⟨.windowsEnableUserdataExecution, sessionPayload instanceId ideaSessionId ideaSessionOwner ++
      [("software_stack_id", softwareStackId)]⟩
  | getCpuUtilization instanceId ideaSessionId ideaSessionOwner _ =>
    ⟨.cpuUtilizationCheckStopScheduledSession, sessionPayload instanceId ideaSessionId ideaSessionOwner⟩

/-- The event that tells the status of the command of a call: the one of its type, with the instance, the
session and the owner of the call. -/
def statusEvent (timestamp : Int) (commandId status : String) : SubmitCall → VirtualDesktopEvent
  | resumeSession instanceId ideaSessionId ideaSessionOwner _ _ =>
    resumeSessionCommandStatusEvent timestamp ideaSessionId ideaSessionOwner instanceId (some status)
      commandId
  | disableUserdataExecutionOnWindows instanceId ideaSessionId ideaSessionOwner =>
    disableUserdataWindowsStatusEvent timestamp ideaSessionId ideaSessionOwner instanceId (some status)
      commandId
  | enableUserdataExecutionOnWindows instanceId ideaSessionId ideaSessionOwner softwareStackId =>
    enableUserdataWindowsStatusEvent timestamp ideaSessionId ideaSessionOwner instanceId (some status)
      commandId softwareStackId
  | getCpuUtilization instanceId ideaSessionId ideaSessionOwner _ =>
    ideaSessionCpuUtilizationCommandStatusEvent timestamp ideaSessionId ideaSessionOwner instanceId
      (some status) commandId

/-- The arguments of a call that its command is recorded with. -/
def recorded (call : SubmitCall) : List String := call.command.additionalPayload.map Prod.snd

/-- The recorded arguments are neither blank nor surrounded by white space. -/
def Plain (call : SubmitCall) : Prop := ∀ text ∈ call.recorded, getAsString (some text) = some text

instance (call : SubmitCall) : Decidable call.Plain :=
  inferInstanceAs (Decidable (∀ text ∈ call.recorded, getAsString (some text) = some text))

/-- The command and the status can be read off the event of a call. -/
theorem detailString_statusEvent (call : SubmitCall) (timestamp : Int) (commandId status : String) :
    (call.statusEvent timestamp commandId status).detailString "command_id" = getAsString (some commandId) ∧
      (call.statusEvent timestamp commandId status).detailString "status" = getAsString (some status) := by
  cases call <;> exact detailString_commandStatusDetail _ rfl

end SubmitCall

/-! ## Handling a notification -/

/-- `Utils.get_value_as_string(key, ssm_command.additional_payload, '')`. -/
def VirtualDesktopSSMCommand.payloadText (command : VirtualDesktopSSMCommand) (key : String) : String :=
  (getAsString (command.additionalPayload.lookup key)).getD ""

/-- The event that `_handle_ssm_commands` publishes for a recorded command. -/
def VirtualDesktopSSMCommand.statusEvent (command : VirtualDesktopSSMCommand) (timestamp : Int)
    (commandId : String) (status : Option String) : VirtualDesktopEvent :=
  let ideaSessionId := command.payloadText "idea_session_id"
  let ideaSessionOwner := command.payloadText "idea_session_owner"
  let instanceId := command.payloadText "instance_id"
  match command.commandType with
  | .resumeSession =>
    resumeSessionCommandStatusEvent timestamp ideaSessionId ideaSessionOwner instanceId status commandId
  | .windowsEnableUserdataExecution =>
    enableUserdataWindowsStatusEvent timestamp ideaSessionId ideaSessionOwner instanceId status commandId
      (command.payloadText "software_stack_id")
  | .windowsDisableUserdataExecution =>
    disableUserdataWindowsStatusEvent timestamp ideaSessionId ideaSessionOwner instanceId status commandId
  | .cpuUtilizationCheckStopScheduledSession =>
    ideaSessionCpuUtilizationCommandStatusEvent timestamp ideaSessionId ideaSessionOwner instanceId status
      commandId

/-- What the handlers of notifications read and write. -/
structure Controller where
  ssmCommands : Table String SsmCommandItem := ∅
  outbox : Outbox := {}

/-- A publisher of `events_utils.py` that puts the current time into the detail. -/
def publishStatus (clock : ℕ → Int) (event : Int → VirtualDesktopEvent) : Proc Controller Exc PUnit := do
  let n ← Proc.gets fun c => c.outbox.clockReads
  let message ← Proc.liftExcept (messageOf (event (clock n)))
  Proc.modify fun c => { c with
    outbox := { clockReads := c.outbox.clockReads + 1, messages := c.outbox.messages ++ [message] } }

/-- The message of a status notification. -/
structure StatusMessage where
  commandId : Option String
  status : Option String
  deriving DecidableEq, Repr

def handleSsmCommands (clock : ℕ → Int) (message : StatusMessage) : Proc Controller Exc PUnit := do
  let status := getAsString message.status
  match getAsString message.commandId with
  | none => pure ⟨⟩
  | some commandId =>
    let table ← Proc.gets Controller.ssmCommands
    match ← Proc.liftExcept (getCommand table (some commandId)) with
    | none => pure ⟨⟩
    | some ssmCommand =>
      publishStatus clock fun timestamp => ssmCommand.statusEvent timestamp commandId status

theorem eventGroupId_statusEvent (command : VirtualDesktopSSMCommand) (timestamp : Int)
    (commandId : String) (status : Option String) : (command.statusEvent timestamp commandId status).eventGroupId =
      some (command.payloadText "idea_session_id") := by
  unfold VirtualDesktopSSMCommand.statusEvent
  cases command.commandType <;> rfl

/-- **What is published is the call's.** Arguments without white space around them survive the table. -/
theorem statusEvent_command {call : SubmitCall} (hplain : call.Plain) (timestamp : Int) (commandId status : String) :
    call.command.statusEvent timestamp commandId (some status) = call.statusEvent timestamp commandId status := by
  cases call <;>
    simp_all [SubmitCall.Plain, SubmitCall.recorded, SubmitCall.command, SubmitCall.sessionPayload,
      SubmitCall.statusEvent, VirtualDesktopSSMCommand.statusEvent, VirtualDesktopSSMCommand.payloadText, List.lookup_cons]

theorem not_isEmpty_of_getAsString {s : String} (h : getAsString (some s) = some s) : isEmpty s = false := by
  by_contra hblank
  rw [Bool.not_eq_false] at hblank
  rw [getAsString, Option.bind_some, if_pos hblank] at h
  cases h

section

variable {commandId : String} (hid : getAsString (some commandId) = some commandId) {c : Controller}
  (clock : ℕ → Int) (status : String)

include hid in
/-- **An unknown command is dropped.** Without a row for the command, nothing happens. -/
theorem run_handleSsmCommands_of_none (hrow : c.ssmCommands.getItem commandId = none) :
    (handleSsmCommands clock ⟨some commandId, some status⟩).run c = (.ok ⟨⟩, c) := by
  have hget : getCommand c.ssmCommands (some commandId) = .ok none := by
    simp only [getCommand, not_isEmpty_of_getAsString hid, hrow, Bool.false_eq_true, if_false]
  unfold handleSsmCommands
  simp only [hid]
  rw [Proc.run_bind_of_ok (Proc.run_gets _ c), hget]
  rfl

include hid in
/-- **A recorded command is published.** -/
theorem run_handleSsmCommands_of_row {command : VirtualDesktopSSMCommand}
    (hstatus : getAsString (some status) = some status)
    (hrow : c.ssmCommands.getItem commandId = some (convertDbModelToDbDict command)) :
    (handleSsmCommands clock ⟨some commandId, some status⟩).run c = (.ok ⟨⟩, { c with
      outbox := ⟨c.outbox.clockReads + 1, c.outbox.messages ++
        [⟨replaceBlanks (command.payloadText "idea_session_id"),
          command.statusEvent (clock c.outbox.clockReads) commandId (some status)⟩]⟩ }) := by
  have hget : getCommand c.ssmCommands (some commandId) = .ok (some command) := by
    simp only [getCommand, not_isEmpty_of_getAsString hid, hrow, Bool.false_eq_true, if_false,
      convertDb_convertDb, Except.map]
  have hmessage : messageOf (command.statusEvent (clock c.outbox.clockReads) commandId (some status)) =
      .ok ⟨replaceBlanks (command.payloadText "idea_session_id"),
        command.statusEvent (clock c.outbox.clockReads) commandId (some status)⟩ := by
    unfold messageOf
    rw [eventGroupId_statusEvent]
  unfold handleSsmCommands
  simp only [hid, hstatus]
  rw [Proc.run_bind_of_ok (Proc.run_gets _ c), hget]
  show (publishStatus clock _).run c = _
  unfold publishStatus
  rw [Proc.run_bind_of_ok (Proc.run_gets _ c), hmessage]
  rfl

end

end ContainRes.VirtualDesktop
