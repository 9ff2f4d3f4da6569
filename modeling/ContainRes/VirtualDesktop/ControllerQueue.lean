import ContainRes.Systems.Guarded
import ContainRes.Text.Json
import ContainRes.VirtualDesktop.SsmCommands

/-! # The controller queue

Messages of the cluster manager, of the SSM commands and of EC2 arrive in one queue. A service thread receives a batch,
turns each message into an event of the events queue, and deletes the batch at the end.

* **`handleMessage`** — one message, with all that its handling reads (`MessageEnv`).
* **`pollAndProcessQueue`** — one round: the messages in order, then one deletion.
* **`controllerQueue`** — the system of the queue and its rounds.
* **`RoundMeets`** — a round handles every message as if it were alone, deletes those that were handled, and publishes
  nothing for one that was handled before.
* **`roundsMeet_iff`** — the runs of which every round is like that. -/

namespace ContainRes.VirtualDesktop.ControllerQueue

open Effects Systems Text

/-! ## Values of messages -/

/-- `SocaHeader`, the field that is read. -/
structure SocaHeader where
  nameSpace : Option String
  deriving DecidableEq, Repr

/-- `SocaEnvelope`, the fields that are read. -/
structure SocaEnvelope where
  header : Option SocaHeader
  payload : Option Json

/-- The functions of the libraries. -/
structure Library where
  /-- `orjson.loads`. -/
  fromJson : String → Except Exc Json
  /-- `str` of a value that is no string. -/
  str : Json → String
  /-- The validation of `SocaEnvelope(**fields)`. -/
  validate : Fields → Except Exc SocaEnvelope

/-- A value counts as there unless it is missing or empty. -/
def nonEmpty : Json → Bool
  | .null => false
  | .str s => !isEmpty s
  | .arr items => !items.toList.isEmpty
  | .obj fields => !fields.keys.isEmpty
  | .bool _ => true
  | .num _ => true

/-- The value of a key, if `value_exists`; `key in obj` of a string or a list looks for a part of it. -/
def existingValue (key : String) : Json → Except Exc (Option Json)
  | .null => .ok none
  | .obj fields => .ok ((fields.get? key).filter nonEmpty)
  | .str s =>
    if contains key s then .error (.other .typeError "string indices must be integers") else .ok none
  | .arr items =>
    if items.toList.any (fun | .str s => s = key | _ => false) then
      .error (.other .typeError "list indices must be integers or slices, not str")
    else .ok none
  | .bool _ => .error (.other .typeError "argument of type 'bool' is not iterable")
  | .num _ => .error (.other .typeError "argument of type 'int' is not iterable")

/-- A server as it is read, the fields that are read on. -/
structure ServerItem where
  ideaSessionId : Option String
  ideaSessionOwner : Option String
  deriving DecidableEq, Repr

/-- How a read of a table fails. -/
inductive ReadFailure
  /-- `ResourceNotFoundException`. -/
  | resourceNotFound
  | other (e : Exc)

/-- What becomes of a message that is sent to the events queue. -/
inductive SendOutcome
  | sent
  /-- The call raises, and the message may have been sent nevertheless. -/
  | failed (e : Exc) (delivered : Bool)

/-- What the handling of a message reads and calls, as it is at that time. -/
structure MessageEnv where
  ssmCommandsSnsTopicArn : Except Exc (Option String)
  stateChangeNotificationsSnsTopicArn : Except Exc (Option String)
  eventsSqsQueueUrl : Option String
  /-- `get_item` of the ssm-commands table. -/
  ssmCommands : String → Except ReadFailure (Option SsmCommandItem)
  /-- `get_item` of the servers table. -/
  servers : String → Except ReadFailure (Option ServerItem)
  currentTimeMs : Int
  send : SendOutcome

/-- A message of the controller queue. -/
structure SqsMessage where
  messageId : String
  receiptHandle : String
  body : Option String
  /-- The queue gives out handles that are read as they are. -/
  receiptHandle_plain : getAsString (some receiptHandle) = some receiptHandle
  deriving DecidableEq

section Handlers

variable (lib : Library) (env : MessageEnv)

def getValueAsString (key : String) (obj : Json) (default : Option String) : Except Exc (Option String) :=
  (existingValue key obj).map fun
    | none => default
    | some (.str s) => (getAsString (some s)).or default
    | some value => some (lib.str value)

def socaEnvelope : Json → Except Exc SocaEnvelope
  | .obj fields => lib.validate fields
  | _ => .error (.other .typeError "SocaEnvelope() argument after ** must be a mapping")

/-- The event of `publish_user_disabled_event`. -/
def userDisabledEvent (username : Option String) : VirtualDesktopEvent where
  eventGroupId := username
  eventType := some .userDisabled
  detail := some [("username", .ofOption username)]

/-- The event of `publish_ec2_state_updated_event`. -/
def ec2StateUpdatedEvent (timestamp : Int) (ideaSessionId ideaSessionOwner instanceId state : Option String) :
    VirtualDesktopEvent where
  eventGroupId := ideaSessionId
  eventType := some .ec2InstanceStateChanged
  detail := some (sessionDetail ideaSessionId ideaSessionOwner ++
    [("instance_id", .ofOption instanceId), ("state", .ofOption state), ("timestamp", .N timestamp)])

/-- `EventsClient.publish_event`; the state are the messages of the events queue. -/
def publishEvent (event : VirtualDesktopEvent) : Proc (List QueueMessage) Exc PUnit :=
  if isEmptyOpt env.eventsSqsQueueUrl then pure ⟨⟩
  else do
    let message ← Proc.liftExcept (messageOf event)
    match env.send with
    | .sent => Proc.modify fun messages => messages ++ [message]
    | .failed e delivered =>
      Proc.when (delivered = true) (Proc.modify fun messages => messages ++ [message])
      Proc.raise e

def handleUserDisabledEvent (event : SocaEnvelope) : Proc (List QueueMessage) Exc PUnit := do
  let username ← Proc.liftExcept (getValueAsString lib "username" (event.payload.getD .null) none)
  if isEmptyOpt username then pure ⟨⟩ else publishEvent env (userDisabledEvent username)

/-- `VirtualDesktopServerDB.get`. -/
def getServer (instanceId : Option String) : Except Exc (Option ServerItem) :=
  match instanceId with
  | none => .error (.invalidParams "instance_id is required")
  | some instanceId =>
    if isEmpty instanceId then .error (.invalidParams "instance_id is required")
    else match env.servers instanceId with
      | .error .resourceNotFound => .ok none
      | .error (.other e) => .error e
      | .ok item => .ok item

/-- `VirtualDesktopSSMCommandsDB.get` of an id that is not empty. -/
def getSsmCommand (commandId : String) : Except Exc (Option VirtualDesktopSSMCommand) :=
  match env.ssmCommands commandId with
  | .error .resourceNotFound => .ok none
  | .error (.other e) => .error e
  | .ok none => .ok none
  | .ok (some item) => (convertDbDictToDbModel item).map some

def handleEc2StateChange (messageBody : Json) : Proc (List QueueMessage) Exc PUnit := do
  let text ← Proc.liftExcept (getValueAsString lib "Message" messageBody (some ""))
  let message ← Proc.liftExcept (lib.fromJson (text.getD ""))
  let event ← Proc.liftExcept (socaEnvelope lib message)
  let instanceId ← Proc.liftExcept (getValueAsString lib "instance-id" (event.payload.getD .null) none)
  let server ← Proc.liftExcept (getServer env instanceId)
  match server with
  | none => pure ⟨⟩
  | some server => do
    let state ← Proc.liftExcept (getValueAsString lib "state" (event.payload.getD .null) none)
    publishEvent env (ec2StateUpdatedEvent env.currentTimeMs (getAsString server.ideaSessionId)
      (getAsString server.ideaSessionOwner) instanceId state)

def handleSsmCommands (messageBody : Json) : Proc (List QueueMessage) Exc PUnit := do
  let text ← Proc.liftExcept (getValueAsString lib "Message" messageBody (some ""))
  let message ← Proc.liftExcept (lib.fromJson (text.getD ""))
  let commandId ← Proc.liftExcept (getValueAsString lib "commandId" message none)
  let status ← Proc.liftExcept (getValueAsString lib "status" message none)
  if isEmptyOpt commandId then pure ⟨⟩
  else do
    let ssmCommand ← Proc.liftExcept (getSsmCommand env (commandId.getD ""))
    match ssmCommand with
    | none => pure ⟨⟩
    | some ssmCommand => publishEvent env (ssmCommand.statusEvent env.currentTimeMs (commandId.getD "") status)

/-- A body of the cluster manager. -/
def handleEnvelope (messageBody : Json) : Proc (List QueueMessage) Exc PUnit := do
  let event ← Proc.liftExcept (socaEnvelope lib messageBody)
  match event.header with
  | none => Proc.raise (.other .attributeError "'NoneType' object has no attribute 'namespace'")
  | some header =>
    if header.nameSpace = some "Accounts.UserDisabledEvent" then handleUserDisabledEvent lib env event
    else pure ⟨⟩

/-- A body of a topic. -/
def handleNotification (topicArn : Option String) (messageBody : Json) : Proc (List QueueMessage) Exc PUnit := do
  let ssmTopic ← Proc.liftExcept env.ssmCommandsSnsTopicArn
  if topicArn = ssmTopic then handleSsmCommands lib env messageBody
  else do
    let ec2Topic ← Proc.liftExcept env.stateChangeNotificationsSnsTopicArn
    if topicArn = ec2Topic then handleEc2StateChange lib env messageBody else pure ⟨⟩

/-- `Utils.from_json(Utils.get_value_as_string('Body', message, None))`. -/
def readBody (message : SqsMessage) : Except Exc Json :=
  match getAsString message.body with
  | none => .error (.other .valueError "Input must be bytes, bytearray, memoryview, or str")
  | some body => lib.fromJson body

/-- What the loop does for a message before it is noted for deletion. -/
def handleMessage (message : SqsMessage) : Proc (List QueueMessage) Exc PUnit := do
  let messageBody ← Proc.liftExcept (readBody lib message)
  let topicArn ← Proc.liftExcept (getValueAsString lib "TopicArn" messageBody none)
  if isEmptyOpt topicArn then handleEnvelope lib env messageBody
  else handleNotification lib env topicArn messageBody

end Handlers

/-! ## A round -/

/-- An entry of `delete_message_batch`. -/
structure DeleteEntry where
  id : String
  receiptHandle : Option String
  deriving DecidableEq, Repr

/-- What a round has done: the messages that were published, those whose handling was tried with the outcome, and the
entries that were deleted. -/
structure Round where
  published : List QueueMessage := []
  tried : List (String × Except Exc PUnit) := []
  deleted : List DeleteEntry := []

/-- A batch: each message with what its handling reads. -/
abbrev Batch : Type := List (SqsMessage × MessageEnv)

variable (lib : Library)

/-- The entry of a message. -/
def deleteEntry (message : SqsMessage) : DeleteEntry where
  id := message.messageId
  receiptHandle := getAsString (some message.receiptHandle)

/-- The handling of a message in the round. -/
def tryMessage (p : SqsMessage × MessageEnv) : Proc Round Exc PUnit := fun s =>
  let (r, published) := (handleMessage lib p.2 p.1).run s.published
  (r, { s with published := published, tried := s.tried ++ [(p.1.messageId, r)] })

/-- The loop, with `delete_message_info`. -/
def processMessages : Batch → List DeleteEntry → Proc Round Exc (List DeleteEntry)
  | [], deleteMessageInfo => pure deleteMessageInfo
  | p :: batch, deleteMessageInfo => do
    tryMessage lib p
    processMessages batch (deleteMessageInfo ++ [deleteEntry p.1])

/-- `_poll_and_process_queue` after the messages have been received. -/
def pollAndProcessQueue (batch : Batch) : Proc Round Exc PUnit := do
  let deleteMessageInfo ← processMessages lib batch []
  Proc.when (deleteMessageInfo.length > 0)
    (Proc.modify fun s => { s with deleted := s.deleted ++ deleteMessageInfo })

/-- The round of a batch; its exception is logged, and the next one follows. -/
def roundOf (batch : Batch) : Round := ((pollAndProcessQueue lib batch).run {}).2

/-! ## Runs -/

/-- The queue, the ids of the messages that were ever sent, and of those that were handled without an exception. -/
structure QueueState where
  queue : List SqsMessage
  sent : List String
  handled : List String
  published : List QueueMessage

/-- A step: a message arrives, or a round with a batch of the queue. -/
inductive QueueStep
  | send (message : SqsMessage)
  | round (batch : Batch)

/-- The messages of a batch. -/
def messagesOf (batch : Batch) : List SqsMessage := batch.map Prod.fst

/-- The state after a round. -/
def afterRound (s : QueueState) (batch : Batch) : QueueState :=
  let round := roundOf lib batch
  { s with
    queue := s.queue.filter fun message =>
      ¬ ∃ entry ∈ round.deleted, entry.receiptHandle = some message.receiptHandle
    handled := s.handled ++ (round.tried.filter fun entry => entry.2 = .ok ⟨⟩).map Prod.fst
    published := s.published ++ round.published }

/-- A batch is received: at most ten messages of the queue, each once. -/
def Received (s : QueueState) (batch : Batch) : Prop :=
  batch.length ≤ 10 ∧ ((messagesOf batch).map SqsMessage.messageId).Nodup ∧ ∀ m ∈ messagesOf batch, m ∈ s.queue

instance (s : QueueState) (batch : Batch) : Decidable (Received s batch) :=
  inferInstanceAs (Decidable (_ ∧ _ ∧ _))

/-- The next state. A message has an id of its own. -/
def queueNext (s : QueueState) : QueueStep → Option QueueState
  | .send message =>
    if message.messageId ∈ s.sent then none
    else some { s with queue := s.queue ++ [message], sent := message.messageId :: s.sent }
  | .round batch => if Received s batch then some (afterRound lib s batch) else none

/-- The queue is empty at the start. -/
def emptyQueue : QueueState := ⟨[], [], [], []⟩

/-- The runs of the queue. -/
def controllerQueue : System QueueState QueueStep where
  init s := s = emptyQueue
  next := queueNext lib

/-- The outcome of the handling of a message, and what it publishes. -/
def alone (p : SqsMessage × MessageEnv) : Except Exc PUnit × List QueueMessage := (handleMessage lib p.2 p.1).run []

/-- **One bad message holds nothing up**, in a round from a state. -/
structure BatchMeets (s : QueueState) (batch : Batch) : Prop where
  /-- Every message is tried, with the outcome that it has alone. -/
  tried : (roundOf lib batch).tried = batch.map fun p => (p.1.messageId, (alone lib p).1)
  /-- What is published is what the messages publish alone. -/
  published : (roundOf lib batch).published = batch.flatMap fun p => (alone lib p).2
  /-- A message that was handled is deleted. -/
  deleted : ∀ p ∈ batch, (alone lib p).1 = .ok ⟨⟩ → p.1 ∉ (afterRound lib s batch).queue
  /-- A message that was handled in an earlier round publishes nothing. -/
  notAgain : ∀ p ∈ batch, p.1.messageId ∈ s.handled → (alone lib p).2 = []

/-- A step meets what is claimed of the rounds. -/
def RoundMeets (s : QueueState) : QueueStep → Prop
  | .send _ => True
  | .round batch => Received s batch → BatchMeets lib s batch

/-! ## The messages that can be handled -/

section Handles

variable (env : MessageEnv)

/-- An event can be published: there is no queue for it, or it has a group and is sent. -/
def CanPublish (event : VirtualDesktopEvent) : Prop :=
  isEmptyOpt env.eventsSqsQueueUrl = true ∨ event.eventGroupId ≠ none ∧ env.send = .sent

/-- The event of a disabled user can be handled. -/
def HandlesUserDisabled (event : SocaEnvelope) : Prop :=
  ∃ username, getValueAsString lib "username" (event.payload.getD .null) none = .ok username ∧
    (isEmptyOpt username = true ∨ CanPublish env (userDisabledEvent username))

/-- The change of the state of an instance can be handled. -/
def HandlesEc2StateChange (messageBody : Json) : Prop :=
  ∃ text message event instanceId, getValueAsString lib "Message" messageBody (some "") = .ok text ∧
    lib.fromJson (text.getD "") = .ok message ∧ socaEnvelope lib message = .ok event ∧
    getValueAsString lib "instance-id" (event.payload.getD .null) none = .ok instanceId ∧
    (getServer env instanceId = .ok none ∨ ∃ server state, getServer env instanceId = .ok (some server) ∧
        getValueAsString lib "state" (event.payload.getD .null) none = .ok state ∧
        CanPublish env (ec2StateUpdatedEvent env.currentTimeMs (getAsString server.ideaSessionId)
          (getAsString server.ideaSessionOwner) instanceId state))

/-- The status of a command can be handled. -/
def HandlesSsmCommands (messageBody : Json) : Prop :=
  ∃ text message commandId status, getValueAsString lib "Message" messageBody (some "") = .ok text ∧
    lib.fromJson (text.getD "") = .ok message ∧ getValueAsString lib "commandId" message none = .ok commandId ∧
    getValueAsString lib "status" message none = .ok status ∧
    (isEmptyOpt commandId = true ∨ getSsmCommand env (commandId.getD "") = .ok none ∨
      ∃ ssmCommand, getSsmCommand env (commandId.getD "") = .ok (some ssmCommand) ∧
        CanPublish env (ssmCommand.statusEvent env.currentTimeMs (commandId.getD "") status))

/-- A body of the cluster manager can be handled. -/
def HandlesEnvelope (messageBody : Json) : Prop :=
  ∃ event header, socaEnvelope lib messageBody = .ok event ∧ event.header = some header ∧
    (header.nameSpace = some "Accounts.UserDisabledEvent" → HandlesUserDisabled lib env event)

/-- A body of a topic can be handled. -/
def HandlesNotification (topicArn : Option String) (messageBody : Json) : Prop :=
  ∃ ssmTopic, env.ssmCommandsSnsTopicArn = .ok ssmTopic ∧
    ((topicArn = ssmTopic ∧ HandlesSsmCommands lib env messageBody) ∨
      topicArn ≠ ssmTopic ∧ ∃ ec2Topic, env.stateChangeNotificationsSnsTopicArn = .ok ec2Topic ∧
        (topicArn = ec2Topic → HandlesEc2StateChange lib env messageBody))

/-- **A message can be handled**: its body is JSON of the form that its source sends, the lookups answer, and its event
is sent. -/
def Handles (message : SqsMessage) : Prop :=
  ∃ messageBody topicArn, readBody lib message = .ok messageBody ∧
    getValueAsString lib "TopicArn" messageBody none = .ok topicArn ∧
    ((isEmptyOpt topicArn = true ∧ HandlesEnvelope lib env messageBody) ∨
      isEmptyOpt topicArn = false ∧ HandlesNotification lib env topicArn messageBody)

end Handles

/-- **No message of a batch fails**, unless it is the only one. -/
def AllHandle (s : QueueState) : QueueStep → Prop
  | .send _ => True
  | .round batch => Received s batch → batch.length = 1 ∨ ∀ p ∈ batch, Handles lib p.2 p.1

/-! ## What a handler does -/

section Lifted

variable {α : Type} {s : List QueueMessage} {r : Except Exc α} {f : α → Proc (List QueueMessage) Exc PUnit}

/-- A handler that goes on with a value. -/
theorem ok_bind_liftExcept :
    ((Proc.liftExcept r >>= f).run s).1 = .ok ⟨⟩ ↔ ∃ a, r = .ok a ∧ ((f a).run s).1 = .ok ⟨⟩ := by
  cases r with
  | error e =>
    rw [Proc.run_bind_of_error (Proc.run_liftExcept _ s)]
    exact ⟨fun h => (nomatch h), fun ⟨_, h, _⟩ => (nomatch h)⟩
  | ok a =>
    rw [Proc.run_bind_of_ok (Proc.run_liftExcept _ s)]
    exact ⟨fun h => ⟨a, rfl, h⟩, fun ⟨b, hb, h⟩ => Except.ok.inj hb ▸ h⟩

/-- A handler only adds to what is published, and does not look at it. -/
def Appends (c : Proc (List QueueMessage) Exc PUnit) : Prop :=
  ∀ s, c.run s = ((c.run []).1, s ++ (c.run []).2)

theorem appends_pure : Appends (pure ⟨⟩) := fun s => by
  rw [Proc.run_pure, Proc.run_pure, List.append_nil]

theorem appends_raise (e : Exc) : Appends (Proc.raise e) := fun s => by
  rw [Proc.run_raise, Proc.run_raise, List.append_nil]

theorem appends_bind (h : ∀ a, Appends (f a)) : Appends (Proc.liftExcept r >>= f) := by
  intro s
  cases r with
  | error e => exact appends_raise e s
  | ok a => exact h a s

end Lifted

section Handlers

variable {lib} {env : MessageEnv} {s : List QueueMessage}

theorem appends_publishEvent (event : VirtualDesktopEvent) : Appends (publishEvent env event) := by
  intro s
  unfold publishEvent
  by_cases hurl : isEmptyOpt env.eventsSqsQueueUrl = true
  · rw [if_pos hurl]
    exact appends_pure s
  · rw [if_neg hurl]
    refine appends_bind (fun message => ?_) s
    cases env.send with
    | sent => exact fun s => by rw [Proc.run_modify, Proc.run_modify, List.nil_append]
    | failed e delivered =>
      cases delivered with
      | false => exact appends_raise e
      | true => exact fun s => rfl

/-- **An event is published** without an exception exactly when it can be. -/
theorem canPublish_iff {event : VirtualDesktopEvent} :
    ((publishEvent env event).run s).1 = .ok ⟨⟩ ↔ CanPublish env event := by
  unfold publishEvent CanPublish
  by_cases hurl : isEmptyOpt env.eventsSqsQueueUrl = true
  · rw [if_pos hurl]
    exact iff_of_true rfl (.inl hurl)
  · rw [if_neg hurl, ok_bind_liftExcept, or_iff_right hurl]
    cases hgroup : event.eventGroupId with
    | none =>
      refine iff_of_false ?_ fun h => h.1 rfl
      rintro ⟨message, hmessage, -⟩
      rw [messageOf, hgroup] at hmessage
      cases hmessage
    | some group =>
      have hmessage : messageOf event = .ok { messageGroupId := replaceBlanks group, body := event } := by
        rw [messageOf, hgroup]
      rw [hmessage]
      cases hsend : env.send with
      | sent => exact iff_of_true ⟨_, rfl, rfl⟩ ⟨by rintro ⟨⟩, rfl⟩
      | failed e delivered =>
        refine iff_of_false ?_ fun h => by cases h.2
        rintro ⟨message, -, hok⟩
        cases delivered with
        | false => cases hok
        | true => cases hok

theorem appends_handleUserDisabledEvent (event : SocaEnvelope) : Appends (handleUserDisabledEvent lib env event) := by
  refine appends_bind fun username => ?_
  split
  · exact appends_pure
  · exact appends_publishEvent _

theorem appends_handleEc2StateChange (messageBody : Json) : Appends (handleEc2StateChange lib env messageBody) := by
  refine appends_bind fun text => appends_bind fun message => appends_bind fun event => ?_
  refine appends_bind fun instanceId => appends_bind fun server => ?_
  cases server with
  | none => exact appends_pure
  | some server => exact appends_bind fun state => appends_publishEvent _

theorem appends_handleSsmCommands (messageBody : Json) : Appends (handleSsmCommands lib env messageBody) := by
  refine appends_bind fun text => appends_bind fun message => ?_
  refine appends_bind fun commandId => appends_bind fun status => ?_
  split
  · exact appends_pure
  · refine appends_bind fun ssmCommand => ?_
    cases ssmCommand with
    | none => exact appends_pure
    | some ssmCommand => exact appends_publishEvent _

/-- **A message** adds to what is published, whatever that is. -/
theorem appends_handleMessage (message : SqsMessage) : Appends (handleMessage lib env message) := by
  refine appends_bind fun messageBody => appends_bind fun topicArn => ?_
  split
  · refine appends_bind fun event => ?_
    cases event.header with
    | none => exact appends_raise _
    | some header =>
      dsimp only
      split
      · exact appends_handleUserDisabledEvent event
      · exact appends_pure
  · refine appends_bind fun ssmTopic => ?_
    split
    · exact appends_handleSsmCommands messageBody
    · refine appends_bind fun ec2Topic => ?_
      split
      · exact appends_handleEc2StateChange messageBody
      · exact appends_pure

theorem handlesUserDisabled_iff {event : SocaEnvelope} :
    ((handleUserDisabledEvent lib env event).run s).1 = .ok ⟨⟩ ↔ HandlesUserDisabled lib env event := by
  unfold handleUserDisabledEvent HandlesUserDisabled
  rw [ok_bind_liftExcept]
  refine exists_congr fun username => and_congr_right fun _ => ?_
  by_cases hblank : isEmptyOpt username = true
  · rw [if_pos hblank]
    exact iff_of_true rfl (.inl hblank)
  · rw [if_neg hblank, canPublish_iff, or_iff_right hblank]

variable {messageBody : Json}

theorem handlesEc2StateChange_iff :
    ((handleEc2StateChange lib env messageBody).run s).1 = .ok ⟨⟩ ↔ HandlesEc2StateChange lib env messageBody := by
  unfold handleEc2StateChange HandlesEc2StateChange
  simp only [ok_bind_liftExcept, exists_and_left]
  refine exists_congr fun text => and_congr_right fun _ => exists_congr fun message => and_congr_right fun _ => ?_
  refine exists_congr fun event => and_congr_right fun _ => exists_congr fun instanceId => and_congr_right fun _ => ?_
  rw [Option.exists]
  refine or_congr ⟨fun h => h.1, fun h => ⟨h, rfl⟩⟩ (exists_congr fun server => ?_)
  simp only [ok_bind_liftExcept, canPublish_iff]

theorem handlesSsmCommands_iff :
    ((handleSsmCommands lib env messageBody).run s).1 = .ok ⟨⟩ ↔ HandlesSsmCommands lib env messageBody := by
  unfold handleSsmCommands HandlesSsmCommands
  simp only [ok_bind_liftExcept, exists_and_left]
  refine exists_congr fun text => and_congr_right fun _ => exists_congr fun message => and_congr_right fun _ => ?_
  refine exists_congr fun commandId => and_congr_right fun _ => exists_congr fun status => and_congr_right fun _ => ?_
  by_cases hblank : isEmptyOpt commandId = true
  · rw [if_pos hblank]
    exact iff_of_true rfl (.inl hblank)
  · rw [if_neg hblank, ok_bind_liftExcept, or_iff_right hblank, Option.exists]
    refine or_congr ⟨fun h => h.1, fun h => ⟨h, rfl⟩⟩ (exists_congr fun ssmCommand => ?_)
    rw [canPublish_iff]

theorem handlesEnvelope_iff :
    ((handleEnvelope lib env messageBody).run s).1 = .ok ⟨⟩ ↔ HandlesEnvelope lib env messageBody := by
  unfold handleEnvelope HandlesEnvelope
  simp only [ok_bind_liftExcept, exists_and_left]
  refine exists_congr fun event => and_congr_right fun _ => ?_
  cases event.header with
  | none => exact iff_of_false (fun h => (nomatch h)) fun ⟨_, h, _⟩ => (nomatch h)
  | some header =>
    have hone : ∀ {P : SocaHeader → Prop}, (∃ header', some header = some header' ∧ P header') ↔ P header :=
      ⟨fun ⟨_, h, hP⟩ => Option.some.inj h ▸ hP, fun hP => ⟨header, rfl, hP⟩⟩
    rw [hone]
    dsimp only
    by_cases hname : header.nameSpace = some "Accounts.UserDisabledEvent"
    · rw [if_pos hname, handlesUserDisabled_iff]
      exact ⟨fun h _ => h, fun h => h hname⟩
    · rw [if_neg hname]
      exact iff_of_true rfl fun h => absurd h hname

theorem handlesNotification_iff {topicArn : Option String} :
    ((handleNotification lib env topicArn messageBody).run s).1 = .ok ⟨⟩ ↔
      HandlesNotification lib env topicArn messageBody := by
  unfold handleNotification HandlesNotification
  rw [ok_bind_liftExcept]
  refine exists_congr fun ssmTopic => and_congr_right fun _ => ?_
  by_cases hssm : topicArn = ssmTopic
  · rw [if_pos hssm, handlesSsmCommands_iff]
    exact ⟨fun h => .inl ⟨hssm, h⟩, fun h => (h.resolve_right fun h' => h'.1 hssm).2⟩
  · rw [if_neg hssm, ok_bind_liftExcept]
    have hother : (∃ ec2Topic, env.stateChangeNotificationsSnsTopicArn = .ok ec2Topic ∧
        ((if topicArn = ec2Topic then handleEc2StateChange lib env messageBody else pure ⟨⟩).run s).1 = .ok ⟨⟩) ↔
          ∃ ec2Topic, env.stateChangeNotificationsSnsTopicArn = .ok ec2Topic ∧
            (topicArn = ec2Topic → HandlesEc2StateChange lib env messageBody) := by
      refine exists_congr fun ec2Topic => and_congr_right fun _ => ?_
      by_cases hec2 : topicArn = ec2Topic
      · rw [if_pos hec2, handlesEc2StateChange_iff]
        exact ⟨fun h _ => h, fun h => h hec2⟩
      · rw [if_neg hec2]
        exact iff_of_true rfl fun h => absurd h hec2
    rw [hother]
    exact ⟨fun h => .inr ⟨hssm, h⟩, fun h => (h.resolve_left fun h' => hssm h'.1).2⟩

/-- **A message is handled** without an exception exactly when it can be. -/
theorem handles_iff {p : SqsMessage × MessageEnv} : (alone lib p).1 = .ok ⟨⟩ ↔ Handles lib p.2 p.1 := by
  unfold alone handleMessage Handles
  simp only [ok_bind_liftExcept, exists_and_left]
  refine exists_congr fun messageBody => and_congr_right fun _ => exists_congr fun topicArn =>
    and_congr_right fun _ => ?_
  by_cases hblank : isEmptyOpt topicArn = true
  · rw [if_pos hblank, handlesEnvelope_iff]
    exact ⟨fun h => .inl ⟨hblank, h⟩, fun h => (h.resolve_right fun h' => absurd hblank (by simp [h'.1])).2⟩
  · rw [if_neg hblank, handlesNotification_iff]
    exact ⟨fun h => .inr ⟨Bool.not_eq_true _ ▸ hblank, h⟩, fun h => (h.resolve_left fun h' => hblank h'.1).2⟩

end Handlers

/-! ## What a round does -/

section Rounds

/-- What the messages of a batch publish alone. -/
def publications (batch : Batch) : List QueueMessage := batch.flatMap fun p => (alone lib p).2

/-- The outcomes of the messages of a batch alone. -/
def outcomes (batch : Batch) : List (String × Except Exc PUnit) :=
  batch.map fun p => (p.1.messageId, (alone lib p).1)

/-- A message is tried. -/
theorem run_tryMessage (p : SqsMessage × MessageEnv) (s : Round) : (tryMessage lib p).run s = ((alone lib p).1,
      { s with published := s.published ++ (alone lib p).2, tried := s.tried ++ [(p.1.messageId, (alone lib p).1)] }) := by
  have hrun : (handleMessage lib p.2 p.1).run s.published = _ := appends_handleMessage p.1 s.published
  show (((handleMessage lib p.2 p.1).run s.published).1,
    ({ s with
      published := ((handleMessage lib p.2 p.1).run s.published).2
      tried := s.tried ++ [(p.1.messageId, ((handleMessage lib p.2 p.1).run s.published).1)] } : Round)) = _
  rw [hrun]
  rfl

/-- **Messages that can be handled** are tried one after another, and noted for deletion. -/
theorem run_processMessages (batch rest : Batch) (hbatch : ∀ p ∈ batch, (alone lib p).1 = .ok ⟨⟩)
    (info : List DeleteEntry) (s : Round) : (processMessages lib (batch ++ rest) info).run s =
      (processMessages lib rest (info ++ (messagesOf batch).map deleteEntry)).run
        { s with
          published := s.published ++ publications lib batch
          tried := s.tried ++ outcomes lib batch } := by
  induction batch generalizing info s with
  | nil =>
    show _ = (processMessages lib rest (info ++ [])).run
      { s with published := s.published ++ [], tried := s.tried ++ [] }
    rw [List.append_nil, List.append_nil, List.append_nil]
    rfl
  | cons p batch ih =>
    have hp := hbatch p List.mem_cons_self
    have htry := run_tryMessage lib p s
    have hrest := ih (fun q hq => hbatch q (List.mem_cons_of_mem _ hq)) (info ++ [deleteEntry p.1])
      { s with published := s.published ++ (alone lib p).2, tried := s.tried ++ [(p.1.messageId, (alone lib p).1)] }
    rw [hp] at htry
    show (tryMessage lib p >>= fun _ => processMessages lib (batch ++ rest) (info ++ [deleteEntry p.1])).run s = _
    rw [Proc.run_bind_of_ok htry, ← hp, hrest, List.append_assoc, List.append_assoc, List.append_assoc]
    rfl

/-- The round when all messages can be handled. -/
theorem roundOf_of_all (batch : Batch) (hbatch : ∀ p ∈ batch, (alone lib p).1 = .ok ⟨⟩) :
    roundOf lib batch = ⟨publications lib batch, outcomes lib batch, (messagesOf batch).map deleteEntry⟩ := by
  have hrun := run_processMessages lib batch [] hbatch [] {}
  rw [List.append_nil] at hrun
  unfold roundOf pollAndProcessQueue
  rw [Proc.run_bind_of_ok hrun]
  cases batch with
  | nil => rfl
  | cons p batch => rfl

/-- **The round when a message fails** ends there: the ones before it were tried, and nothing is deleted. -/
theorem roundOf_of_fail {before : Batch} (after : Batch) {p : SqsMessage × MessageEnv} {e : Exc}
    (hbefore : ∀ q ∈ before, (alone lib q).1 = .ok ⟨⟩) (hp : (alone lib p).1 = .error e) :
    roundOf lib (before ++ p :: after) = ⟨publications lib (before ++ [p]), outcomes lib (before ++ [p]), []⟩ := by
  have hrun := run_processMessages lib before (p :: after) hbefore [] {}
  have htry := run_tryMessage lib p
    { published := [] ++ publications lib before, tried := [] ++ outcomes lib before }
  rw [hp] at htry
  have hfail : (processMessages lib (before ++ p :: after) []).run {} = (.error e, _) :=
    hrun.trans (Proc.run_bind_of_error htry)
  unfold roundOf pollAndProcessQueue
  rw [Proc.run_bind_of_error hfail, ← hp]
  unfold publications outcomes
  rw [List.flatMap_append, List.map_append, List.flatMap_singleton, List.map_singleton]
  rfl

/-- A batch in which a message fails has a first one that does. -/
theorem exists_first_failure (batch : Batch) : (∀ p ∈ batch, (alone lib p).1 = .ok ⟨⟩) ∨
      ∃ before p after e, batch = before ++ p :: after ∧ (∀ q ∈ before, (alone lib q).1 = .ok ⟨⟩) ∧
        (alone lib p).1 = .error e := by
  induction batch with
  | nil => exact .inl fun p hp => absurd hp List.not_mem_nil
  | cons p batch ih =>
    cases hp : (alone lib p).1 with
    | error e => exact .inr ⟨[], p, batch, e, rfl, fun q hq => absurd hq List.not_mem_nil, hp⟩
    | ok u =>
      rcases ih with hall | ⟨before, q, after, e, hbatch, hbefore, hq⟩
      · exact .inl (List.forall_mem_cons.mpr ⟨hp, hall⟩)
      · exact .inr ⟨p :: before, q, after, e, by rw [hbatch]; rfl, List.forall_mem_cons.mpr ⟨hp, hbefore⟩, hq⟩

/-! ## The runs -/

variable {lib}

/-- **The invariant**: the messages of the queue have been sent, each once, and none of them was handled. -/
structure Waiting (s : QueueState) : Prop where
  nodup : (s.queue.map SqsMessage.messageId).Nodup
  sent : ∀ message ∈ s.queue, message.messageId ∈ s.sent
  handledSent : ∀ id ∈ s.handled, id ∈ s.sent
  notHandled : ∀ message ∈ s.queue, message.messageId ∉ s.handled

variable {s t : QueueState}

/-- A message with an entry is not in the queue any more. -/
theorem not_mem_queue {batch : Batch} (hdeleted : (roundOf lib batch).deleted = (messagesOf batch).map deleteEntry)
    {message : SqsMessage} (hmessage : message ∈ messagesOf batch) : message ∉ (afterRound lib s batch).queue := by
  intro hin
  have hleft := of_decide_eq_true (List.mem_filter.mp hin).2
  refine hleft ⟨deleteEntry message, ?_, message.receiptHandle_plain⟩
  rw [hdeleted]
  exact List.mem_map_of_mem hmessage

/-- **A round meets the claim** exactly when no message fails or there is one only. -/
theorem batchMeets_iff {batch : Batch} (hs : Waiting s) (hreceived : Received s batch) :
    BatchMeets lib s batch ↔ batch.length = 1 ∨ ∀ p ∈ batch, Handles lib p.2 p.1 := by
  have hnot : ∀ p ∈ batch, p.1.messageId ∈ s.handled → (alone lib p).2 = [] := fun p hp hin =>
    absurd hin (hs.notHandled p.1 (hreceived.2.2 p.1 (List.mem_map_of_mem hp)))
  have hhandles : (∀ p ∈ batch, Handles lib p.2 p.1) ↔ ∀ p ∈ batch, (alone lib p).1 = .ok ⟨⟩ :=
    forall₂_congr fun p _ => handles_iff.symm
  rw [hhandles]
  constructor
  · intro h
    rcases exists_first_failure lib batch with hall | ⟨before, p, after, e, rfl, hbefore, hp⟩
    · exact .inr hall
    · left
      have hround := roundOf_of_fail lib after hbefore hp
      -- the messages after the one that fails are not tried
      have htried := congrArg List.length h.tried
      rw [hround] at htried
      unfold outcomes at htried
      rw [List.length_map, List.length_map, List.length_append, List.length_append, List.length_cons,
        List.length_cons, List.length_nil] at htried
      -- those before it were handled and are still there
      cases before with
      | nil =>
        rw [List.nil_append, List.length_cons]
        rw [List.length_nil] at htried
        omega
      | cons q before =>
        have hgone := h.deleted q (List.mem_append_left _ List.mem_cons_self) (hbefore q List.mem_cons_self)
        refine absurd (List.mem_filter.mpr ⟨hreceived.2.2 q.1 List.mem_cons_self, decide_eq_true ?_⟩) hgone
        rw [hround]
        exact fun ⟨entry, hentry, _⟩ => absurd hentry List.not_mem_nil
  · intro h
    rcases exists_first_failure lib batch with hall | ⟨before, p, after, e, hbatch, hbefore, hp⟩
    · have hround := roundOf_of_all lib batch hall
      refine ⟨by rw [hround]; rfl, by rw [hround]; rfl, fun p hp _ => ?_, hnot⟩
      exact not_mem_queue (by rw [hround]) (List.mem_map_of_mem hp)
    · have hone : batch.length = 1 := h.resolve_right fun hall =>
        nomatch (hall p (by rw [hbatch]; exact List.mem_append_right _ List.mem_cons_self)).symm.trans hp
      obtain ⟨q, rfl⟩ := List.length_eq_one_iff.mp hone
      obtain ⟨rfl, rfl, rfl⟩ : before = [] ∧ p = q ∧ after = [] := by
        cases before with
        | nil =>
          rw [List.nil_append, List.cons.injEq] at hbatch
          exact ⟨rfl, hbatch.1.symm, hbatch.2.symm⟩
        | cons r before =>
          have hlength := congrArg List.length hbatch
          rw [List.length_singleton, List.length_append, List.length_cons, List.length_cons] at hlength
          omega
      have hround := roundOf_of_fail lib [] hbefore hp
      rw [List.nil_append] at hround
      refine ⟨by rw [hround]; rfl, by rw [hround]; rfl, fun r hr hok => ?_, hnot⟩
      rw [List.mem_singleton.mp hr, hp] at hok
      exact nomatch hok

/-- **A step that meets the claim** keeps the invariant. -/
theorem Waiting.next {step : QueueStep} (hs : Waiting s) (hmeets : RoundMeets lib s step)
    (hnext : queueNext lib s step = some t) : Waiting t := by
  cases step with
  | send message =>
    obtain ⟨hnew, ht⟩ := Option.ite_none_left_eq_some.mp hnext
    rw [← Option.some.inj ht]
    constructor
    · show ((s.queue ++ [message]).map SqsMessage.messageId).Nodup
      rw [List.map_append, List.nodup_append]
      refine ⟨hs.nodup, List.nodup_singleton _, fun id hid id' hid' heq => hnew ?_⟩
      obtain ⟨old, hold, hsame⟩ := List.mem_map.mp hid
      rw [← List.mem_singleton.mp hid', ← heq, ← hsame]
      exact hs.sent old hold
    · intro m hm
      rcases List.mem_append.mp hm with hold | hlast
      · exact List.mem_cons_of_mem _ (hs.sent m hold)
      · rw [List.mem_singleton.mp hlast]
        exact List.mem_cons_self
    · exact fun id hid => List.mem_cons_of_mem _ (hs.handledSent id hid)
    · intro m hm hin
      rcases List.mem_append.mp hm with hold | hlast
      · exact hs.notHandled m hold hin
      · rw [List.mem_singleton.mp hlast] at hin
        exact hnew (hs.handledSent _ hin)
  | round batch =>
    obtain ⟨hreceived, ht⟩ := Option.ite_none_right_eq_some.mp hnext
    have h := hmeets hreceived
    rw [← Option.some.inj ht]
    -- the ids that the round adds are those of its messages that were handled
    have hadded : ∀ id ∈ (afterRound lib s batch).handled, id ∈ s.handled ∨
        ∃ p ∈ batch, (alone lib p).1 = .ok ⟨⟩ ∧ p.1.messageId = id := by
      intro id hid
      rcases List.mem_append.mp hid with hold | hnew
      · exact .inl hold
      · obtain ⟨entry, hentry, rfl⟩ := List.mem_map.mp hnew
        rw [List.mem_filter, h.tried] at hentry
        obtain ⟨p, hp, rfl⟩ := List.mem_map.mp hentry.1
        exact .inr ⟨p, hp, of_decide_eq_true hentry.2, rfl⟩
    constructor
    · exact hs.nodup.sublist (List.Sublist.map _ List.filter_sublist)
    · exact fun m hm => hs.sent m (List.mem_filter.mp hm).1
    · intro id hid
      rcases hadded id hid with hold | ⟨p, hp, -, rfl⟩
      · exact hs.handledSent id hold
      · exact hs.sent p.1 (hreceived.2.2 p.1 (List.mem_map_of_mem hp))
    · intro m hm hin
      have hold := (List.mem_filter.mp hm).1
      rcases hadded _ hin with hbefore | ⟨p, hp, hok, hid⟩
      · exact hs.notHandled m hold hbefore
      · have hsame : p.1 = m := List.inj_on_of_nodup_map hs.nodup
          (hreceived.2.2 p.1 (List.mem_map_of_mem hp)) hold hid
        exact h.deleted p hp hok (hsame ▸ hm)

theorem waiting_emptyQueue : Waiting emptyQueue :=
  ⟨List.nodup_nil, fun _ h => (nomatch h), fun _ h => (nomatch h), fun _ h => (nomatch h)⟩

variable (lib)

/-- **The rounds of a run** are held up by nothing exactly when in none of them a message fails beside another one. -/
theorem roundsMeet_iff (steps : List QueueStep) : (controllerQueue lib).Meets (RoundMeets lib) emptyQueue steps ↔
      (controllerQueue lib).Meets (AllHandle lib) emptyQueue steps := by
  refine System.meets_congr (I := Waiting) (fun s step t hs hmeets hnext => hs.next hmeets hnext)
    (fun s step hs => ?_) waiting_emptyQueue steps
  cases step with
  | send message => exact Iff.rfl
  | round batch => exact imp_congr_right fun hreceived => batchMeets_iff hs hreceived

end Rounds

/-! ## A malformed message -/

/-- The body that the cluster manager sends when a user is disabled. -/
def disabledBody : String :=
  "\x7b\"header\":\x7b\"namespace\":\"Accounts.UserDisabledEvent\"\x7d,\"payload\":\x7b\"username\":\"ada\"\x7d\x7d"

/-- Its value. -/
def disabledJson : Json :=
  .obj (.cons "header" (.obj (.cons "namespace" (.str "Accounts.UserDisabledEvent") .nil))
    (.cons "payload" (.obj (.cons "username" (.str "ada") .nil)) .nil))

/-- The text of a field, if it is one. -/
def textOf : Option Json → Option String
  | some (.str s) => some s
  | _ => none

/-- The libraries, on this body and on others that are no JSON. -/
def sampleLibrary : Library where
  fromJson text :=
    if text = disabledBody then .ok disabledJson else .error (.other .valueError "unexpected end of data")
  str _ := ""
  validate fields := .ok
    { header := match fields.get? "header" with
        | some (.obj header) => some ⟨textOf (header.get? "namespace")⟩
        | _ => none
      payload := fields.get? "payload" }

/-- Lookups that find nothing, and a queue that takes every message. -/
def quietEnv : MessageEnv where
  ssmCommandsSnsTopicArn := .ok (some "arn:ssm")
  stateChangeNotificationsSnsTopicArn := .ok (some "arn:ec2")
  eventsSqsQueueUrl := some "events.fifo"
  ssmCommands _ := .ok none
  servers _ := .ok none
  currentTimeMs := 0
  send := .sent

/-- A user is disabled. -/
def disabledMessage : SqsMessage := ⟨"m1", "r1", some disabledBody, by decide⟩

/-- A body that ends too early. -/
def malformedMessage : SqsMessage := ⟨"m2", "r2", some "\x7b", by decide⟩

/-- Both arrive, and are received in one batch. -/
def malformedRun : List QueueStep :=
  [.send disabledMessage, .send malformedMessage, .round [(disabledMessage, quietEnv), (malformedMessage, quietEnv)]]

/-- **The message before the malformed one** is handled and stays in the queue. -/
theorem not_roundsMeet_malformedRun :
    ¬ (controllerQueue sampleLibrary).Meets (RoundMeets sampleLibrary) emptyQueue malformedRun := by
  intro h
  have hround := ((h.2 _ rfl).2 _ rfl).1 (by decide)
  have hhandled : (alone sampleLibrary (disabledMessage, quietEnv)).1 = .ok ⟨⟩ := by decide
  refine hround.deleted _ List.mem_cons_self hhandled ?_
  decide

end ContainRes.VirtualDesktop.ControllerQueue
