import ContainRes.Effects.Faults
import ContainRes.Systems.Guarded
import ContainRes.VirtualDesktop.SsmCommands

/-! # What becomes of the status of a command

A submit call sends its command and then records it. SSM tells the status of the command through
notifications, which reach the controller queue at least once each and at any time after the command was
sent. The monitor receives messages in batches, handles them one after the other and deletes the batch
when none raised. The event handlers delete the record of a command whose success was published.

* **`ssm`** — the system of the submit calls, SSM, the controller queue and its monitor.
* **`OutcomesPublished`** — the final status of a command whose submit call has returned is published as the
  event of its call, once its notifications have been processed.
* **`InTime`** — the condition on a step: a final status is handled only when its command is recorded.
* **`SsmInv`** — what a run in time keeps; `outcomesPublished_of_inTime` is the result, and
  `early_outcome_lost` a run in which the notification comes first. -/

namespace ContainRes.VirtualDesktop.Ssm

open Effects Store Systems Text

/-! ## The system -/

/-- How far a submit call has come once its command was sent. -/
inductive Progress
  | sent
  | returned
  | raised
  deriving DecidableEq, Repr

/-- A submit call whose command was sent. -/
structure Submission where
  call : SubmitCall
  request : SendCommandRequest
  progress : Progress
  deriving DecidableEq, Repr

/-- A status that SSM tells of a command. -/
structure SsmNotification where
  commandId : String
  status : String
  deriving DecidableEq, Repr

/-- The statuses after which SSM tells nothing more of a command. -/
def finalStatuses : List String := ["Success", "TimedOut", "Cancelled", "Failed"]

/-- The notification tells the final status. -/
def SsmNotification.IsFinal (n : SsmNotification) : Prop := n.status ∈ finalStatuses

instance (n : SsmNotification) : Decidable n.IsFinal :=
  inferInstanceAs (Decidable (n.status ∈ finalStatuses))

/-- The body that `_handle_ssm_commands` reads. -/
def SsmNotification.body (n : SsmNotification) : StatusMessage := ⟨some n.commandId, some n.status⟩

/-- A message of the controller queue. -/
structure ControllerMessage where
  messageId : ℕ
  notification : SsmNotification
  deriving DecidableEq, Repr

/-- The batch that the monitor is working on: what it received, and what is left to handle. -/
structure Batch where
  received : List ControllerMessage
  remaining : List ControllerMessage
  deriving DecidableEq, Repr

/-- The controller, the commands that were sent, and the controller queue. -/
structure State where
  controller : Controller
  submissions : Table String Submission
  /-- The notifications that SSM has sent. -/
  notified : List SsmNotification
  queue : List ControllerMessage
  nextMessageId : ℕ
  batch : Option Batch

/-- Nothing has been sent. -/
def State.initial : State := ⟨{}, ∅, [], [], 0, none⟩

/-- Another copy of a notification is put in the queue. -/
def State.deliver (s : State) (n : SsmNotification) : State :=
  { s with queue := s.queue ++ [⟨s.nextMessageId, n⟩], nextMessageId := s.nextMessageId + 1 }

/-- The status of a command is settled. -/
def State.Settled (s : State) (commandId : String) : Prop :=
  ∃ n ∈ s.notified, n.commandId = commandId ∧ n.IsFinal

instance (s : State) (commandId : String) : Decidable (s.Settled commandId) :=
  inferInstanceAs (Decidable (∃ n ∈ s.notified, n.commandId = commandId ∧ n.IsFinal))

/-- The events whose handlers delete the record of a command that succeeded. -/
def deletingEvents : List VirtualDesktopEventType :=
  [.ideaSessionResumeSessionCommandProgress, .enableUserdataWindowsCommandProgress,
    .disableUserdataWindowsCommandProgress]

/-- A step. -/
inductive Step
  /-- A submit call has its command sent; SSM answers with the id of the command. -/
  | send (call : SubmitCall) (commandId : String)
  /-- The call records the command, with an outcome of the table write. -/
  | record (commandId : String) (outcome : Outcome)
  /-- SSM tells a status of a command. -/
  | notify (n : SsmNotification)
  /-- A notification is delivered once more. -/
  | redeliver (n : SsmNotification)
  /-- The monitor receives the messages with these ids. -/
  | receive (messageIds : List ℕ)
  /-- The monitor handles the next message of its batch. -/
  | handle
  /-- Something raised: the monitor gives up its batch, and nothing of it is deleted. -/
  | abandon
  /-- The monitor deletes its batch from the queue. -/
  | deleteBatch
  /-- The handler of a published event deletes the record of the command. -/
  | discard (message : QueueMessage)
  deriving DecidableEq, Repr

/-- The submit calls, SSM, the controller queue and its monitor. SSM gives every command an id of its own,
tells no status after the final one, and writes ids and statuses without white space around them. -/
def ssm (settings : SsmSettings) (clock : ℕ → Int) : System State Step where
  init s := s = .initial
  next s
    | .send call commandId =>
      if s.submissions.Has commandId ∨ getAsString (some commandId) ≠ some commandId then none
      else some { s with
        submissions := s.submissions.putItem commandId ⟨call, call.request settings, .sent⟩ }
    | .record commandId outcome =>
      match s.submissions.getItem commandId with
      | some ⟨call, request, .sent⟩ =>
        let written := { s.controller with
          ssmCommands := createCommand s.controller.ssmCommands commandId call.command }
        let progress := if outcome = .done then Progress.returned else Progress.raised
        some { s with
          controller := if outcome = .failed then s.controller else written
          submissions := s.submissions.putItem commandId ⟨call, request, progress⟩ }
      | _ => none
    | .notify n =>
      if s.submissions.Has n.commandId ∧ ¬ s.Settled n.commandId ∧
          getAsString (some n.status) = some n.status then
        some ({ s with notified := s.notified ++ [n] }.deliver n)
      else none
    | .redeliver n => if n ∈ s.notified then some (s.deliver n) else none
    | .receive messageIds =>
      match s.batch with
      | none =>
        let messages := s.queue.filter (·.messageId ∈ messageIds)
        some { s with batch := some ⟨messages, messages⟩ }
      | some _ => none
    | .handle =>
      match s.batch with
      | some ⟨received, m :: remaining⟩ =>
        match (handleSsmCommands clock m.notification.body).run s.controller with
        | (.ok _, controller) => some { s with controller, batch := some ⟨received, remaining⟩ }
        | (.error _, controller) => some { s with controller, batch := none }
      | _ => none
    | .abandon => some { s with batch := none }
    | .deleteBatch =>
      match s.batch with
      | some ⟨received, []⟩ => some { s with queue := s.queue.filter (· ∉ received), batch := none }
      | _ => none
    | .discard message =>
      match message.body.detailString "command_id" with
      | none => none
      | some commandId =>
        if message ∈ s.controller.outbox.messages ∧ message.body.eventType.any (· ∈ deletingEvents) ∧
            message.body.detailString "status" = some "Success" then
          some { s with controller := { s.controller with
            ssmCommands := deleteCommand s.controller.ssmCommands commandId } }
        else none

/-! ## The claim and the condition -/

/-- A notification has been published as the event of a call. -/
def PublishedFor (messages : List QueueMessage) (call : SubmitCall) (n : SsmNotification) : Prop :=
  ∃ message ∈ messages, ∃ timestamp, message.body = call.statusEvent timestamp n.commandId n.status

/-- The final status of every command whose submit call has returned and whose notifications have been
processed is published as the event of the call, and nothing else is published about the command. -/
def OutcomesPublished (s : State) : Prop :=
  ∀ commandId submission, s.submissions.getItem commandId = some submission →
    submission.progress = .returned → (∀ m ∈ s.queue, m.notification.commandId ≠ commandId) →
    (∀ n ∈ s.notified, n.commandId = commandId → n.IsFinal →
      PublishedFor s.controller.outbox.messages submission.call n) ∧
    ∀ message ∈ s.controller.outbox.messages, message.body.detailString "command_id" = some commandId →
      ∃ n ∈ s.notified, n.commandId = commandId ∧
        ∃ timestamp, message.body = submission.call.statusEvent timestamp n.commandId n.status

/-- The condition on a step.

* A call is made with arguments that are neither blank nor surrounded by white space.
* A final status is handled only when its command has been recorded. -/
def InTime (s : State) : Step → Prop
  | .send call _ => call.Plain
  | .handle => ∀ received m remaining, s.batch = some ⟨received, m :: remaining⟩ →
      m.notification.IsFinal → ∀ submission, s.submissions.getItem m.notification.commandId = some submission →
        submission.progress ≠ .sent
  | _ => True

/-! ## The invariant -/

/-- What a run in time keeps. -/
structure SsmInv (s : State) : Prop where
  /-- Ids and arguments have no white space around them. -/
  plain : ∀ commandId submission, s.submissions.getItem commandId = some submission →
    getAsString (some commandId) = some commandId ∧ submission.call.Plain
  /-- A row is the record of a submit call that has come to its write. -/
  rows : ∀ commandId item, s.controller.ssmCommands.getItem commandId = some item →
    ∃ submission, s.submissions.getItem commandId = some submission ∧ submission.progress ≠ .sent ∧
      item = convertDbModelToDbDict submission.call.command
  /-- SSM tells statuses of the commands that were sent. -/
  notified : ∀ n ∈ s.notified, s.submissions.Has n.commandId ∧ getAsString (some n.status) = some n.status
  /-- A command has one final status. -/
  settled : ∀ n ∈ s.notified, ∀ n' ∈ s.notified, n.commandId = n'.commandId → n.IsFinal → n'.IsFinal → n = n'
  /-- What is in the queue was told. -/
  queued : ∀ m ∈ s.queue, m.notification ∈ s.notified
  /-- What the monitor works on was told. -/
  received : ∀ batch, s.batch = some batch → ∀ m ∈ batch.received, m.notification ∈ s.notified
  /-- What is published is the event of a call. -/
  published : ∀ message ∈ s.controller.outbox.messages, ∃ n ∈ s.notified, ∃ submission timestamp,
    s.submissions.getItem n.commandId = some submission ∧
      message.body = submission.call.statusEvent timestamp n.commandId n.status
  /-- A recorded command keeps its row until its final status is published. -/
  kept : ∀ commandId submission, s.submissions.getItem commandId = some submission →
    submission.progress = .returned → s.controller.ssmCommands.Has commandId ∨
      ∃ n ∈ s.notified, n.commandId = commandId ∧ n.IsFinal ∧
        PublishedFor s.controller.outbox.messages submission.call n
  /-- A final status is in the queue until it is published. -/
  delivered : ∀ n ∈ s.notified, n.IsFinal → ∀ submission,
    s.submissions.getItem n.commandId = some submission → submission.progress ≠ .raised →
      (∃ m ∈ s.queue, m.notification = n) ∨ PublishedFor s.controller.outbox.messages submission.call n
  /-- The final statuses that the monitor has handled in its batch are published. -/
  handled : ∀ batch, s.batch = some batch → ∃ done, batch.received = done ++ batch.remaining ∧
    ∀ m ∈ done, m.notification.IsFinal → ∀ submission,
      s.submissions.getItem m.notification.commandId = some submission → submission.progress ≠ .raised →
        PublishedFor s.controller.outbox.messages submission.call m.notification

theorem ssmInv_initial : SsmInv .initial where
  plain _ _ h := absurd h (by simp [State.initial])
  rows _ _ h := absurd h (by simp [State.initial])
  notified _ h := absurd h List.not_mem_nil
  settled _ h := absurd h List.not_mem_nil
  queued _ h := absurd h List.not_mem_nil
  received _ h := by cases h
  published _ h := absurd h List.not_mem_nil
  kept _ _ h := absurd h (by simp [State.initial])
  delivered _ h := absurd h List.not_mem_nil
  handled _ h := by cases h

variable {n : SsmNotification} {call : SubmitCall}

theorem PublishedFor.append {messages : List QueueMessage}
    (h : PublishedFor messages call n) (more : List QueueMessage) : PublishedFor (messages ++ more) call n := by
  obtain ⟨message, hmem, hbody⟩ := h
  exact ⟨message, List.mem_append_left _ hmem, hbody⟩

/-- The submit calls go on: none is forgotten, and one that has come to its write does not change. -/
def Advances (old new : Table String Submission) : Prop :=
  ∀ commandId submission, old.getItem commandId = some submission → ∃ submission',
    new.getItem commandId = some submission' ∧ submission'.call = submission.call ∧
      (submission.progress ≠ .sent → submission' = submission) ∧
      (submission'.progress ≠ .raised → submission.progress ≠ .raised)

section

variable {s : State} {settings : SsmSettings} {clock : ℕ → Int}

/-- The submission of a notification before the submit calls went on. -/
theorem SsmInv.before (h : SsmInv s) {new : Table String Submission} (hnew : Advances s.submissions new)
    (hn : n ∈ s.notified) {submission' : Submission} (hget : new.getItem n.commandId = some submission') : ∃ submission,
      s.submissions.getItem n.commandId = some submission ∧ submission'.call = submission.call ∧
        (submission'.progress ≠ .raised → submission.progress ≠ .raised) := by
  obtain ⟨submission, hold⟩ := Table.has_iff.mp (h.notified n hn).1
  obtain ⟨submission'', hget'', hcall, -, hraised⟩ := hnew _ _ hold
  obtain rfl : submission'' = submission' := Option.some.inj (hget''.symm.trans hget)
  exact ⟨submission, hold, hcall, hraised⟩

/-- **The submit calls go on.** What concerns the notifications is kept. -/
theorem SsmInv.advance (h : SsmInv s) {new : Table String Submission} (hnew : Advances s.submissions new)
    {ssmCommands : Table String SsmCommandItem}
    (hplain : ∀ commandId submission, new.getItem commandId = some submission →
      getAsString (some commandId) = some commandId ∧ submission.call.Plain)
    (hrows : ∀ commandId item, ssmCommands.getItem commandId = some item →
      ∃ submission, new.getItem commandId = some submission ∧ submission.progress ≠ .sent ∧
        item = convertDbModelToDbDict submission.call.command)
    (hkept : ∀ commandId submission, new.getItem commandId = some submission →
      submission.progress = .returned → ssmCommands.Has commandId ∨
        ∃ n ∈ s.notified, n.commandId = commandId ∧ n.IsFinal ∧
          PublishedFor s.controller.outbox.messages submission.call n) :
    SsmInv { s with controller := { s.controller with ssmCommands }, submissions := new } where
  plain := hplain
  rows := hrows
  kept := hkept
  settled := h.settled
  queued := h.queued
  received := h.received
  notified n hn := by
    obtain ⟨submission, hold⟩ := Table.has_iff.mp (h.notified n hn).1
    obtain ⟨submission', hget, -⟩ := hnew _ _ hold
    exact ⟨.of_getItem hget, (h.notified n hn).2⟩
  published message hmem := by
    obtain ⟨n, hn, submission, timestamp, hold, hbody⟩ := h.published message hmem
    obtain ⟨submission', hget, hcall, -⟩ := hnew _ _ hold
    exact ⟨n, hn, submission', timestamp, hget, by rw [hcall, hbody]⟩
  delivered n hn hfinal submission' hget hprogress := by
    obtain ⟨submission, hold, hcall, hraised⟩ := h.before hnew hn hget
    rw [hcall]
    exact h.delivered n hn hfinal submission hold (hraised hprogress)
  handled batch hbatch := by
    obtain ⟨done, hdone, hall⟩ := h.handled batch hbatch
    refine ⟨done, hdone, fun m hm hfinal submission' hget hprogress => ?_⟩
    have hn := h.received batch hbatch m (by rw [hdone]; exact List.mem_append_left _ hm)
    obtain ⟨submission, hold, hcall, hraised⟩ := h.before hnew hn hget
    rw [hcall]
    exact hall m hm hfinal submission hold (hraised hprogress)

/-! ### One lemma for each step -/

variable {commandId : String}

theorem SsmInv.send (h : SsmInv s) {request : SendCommandRequest}
    (hplain : call.Plain) (hfresh : ¬ s.submissions.Has commandId)
    (hid : getAsString (some commandId) = some commandId) :
    SsmInv { s with submissions := s.submissions.putItem commandId ⟨call, request, .sent⟩ } := by
  have hother : ∀ {id : String}, s.submissions.Has id →
      (s.submissions.putItem commandId ⟨call, request, .sent⟩).getItem id = s.submissions.getItem id := by
    intro id hhas
    apply Table.getItem_putItem_of_ne
    rintro rfl
    exact hfresh hhas
  refine h.advance ?_ ?_ ?_ ?_
  · intro id submission hget
    exact ⟨submission, (hother (.of_getItem hget)).trans hget, rfl, fun _ => rfl, fun hr => hr⟩
  · intro id submission hget
    rw [Table.getItem_putItem] at hget
    split at hget
    · next heq =>
        rw [heq, ← Option.some.inj hget]
        exact ⟨hid, hplain⟩
    · exact h.plain id submission hget
  · intro id item hitem
    obtain ⟨submission, hget, hrest⟩ := h.rows id item hitem
    exact ⟨submission, (hother (.of_getItem hget)).trans hget, hrest⟩
  · intro id submission hget hreturned
    rw [Table.getItem_putItem] at hget
    split at hget
    · rw [← Option.some.inj hget] at hreturned
      cases hreturned
    · exact h.kept id submission hget hreturned

/-- The write of a record, with any outcome. -/
theorem SsmInv.record (h : SsmInv s) {request : SendCommandRequest}
    (hsent : s.submissions.getItem commandId = some ⟨call, request, .sent⟩)
    {ssmCommands : Table String SsmCommandItem} (progress : Progress) (hcome : progress ≠ .sent)
    (htable : ssmCommands = createCommand s.controller.ssmCommands commandId call.command ∨
      ssmCommands = s.controller.ssmCommands ∧ progress = .raised) :
    SsmInv { s with
      controller := { s.controller with ssmCommands }
      submissions := s.submissions.putItem commandId ⟨call, request, progress⟩ } := by
  refine h.advance ?_ ?_ ?_ ?_
  · intro id submission hget
    by_cases heq : id = commandId
    · subst heq
      obtain rfl : submission = ⟨call, request, .sent⟩ := Option.some.inj (hget.symm.trans hsent)
      exact ⟨_, Table.getItem_putItem_self _ _ _, rfl, fun hne => absurd rfl hne, fun _ hraised => by cases hraised⟩
    · exact ⟨submission, by rw [Table.getItem_putItem_of_ne _ _ heq, hget], rfl, fun _ => rfl, fun hr => hr⟩
  · intro id submission hget
    rw [Table.getItem_putItem] at hget
    split at hget
    · next heq =>
        obtain ⟨hid, hplain⟩ := h.plain commandId _ hsent
        rw [heq, ← Option.some.inj hget]
        exact ⟨hid, hplain⟩
    · exact h.plain id submission hget
  · intro id item hitem
    by_cases heq : id = commandId
    · subst heq
      refine ⟨_, Table.getItem_putItem_self _ _ _, hcome, ?_⟩
      rcases htable with rfl | ⟨rfl, -⟩
      · rw [createCommand, Table.getItem_putItem_self] at hitem
        exact (Option.some.inj hitem).symm
      · -- a command that is not recorded yet has no row
        obtain ⟨submission, hget, hprogress, -⟩ := h.rows id item hitem
        rw [← Option.some.inj (hsent.symm.trans hget)] at hprogress
        exact absurd rfl hprogress
    · have hitem' : s.controller.ssmCommands.getItem id = some item := by
        rcases htable with rfl | ⟨rfl, -⟩
        · rwa [createCommand, Table.getItem_putItem_of_ne _ _ heq] at hitem
        · exact hitem
      obtain ⟨submission, hget, hrest⟩ := h.rows id item hitem'
      exact ⟨submission, by rw [Table.getItem_putItem_of_ne _ _ heq, hget], hrest⟩
  · intro id submission hget hreturned
    rw [Table.getItem_putItem] at hget
    split at hget
    · next heq =>
        rw [← Option.some.inj hget] at hreturned
        rcases htable with rfl | ⟨-, hraised⟩
        · rw [heq]
          exact .inl (.of_getItem (Table.getItem_putItem_self _ _ _))
        · rw [hraised] at hreturned
          cases hreturned
    · rcases h.kept id submission hget hreturned with hrow | hpublished
      · rcases htable with rfl | ⟨rfl, -⟩
        · exact .inl (Table.has_putItem.mpr (.inr hrow))
        · exact .inl hrow
      · exact .inr hpublished

/-- One more copy of what was told. -/
theorem SsmInv.deliver (h : SsmInv s) (hn : n ∈ s.notified) : SsmInv (s.deliver n) where
  plain := h.plain
  rows := h.rows
  notified := h.notified
  settled := h.settled
  received := h.received
  published := h.published
  kept := h.kept
  handled := h.handled
  queued m hm := by
    rcases List.mem_append.mp hm with hm | hm
    · exact h.queued m hm
    · rw [List.mem_singleton.mp hm]
      exact hn
  delivered n' hn' hfinal submission hget hprogress := by
    rcases h.delivered n' hn' hfinal submission hget hprogress with ⟨m, hm, heq⟩ | hpublished
    · exact .inl ⟨m, List.mem_append_left _ hm, heq⟩
    · exact .inr hpublished

/-- SSM tells a status of a command whose status is not settled. -/
theorem SsmInv.notify (h : SsmInv s) (hhas : s.submissions.Has n.commandId)
    (hopen : ¬ s.Settled n.commandId) (hstatus : getAsString (some n.status) = some n.status) :
    SsmInv ({ s with notified := s.notified ++ [n] }.deliver n) := by
  have hold : ∀ {n'}, n' ∈ s.notified → n' ∈ s.notified ++ [n] := List.mem_append_left _
  have hnew : n ∈ s.notified ++ [n] := List.mem_append_right _ List.mem_cons_self
  have hmem : ∀ {n'}, n' ∈ s.notified ++ [n] → n' ∈ s.notified ∨ n' = n := by simp
  constructor
  case plain => exact h.plain
  case rows => exact h.rows
  case received => exact fun batch hbatch m hm => hold (h.received batch hbatch m hm)
  case handled => exact h.handled
  case notified =>
    intro n' hn'
    rcases hmem hn' with hn' | rfl
    · exact h.notified n' hn'
    · exact ⟨hhas, hstatus⟩
  case settled =>
    -- no final status was told before the new one
    have hsettles : ∀ n' ∈ s.notified, n'.commandId = n.commandId → ¬ n'.IsFinal :=
      fun n' hn' heq hfinal => hopen ⟨n', hn', heq, hfinal⟩
    intro n₁ hn₁ n₂ hn₂ heq hfinal₁ hfinal₂
    rcases hmem hn₁ with hold₁ | hnew₁ <;> rcases hmem hn₂ with hold₂ | hnew₂
    · exact h.settled n₁ hold₁ n₂ hold₂ heq hfinal₁ hfinal₂
    · exact absurd hfinal₁ (hsettles n₁ hold₁ (heq.trans (congrArg _ hnew₂)))
    · exact absurd hfinal₂ (hsettles n₂ hold₂ (heq.symm.trans (congrArg _ hnew₁)))
    · exact hnew₁.trans hnew₂.symm
  case queued =>
    intro m hm
    rcases List.mem_append.mp hm with hm | hm
    · exact hold (h.queued m hm)
    · rw [List.mem_singleton.mp hm]
      exact hnew
  case published =>
    intro message hmessage
    obtain ⟨n', hn', hrest⟩ := h.published message hmessage
    exact ⟨n', hold hn', hrest⟩
  case kept =>
    intro commandId submission hget hreturned
    rcases h.kept commandId submission hget hreturned with hrow | ⟨n', hn', hrest⟩
    · exact .inl hrow
    · exact .inr ⟨n', hold hn', hrest⟩
  case delivered =>
    intro n' hn' hfinal submission hget hprogress
    rcases hmem hn' with hn' | rfl
    · rcases h.delivered n' hn' hfinal submission hget hprogress with ⟨m, hm, heq⟩ | hpublished
      · exact .inl ⟨m, List.mem_append_left _ hm, heq⟩
      · exact .inr hpublished
    · exact .inl ⟨_, List.mem_append_right _ List.mem_cons_self, rfl⟩

/-- The monitor takes up messages of the queue, or none. -/
theorem SsmInv.setBatch (h : SsmInv s) {batch : Option Batch}
    (hbatch : ∀ b, batch = some b → b.remaining = b.received ∧ ∀ m ∈ b.received, m ∈ s.queue) :
    SsmInv { s with batch } where
  plain := h.plain
  rows := h.rows
  notified := h.notified
  settled := h.settled
  queued := h.queued
  published := h.published
  kept := h.kept
  delivered := h.delivered
  received b hb m hm := h.queued m ((hbatch b hb).2 m hm)
  handled b hb := ⟨[], (hbatch b hb).1.symm, fun _ hm => absurd hm List.not_mem_nil⟩

/-- A notification whose final status has been told and whose command is recorded is published, or will be
when it is handled: without a row it has been. -/
theorem SsmInv.published_of_none (h : SsmInv s) (hn : n ∈ s.notified) (hfinal : n.IsFinal)
    {submission : Submission} (hget : s.submissions.getItem n.commandId = some submission)
    (hreturned : submission.progress = .returned) (hrow : s.controller.ssmCommands.getItem n.commandId = none) :
    PublishedFor s.controller.outbox.messages submission.call n := by
  rcases h.kept _ _ hget hreturned with hhas | ⟨n', hn', heq, hfinal', hpublished⟩
  · exact absurd hhas (Table.not_has_iff.mpr hrow)
  · obtain rfl := h.settled n hn n' hn' heq.symm hfinal hfinal'
    exact hpublished

/-- The monitor has handled the next message of its batch, and published it if it had to. -/
theorem SsmInv.handled_cons (h : SsmInv s) {received remaining : List ControllerMessage} {m : ControllerMessage}
    (hbatch : s.batch = some ⟨received, m :: remaining⟩) (more : List QueueMessage) (clockReads : ℕ)
    (hmore : ∀ message ∈ more, ∃ submission timestamp,
      s.submissions.getItem m.notification.commandId = some submission ∧ message.body =
        submission.call.statusEvent timestamp m.notification.commandId m.notification.status)
    (hnext : m.notification.IsFinal → ∀ submission,
      s.submissions.getItem m.notification.commandId = some submission → submission.progress ≠ .raised →
        PublishedFor (s.controller.outbox.messages ++ more) submission.call m.notification) :
    SsmInv { s with
      controller := { s.controller with outbox := ⟨clockReads, s.controller.outbox.messages ++ more⟩ }
      batch := some ⟨received, remaining⟩ } := by
  obtain ⟨done, hdone, hall⟩ := h.handled _ hbatch
  have hreceived := h.received _ hbatch
  have hm : m.notification ∈ s.notified := hreceived m (by rw [hdone]; exact List.mem_append_right _ List.mem_cons_self)
  constructor
  case plain => exact h.plain
  case rows => exact h.rows
  case notified => exact h.notified
  case settled => exact h.settled
  case queued => exact h.queued
  case received =>
    intro b hb
    rw [← Option.some.inj hb]
    exact hreceived
  case published =>
    intro message hmessage
    rcases List.mem_append.mp hmessage with hmessage | hmessage
    · exact h.published message hmessage
    · exact ⟨m.notification, hm, hmore message hmessage⟩
  case kept =>
    intro commandId submission hget hreturned
    rcases h.kept commandId submission hget hreturned with hrow | ⟨n, hn, heq, hfinal, hpublished⟩
    · exact .inl hrow
    · exact .inr ⟨n, hn, heq, hfinal, hpublished.append more⟩
  case delivered =>
    intro n hn hfinal submission hget hprogress
    rcases h.delivered n hn hfinal submission hget hprogress with hqueued | hpublished
    · exact .inl hqueued
    · exact .inr (hpublished.append more)
  case handled =>
    intro b hb
    rw [← Option.some.inj hb]
    refine ⟨done ++ [m], ?_, fun m' hm' hfinal submission hget hprogress => ?_⟩
    · rw [List.append_assoc, List.singleton_append]
      exact hdone
    · rcases List.mem_append.mp hm' with hm' | hm'
      · exact (hall m' hm' hfinal submission hget hprogress).append more
      · obtain rfl := List.mem_singleton.mp hm'
        exact hnext hfinal submission hget hprogress

variable (clock) in
/-- The monitor handles a message in time. -/
theorem SsmInv.handle (h : SsmInv s) {received remaining : List ControllerMessage} {m : ControllerMessage}
    (hbatch : s.batch = some ⟨received, m :: remaining⟩) (htime : InTime s .handle) :
    ∃ controller, (handleSsmCommands clock m.notification.body).run s.controller = (.ok ⟨⟩, controller) ∧
      SsmInv { s with controller, batch := some ⟨received, remaining⟩ } := by
  obtain ⟨done, hdone, -⟩ := h.handled _ hbatch
  have hm : m.notification ∈ s.notified :=
    h.received _ hbatch m (by rw [hdone]; exact List.mem_append_right _ List.mem_cons_self)
  obtain ⟨hhas, hstatus⟩ := h.notified _ hm
  obtain ⟨submission, hget⟩ := Table.has_iff.mp hhas
  obtain ⟨hid, hplain⟩ := h.plain _ _ hget
  cases hrow : s.controller.ssmCommands.getItem m.notification.commandId with
  | none =>
    -- the notification is dropped
    refine ⟨s.controller, run_handleSsmCommands_of_none hid clock _ hrow, ?_⟩
    have hkeep := h.handled_cons hbatch [] s.controller.outbox.clockReads
      (fun _ hmem => absurd hmem List.not_mem_nil) ?_
    · rwa [List.append_nil] at hkeep
    · intro hfinal submission' hget' hraised
      obtain rfl : submission' = submission := Option.some.inj (hget'.symm.trans hget)
      have hsent := htime received m remaining hbatch hfinal submission' hget
      rw [List.append_nil]
      refine h.published_of_none hm hfinal hget ?_ hrow
      cases hprogress : submission'.progress with
      | sent => exact absurd hprogress hsent
      | raised => exact absurd hprogress hraised
      | returned => rfl
  | some item =>
    obtain ⟨submission', hget', -, hitem⟩ := h.rows _ _ hrow
    obtain rfl : submission' = submission := Option.some.inj (hget'.symm.trans hget)
    rw [hitem] at hrow
    refine ⟨_, run_handleSsmCommands_of_row hid clock _ hstatus hrow, ?_⟩
    rw [statusEvent_command hplain]
    refine h.handled_cons hbatch _ _ ?_ ?_
    · intro message hmessage
      rw [List.mem_singleton.mp hmessage]
      exact ⟨submission', _, hget, rfl⟩
    · intro hfinal submission'' hget'' hraised
      obtain rfl : submission'' = submission' := Option.some.inj (hget''.symm.trans hget)
      exact ⟨_, List.mem_append_right _ List.mem_cons_self, _, rfl⟩

/-- The record of a command that succeeded is deleted. -/
theorem SsmInv.discard (h : SsmInv s) {message : QueueMessage}
    (hid : message.body.detailString "command_id" = some commandId) (hmem : message ∈ s.controller.outbox.messages)
    (hstatus : message.body.detailString "status" = some "Success") :
    SsmInv { s with controller := { s.controller with
      ssmCommands := deleteCommand s.controller.ssmCommands commandId } } where
  plain := h.plain
  notified := h.notified
  settled := h.settled
  queued := h.queued
  received := h.received
  published := h.published
  delivered := h.delivered
  handled := h.handled
  rows id item hitem := by
    rw [deleteCommand, Table.getItem_deleteItem] at hitem
    split at hitem
    · cases hitem
    · exact h.rows id item hitem
  kept id submission hget hreturned := by
    by_cases heq : id = commandId
    · obtain ⟨n, hn, submission', timestamp, hget', hbody⟩ := h.published message hmem
      obtain ⟨hcommand, hsuccess⟩ := submission'.call.detailString_statusEvent timestamp n.commandId n.status
      rw [← hbody, (h.plain _ _ hget').1, hid] at hcommand
      rw [← hbody, (h.notified n hn).2, hstatus] at hsuccess
      obtain rfl : commandId = n.commandId := Option.some.inj hcommand
      subst heq
      obtain rfl : submission' = submission := Option.some.inj (hget'.symm.trans hget)
      refine .inr ⟨n, hn, rfl, ?_, message, hmem, timestamp, hbody⟩
      show n.status ∈ finalStatuses
      rw [← Option.some.inj hsuccess]
      decide
    · rcases h.kept id submission hget hreturned with hrow | hpublished
      · exact .inl (Table.has_deleteItem.mpr ⟨heq, hrow⟩)
      · exact .inr hpublished

/-- A batch that has been handled to its end is deleted. -/
theorem SsmInv.deleteBatch (h : SsmInv s) {received : List ControllerMessage} (hbatch : s.batch = some ⟨received, []⟩) :
    SsmInv { s with queue := s.queue.filter (· ∉ received), batch := none } where
  plain := h.plain
  rows := h.rows
  notified := h.notified
  settled := h.settled
  published := h.published
  kept := h.kept
  received _ hb := by cases hb
  handled _ hb := by cases hb
  queued m hm := h.queued m (List.mem_of_mem_filter hm)
  delivered n hn hfinal submission hget hprogress := by
    rcases h.delivered n hn hfinal submission hget hprogress with ⟨m, hm, rfl⟩ | hpublished
    · by_cases hreceived : m ∈ received
      · obtain ⟨done, hdone, hall⟩ := h.handled _ hbatch
        rw [List.append_nil] at hdone
        exact .inr (hall m (hdone ▸ hreceived) hfinal submission hget hprogress)
      · exact .inl ⟨m, List.mem_filter.mpr ⟨hm, by simpa using hreceived⟩, rfl⟩
    · exact .inr hpublished

/-! ### The step and the run -/

/-- **One step in time.** -/
theorem SsmInv.next (h : SsmInv s) {step : Step} {t : State} (htime : InTime s step)
    (hnext : (ssm settings clock).next s step = some t) : SsmInv t := by
  cases step with
  | send call commandId =>
    simp only [ssm] at hnext
    split at hnext
    · cases hnext
    · next hfresh =>
        rw [not_or, not_not] at hfresh
        rw [← Option.some.inj hnext]
        exact h.send htime hfresh.1 hfresh.2
  | record commandId outcome =>
    simp only [ssm] at hnext
    split at hnext
    · next call request hsent =>
        rw [← Option.some.inj hnext]
        cases outcome with
        | done => exact h.record hsent .returned (by decide) (.inl rfl)
        | failed => exact h.record hsent .raised (by decide) (.inr ⟨rfl, rfl⟩)
        | lost => exact h.record hsent .raised (by decide) (.inl rfl)
    · cases hnext
  | notify n =>
    simp only [ssm] at hnext
    split at hnext
    · next htold =>
        rw [← Option.some.inj hnext]
        exact h.notify htold.1 htold.2.1 htold.2.2
    · cases hnext
  | redeliver n =>
    simp only [ssm] at hnext
    split at hnext
    · next htold =>
        rw [← Option.some.inj hnext]
        exact h.deliver htold
    · cases hnext
  | receive messageIds =>
    simp only [ssm] at hnext
    split at hnext
    · rw [← Option.some.inj hnext]
      refine h.setBatch fun b hb => ?_
      rw [← Option.some.inj hb]
      exact ⟨rfl, fun m hm => List.mem_of_mem_filter hm⟩
    · cases hnext
  | handle =>
    simp only [ssm] at hnext
    split at hnext
    · next received m remaining hbatch =>
        obtain ⟨controller, hrun, hkeep⟩ := h.handle clock hbatch htime
        rw [hrun] at hnext
        rw [← Option.some.inj hnext]
        exact hkeep
    · cases hnext
  | abandon =>
    simp only [ssm] at hnext
    rw [← Option.some.inj hnext]
    exact h.setBatch fun _ hb => by cases hb
  | deleteBatch =>
    simp only [ssm] at hnext
    split at hnext
    · next received hbatch =>
        rw [← Option.some.inj hnext]
        exact h.deleteBatch hbatch
    · cases hnext
  | discard message =>
    simp only [ssm] at hnext
    split at hnext
    · cases hnext
    · next commandId hid =>
        split at hnext
        · next hcheck =>
            rw [← Option.some.inj hnext]
            exact h.discard hid hcheck.1 hcheck.2.2
        · cases hnext

/-- The invariant gives the claim. -/
theorem SsmInv.outcomesPublished (h : SsmInv s) : OutcomesPublished s := by
  intro commandId submission hget hreturned hprocessed
  have hnotRaised : submission.progress ≠ .raised := by
    rw [hreturned]
    decide
  constructor
  · rintro n hn rfl hfinal
    rcases h.delivered n hn hfinal submission hget hnotRaised with ⟨m, hm, heq⟩ | hpublished
    · exact absurd (congrArg SsmNotification.commandId heq) (hprocessed m hm)
    · exact hpublished
  · intro message hmessage hid
    obtain ⟨n, hn, submission', timestamp, hget', hbody⟩ := h.published message hmessage
    have hcommand := (submission'.call.detailString_statusEvent timestamp n.commandId n.status).1
    rw [← hbody, (h.plain _ _ hget').1, hid] at hcommand
    obtain rfl := Option.some.inj hcommand
    obtain rfl : submission' = submission := Option.some.inj (hget'.symm.trans hget)
    exact ⟨n, hn, rfl, timestamp, hbody⟩

/-- **No outcome is lost in time.** In every run in which final statuses are handled only after their
commands are recorded, the final status of every command is published as the event of its call. -/
theorem outcomesPublished_of_inTime (settings : SsmSettings) (clock : ℕ → Int) {s : State}
    (h : (ssm settings clock).Reach InTime s) : OutcomesPublished s := by
  have hinv : SsmInv s := h.invariant
    (fun s hs => by rw [show s = State.initial from hs]; exact ssmInv_initial)
    fun _ _ _ hs htime hnext => hs.next htime hnext
  exact hinv.outcomesPublished

end

/-! ## A command that is faster than its record -/

/-- The settings of a cluster. -/
def sampleSettings : SsmSettings :=
  ⟨"res", "vdc", "arn:role/pass", "arn:sns/ssm-commands", "res-bucket"⟩

/-- A session of clara is to be resumed. -/
def resumeCall : SubmitCall :=
  .resumeSession "i-1" "session-1" "clara" ["dcv create-session"] "AWS-RunShellScript"

/-- The command is done. -/
def success : SsmNotification := ⟨"cmd-1", "Success"⟩

/-- The monitor handles the only message of the queue. -/
def processed : List Step := [.receive [0], .handle, .deleteBatch]

/-- The command is recorded before its notification is handled. -/
def recordedFirst : List Step :=
  [.send resumeCall "cmd-1", .record "cmd-1" .done, .notify success] ++ processed

/-- The notification is handled before the command is recorded. -/
def handledFirst : List Step :=
  [.send resumeCall "cmd-1", .notify success] ++ processed ++ [.record "cmd-1" .done]

/-- The submission of the call when it has returned. -/
def returnedCall : Submission := ⟨resumeCall, resumeCall.request sampleSettings, .returned⟩

/-- What both runs end in, apart from what was published and the next message. -/
def ended (messages : List QueueMessage) : State where
  controller :=
    { ssmCommands := (∅ : Table _ _).putItem "cmd-1" (convertDbModelToDbDict resumeCall.command)
      outbox := ⟨messages.length, messages⟩ }
  submissions := (∅ : Table _ _).putItem "cmd-1" returnedCall
  notified := [success]
  queue := []
  nextMessageId := 1
  batch := none

/-- The run in which the record comes first ends with the success published. -/
theorem outcomesPublished_recordedFirst :
    OutcomesPublished (ended [⟨"session-1", resumeCall.statusEvent 7 "cmd-1" "Success"⟩]) := by
  have hexec : (ssm sampleSettings fun _ => 7).exec .initial recordedFirst =
      some (ended [⟨"session-1", resumeCall.statusEvent 7 "cmd-1" "Success"⟩]) := by
    with_unfolding_all rfl
  have hinit : (ssm sampleSettings fun _ => 7).Reach InTime .initial := System.Reach.init rfl
  refine outcomesPublished_of_inTime sampleSettings (fun _ => 7) (hinit.of_exec ?_ hexec)
  have hplain : resumeCall.Plain := by decide
  refine ⟨hplain, fun t ht => ?_⟩
  cases ht
  refine ⟨trivial, fun t ht => ?_⟩
  cases ht
  refine ⟨trivial, fun t ht => ?_⟩
  cases ht
  refine ⟨trivial, fun t ht => ?_⟩
  cases ht
  refine ⟨?_, fun t ht => ?_⟩
  · rintro received m remaining hbatch - submission hget
    cases hbatch
    cases hget
    decide
  · cases ht
    exact ⟨trivial, fun _ _ => trivial⟩

/-- **A lost outcome.** The notification of a fast command is handled before its record is written: nothing
is ever published about it. -/
theorem early_outcome_lost : ¬ ∀ s, (ssm sampleSettings fun _ => 7).Reachable s → OutcomesPublished s := by
  intro hall
  have hexec : (ssm sampleSettings fun _ => 7).exec .initial handledFirst = some (ended []) := rfl
  have hinit : (ssm sampleSettings fun _ => 7).Reachable .initial := System.Reach.init rfl
  have hlost := hall _ (hinit.of_exec hexec)
  have hget : (ended []).submissions.getItem "cmd-1" = some returnedCall := by decide
  obtain ⟨hpublished, -⟩ := hlost "cmd-1" returnedCall hget rfl (by simp [ended])
  obtain ⟨message, hmem, -⟩ := hpublished success (by simp [ended]) rfl (by decide)
  exact absurd hmem List.not_mem_nil

end ContainRes.VirtualDesktop.Ssm
