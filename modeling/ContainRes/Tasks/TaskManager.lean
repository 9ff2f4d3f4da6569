import ContainRes.Tasks.TaskMessage
import ContainRes.Text.Python

/-! # Sending tasks through a queue with deduplication

`TaskManager.send` gives each message a deduplication id; the queue drops a message whose id equals that
of a message accepted in the previous five minutes, and delivers the others in order.

* **`dedupeId`** — the id: the one of the caller, or a hash of the message.
* **`accepted`** — the messages of a timed sequence that the queue delivers. -/

namespace ContainRes.Tasks

open Text

/-- `message_dedupe_id` after `send` has filled it in; `sha256` is the hash of the JSON text of the task
name and the payload. -/
def dedupeId (sha256 : TaskPayload → String) (message : TaskMessage) : String :=
  if isEmptyOpt message.messageDedupeId then sha256 message.payload
  else message.messageDedupeId.getD ""

/-- A message and the time it was sent at, in seconds. -/
structure Sent where
  time : Nat
  message : TaskMessage
  deriving DecidableEq, Repr

/-- The deduplication interval of the queue. -/
def fiveMinutes : Nat := 300

/-- The messages that the queue accepts, and delivers in order, where `recent` are the times and ids of
those accepted before. -/
def acceptedAfter (ident : TaskMessage → String) : List (Nat × String) → List Sent → List Sent
  | _, [] => []
  | recent, s :: rest =>
    if recent.any fun r => r.2 == ident s.message && s.time < r.1 + fiveMinutes then
      acceptedAfter ident recent rest
    else s :: acceptedAfter ident ((s.time, ident s.message) :: recent) rest

theorem acceptedAfter_sublist (ident : TaskMessage → String) (recent : List (Nat × String))
    (messages : List Sent) : (acceptedAfter ident recent messages).Sublist messages := by
  induction messages generalizing recent with
  | nil => exact List.Sublist.refl []
  | cons s rest ih =>
    unfold acceptedAfter
    split
    · exact (ih recent).cons s
    · exact (ih _).cons_cons s

end ContainRes.Tasks
