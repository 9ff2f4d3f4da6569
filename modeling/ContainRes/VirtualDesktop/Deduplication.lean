import ContainRes.Store.DedupQueue
import ContainRes.VirtualDesktop.Events
import ContainRes.VirtualDesktop.Model

/-! # Lifecycle events and the deduplication of the events queue

The events queue drops a message whose body equals that of a message of the same group accepted in the
last five minutes. The validation of a deletion and the two scheduled events have no time in their body,
so the second one of a kind for a session is dropped when it comes too soon, although the first one was
handled long ago.

* **`Step`**, **`step`** — calls to stop, resume and terminate one session, the publishers of the
  scheduled events, the passing of time, the handling of messages and what other handlers do.
* **`Delivered`** — a step that publishes one of the three events leaves it waiting, and a session put in
  `STOPPING` or `DELETING` has its deletion validation waiting.
* **`delivered_iff_spaced`** — a step delivers exactly when the event was not accepted in the last five
  minutes; **`run_delivered_iff`** for runs.
* **`second_stop_unvalidated`** — a session stopped, resumed and stopped again within five minutes stays
  in `STOPPING` without a validation. -/

namespace ContainRes.VirtualDesktop.Deduplication

open Store Text

/-- The deduplication interval of the queue, in seconds. -/
def deduplicationInterval : Nat := 300

/-- One session: the time, the messages of its group, and its row while there is one. -/
structure State where
  now : Nat := 0
  queue : DedupQueue VirtualDesktopEvent := {}
  session : Option SessionStatus := none

/-- What happens around one session. -/
inductive Step
  /-- Time passes. -/
  | wait (seconds : Nat)
  /-- `stop_sessions`; `deleted` is whether the broker deletes the DCV session. -/
  | stopSession (deleted : Bool)
  /-- `resume_sessions`; `started` is whether the host starts. -/
  | resumeSession (started : Bool)
  /-- `terminate_sessions`. -/
  | terminateSession (deleted : Bool)
  /-- The schedule asks to stop the session. -/
  | publishScheduledStop
  /-- The schedule asks to resume the session. -/
  | publishScheduledResume
  /-- Any other event of the group is published. -/
  | publishOther (event : VirtualDesktopEvent)
  /-- A waiting message is handled. -/
  | handle (event : VirtualDesktopEvent)
  /-- Another handler writes the row, or removes it. -/
  | rewrite (session : Option SessionStatus)

variable (ideaSessionId owner : String)

/-- The deletion validation of the session. -/
def deletionEvent : VirtualDesktopEvent :=
  validateDcvSessionDeletionEvent (some ideaSessionId) (some owner)

/-- `publish_event` to the queue. -/
def State.publish (s : State) (event : VirtualDesktopEvent) : State :=
  { s with queue := s.queue.send deduplicationInterval s.now event }

/-- `stop_sessions` on the session: only a `READY` one whose DCV session the broker deletes. -/
def stops (deleted : Bool) (s : State) : Option SessionStatus :=
  s.session.bind fun status =>
    if status.state = .ready ∧ deleted = true then some (status.withState .stopping (by decide)) else none

/-- `terminate_sessions` on the session, in the case that it has a DCV session to delete. -/
def terminates (deleted : Bool) (s : State) : Option SessionStatus :=
  s.session.bind fun status =>
    if isEmptyOpt status.dcvSessionId = false ∧ status.state ≠ .stopped ∧ deleted = true then
      some (status.withState .deleting (by decide))
    else none

/-- `terminate_sessions` on a session that is stopped or has no DCV session: its row is removed. -/
def removes (s : State) : Bool :=
  s.session.any fun status => isEmptyOpt status.dcvSessionId || status.state == .stopped

/-- `resume_sessions` on the session: only a `STOPPED` one whose host starts. -/
def resumes (started : Bool) (s : State) : Option SessionStatus :=
  s.session.bind fun status =>
    if status.state = .stopped ∧ started = true then some (status.withState .resuming (by decide))
    else none

/-- The status that a call puts the session in, if it puts it in `STOPPING` or `DELETING`. -/
def puts (st : Step) (s : State) : Option SessionStatus :=
  match st with
  | .stopSession deleted => stops deleted s
  | .terminateSession deleted => terminates deleted s
  | _ => none

/-- The event among the three without a time that a step publishes. -/
def published (st : Step) (s : State) : Option VirtualDesktopEvent :=
  match st with
  | .publishScheduledStop => some (ideaSessionScheduledStopEvent (some ideaSessionId) (some owner))
  | .publishScheduledResume => some (ideaSessionScheduledResumeEvent (some ideaSessionId) (some owner))
  | st => (puts st s).map fun _ => deletionEvent ideaSessionId owner

/-- One step. -/
def step (st : Step) (s : State) : State :=
  match st with
  | .wait seconds => { s with now := s.now + seconds }
  | .stopSession deleted =>
    match stops deleted s with
    | some status => { s with session := some status }.publish (deletionEvent ideaSessionId owner)
    | none => s
  | .resumeSession started =>
    match resumes started s with
    | some status => { s with session := some status }
    | none => s
  | .terminateSession deleted =>
    match terminates deleted s with
    | some status => { s with session := some status }.publish (deletionEvent ideaSessionId owner)
    | none => if removes s then { s with session := none } else s
  | .publishScheduledStop => s.publish (ideaSessionScheduledStopEvent (some ideaSessionId) (some owner))
  | .publishScheduledResume =>
    s.publish (ideaSessionScheduledResumeEvent (some ideaSessionId) (some owner))
  | .publishOther event => s.publish event
  | .handle event => { s with queue := s.queue.handle event }
  | .rewrite session => { s with session := session }

/-- What a step owes to the session: an event of the three that it publishes when the previous one of the
kind has been handled waits to be handled, and a session that it puts in `STOPPING` or `DELETING` has its
deletion validation waiting. -/
structure Delivered (st : Step) (s : State) : Prop where
  event_waits : ∀ event, published ideaSessionId owner st s = some event → event ∉ s.queue.waiting →
    event ∈ (step ideaSessionId owner st s).queue.waiting
  validation_waits : ∀ status, puts st s = some status →
    (step ideaSessionId owner st s).session = some status ∧
      deletionEvent ideaSessionId owner ∈ (step ideaSessionId owner st s).queue.waiting

/-- A step publishes one of the three events while the previous one of the kind still waits, or when none
was accepted in the last five minutes. -/
def Spaced (st : Step) (s : State) : Prop :=
  ∀ event, published ideaSessionId owner st s = some event →
    event ∈ s.queue.waiting ∨ ¬ s.queue.repeats deduplicationInterval s.now event

/-- Every step of a run has a property in the state it starts from. -/
def Along (P : Step → State → Prop) : List Step → State → Prop
  | [], _ => True
  | st :: rest, s => P st s ∧ Along P rest (step ideaSessionId owner st s)

/-! ## One step -/

/-- A step that publishes sends the event at the time it starts. -/
theorem queue_of_published {st : Step} {s : State} {event : VirtualDesktopEvent}
    (h : published ideaSessionId owner st s = some event) :
    (step ideaSessionId owner st s).queue = s.queue.send deduplicationInterval s.now event := by
  cases st with
  | stopSession deleted =>
    obtain ⟨status, hputs, hevent⟩ := Option.map_eq_some_iff.mp h
    have hstops : stops deleted s = some status := hputs
    simp only [step, hstops, State.publish, hevent]
  | terminateSession deleted =>
    obtain ⟨status, hputs, hevent⟩ := Option.map_eq_some_iff.mp h
    have hterminates : terminates deleted s = some status := hputs
    simp only [step, hterminates, State.publish, hevent]
  | publishScheduledStop => rw [← Option.some.inj h]; rfl
  | publishScheduledResume => rw [← Option.some.inj h]; rfl
  | wait seconds => exact absurd h (by simp [published, puts])
  | resumeSession started => exact absurd h (by simp [published, puts])
  | publishOther event => exact absurd h (by simp [published, puts])
  | handle event => exact absurd h (by simp [published, puts])
  | rewrite session => exact absurd h (by simp [published, puts])

/-- A call that puts the session in `STOPPING` or `DELETING` publishes the deletion validation. -/
theorem published_of_puts {st : Step} {s : State} {status : SessionStatus} (h : puts st s = some status) :
    published ideaSessionId owner st s = some (deletionEvent ideaSessionId owner) ∧
      (step ideaSessionId owner st s).session = some status := by
  cases st with
  | stopSession deleted =>
    have hstops : stops deleted s = some status := h
    refine ⟨?_, ?_⟩
    · simp only [published, puts, hstops, Option.map_some]
    · simp only [step, hstops, State.publish]
  | terminateSession deleted =>
    have hterminates : terminates deleted s = some status := h
    refine ⟨?_, ?_⟩
    · simp only [published, puts, hterminates, Option.map_some]
    · simp only [step, hterminates, State.publish]
  | _ => exact absurd h (by simp [puts])

/-- **One step.** A step delivers exactly when the event it publishes still waits or was not accepted in
the last five minutes. -/
theorem delivered_iff_spaced (st : Step) (s : State) :
    Delivered ideaSessionId owner st s ↔ Spaced ideaSessionId owner st s := by
  constructor
  · intro h event hpub
    by_cases hwaits : event ∈ s.queue.waiting
    · exact .inl hwaits
    · have hmem := h.event_waits event hpub hwaits
      rw [queue_of_published ideaSessionId owner hpub, DedupQueue.mem_waiting_send_iff] at hmem
      exact hmem
  · intro h
    have hmem : ∀ event, published ideaSessionId owner st s = some event →
        event ∈ (step ideaSessionId owner st s).queue.waiting := by
      intro event hpub
      rw [queue_of_published ideaSessionId owner hpub, DedupQueue.mem_waiting_send_iff]
      exact h event hpub
    refine ⟨fun event hpub _ => hmem event hpub, fun status hputs => ?_⟩
    obtain ⟨hpub, hsession⟩ := published_of_puts ideaSessionId owner hputs
    exact ⟨hsession, hmem _ hpub⟩

/-! ## Runs -/

theorem along_congr {P Q : Step → State → Prop} (h : ∀ st s, P st s ↔ Q st s) (steps : List Step)
    (s : State) : Along ideaSessionId owner P steps s ↔ Along ideaSessionId owner Q steps s := by
  induction steps generalizing s with
  | nil => exact Iff.rfl
  | cons st rest ih => exact and_congr (h st s) (ih _)

/-- **Runs.** In a run from any state every step delivers if and only if every event of the three is
published while the previous one waits or at least five minutes after the last one accepted. -/
theorem run_delivered_iff (steps : List Step) (s : State) :
    Along ideaSessionId owner (Delivered ideaSessionId owner) steps s ↔
      Along ideaSessionId owner (Spaced ideaSessionId owner) steps s :=
  along_congr ideaSessionId owner (delivered_iff_spaced ideaSessionId owner) steps s

/-! ## Stopped twice -/

/-- A status that names a DCV session. -/
def sampleStatus (state : VirtualDesktopSessionState) : SessionStatus where
  state := state
  dcvSessionId := some "dcv-1"
  ready_named := fun _ => by decide

/-- A ready session is stopped, its deletion validation handled, and it is stopped, resumed and ready
again before it is stopped a second time, after 200 seconds. -/
def sampleRun : List Step :=
  [.stopSession true, .handle (deletionEvent "s1" "bob"), .wait 60,
    .rewrite (some (sampleStatus .stopped)), .resumeSession true, .wait 140,
    .rewrite (some (sampleStatus .ready)), .stopSession true]

/-- The second stop leaves the session in `STOPPING` without a deletion validation. -/
theorem second_stop_unvalidated :
    ¬ Along "s1" "bob" (Delivered "s1" "bob") sampleRun { session := some (sampleStatus .ready) } := by
  rw [run_delivered_iff]
  rintro ⟨-, -, -, -, -, -, -, hlast, -⟩
  have hspaced := hlast (deletionEvent "s1" "bob") rfl
  revert hspaced
  decide

end ContainRes.VirtualDesktop.Deduplication
