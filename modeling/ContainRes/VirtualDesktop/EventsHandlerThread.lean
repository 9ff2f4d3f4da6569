import ContainRes.VirtualDesktop.Events

/-! # One round of the events queue

`EventsHandlerThread.poll_and_process_queue` on the messages received: each is checked, parsed and handed
to the handler of its event's type, unless an earlier message of its group stays in the queue; at the end
those to delete are deleted in one batch. Parsing stands outside the part that is guarded against
exceptions, so a message that cannot be parsed ends the round before the deletion.

* **`pollAndProcessQueue`** — the round, over arbitrary handlers that change a state of the services.
* **`Faithful`** — what a round owes to its batch, in four parts.
* **`Readable`** — a message that the loop gets past: its body is there, and if its checksum is right it
  is an event.
* **`faithful_iff_readable`** — a round is faithful exactly when every message is readable.
* **`unknown_type_keeps_handled`** — an unknown event type leaves a handled message in the queue. -/

namespace ContainRes.VirtualDesktop.EventsHandlerThread

open Effects Text

/-- A message as the queue delivers it. -/
structure Message where
  messageId : Option String
  messageGroupId : Option String
  senderId : Option String
  md5OfBody : Option String
  body : Option String
  deriving DecidableEq, Repr

/-- The group of a message, empty when there is none. -/
def Message.group (m : Message) : String := (getAsString m.messageGroupId).getD ""

/-- The sender of a message, empty when there is none. -/
def Message.sender (m : Message) : String := (getAsString m.senderId).getD ""

/-- The fields of the object that a body is the JSON text of. -/
structure RawEvent where
  eventGroupId : Option String
  eventType : Option String
  detail : Option EventDetail
  deriving DecidableEq, Repr

/-- What the loop does on the services for a message: `handle_event`. -/
abbrev Handler (σ : Type) : Type :=
  Option String → String → VirtualDesktopEvent → Proc σ Exc PUnit

/-- The state of a round: the services, the messages whose handler ran with its outcome, and the messages
deleted. Messages are named by their position in the batch. -/
structure Round (σ : Type) where
  services : σ
  handled : List (Nat × Except Exc PUnit) := []
  deleted : List Nat := []

/-- The value of `should_delete_message` after a handler has run: it returned, or it refused the
message's source. -/
def shouldDelete : Except Exc PUnit → Bool
  | .ok _ => true
  | .error e => e.errorCode == some .messageSourceValidationFailed

/-- `VirtualDesktopEvent(**message_body)`: a type that is given has to be one of the enumeration. -/
def validateEvent (raw : RawEvent) : Except Exc VirtualDesktopEvent :=
  match raw.eventType with
  | none => .ok { eventGroupId := raw.eventGroupId, eventType := none, detail := raw.detail }
  | some name =>
    match VirtualDesktopEventType.values.lookup name with
    | none => .error (.other .valueError "value is not a valid enumeration member")
    | some eventType =>
      .ok { eventGroupId := raw.eventGroupId, eventType := some eventType, detail := raw.detail }

variable {σ : Type} (md5 : String → String) (fromJson : String → Option RawEvent)
  (handlers : VirtualDesktopEventType → Option (Handler σ))

/-- The two lines that turn a body into an event; `fromJson` is the object that a text is the JSON of, if
it is the JSON of one. -/
def parseEvent (body : String) : Except Exc VirtualDesktopEvent :=
  match fromJson body with
  | none => .error (.other .valueError "unexpected content")
  | some raw => validateEvent raw

/-- A handler's run inside the `try`: its exceptions decide what becomes of the message. -/
def runHandler (i : Nat) (c : Proc σ Exc PUnit) : Proc (Round σ) Exc Bool := fun s =>
  let (r, services) := c.run s.services
  (.ok (shouldDelete r), { s with services := services, handled := s.handled ++ [(i, r)] })

/-- One iteration of the loop: the value of `should_delete_message`. -/
def processMessage (blocked : List String) (m : Message) (i : Nat) : Proc (Round σ) Exc Bool :=
  match getAsString m.body with
  | none => Proc.raise (.other .attributeError "'NoneType' object has no attribute 'encode'")
  | some body =>
    if some (md5 body) ≠ getAsString m.md5OfBody then pure true
    else do
      let event ← Proc.liftExcept (parseEvent fromJson body)
      match event.eventType with
      | none => pure true
      | some eventType =>
        match handlers eventType with
        | none => pure true
        | some handler =>
          if m.group ∉ blocked then runHandler i (handler (getAsString m.messageId) m.sender event)
          else pure false

/-- The loop, with `delete_message_info` and `do_not_process_message_group_ids`. -/
def processMessages : List (Message × Nat) → List Nat → List String → Proc (Round σ) Exc (List Nat)
  | [], deleteInfo, _ => pure deleteInfo
  | (m, i) :: rest, deleteInfo, blocked => do
    let delete ← processMessage md5 fromJson handlers blocked m i
    if delete then processMessages rest (deleteInfo ++ [i]) blocked
    else processMessages rest deleteInfo (m.group :: blocked)

/-- `poll_and_process_queue` after the messages have been received. -/
def pollAndProcessQueue (messages : List Message) : Proc (Round σ) Exc PUnit := do
  let deleteInfo ← processMessages md5 fromJson handlers messages.zipIdx [] []
  Proc.when (deleteInfo.length > 0)
    (Proc.modify fun s => { s with deleted := s.deleted ++ deleteInfo })

/-- What a round owes to its batch. -/
structure Faithful (messages : List Message) (outcome : Except Exc PUnit × Round σ) : Prop where
  /-- The round returns. -/
  returns : outcome.1 = .ok ⟨⟩
  /-- A message that was handled is deleted. -/
  deletes : ∀ i, (i, Except.ok ⟨⟩) ∈ outcome.2.handled → i ∈ outcome.2.deleted
  /-- A message whose handler asked for it again is not. -/
  keeps : ∀ i e, (i, Except.error e) ∈ outcome.2.handled →
    e.errorCode ≠ some .messageSourceValidationFailed → i ∉ outcome.2.deleted
  /-- No handler runs after an earlier message of the group was left in the queue. -/
  ordered : ∀ i j m m', messages[i]? = some m → messages[j]? = some m' → m.group = m'.group → i < j →
    i ∉ outcome.2.deleted → ∀ r, (j, r) ∉ outcome.2.handled

/-- The loop gets past a message: it has a body and, if the checksum is right, the body is an event. -/
def Readable (m : Message) : Prop :=
  ∃ body, getAsString m.body = some body ∧
    (some (md5 body) = getAsString m.md5OfBody → ∃ event, parseEvent fromJson body = .ok event)

/-! ## One iteration -/

/-- An iteration on a message that is not readable raises and changes nothing. -/
theorem processMessage_of_not_readable (blocked : List String) {m : Message} {i : Nat}
    (h : ¬ Readable md5 fromJson m) (s : Round σ) :
    ∃ e, (processMessage md5 fromJson handlers blocked m i).run s = (.error e, s) := by
  unfold processMessage
  cases hbody : getAsString m.body with
  | none => exact ⟨_, rfl⟩
  | some body =>
    by_cases hsum : some (md5 body) = getAsString m.md5OfBody
    · cases hparse : parseEvent fromJson body with
      | ok event => exact absurd ⟨body, hbody, fun _ => ⟨event, hparse⟩⟩ h
      | error e =>
        have hlift : (Proc.liftExcept (parseEvent fromJson body) : Proc (Round σ) Exc _).run s =
            (.error e, s) := by
          rw [Proc.run_liftExcept, hparse]
        refine ⟨e, ?_⟩
        dsimp only
        rw [if_neg (not_not.mpr hsum), Proc.run_bind_of_error hlift]
    · exact absurd ⟨body, hbody, fun heq => absurd heq hsum⟩ h

/-- An iteration on a readable message returns. It runs no handler, or it runs the message's, whose
outcome decides about the deletion, and then the group was not blocked. -/
theorem processMessage_of_readable (blocked : List String) {m : Message} {i : Nat}
    (h : Readable md5 fromJson m) (s : Round σ) :
    ∃ delete s', (processMessage md5 fromJson handlers blocked m i).run s = (.ok delete, s') ∧ s'.deleted = s.deleted ∧
      (s'.handled = s.handled ∨
        ∃ r, s'.handled = s.handled ++ [(i, r)] ∧ delete = shouldDelete r ∧ m.group ∉ blocked) := by
  obtain ⟨body, hbody, hevent⟩ := h
  unfold processMessage
  rw [hbody]
  dsimp only
  by_cases hsum : some (md5 body) = getAsString m.md5OfBody
  · obtain ⟨event, hparse⟩ := hevent hsum
    have hlift : (Proc.liftExcept (parseEvent fromJson body) : Proc (Round σ) Exc _).run s =
        (.ok event, s) := by
      rw [Proc.run_liftExcept, hparse]
    rw [if_neg (not_not.mpr hsum), Proc.run_bind_of_ok hlift]
    cases event.eventType with
    | none => exact ⟨true, s, rfl, rfl, .inl rfl⟩
    | some eventType =>
      dsimp only
      cases handlers eventType with
      | none => exact ⟨true, s, rfl, rfl, .inl rfl⟩
      | some handler =>
        dsimp only
        by_cases hgroup : m.group ∈ blocked
        · rw [if_neg (not_not.mpr hgroup)]
          exact ⟨false, s, rfl, rfl, .inl rfl⟩
        · rw [if_pos hgroup]
          exact ⟨_, _, rfl, rfl, .inr ⟨_, rfl, rfl, hgroup⟩⟩
  · rw [if_pos hsum]
    exact ⟨true, s, rfl, rfl, .inl rfl⟩

/-! ## The loop -/

/-- What holds when the first `n` messages have been through the loop. -/
structure LoopInv (messages : List Message) (n : Nat) (deleteInfo : List Nat) (blocked : List String)
    (s : Round σ) : Prop where
  /-- Nothing is deleted before the end. -/
  deleted : s.deleted = []
  /-- The messages to delete are among those seen. -/
  seen : ∀ i ∈ deleteInfo, i < n
  /-- A handler ran for a message seen, and its outcome decided about the deletion. -/
  decided : ∀ i r, (i, r) ∈ s.handled → i < n ∧ (i ∈ deleteInfo ↔ shouldDelete r = true)
  /-- The group of a message that stays is blocked. -/
  blocked : ∀ i m, i < n → messages[i]? = some m → i ∉ deleteInfo → m.group ∈ blocked
  /-- No handler ran after an earlier message of the group that stays. -/
  ordered : ∀ i j m m', messages[i]? = some m → messages[j]? = some m' → m.group = m'.group → i < j →
    i ∉ deleteInfo → ∀ r, (j, r) ∉ s.handled

/-- The invariant after one more message, given what its iteration did. -/
theorem LoopInv.step {messages : List Message} {n : Nat} {deleteInfo : List Nat}
    {blocked : List String} {s s' : Round σ} {m : Message} {delete : Bool}
    (h : LoopInv messages n deleteInfo blocked s) (hm : messages[n]? = some m) (hdeleted : s'.deleted = s.deleted)
    (hhandled : ∀ i r, (i, r) ∈ s'.handled → (i, r) ∈ s.handled ∨ i = n ∧ delete = shouldDelete r ∧ m.group ∉ blocked) :
    LoopInv messages (n + 1) (if delete then deleteInfo ++ [n] else deleteInfo)
      (if delete then blocked else m.group :: blocked) s' := by
  have hmem : ∀ i, i ∈ (if delete then deleteInfo ++ [n] else deleteInfo) ↔
      i ∈ deleteInfo ∨ delete = true ∧ i = n := by
    intro i
    cases delete <;> simp
  have hgroups : ∀ g, g ∈ (if delete then blocked else m.group :: blocked) ↔
      g ∈ blocked ∨ delete = false ∧ g = m.group := by
    intro g
    cases delete <;> simp [or_comm]
  refine ⟨hdeleted.trans h.deleted, ?_, ?_, ?_, ?_⟩
  · intro i hi
    rcases (hmem i).mp hi with hi | ⟨-, rfl⟩
    · exact Nat.lt_succ_of_lt (h.seen i hi)
    · exact Nat.lt_succ_self i
  · intro i r hr
    rcases hhandled i r hr with hold | ⟨rfl, hdelete, -⟩
    · obtain ⟨hlt, hiff⟩ := h.decided i r hold
      refine ⟨Nat.lt_succ_of_lt hlt, (hmem i).trans ?_⟩
      rw [hiff]
      have hne : i ≠ n := Nat.ne_of_lt hlt
      simp [hne]
    · have hnew : i ∉ deleteInfo := fun hi => absurd (h.seen i hi) (Nat.lt_irrefl i)
      refine ⟨Nat.lt_succ_self i, (hmem i).trans ?_⟩
      rw [← hdelete]
      simp [hnew]
  · intro i m' hlt hm' hnot
    rw [hmem, not_or] at hnot
    rw [hgroups]
    rcases Nat.lt_succ_iff_lt_or_eq.mp hlt with hlt | rfl
    · exact .inl (h.blocked i m' hlt hm' hnot.1)
    · have heq : m' = m := Option.some.inj (hm'.symm.trans hm)
      have hdelete : delete = false := by simpa using hnot.2
      exact .inr ⟨hdelete, by rw [heq]⟩
  · intro i j mi mj hmi hmj hsame hlt hnot r hr
    rw [hmem, not_or] at hnot
    rcases hhandled j r hr with hold | ⟨rfl, -, hfree⟩
    · exact h.ordered i j mi mj hmi hmj hsame hlt hnot.1 r hold
    · have heq : mj = m := Option.some.inj (hmj.symm.trans hm)
      refine hfree ?_
      rw [← heq, ← hsame]
      exact h.blocked i mi hlt hmi hnot.1

/-- The loop on readable messages returns and keeps the invariant. -/
theorem processMessages_of_readable {messages : List Message} (rest : List Message) (n : Nat)
    (hrest : messages.drop n = rest) (hread : ∀ m ∈ rest, Readable md5 fromJson m)
    {deleteInfo : List Nat} {blocked : List String} {s : Round σ} (h : LoopInv messages n deleteInfo blocked s) :
    ∃ deleteInfo' blocked' s', (processMessages md5 fromJson handlers (rest.zipIdx n) deleteInfo blocked).run s =
        (.ok deleteInfo', s') ∧ LoopInv messages (n + rest.length) deleteInfo' blocked' s' := by
  induction rest generalizing n deleteInfo blocked s with
  | nil => exact ⟨deleteInfo, blocked, s, rfl, h⟩
  | cons m rest ih =>
    have hm : messages[n]? = some m := by
      rw [← List.head?_drop, hrest, List.head?_cons]
    have htail : messages.drop (n + 1) = rest := by
      rw [← List.tail_drop, hrest, List.tail_cons]
    obtain ⟨delete, s', hrun, hdeleted, hhandled⟩ :=
      processMessage_of_readable md5 fromJson handlers blocked (i := n)
        (hread m List.mem_cons_self) s
    have hstep : LoopInv messages (n + 1) (if delete then deleteInfo ++ [n] else deleteInfo)
        (if delete then blocked else m.group :: blocked) s' := by
      refine h.step hm hdeleted fun i r hr => ?_
      rcases hhandled with hsame | ⟨r', happ, hdelete, hfree⟩
      · exact .inl (hsame ▸ hr)
      · rw [happ, List.mem_append, List.mem_singleton, Prod.mk.injEq] at hr
        rcases hr with hr | ⟨rfl, rfl⟩
        · exact .inl hr
        · exact .inr ⟨rfl, hdelete, hfree⟩
    have hnext := ih (n + 1) htail (fun m' hm' => hread m' (List.mem_cons_of_mem _ hm')) hstep
    obtain ⟨deleteInfo', blocked', s'', hrun', hinv⟩ := hnext
    refine ⟨deleteInfo', blocked', s'', ?_, ?_⟩
    · rw [List.zipIdx_cons, processMessages, Proc.run_bind_of_ok hrun]
      cases delete <;> exact hrun'
    · have hlen : n + (m :: rest).length = n + 1 + rest.length := by
        rw [List.length_cons]
        omega
      rw [hlen]
      exact hinv

/-- The loop on messages of which one is not readable raises. -/
theorem processMessages_of_not_readable (rest : List Message) (n : Nat)
    (hread : ¬ ∀ m ∈ rest, Readable md5 fromJson m) (deleteInfo : List Nat) (blocked : List String) (s : Round σ) :
    ∃ e s', (processMessages md5 fromJson handlers (rest.zipIdx n) deleteInfo blocked).run s = (.error e, s') := by
  induction rest generalizing n deleteInfo blocked s with
  | nil => exact absurd (by simp) hread
  | cons m rest ih =>
    rw [List.zipIdx_cons, processMessages]
    by_cases hm : Readable md5 fromJson m
    · obtain ⟨delete, s', hrun, -, -⟩ :=
        processMessage_of_readable md5 fromJson handlers blocked (i := n) hm s
      have htail : ¬ ∀ m ∈ rest, Readable md5 fromJson m := by
        intro hall
        exact hread (List.forall_mem_cons.mpr ⟨hm, hall⟩)
      rw [Proc.run_bind_of_ok hrun]
      cases delete
      · exact ih (n + 1) htail deleteInfo (m.group :: blocked) s'
      · exact ih (n + 1) htail (deleteInfo ++ [n]) blocked s'
    · obtain ⟨e, hrun⟩ := processMessage_of_not_readable md5 fromJson handlers blocked
        (i := n) hm s
      exact ⟨e, s, Proc.run_bind_of_error hrun⟩

/-! ## The round -/

/-- The batch deletion at the end deletes exactly what was collected. -/
theorem run_delete (deleteInfo : List Nat) (s : Round σ) (h : s.deleted = []) : ((Proc.when (deleteInfo.length > 0)
        (Proc.modify fun s : Round σ => { s with deleted := s.deleted ++ deleteInfo }) :
          Proc (Round σ) Exc PUnit)).run s = (.ok ⟨⟩, { s with deleted := deleteInfo }) := by
  rw [Proc.run_when]
  split
  · rw [Proc.run_modify, h, List.nil_append]
  · rename_i hlen
    have hnil : deleteInfo = [] := List.length_eq_zero_iff.mp (by omega)
    rw [hnil, ← h]

/-- **Faithful rounds.** A round is faithful to its batch, whatever the handlers do, if and only if every
message of the batch is readable. -/
theorem faithful_iff_readable (messages : List Message) (services : σ) :
    Faithful messages ((pollAndProcessQueue md5 fromJson handlers messages).run { services := services }) ↔
      ∀ m ∈ messages, Readable md5 fromJson m := by
  constructor
  · intro h
    by_contra hread
    obtain ⟨e, s', hrun⟩ := processMessages_of_not_readable md5 fromJson handlers messages 0 hread [] []
      { services := services }
    have hraise := h.returns
    rw [pollAndProcessQueue, Proc.run_bind_of_error hrun] at hraise
    exact absurd hraise (by simp)
  · intro hread
    have hinit : LoopInv messages 0 [] [] ({ services := services } : Round σ) :=
      ⟨rfl, by simp, by simp, by simp, by simp⟩
    obtain ⟨deleteInfo, blocked, s, hrun, hinv⟩ :=
      processMessages_of_readable md5 fromJson handlers messages 0 (List.drop_zero) hread hinit
    rw [pollAndProcessQueue, Proc.run_bind_of_ok hrun, run_delete deleteInfo s hinv.deleted]
    refine ⟨rfl, ?_, ?_, hinv.ordered⟩
    · intro i hi
      exact (hinv.decided i _ hi).2.mpr rfl
    · intro i e hi hcode hmem
      have hdelete := (hinv.decided i _ hi).2.mp hmem
      exact hcode (by simpa [shouldDelete] using hdelete)

/-! ## An event of an unknown type -/

/-- The body of an event that asks for nothing. -/
def goodBody : String := "\x7b\"event_type\":\"USER_CREATED_EVENT\"\x7d"

/-- The body of an event of an unknown type. -/
def unknownBody : String := "\x7b\"event_type\":\"NO_SUCH_EVENT\"\x7d"

/-- The digests of the two bodies. -/
def sampleMd5 (body : String) : String :=
  if body = goodBody then "acf441257e5c9b0338c86d1f27286fd3"
  else if body = unknownBody then "04a070c834cc98fdf708ef58ccafff9e"
  else ""

/-- The objects of the two bodies. -/
def sampleJson (body : String) : Option RawEvent :=
  if body = goodBody then some ⟨none, some "USER_CREATED_EVENT", none⟩
  else if body = unknownBody then some ⟨none, some "NO_SUCH_EVENT", none⟩
  else none

/-- A message of the group `s1` with a body and its digest. -/
def sampleMessage (id body : String) : Message where
  messageId := some id
  messageGroupId := some "s1"
  senderId := some "controller"
  md5OfBody := some (sampleMd5 body)
  body := some body

/-- An event of an unknown type ends the round, and the message handled before it stays in the queue. -/
theorem unknown_type_keeps_handled : ¬ Faithful [sampleMessage "m1" goodBody, sampleMessage "m2" unknownBody]
      ((pollAndProcessQueue sampleMd5 sampleJson (fun _ => some fun _ _ _ => pure ⟨⟩)
        [sampleMessage "m1" goodBody, sampleMessage "m2" unknownBody]).run { services := () }) := by
  intro h
  have hmem := h.deletes 0 (by decide)
  revert hmem
  decide

end ContainRes.VirtualDesktop.EventsHandlerThread
