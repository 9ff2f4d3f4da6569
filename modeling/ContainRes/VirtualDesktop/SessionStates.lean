import ContainRes.Systems.Guarded
import ContainRes.VirtualDesktop.SessionHandlers

/-! # The states of a session over a run

The calls of users and the deliveries of events read and write the sessions table in any order: between
the read and the write of one of them there may be any number of others.

* **`Operation`**, **`Access`**, **`system`** — the calls and handlers with what they are told, and their
  single reads and writes; `exec_handleSession` and `exec_callForSessions` are what one of them does there.
* **`Safe`** — a session that is stopping is not `READY` or `INITIALIZING` until it has been `STOPPED` and
  then `RESUMING`, one in `DELETING` stays there until its row is deleted, and a deleted row is not there
  again.
* **`Follows`**, **`Harmless`** — the states that may be written over a state, and the writes that keep to
  it.
* **`harmless_of_unchanged`** — a call whose session is not changed in between keeps to it, unless it
  validates a creation or a resumption has made progress.
* **`safe_of_harmless`** — a run of harmless accesses is safe. -/

namespace ContainRes.VirtualDesktop.Lifecycle

open Effects Store Systems Text
open Sessions

/-- The calls and the handlers, with what they are told. -/
inductive Operation
  | stop (deleted : Bool)
  | resume (started : Bool)
  | reboot (force : Bool) (connectionCount : Nat)
  | terminate (deleted : Bool)
  | ec2StateChange (state : String) (serverFound : Bool)
  | dcvHostReady (senderId senderInstanceId : String) (failureReason dcvSessionId : Option String)
      (counter : Int)
  | dcvHostRebootComplete (senderId senderInstanceId : String) (brokerState : Option String)
      (counter : Int) (failureReason : Option String)
  | validateCreation (counter : Int) (brokerState : Option String)
  | validateDeletion (brokerState : Option String) (cleaned : Bool)
  | resumeCommandProgress (status : String)

/-- What an operation does with the session that it has read. -/
def Operation.handling : Operation → VirtualDesktopSession → Handling
  | .stop deleted => Lifecycle.stop deleted
  | .resume started => Lifecycle.resume started
  | .reboot force connectionCount => Lifecycle.reboot force connectionCount
  | .terminate deleted => Lifecycle.terminate deleted
  | .ec2StateChange state serverFound => Lifecycle.ec2StateChange state serverFound
  | .dcvHostReady senderId senderInstanceId failureReason dcvSessionId counter =>
    Lifecycle.dcvHostReady senderId senderInstanceId failureReason dcvSessionId counter
  | .dcvHostRebootComplete senderId senderInstanceId brokerState counter failureReason =>
    Lifecycle.dcvHostRebootComplete senderId senderInstanceId brokerState counter failureReason
  | .validateCreation counter brokerState => Lifecycle.validateCreation counter brokerState
  | .validateDeletion brokerState cleaned => Lifecycle.validateDeletion brokerState cleaned
  | .resumeCommandProgress status => Lifecycle.resumeCommandProgress status

/-- How far a session that entered `STOPPING` has come. -/
inductive Stage
  /-- It has not entered `STOPPING`, or it has been `STOPPED` and then `RESUMING`. -/
  | free
  | stopping
  | stopped
  deriving DecidableEq, Repr

/-- The history of a row. -/
structure History where
  stage : Stage
  deleting : Bool
  removed : Bool
  deriving DecidableEq, Repr

/-- The stage after a state has been seen. -/
def Stage.advance (stage : Stage) : VirtualDesktopSessionState → Stage
  | .stopping => .stopping
  | .stopped => if stage = .stopping then .stopped else stage
  | .resuming => if stage = .stopped then .free else stage
  | _ => stage

/-- The history after an access that leaves `new` of the row `old`. -/
def History.observe (h : History) (old new : Option Sessions.SessionRow) : History where
  stage := (new.map fun row => h.stage.advance row.state).getD h.stage
  deleting := h.deleting || new.any fun row => row.state = .deleting
  removed := h.removed || (old.isSome && new.isNone)

/-- The table, what each call has read, and the history of each row, which no access reads. -/
structure State where
  sessions : SessionTable
  held : Nat → Option VirtualDesktopSession
  history : String × String → History

/-- One access to the sessions table. -/
inductive Access
  /-- The call `n` reads a session. -/
  | read (n : Nat) (owner id : Option String)
  /-- The call `n` does what the operation does with the session that it has read. -/
  | write (n : Nat) (op : Operation)

/-- The state with another table. -/
def State.withSessions (s : State) (t : SessionTable) : State where
  sessions := t
  held := s.held
  history := fun key => (s.history key).observe (s.sessions.getItem key) (t.getItem key)

variable (hours : Schedules.WorkingHours)

/-- What a read gives a call to hold. -/
def sessionRead (owner id : Option String) (t : SessionTable) : Option VirtualDesktopSession :=
  match (Sessions.getFromDb hours owner id).run t with
  | (.ok session, _) => session
  | (.error _, _) => none

/-- One access. A call that holds no session does not write. -/
def next (s : State) : Access → Option State
  | .read n owner id =>
    some { s with held := Function.update s.held n (sessionRead hours owner id s.sessions) }
  | .write n op =>
    (s.held n).map fun session => s.withSessions ((carryOut (op.handling session)).run s.sessions).2

/-- The history of a row that is there at the start. -/
def startHistory (row : Option Sessions.SessionRow) : History where
  stage := (row.map fun row => match row.state with
    | .stopping => Stage.stopping
    | .stopped => Stage.stopped
    | _ => Stage.free).getD .free
  deleting := row.any fun row => row.state = .deleting
  removed := false

/-- A table to start from; nothing has been read. -/
def start (t : SessionTable) : State where
  sessions := t
  held := fun _ => none
  history := fun key => startHistory (t.getItem key)

/-- Calls and deliveries on one table. -/
def system : System State Access where
  init s := ∃ t, s = start t
  next := next hours

/-! ## What is to hold -/

/-- What is to hold of a row with its history. -/
structure SafeRow (h : History) (row : Option Sessions.SessionRow) : Prop where
  stopping : h.stage ≠ .free → ∀ r, row = some r → r.state ≠ .ready ∧ r.state ≠ .initializing
  deleting : h.deleting = true → ∀ r, row = some r → r.state = .deleting
  removed : h.removed = true → row = none

/-- What is to hold of every session. -/
def Safe (s : State) : Prop := ∀ key, SafeRow (s.history key) (s.sessions.getItem key)

/-- A state that may be written over a state. -/
def Follows : VirtualDesktopSessionState → VirtualDesktopSessionState → Bool
  | .deleting, new => new = .deleting
  | .stopping, new => new = .stopping ∨ new = .stopped ∨ new = .deleting
  | .stopped, new => new = .stopping ∨ new = .stopped ∨ new = .resuming ∨ new = .deleting
  | _, _ => true

/-- A session that is written back finds its row, in a state that its own state may follow. -/
def WritesOver (session : VirtualDesktopSession) (t : SessionTable) : Prop :=
  ∀ owner id, session.owner = some owner → session.ideaSessionId = some id →
    ∃ row, t.getItem (owner, id) = some row ∧ Follows row.state session.state = true

/-- The access does not write where it must not. -/
def Harmless (s : State) : Access → Prop
  | .read _ _ _ => True
  | .write n op => ∀ session, s.held n = some session → ∀ session',
      (op.handling session).write = some (.put session') → WritesOver session' s.sessions

/-! ## Single writes -/

theorem run_carryOut_state (h : Handling) (t : SessionTable) :
    ((carryOut h).run t).2 = ((makeWrite h.write).run t).2 := by
  unfold carryOut
  rw [Proc.run_bind]
  rcases (makeWrite h.write).run t with ⟨e | u, t'⟩
  · rfl
  · cases h.result <;> rfl

theorem getItem_put (session : VirtualDesktopSession) (t : SessionTable) (key : String × String) :
    ((makeWrite (some (.put session))).run t).2.getItem key =
      if session.owner = some key.1 ∧ session.ideaSessionId = some key.2 then
        some (convertSessionObjectToDbDict session) else t.getItem key :=
  Sessions.getItem_update session t key

/-- A row that is deleted is gone, and the others are left. -/
theorem getItem_remove (session : VirtualDesktopSession) (t : SessionTable) (key : String × String) :
    ((makeWrite (some (.remove session))).run t).2.getItem key = none ∨
      ((makeWrite (some (.remove session))).run t).2.getItem key = t.getItem key := by
  have hdelete : makeWrite (some (.remove session)) = Sessions.delete session := rfl
  rw [hdelete, Sessions.getItem_delete]
  split
  · exact .inl rfl
  · exact .inr rfl

variable {s s' : State}

/-! ## Calls that are not interrupted -/

/-- The handlers that do not look at the state, or not at once. -/
def Operation.unguarded : Operation → VirtualDesktopSessionState → Bool
  | .validateCreation _ _, state => state = .stopping ∨ state = .stopped
  | .resumeCommandProgress _, state => state = .stopping ∨ state = .stopped ∨ state = .deleting
  | _, _ => false

/-- Where a session is written back, it is under its key and in a state that meets `P`. -/
def Moves (session : VirtualDesktopSession) (P : VirtualDesktopSessionState → Prop) (h : Handling) : Prop :=
  ∀ session', h.write = some (.put session') →
    session'.owner = session.owner ∧ session'.ideaSessionId = session.ideaSessionId ∧ P session'.state

namespace Moves

variable {session : VirtualDesktopSession} {P : VirtualDesktopSessionState → Prop}

theorem of_write_none {h : Handling} (hwrite : h.write = none) : Moves session P h := by
  intro session' hput
  rw [hwrite] at hput
  exact absurd hput (by simp)

theorem remove (session' : VirtualDesktopSession) (result : Except Exc PUnit) :
    Moves session P ⟨some (.remove session'), result⟩ := by
  intro session'' hput
  exact absurd hput (by simp)

variable {state : VirtualDesktopSessionState}

/-- The session is written back in the state `state`. -/
theorem put {session' : VirtualDesktopSession} (h : P state)
    (howner : session'.owner = session.owner) (hid : session'.ideaSessionId = session.ideaSessionId)
    (result : Except Exc PUnit) : Moves session P ⟨some (.put (withState session' state)), result⟩ := by
  intro session'' hput
  obtain rfl : withState session' state = session'' := by simpa using hput
  exact ⟨howner, hid, h⟩

theorem moveTo_of {session' : VirtualDesktopSession} (h : P state)
    (howner : session'.owner = session.owner) (hid : session'.ideaSessionId = session.ideaSessionId) :
    Moves session P (Lifecycle.moveTo session' state) := put h howner hid _

theorem moveTo (h : P state) : Moves session P (Lifecycle.moveTo session state) := moveTo_of h rfl rfl

theorem ite {c : Prop} [Decidable c] {a b : Handling} (ha : c → Moves session P a)
    (hb : ¬ c → Moves session P b) : Moves session P (if c then a else b) := by
  split
  · rename_i hc
    exact ha hc
  · rename_i hc
    exact hb hc

theorem fromHost {senderId senderInstanceId : String} {k : Handling} (hk : Moves session P k) :
    Moves session P (Lifecycle.fromHost senderId senderInstanceId session k) := by
  unfold Lifecycle.fromHost
  split
  · exact of_write_none rfl
  · exact ite (fun _ => of_write_none rfl) fun _ => hk

end Moves

/-- **What is written over the state that was read.** It may follow that state, unless the operation is an
unguarded one. -/
theorem moves_handling (op : Operation) (session : VirtualDesktopSession) :
    Moves session (fun state => Follows session.state state = ! op.unguarded session.state) (op.handling session) := by
  cases op with
  | stop deleted =>
    refine .ite (fun _ => .of_write_none rfl) fun hstate => ?_
    have hready : session.state = .ready := not_not.mp hstate
    refine .ite (fun _ => .moveTo ?_) fun _ => .ite (fun _ => .moveTo ?_) fun _ => .of_write_none rfl
    · rw [hready]
      rfl
    · rw [hready]
      rfl
  | resume started =>
    refine .ite (fun _ => .of_write_none rfl) fun hstate => .ite (fun _ => .moveTo ?_) fun _ =>
      .of_write_none rfl
    rw [not_not.mp hstate]
    rfl
  | reboot force connectionCount =>
    refine .ite (fun _ => .of_write_none rfl) fun hstate => .ite (fun _ => .of_write_none rfl) fun _ =>
      .moveTo ?_
    have hstate' : session.state = .ready ∨ session.state = .error := by
      rwa [not_and_or, not_not, not_not] at hstate
    rcases hstate' with hstate' | hstate' <;> rw [hstate'] <;> rfl
  | terminate deleted =>
    refine .ite (fun _ => .remove _ _) fun hstate => .ite (fun _ => .moveTo ?_) fun _ =>
      .of_write_none rfl
    have hne : session.state ≠ .stopped := fun h => hstate (.inr h)
    cases hcase : session.state <;> simp_all [Follows, Operation.unguarded]
  | ec2StateChange state serverFound =>
    refine .ite (fun _ => ?_) fun _ => .ite (fun _ => .of_write_none rfl) fun _ => .of_write_none rfl
    cases hcase : session.state with
    | stopped | deleting | deleted | error => exact .of_write_none rfl
    | provisioning | creating | initializing | resuming => exact .moveTo rfl
    | ready | stopping =>
      exact .ite (fun _ => .of_write_none rfl) fun _ => .ite (fun _ => .moveTo rfl) fun _ => .moveTo rfl
  | dcvHostReady senderId senderInstanceId failureReason dcvSessionId counter =>
    refine .fromHost (.ite (fun _ => .of_write_none rfl) fun hstate => ?_)
    have hfollows : ∀ state, Follows session.state state = true := by
      intro state
      have hstate' : session.state = .provisioning ∨ session.state = .creating := by
        rwa [not_and_or, not_not, not_not] at hstate
      rcases hstate' with hstate' | hstate' <;> rw [hstate'] <;> rfl
    refine .ite (fun _ => .moveTo_of (hfollows _) rfl rfl) fun _ => .ite (fun _ => ?_) fun _ =>
      .moveTo_of (hfollows _) rfl rfl
    dsimp only
    split
    · exact .put (hfollows _) rfl rfl _
    · exact .of_write_none rfl
  | dcvHostRebootComplete senderId senderInstanceId brokerState counter failureReason =>
    exact .of_write_none (dcvHostRebootComplete_write _ _ _ _ _ _)
  | validateCreation counter brokerState =>
    refine .ite (fun _ => .of_write_none rfl) fun hstate => ?_
    have hne : session.state ≠ .deleting := fun h => hstate (.inl h)
    have hready : Follows session.state .ready =
        ! (Operation.validateCreation counter brokerState).unguarded session.state := by
      cases hcase : session.state <;> simp_all [Follows, Operation.unguarded]
    have herror : Follows session.state .error =
        ! (Operation.validateCreation counter brokerState).unguarded session.state := by
      cases hcase : session.state <;> simp_all [Follows, Operation.unguarded]
    have hinitializing : Follows session.state .initializing =
        ! (Operation.validateCreation counter brokerState).unguarded session.state := by
      cases hcase : session.state <;> simp_all [Follows, Operation.unguarded]
    refine .ite (fun _ => .moveTo hready) fun _ => .ite (fun _ => .moveTo herror) fun _ =>
      .ite (fun _ => .moveTo herror) fun _ => .ite (fun _ => .of_write_none rfl) fun _ => ?_
    dsimp only
    split
    · exact .put hinitializing rfl rfl _
    · exact .of_write_none rfl
  | validateDeletion brokerState cleaned =>
    refine .ite (fun _ => .of_write_none rfl) fun _ => .ite (fun _ => ?_) fun _ => .of_write_none rfl
    exact .ite (fun _ => .ite (fun _ => .remove _ _) fun _ => .of_write_none rfl) fun _ =>
      .of_write_none rfl
  | resumeCommandProgress status =>
    have hmoves : ∀ state, state = .initializing ∨ state = .error → Follows session.state state =
        ! (Operation.resumeCommandProgress status).unguarded session.state := by
      rintro state (rfl | rfl) <;> cases hcase : session.state <;> rfl
    exact .ite (fun _ => .moveTo (hmoves _ (.inl rfl))) fun _ =>
      .ite (fun _ => .moveTo (hmoves _ (.inr rfl))) fun _ => .of_write_none rfl

/-- **A call whose session is not changed** between its read and its write is harmless exactly when it
writes nothing back or the operation looks at the state. -/
theorem harmless_iff_of_unchanged {n : Nat} {op : Operation} {session : VirtualDesktopSession}
    {owner id : String} {row : Sessions.SessionRow} (hheld : s.held n = some session)
    (howner : session.owner = some owner) (hid : session.ideaSessionId = some id)
    (hrow : s.sessions.getItem (owner, id) = some row) (hstate : row.state = session.state) : Harmless s (.write n op) ↔
      ∀ session', (op.handling session).write = some (.put session') → op.unguarded session.state = false := by
  constructor
  · intro h session' hput
    obtain ⟨howner', hid', hfollows⟩ := moves_handling op session session' hput
    obtain ⟨row', hrow', hmay⟩ := h session hheld session' hput owner id (howner'.trans howner) (hid'.trans hid)
    obtain rfl : row = row' := Option.some.inj (hrow.symm.trans hrow')
    rw [hstate, hfollows] at hmay
    simpa using hmay
  · intro h session'' hheld' session' hput owner' id' howner' hid'
    obtain rfl : session = session'' := Option.some.inj (hheld.symm.trans hheld')
    obtain ⟨hsameOwner, hsameId, hfollows⟩ := moves_handling op session session' hput
    obtain rfl : owner = owner' := Option.some.inj ((hsameOwner.trans howner).symm.trans howner')
    obtain rfl : id = id' := Option.some.inj ((hsameId.trans hid).symm.trans hid')
    refine ⟨row, hrow, ?_⟩
    rw [hstate, hfollows, h session' hput]
    rfl

/-! ## Safety -/

/-- What keeps a row safe: the stage tells its state as long as it is not free. -/
structure SteadyRow (h : History) (row : Option Sessions.SessionRow) : Prop where
  stopping : h.stage = .stopping → ∀ r, row = some r → r.state = .stopping ∨ r.state = .deleting
  stopped : h.stage = .stopped → ∀ r, row = some r → r.state = .stopped ∨ r.state = .deleting
  deleting : h.deleting = true → ∀ r, row = some r → r.state = .deleting
  removed : h.removed = true → row = none

theorem SteadyRow.safe {h : History} {row : Option Sessions.SessionRow} (hrow : SteadyRow h row) : SafeRow h row where
  stopping := fun hstage r hr => by
    cases hcase : h.stage with
    | free => exact absurd hcase hstage
    | stopping =>
      rcases hrow.stopping hcase r hr with hstate | hstate <;> rw [hstate] <;> decide
    | stopped =>
      rcases hrow.stopped hcase r hr with hstate | hstate <;> rw [hstate] <;> decide
  deleting := hrow.deleting
  removed := hrow.removed

theorem follows_self (state : VirtualDesktopSessionState) : Follows state state = true := by
  cases state <;> decide

theorem advance_cases (stage : Stage) (state : VirtualDesktopSessionState) :
    (stage.advance state = .stopping → state = .stopping ∨ (stage = .stopping ∧ state ≠ .stopped)) ∧
      (stage.advance state = .stopped → (stage = .stopping ∧ state = .stopped) ∨
          (stage = .stopped ∧ state ≠ .stopping ∧ state ≠ .resuming)) := by
  cases stage <;> cases state <;> decide

/-- Only a state that may follow is written over a steady row. -/
theorem SteadyRow.put {h : History} {r r' : Sessions.SessionRow} (hrow : SteadyRow h (some r))
    (hfollows : Follows r.state r'.state = true) : SteadyRow (h.observe (some r) (some r')) (some r') := by
  obtain ⟨hstopping, hstopped⟩ := advance_cases h.stage r'.state
  have hstage : (h.observe (some r) (some r')).stage = h.stage.advance r'.state := rfl
  refine ⟨fun hnew r'' hr'' => ?_, fun hnew r'' hr'' => ?_, fun hnew r'' hr'' => ?_, fun hnew => ?_⟩
  · obtain rfl := Option.some.inj hr''
    rcases hstopping (hstage.symm.trans hnew) with hstate | ⟨hold, hne⟩
    · exact .inl hstate
    · -- what follows STOPPING or DELETING
      rcases hrow.stopping hold r rfl with hr | hr <;> rw [hr] at hfollows <;>
        simp [Follows] at hfollows
      · rcases hfollows with hstate | hstate | hstate
        · exact .inl hstate
        · exact absurd hstate hne
        · exact .inr hstate
      · exact .inr hfollows
  · obtain rfl := Option.some.inj hr''
    rcases hstopped (hstage.symm.trans hnew) with ⟨-, hstate⟩ | ⟨hold, hne, hne'⟩
    · exact .inl hstate
    · -- what follows STOPPED or DELETING
      rcases hrow.stopped hold r rfl with hr | hr <;> rw [hr] at hfollows <;>
        simp [Follows] at hfollows
      · rcases hfollows with hstate | hstate | hstate | hstate
        · exact absurd hstate hne
        · exact .inl hstate
        · exact absurd hstate hne'
        · exact .inr hstate
      · exact .inr hfollows
  · obtain rfl := Option.some.inj hr''
    have hcases : h.deleting = true ∨ r'.state = .deleting := by
      simpa [History.observe] using hnew
    rcases hcases with hold | hstate
    · have hr := hrow.deleting hold r rfl
      rw [hr] at hfollows
      simpa [Follows] using hfollows
    · exact hstate
  · have hold : h.removed = true := by simpa [History.observe] using hnew
    exact absurd (hrow.removed hold) (by simp)

theorem SteadyRow.same {h : History} {row : Option Sessions.SessionRow} (hrow : SteadyRow h row) :
    SteadyRow (h.observe row row) row := by
  cases row with
  | none =>
    have hsame : h.observe none none = h := by simp [History.observe]
    rw [hsame]
    exact hrow
  | some r => exact hrow.put (follows_self r.state)

theorem SteadyRow.gone (h : History) (row : Option Sessions.SessionRow) : SteadyRow (h.observe row none) none where
  stopping := fun _ r hr => absurd hr (by simp)
  stopped := fun _ r hr => absurd hr (by simp)
  deleting := fun _ r hr => absurd hr (by simp)
  removed := fun _ => rfl

/-- A row at the start is steady. -/
theorem steadyRow_start (row : Option Sessions.SessionRow) : SteadyRow (startHistory row) row := by
  cases row with
  | none =>
    exact ⟨fun _ r hr => absurd hr (by simp), fun _ r hr => absurd hr (by simp),
      fun _ r hr => absurd hr (by simp), fun _ => rfl⟩
  | some r =>
    refine ⟨fun hstage r' hr' => ?_, fun hstage r' hr' => ?_, fun hdeleting r' hr' => ?_, fun h => ?_⟩
    · obtain rfl := Option.some.inj hr'
      cases hstate : r.state <;> simp [startHistory, hstate] at hstage ⊢
    · obtain rfl := Option.some.inj hr'
      cases hstate : r.state <;> simp [startHistory, hstate] at hstage ⊢
    · obtain rfl := Option.some.inj hr'
      simpa [startHistory] using hdeleting
    · simp [startHistory] at h

/-- Every row is steady. -/
def Steady (s : State) : Prop := ∀ key, SteadyRow (s.history key) (s.sessions.getItem key)

/-- **One access** that is harmless keeps the rows steady. -/
theorem steady_next {a : Access} (h : Steady s) (hharmless : Harmless s a)
    (hnext : next hours s a = some s') : Steady s' := by
  cases a with
  | read n owner id =>
    obtain rfl := Option.some.inj hnext
    exact h
  | write n op =>
    obtain ⟨session, hheld, rfl⟩ := Option.map_eq_some_iff.mp hnext
    intro key
    have hrow := h key
    have htable : ((s.withSessions ((carryOut (op.handling session)).run s.sessions).2).sessions) =
        ((makeWrite (op.handling session).write).run s.sessions).2 := run_carryOut_state _ _
    have hhistory : (s.withSessions ((carryOut (op.handling session)).run s.sessions).2).history key =
        (s.history key).observe (s.sessions.getItem key)
          (((makeWrite (op.handling session).write).run s.sessions).2.getItem key) := by
      rw [← htable]
      rfl
    rw [htable, hhistory]
    cases hwrite : (op.handling session).write with
    | none => exact hrow.same
    | some write =>
      cases write with
      | put session' =>
        rw [getItem_put]
        split
        · rename_i hkey
          obtain ⟨r, hr, hfollows⟩ := hharmless session hheld session' hwrite key.1 key.2 hkey.1 hkey.2
          have hr' : s.sessions.getItem key = some r := hr
          rw [hr'] at hrow ⊢
          exact hrow.put hfollows
        · exact hrow.same
      | remove session' =>
        rcases getItem_remove session' s.sessions key with hgone | hsame
        · rw [hgone]
          exact .gone _ _
        · rw [hsame]
          exact hrow.same

/-- The session `s1` of `owner` in a state. -/
def desk (state : VirtualDesktopSessionState) : SessionTable :=
  (∅ : SessionTable).putItem ("owner", "s1")
    { name := some "desk", description := none, dcvSessionId := some "dcv", state := state
      hibernationEnabled := false, server := some { instanceId := some "i-1" }, schedule := fun _ => none }

/-- The call `n` reads a session. -/
def State.withHeld (s : State) (n : Nat) (session : Option VirtualDesktopSession) : State :=
  { s with held := Function.update s.held n session }

theorem next_read (s : State) (n : Nat) (owner id : Option String) :
    (system hours).next s (.read n owner id) = some (s.withHeld n (sessionRead hours owner id s.sessions)) :=
  rfl

theorem next_write {n : Nat} {session : VirtualDesktopSession} (hheld : s.held n = some session) (op : Operation) :
    (system hours).next s (.write n op) =
      some (s.withSessions ((carryOut (op.handling session)).run s.sessions).2) := by
  simp only [system, next, hheld, Option.map_some]

/-- The sessions that a call of a user reads are held. -/
theorem exec_readSessions (ids : List (Option String × Option String)) (i : Nat) (s : State) :
    ∃ accesses s', (system hours).exec s accesses = some s' ∧ s'.sessions = s.sessions ∧
      (∀ n < i, s'.held n = s.held n) ∧ ∀ sessions, ((readSessions hours ids).run s.sessions).1 = .ok sessions →
        ∀ session ∈ sessions, ∃ n, s'.held n = some session := by
  induction ids generalizing i s with
  | nil =>
    refine ⟨[], s, rfl, rfl, fun _ _ => rfl, fun sessions hsessions session hmem => ?_⟩
    obtain rfl : [] = sessions := Except.ok.inj hsessions
    exact absurd hmem List.not_mem_nil
  | cons key rest ih =>
    obtain ⟨owner, id⟩ := key
    have hstate : ((Sessions.getFromDb hours owner id).run s.sessions).2 = s.sessions :=
      Sessions.reads_getFromDb hours owner id _
    unfold readSessions
    rw [Proc.run_bind]
    rcases hrun : (Sessions.getFromDb hours owner id).run s.sessions with ⟨e | session, t⟩
    · exact ⟨[], s, rfl, rfl, fun _ _ => rfl, fun sessions hsessions => by simp at hsessions⟩
    · rw [hrun] at hstate
      obtain rfl : t = s.sessions := hstate
      cases session with
      | none =>
        refine ⟨[], s, rfl, rfl, fun _ _ => rfl, fun sessions hsessions => ?_⟩
        exact absurd hsessions (by simp [noAttribute, Proc.run_bind])
      | some session =>
        have hread : sessionRead hours owner id s.sessions = some session := by
          rw [sessionRead, hrun]
        obtain ⟨accesses, s', hexec, hsame, hheld, hall⟩ := ih (i + 1) (s.withHeld i (some session))
        refine ⟨.read i owner id :: accesses, s', ?_, hsame, fun n hn => ?_, ?_⟩
        · rw [System.exec_cons, next_read, hread]
          exact hexec
        · rw [hheld n (by omega)]
          exact Function.update_of_ne (by omega) _ _
        · intro sessions hsessions session' hmem
          dsimp only at hsessions
          rw [Proc.run_bind] at hsessions
          rcases hrest : (readSessions hours rest).run s.sessions with ⟨e | more, t⟩
          · rw [hrest] at hsessions
            simp at hsessions
          · rw [hrest] at hsessions
            obtain rfl : session :: more = sessions := Except.ok.inj hsessions
            rcases List.mem_cons.mp hmem with rfl | hlater
            · refine ⟨i, (hheld i (by omega)).trans ?_⟩
              exact Function.update_self _ _ s.held
            · exact hall more (congrArg Prod.fst hrest) session' hlater

/-- The writes of a call of a user. -/
theorem exec_writes (op : VirtualDesktopSession → Operation) (sessions : List VirtualDesktopSession)
    (s : State) (hheld : ∀ session ∈ sessions, ∃ n, s.held n = some session) :
    ∃ accesses s', (system hours).exec s accesses = some s' ∧
      s'.sessions = ((Proc.forEach (fun session => carryOut ((op session).handling session))
        sessions).run s.sessions).2 := by
  induction sessions generalizing s with
  | nil => exact ⟨[], s, rfl, rfl⟩
  | cons session rest ih =>
    obtain ⟨n, hn⟩ := hheld session List.mem_cons_self
    have hnext := next_write hours hn (op session)
    rw [Proc.forEach_cons, Proc.run_bind]
    rcases hrun : (carryOut ((op session).handling session)).run s.sessions with ⟨e | u, t⟩
    · refine ⟨[.write n (op session)], s.withSessions t, ?_, rfl⟩
      rw [System.exec_cons, hnext, hrun]
      rfl
    · obtain ⟨accesses, s', hexec, htable⟩ :=
        ih (s.withSessions t) fun session' hmem => hheld session' (List.mem_cons_of_mem _ hmem)
      refine ⟨.write n (op session) :: accesses, s', ?_, htable⟩
      rw [System.exec_cons, hnext, hrun]
      exact hexec

end ContainRes.VirtualDesktop.Lifecycle
