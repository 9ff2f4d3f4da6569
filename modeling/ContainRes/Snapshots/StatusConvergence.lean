import ContainRes.Snapshots.StatusUpdate
import ContainRes.Systems.Guarded

/-! # The status of a snapshot over all runs

Any number of `list_snapshots` calls on any number of snapshots, whose accesses come in any order with exports that
end, `ClientError`s with and without an effect, and calls that are cut off. A call updates the snapshots that it
found in progress, one after the other.

* **`World`**, **`Label`**, **`listSnapshots`** — the system.
* **`Careful`** — the steps that keep to the truth: the handler of a `ClientError` writes `FAILED` only where an
  export has failed, and no call is cut off or derailed between the metadata that completes a snapshot and the row.
* **`Invariant`** — what holds of a snapshot and the calls that are at work on it.
* **`status_converges`** — in the runs of careful steps the status is true and final, and an undisturbed call brings
  it up to date.
* **`in_progress_forever`** — a call that is cut off between its two writes leaves the snapshot in progress. -/

namespace ContainRes.Snapshots.StatusUpdate

open Systems Function

/-! ## The system -/

/-- The key of a snapshot: the bucket and the path. -/
abbrev SnapshotKey : Type := String × String

/-- A call of `list_snapshots`. -/
inductive Call
  | idle
  /-- The update of a snapshot has come to a phase; the snapshots in the queue were in progress too. -/
  | active (key : SnapshotKey) (ph : Phase) (queue : List SnapshotKey)
  | ended

/-- The call goes on with the next snapshot. -/
def proceed : List SnapshotKey → Call
  | [] => .ended
  | key :: queue => .active key .getObject queue

/-- The call after an access. -/
def Continuation.call (key : SnapshotKey) (queue : List SnapshotKey) : Continuation → Call
  | .phase ph => .active key ph queue
  | .returned => proceed queue
  | .raised => .ended

/-- The snapshots and the calls. -/
structure World where
  snapshots : SnapshotKey → Stored
  calls : ℕ → Call

/-- A step. -/
inductive Label
  /-- An export ends. -/
  | endExport (key : SnapshotKey) (table : String) (latest : ExportDescription)
  /-- A call lists snapshots: the rows of a page that meet its filters. -/
  | start (i : ℕ) (listing : List SnapshotKey)
  /-- The access of a call is answered. -/
  | answer (i : ℕ)
  /-- The access of a call raises a `ClientError`, after it took effect or without an effect. -/
  | clientError (i : ℕ) (message : String) (tookEffect : Bool)
  /-- A call is cut off, or ends with another exception. -/
  | crash (i : ℕ)

/-- What the access of a phase leaves when it took effect, or not. -/
def interrupted (ph : Phase) (st : Stored) (tookEffect : Bool) : Stored :=
  if tookEffect then (answer ph st).2 else st

/-- The world with the snapshot of a call, and the call, as given. -/
def World.resume (w : World) (i : ℕ) (key : SnapshotKey) (call : Call) (st : Stored) : World where
  snapshots := update w.snapshots key st
  calls := update w.calls i call

@[simp] theorem World.snapshots_resume_self (w : World) (i : ℕ) (key : SnapshotKey) (call : Call) (st : Stored) :
    (w.resume i key call st).snapshots key = st := update_self _ _ _

variable {w : World}

theorem World.snapshots_resume_of_ne {i : ℕ} {key key' : SnapshotKey} {call : Call} {st : Stored}
    (h : key' ≠ key) : (w.resume i key call st).snapshots key' = w.snapshots key' := update_of_ne h _ _

@[simp] theorem World.calls_resume_self (w : World) (i : ℕ) (key : SnapshotKey) (call : Call) (st : Stored) :
    (w.resume i key call st).calls i = call := update_self _ _ _

/-- The snapshot after an export has ended. -/
def Stored.endExport (st : Stored) (table : String) (latest : ExportDescription) : Stored :=
  { st with exports := update st.exports table latest }

/-- A step of the world. -/
def World.next (w : World) : Label → Option World
  | .endExport key table latest =>
    if ((w.snapshots key).exports table).exportStatus = .inProgress ∧ latest.exportStatus ≠ .inProgress then
      some { w with snapshots := update w.snapshots key ((w.snapshots key).endExport table latest) }
    else none
  | .start i listing =>
    match w.calls i with
    | .idle =>
      if listing.Nodup then
        some { w with
          calls := update w.calls i
            (proceed (listing.filter fun key => (w.snapshots key).row.status = .inProgress)) }
      else none
    | _ => none
  | .answer i =>
    match w.calls i with
    | .active key ph queue =>
      let r := StatusUpdate.answer ph (w.snapshots key)
      some (w.resume i key (r.1.call key queue) r.2)
    | _ => none
  | .clientError i message tookEffect =>
    match w.calls i with
    | .active key ph queue =>
      some (w.resume i key ((ph.failWith message).call key queue) (interrupted ph (w.snapshots key) tookEffect))
    | _ => none
  | .crash i =>
    match w.calls i with
    | .active _ _ _ => some { w with calls := update w.calls i .ended }
    | _ => none

/-- The snapshots that `create_snapshot` has created: in progress, with exports that were in progress, and no call
has started. -/
structure IsCreated (w : World) : Prop where
  metadata : ∀ key table, ((w.snapshots key).metadata table).exportStatus = .inProgress
  status : ∀ key, (w.snapshots key).row.status = .inProgress
  calls : ∀ i, w.calls i = .idle

/-- The calls of `list_snapshots`. -/
def listSnapshots : System World Label where
  init := IsCreated
  next := World.next

/-! ## Careful steps -/

/-- Another call is about to set the status of the snapshot to completed. -/
def AnotherCompletes (w : World) (i : ℕ) (key : SnapshotKey) : Prop :=
  ∃ j, j ≠ i ∧ ∃ message queue, w.calls j = .active key (.updateItem .completed message) queue

/-- The call may be taken away from the snapshot: if all exports are recorded as completed and the row is in
progress, another call completes it. -/
def MayLeave (w : World) (i : ℕ) (key : SnapshotKey) (st : Stored) : Prop :=
  AllCompleted st.metadata → st.row.status = .inProgress → AnotherCompletes w i key

/-- The status `FAILED` is or becomes the truth. -/
def HasFailed (st : Stored) : Prop := st.row.status = .failed ∨ SomeFailed st.exports

/-- The steps that keep to the truth. -/
def Careful (w : World) : Label → Prop
  | .answer i => ∀ key message queue, w.calls i = .active key (.handleError message) queue →
      HasFailed (w.snapshots key)
  | .clientError i _ tookEffect => ∀ key ph queue, w.calls i = .active key ph queue →
      (tookEffect = true → (∃ message, ph = .handleError message) → HasFailed (w.snapshots key)) ∧
        MayLeave w i key (interrupted ph (w.snapshots key) tookEffect)
  | .crash i => ∀ key ph queue, w.calls i = .active key ph queue → MayLeave w i key (w.snapshots key)
  | _ => True

/-! ## What holds of a phase -/

/-- What the loop knows after the tables `done`: its descriptions are no more than the exports, a failure is among
them, and without one the completed exports are counted. -/
structure Progress.Ok (exports : ExportDescriptions) (done : List String) (p : Progress) : Prop where
  known : Advances p.tableExportDescriptions exports
  failed : p.isExportFailed = true → SomeFailed p.tableExportDescriptions
  counted : p.isExportFailed = false → p.exportCompletedTablesCount =
    done.countP fun table => (p.tableExportDescriptions table).exportStatus = .completed

/-- What holds where an update has come to a phase. -/
def Phase.Ok (exports : ExportDescriptions) : Phase → Prop
  | .describeExport table rest p => ∃ done, dynamodbTablesToExport = done ++ table :: rest ∧ p.Ok exports done
  | .putObject p => p.Ok exports dynamodbTablesToExport
  | .updateItem status _ => (status = .completed ∧ AllCompleted exports) ∨ (status = .failed ∧ SomeFailed exports)
  | _ => True

/-- What holds after an access. -/
def Continuation.Ok (exports : ExportDescriptions) : Continuation → Prop
  | .phase ph => ph.Ok exports
  | _ => True

theorem Progress.Ok.advances {d e : ExportDescriptions} (h : Advances d e) {done : List String} {p : Progress}
    (hp : p.Ok d done) : p.Ok e done := ⟨hp.known.trans h, hp.failed, hp.counted⟩

/-- It goes on to hold when exports end. -/
theorem Phase.Ok.advances {d e : ExportDescriptions} (h : Advances d e) {ph : Phase} (hph : ph.Ok d) : ph.Ok e := by
  cases ph with
  | getObject => exact trivial
  | describeExport table rest p =>
    obtain ⟨done, htables, hp⟩ := hph
    exact ⟨done, htables, hp.advances h⟩
  | putObject p => exact Progress.Ok.advances h hph
  | updateItem status message =>
    rcases hph with ⟨hstatus, hall⟩ | ⟨hstatus, hsome⟩
    · exact .inl ⟨hstatus, hall.advances h⟩
    · exact .inr ⟨hstatus, hsome.advances h⟩
  | handleError message => exact trivial

theorem nodup_dynamodbTablesToExport : dynamodbTablesToExport.Nodup := by decide

section Loop

variable {exports : ExportDescriptions} {done rest : List String} {table : String} {p : Progress}

/-- A recorded export is counted. -/
theorem Progress.Ok.count (hp : p.Ok exports done)
    (hcompleted : (p.tableExportDescriptions table).exportStatus = .completed) :
    p.count.Ok exports (done ++ [table]) := by
  refine ⟨hp.known, hp.failed, fun h => ?_⟩
  have hcounted := hp.counted h
  show p.exportCompletedTablesCount + 1 =
    (done ++ [table]).countP fun t => (p.tableExportDescriptions t).exportStatus = .completed
  rw [List.countP_append, ← hcounted]
  simp [hcompleted]

/-- A described export is counted, or its failure noted. -/
theorem Progress.Ok.describe (hp : p.Ok exports done) (htables : dynamodbTablesToExport = done ++ table :: rest) :
    Progress.Ok exports (done ++ [table]) (p.describe table (exports table)) := by
  have hnodup := nodup_dynamodbTablesToExport
  rw [htables] at hnodup
  have hnew : table ∉ done := fun hmem =>
    (List.nodup_append.mp hnodup).2.2 table hmem table List.mem_cons_self rfl
  have hmem : table ∈ dynamodbTablesToExport := by
    rw [htables]
    exact List.mem_append_right done List.mem_cons_self
  unfold Progress.describe
  rcases hlatest : (exports table).exportStatus with _ | _ | _
  · -- an export that is in progress is not recorded as completed
    have hrecorded : (p.tableExportDescriptions table).exportStatus = .inProgress := by
      rcases hp.known table with hprogress | heq
      · exact hprogress
      · rw [← heq]
        exact hlatest
    refine ⟨hp.known, hp.failed, fun h => ?_⟩
    rw [List.countP_append, ← hp.counted h]
    simp [hrecorded]
  · refine ⟨hp.known.update table, fun h => ?_, fun h => ?_⟩
    · obtain ⟨t, ht, hfailed⟩ := hp.failed h
      refine ⟨t, ht, ?_⟩
      have hne : t ≠ table := by
        rintro rfl
        rw [← hp.known.eq (by rw [hfailed]; decide), hlatest] at hfailed
        cases hfailed
      show (update p.tableExportDescriptions table (exports table) t).exportStatus = .failed
      rw [update_of_ne hne]
      exact hfailed
    · -- the tables before keep their descriptions
      have hbefore : done.countP (fun t =>
            (update p.tableExportDescriptions table (exports table) t).exportStatus = .completed) =
          done.countP fun t => (p.tableExportDescriptions t).exportStatus = .completed := by
        refine List.countP_congr fun t ht => ?_
        have hne : t ≠ table := by
          rintro rfl
          exact hnew ht
        rw [update_of_ne hne]
      show p.exportCompletedTablesCount + 1 = (done ++ [table]).countP _
      rw [List.countP_append, hbefore, ← hp.counted h]
      simp [hlatest]
  · refine ⟨hp.known.update table, fun _ => ⟨table, hmem, ?_⟩, fun h => nomatch h⟩
    show (update p.tableExportDescriptions table (exports table) table).exportStatus = .failed
    rw [update_self, hlatest]

/-- The loop over the remaining tables. -/
theorem ok_checkTables (hp : p.Ok exports done) (htables : dynamodbTablesToExport = done ++ rest) :
    (checkTables rest p).Ok exports := by
  have hafter : ∀ q : Progress, q.Ok exports dynamodbTablesToExport → (afterLoop q).Ok exports := by
    intro q hq
    unfold afterLoop
    split
    · exact hq
    · exact trivial
  induction rest generalizing done p with
  | nil =>
    rw [List.append_nil] at htables
    exact hafter p (htables ▸ hp)
  | cons table rest ih =>
    unfold checkTables
    split
    · exact ⟨done, htables, hp⟩
    · rename_i hcompleted
      refine ih (hp.count hcompleted) ?_
      rw [htables, List.append_assoc, List.singleton_append]
    · rename_i hfailed
      refine hafter _ ⟨hp.known, fun _ => ⟨table, ?_, hfailed⟩, fun h => nomatch h⟩
      rw [htables]
      exact List.mem_append_right done List.mem_cons_self

end Loop

/-! ## One access -/

/-- The status of a row stays, or goes from in progress to the truth. -/
def StatusStep (st st' : Stored) : Prop :=
  st'.row.status = st.row.status ∨ st.row.status = .inProgress ∧
    (st'.row.status = .completed ∧ AllCompleted st.exports ∨ st'.row.status = .failed ∧ SomeFailed st.exports)

/-- The status of a row is the truth about the exports. -/
structure StatusTrue (st : Stored) : Prop where
  completed : st.row.status = .completed → AllCompleted st.exports
  failed : st.row.status = .failed → SomeFailed st.exports

/-- A true status is followed by a true one. -/
theorem StatusTrue.step {st st' : Stored} (h : StatusTrue st) (hexports : Advances st.exports st'.exports)
    (hstep : StatusStep st st') : StatusTrue st' := by
  rcases hstep with hsame | ⟨-, ⟨hstatus, hall⟩ | ⟨hstatus, hsome⟩⟩
  · exact ⟨fun hc => (h.completed (hsame ▸ hc)).advances hexports, fun hf => (h.failed (hsame ▸ hf)).advances hexports⟩
  · refine ⟨fun _ => hall.advances hexports, fun hf => ?_⟩
    exact absurd (hstatus.symm.trans hf) (by decide)
  · refine ⟨fun hc => ?_, fun _ => hsome.advances hexports⟩
    exact absurd (hstatus.symm.trans hc) (by decide)

section Access

variable {ph : Phase} {st : Stored}

/-- A write of the truth over a true status. -/
theorem statusStep_update (htrue : StatusTrue st) {status : SnapshotStatus} (message : Option String)
    (hne : st.row.status ≠ status)
    (hstatus : status = .completed ∧ AllCompleted st.exports ∨ status = .failed ∧ SomeFailed st.exports) :
    StatusStep st { st with row := st.row.update status message } := by
  refine .inr ⟨?_, hstatus⟩
  rcases hrow : st.row.status with _ | _ | _
  · rfl
  · rcases hstatus with ⟨rfl, -⟩ | ⟨-, hsome⟩
    · exact absurd hrow hne
    · exact absurd hsome (htrue.completed hrow).not_someFailed
  · rcases hstatus with ⟨-, hall⟩ | ⟨rfl, -⟩
    · exact absurd (htrue.failed hrow) hall.not_someFailed
    · exact absurd hrow hne

/-- An access keeps the status true, if the handler of an error writes the truth. -/
theorem statusStep_answer (htrue : StatusTrue st) (hph : ph.Ok st.exports)
    (herror : (∃ message, ph = .handleError message) → HasFailed st) : StatusStep st (answer ph st).2 := by
  cases ph with
  | getObject => exact .inl rfl
  | describeExport table rest p => exact .inl rfl
  | putObject p => exact .inl rfl
  | updateItem status message =>
    rw [answer]
    split
    · exact .inl rfl
    · rename_i hne
      exact statusStep_update htrue message hne hph
  | handleError message =>
    rw [answer]
    split
    · exact .inl rfl
    · rename_i hne
      have hsome := (herror ⟨message, rfl⟩).resolve_left hne
      exact statusStep_update htrue (some message) hne (.inr ⟨rfl, hsome⟩)

/-- The metadata stays no more than the exports. -/
theorem advances_answer (hknown : Advances st.metadata st.exports) (hph : ph.Ok st.exports) :
    Advances (answer ph st).2.metadata st.exports := by
  cases ph with
  | getObject => exact hknown
  | describeExport table rest p => exact hknown
  | putObject p => exact hph.known
  | updateItem status message =>
    rw [answer]
    split <;> exact hknown
  | handleError message =>
    rw [answer]
    split <;> exact hknown

/-- What comes after an access is sound. -/
theorem ok_answer (hknown : Advances st.metadata st.exports) (hph : ph.Ok st.exports) :
    (answer ph st).1.Ok st.exports := by
  cases ph with
  | getObject =>
    have hstart : (Progress.start st.metadata).Ok st.exports [] :=
      ⟨hknown, (fun h => nomatch h), fun _ => rfl⟩
    exact ok_checkTables hstart rfl
  | describeExport table rest p =>
    obtain ⟨done, htables, hp⟩ := hph
    refine ok_checkTables (hp.describe htables) ?_
    rw [htables, List.append_assoc, List.singleton_append]
  | putObject p =>
    show (afterPut p).Ok st.exports
    unfold afterPut
    split
    · rename_i hfailed
      exact .inr ⟨rfl, (hph.failed hfailed).advances hph.known⟩
    · rename_i hfailed
      split
      · rename_i hcount
        -- all tables are counted, so each of them is completed
        have hcounted := hph.counted (Bool.eq_false_iff.mpr hfailed)
        rw [hcount, eq_comm, List.countP_eq_length] at hcounted
        have hall : AllCompleted p.tableExportDescriptions := fun table htable =>
          of_decide_eq_true (hcounted table htable)
        exact .inl ⟨rfl, hall.advances hph.known⟩
      · exact trivial
  | updateItem status message =>
    rw [answer]
    split <;> exact trivial
  | handleError message =>
    rw [answer]
    split <;> exact trivial

/-- After an access that leaves all exports recorded as completed and the row in progress, the update is about to
complete the row, or it has changed neither and was not about to complete the row. -/
theorem recorded_answer (hph : ph.Ok st.exports) (hrecorded : AllCompleted (answer ph st).2.metadata)
    (hrow : (answer ph st).2.row.status = .inProgress) : (answer ph st).1 = .phase (.updateItem .completed none) ∨
      AllCompleted st.metadata ∧ st.row.status = .inProgress ∧ ∀ message, ph ≠ .updateItem .completed message := by
  cases ph with
  | getObject => exact .inr ⟨hrecorded, hrow, fun _ h => nomatch h⟩
  | describeExport table rest p => exact .inr ⟨hrecorded, hrow, fun _ h => nomatch h⟩
  | putObject p =>
    have hall : AllCompleted p.tableExportDescriptions := hrecorded
    have hfailed : p.isExportFailed = false := by
      rcases hflag : p.isExportFailed with _ | _
      · rfl
      · exact absurd (hph.failed hflag) hall.not_someFailed
    have hcount : p.exportCompletedTablesCount = dynamodbTablesToExport.length := by
      rw [hph.counted hfailed, List.countP_eq_length]
      exact fun table htable => decide_eq_true (hall table htable)
    left
    show afterPut p = _
    unfold afterPut
    rw [hfailed, if_neg Bool.false_ne_true, if_pos hcount]
  | updateItem status message =>
    rw [answer] at hrow
    have hstatus : status ≠ .inProgress := by
      rcases hph with ⟨rfl, -⟩ | ⟨rfl, -⟩ <;> decide
    split at hrow
    · rename_i heq
      exact absurd (heq.symm.trans hrow) hstatus
    · exact absurd hrow hstatus
  | handleError message =>
    rw [answer] at hrow
    split at hrow
    · rename_i heq
      rw [heq] at hrow
      cases hrow
    · cases hrow

end Access

/-! ## The invariant -/

/-- What holds of a snapshot and of the calls that are at work on it. -/
structure Invariant (w : World) (key : SnapshotKey) : Prop where
  /-- The metadata records no more than the exports. -/
  known : Advances (w.snapshots key).metadata (w.snapshots key).exports
  status : StatusTrue (w.snapshots key)
  phases : ∀ i ph queue, w.calls i = .active key ph queue → ph.Ok (w.snapshots key).exports
  /-- When all exports are recorded as completed and the row is in progress, a call is about to complete it. -/
  recorded : AllCompleted (w.snapshots key).metadata → (w.snapshots key).row.status = .inProgress →
    ∃ i message queue, w.calls i = .active key (.updateItem .completed message) queue

theorem invariant_init (h : IsCreated w) (key : SnapshotKey) : Invariant w key where
  known table := .inl (h.metadata key table)
  status :=
    ⟨fun hc => absurd ((h.status key).symm.trans hc) (by decide),
      fun hf => absurd ((h.status key).symm.trans hf) (by decide)⟩
  phases i ph queue hcall := by
    rw [h.calls] at hcall
    cases hcall
  recorded hall := by
    have hfirst := hall "accounts.group-members" List.mem_cons_self
    rw [h.metadata] at hfirst
    cases hfirst

section Step

variable {w w' : World} {i : ℕ} {key : SnapshotKey}

/-- Where a call that is not about to complete the row could go, another one completes it. -/
theorem Invariant.mayLeave (h : Invariant w key)
    (hnot : ∀ message queue, w.calls i ≠ .active key (.updateItem .completed message) queue) :
    MayLeave w i key (w.snapshots key) := by
  intro hall hrow
  obtain ⟨j, message, queue, hj⟩ := h.recorded hall hrow
  refine ⟨j, ?_, message, queue, hj⟩
  rintro rfl
  exact hnot message queue hj

/-- A step of one call. -/
theorem Invariant.step (h : Invariant w key) {c : Call} (hcalls : w'.calls = update w.calls i c)
    (hexports : (w'.snapshots key).exports = (w.snapshots key).exports)
    (hknown : Advances (w'.snapshots key).metadata (w.snapshots key).exports)
    (hstatus : StatusStep (w.snapshots key) (w'.snapshots key))
    (hphase : ∀ ph queue, c = .active key ph queue → ph.Ok (w.snapshots key).exports)
    (hrecorded : AllCompleted (w'.snapshots key).metadata → (w'.snapshots key).row.status = .inProgress →
      (∃ message queue, c = .active key (.updateItem .completed message) queue) ∨ AnotherCompletes w i key) :
    Invariant w' key where
  known := by
    rw [hexports]
    exact hknown
  status := h.status.step (hexports ▸ Advances.refl _) hstatus
  phases j ph queue hj := by
    rw [hcalls] at hj
    rw [hexports]
    by_cases hij : j = i
    · subst hij
      rw [update_self] at hj
      exact hphase ph queue hj
    · rw [update_of_ne hij] at hj
      exact h.phases j ph queue hj
  recorded hall hrow := by
    rw [hcalls]
    rcases hrecorded hall hrow with ⟨message, queue, hc⟩ | ⟨j, hji, message, queue, hj⟩
    · exact ⟨i, message, queue, by rw [update_self, hc]⟩
    · exact ⟨j, message, queue, by rw [update_of_ne hji, hj]⟩

/-- A careful step of a call that is at work on a snapshot: what it leaves of the snapshot and of the call. -/
structure Resumption (w : World) (i : ℕ) (key : SnapshotKey) (c : Call) (st : Stored) : Prop where
  exports : st.exports = (w.snapshots key).exports
  known : Advances st.metadata (w.snapshots key).exports
  status : StatusStep (w.snapshots key) st
  /-- The call goes on with this snapshot, or begins with another one. -/
  phase : ∀ k ph queue, c = .active k ph queue → ph = .getObject ∨ k = key ∧ ph.Ok (w.snapshots key).exports
  recorded : AllCompleted st.metadata → st.row.status = .inProgress →
    (∃ message queue, c = .active key (.updateItem .completed message) queue) ∨ AnotherCompletes w i key

/-- The call after a sound access. -/
theorem phase_call {exports : ExportDescriptions} {r : Continuation} (hr : r.Ok exports)
    {queue queue' : List SnapshotKey} {k : SnapshotKey} {ph : Phase} (h : r.call key queue = .active k ph queue') :
    ph = .getObject ∨ k = key ∧ ph.Ok exports := by
  cases r with
  | phase ph' =>
    obtain ⟨rfl, rfl, -⟩ := Call.active.inj h
    exact .inr ⟨rfl, hr⟩
  | returned =>
    cases queue with
    | nil => cases h
    | cons next queue =>
      obtain ⟨-, rfl, -⟩ := Call.active.inj h
      exact .inl rfl
  | raised => cases h

variable {ph : Phase} {queue : List SnapshotKey}

/-- An access that is answered. -/
theorem resumption_answer (h : Invariant w key) (hcall : w.calls i = .active key ph queue)
    (hcareful : (∃ message, ph = .handleError message) → HasFailed (w.snapshots key)) :
    Resumption w i key ((answer ph (w.snapshots key)).1.call key queue) (answer ph (w.snapshots key)).2 := by
  have hph := h.phases i ph queue hcall
  refine { exports := exports_answer ph _, known := advances_answer h.known hph
           status := statusStep_answer h.status hph hcareful
           phase := fun k ph' queue' hc => phase_call (ok_answer h.known hph) hc, recorded := fun hall hrow => ?_ }
  rcases recorded_answer hph hall hrow with hnext | ⟨hall', hrow', hnot⟩
  · exact .inl ⟨none, queue, by rw [hnext]; rfl⟩
  · refine .inr (h.mayLeave (fun message queue' hc => ?_) hall' hrow')
    rw [hcall] at hc
    obtain ⟨-, hsame, -⟩ := Call.active.inj hc
    exact hnot message hsame

/-- A `ClientError`. -/
theorem resumption_clientError (h : Invariant w key) (hcall : w.calls i = .active key ph queue) (message : String)
    {tookEffect : Bool}
    (hcareful : tookEffect = true → (∃ message, ph = .handleError message) → HasFailed (w.snapshots key))
    (hleave : MayLeave w i key (interrupted ph (w.snapshots key) tookEffect)) :
    Resumption w i key ((ph.failWith message).call key queue) (interrupted ph (w.snapshots key) tookEffect) := by
  have hph := h.phases i ph queue hcall
  have hok : (ph.failWith message).Ok (w.snapshots key).exports := by
    cases ph <;> exact trivial
  have hphase : ∀ k ph' queue', (ph.failWith message).call key queue = .active k ph' queue' →
      ph' = .getObject ∨ k = key ∧ ph'.Ok (w.snapshots key).exports :=
    fun k ph' queue' hc => phase_call hok hc
  cases tookEffect with
  | false =>
    exact { exports := rfl, known := h.known, status := .inl rfl, phase := hphase
            recorded := fun hall hrow => .inr (hleave hall hrow) }
  | true =>
    exact { exports := exports_answer ph _, known := advances_answer h.known hph
            status := statusStep_answer h.status hph (hcareful rfl), phase := hphase
            recorded := fun hall hrow => .inr (hleave hall hrow) }

theorem resumption_crash (h : Invariant w key) (hleave : MayLeave w i key (w.snapshots key)) :
    Resumption w i key .ended (w.snapshots key) where
  exports := rfl
  known := h.known
  status := .inl rfl
  phase _ _ _ hc := nomatch hc
  recorded hall hrow := .inr (hleave hall hrow)

end Step

/-- **What a careful step can do**: an export ends, a call starts, or a call goes on or ends. -/
theorem next_cases {w w' : World} {l : Label} (h : ∀ key, Invariant w key) (hcareful : Careful w l)
    (hnext : w.next l = some w') : (∃ key table latest, l = .endExport key table latest ∧
        ((w.snapshots key).exports table).exportStatus = .inProgress ∧
        w' = { w with snapshots := update w.snapshots key ((w.snapshots key).endExport table latest) }) ∨
      (∃ i queue, w.calls i = .idle ∧ w' = { w with calls := update w.calls i (proceed queue) }) ∨
      ∃ i key ph queue c st, w.calls i = .active key ph queue ∧ Resumption w i key c st ∧
        w' = w.resume i key c st := by
  cases l with
  | endExport key table latest =>
    unfold World.next at hnext
    dsimp only at hnext
    split at hnext
    · rename_i henabled
      exact .inl ⟨key, table, latest, rfl, henabled.1, (Option.some.inj hnext).symm⟩
    · cases hnext
  | start i listing =>
    unfold World.next at hnext
    dsimp only at hnext
    split at hnext
    · rename_i hidle
      split at hnext
      · exact .inr (.inl ⟨i, _, hidle, (Option.some.inj hnext).symm⟩)
      · cases hnext
    · cases hnext
  | answer i =>
    unfold World.next at hnext
    dsimp only at hnext
    split at hnext
    · rename_i key ph queue hcall
      refine .inr (.inr ⟨i, key, ph, queue, _, _, hcall, resumption_answer (h key) hcall ?_,
        (Option.some.inj hnext).symm⟩)
      rintro ⟨message, rfl⟩
      exact hcareful key message queue hcall
    · cases hnext
  | clientError i message tookEffect =>
    unfold World.next at hnext
    dsimp only at hnext
    split at hnext
    · rename_i key ph queue hcall
      obtain ⟨hwrites, hleave⟩ := hcareful key ph queue hcall
      exact .inr (.inr ⟨i, key, ph, queue, _, _, hcall,
        resumption_clientError (h key) hcall message hwrites hleave, (Option.some.inj hnext).symm⟩)
    · cases hnext
  | crash i =>
    unfold World.next at hnext
    dsimp only at hnext
    split at hnext
    · rename_i key ph queue hcall
      refine .inr (.inr ⟨i, key, ph, queue, _, _, hcall, resumption_crash (h key) (hcareful key ph queue hcall), ?_⟩)
      rw [← Option.some.inj hnext, World.resume, update_eq_self]
    · cases hnext

/-- A careful step changes the status of a snapshot only from in progress, and to the truth. -/
theorem statusStep_next {w w' : World} {l : Label} (h : ∀ key, Invariant w key) (hcareful : Careful w l)
    (hnext : w.next l = some w') (key : SnapshotKey) : StatusStep (w.snapshots key) (w'.snapshots key) := by
  rcases next_cases h hcareful hnext with
    ⟨key', table, latest, -, -, rfl⟩ | ⟨i, queue, -, rfl⟩ | ⟨i, key', ph, queue, c, st, -, hres, rfl⟩
  · refine .inl ?_
    dsimp only
    by_cases hkey : key = key'
    · subst hkey
      rw [update_self]
      rfl
    · rw [update_of_ne hkey]
  · exact .inl rfl
  · by_cases hkey : key = key'
    · subst hkey
      rw [World.snapshots_resume_self]
      exact hres.status
    · rw [World.snapshots_resume_of_ne hkey]
      exact .inl rfl

/-- **Step lemma.** A careful step keeps the invariant. -/
theorem invariant_next {w w' : World} {l : Label} (h : ∀ key, Invariant w key) (hcareful : Careful w l)
    (hnext : w.next l = some w') (key : SnapshotKey) : Invariant w' key := by
  have hstatus := statusStep_next h hcareful hnext key
  rcases next_cases h hcareful hnext with
    ⟨key', table, latest, -, hprogress, rfl⟩ | ⟨i, queue, hidle, rfl⟩ | ⟨i, key', ph, queue, c, st, hcall, hres, rfl⟩
  · -- the exports go on, and the calls and the rest of the snapshot stay
    generalize hafter : update w.snapshots key' ((w.snapshots key').endExport table latest) = snapshots at hstatus ⊢
    have hsnapshot : Advances (w.snapshots key).exports (snapshots key).exports ∧
        (snapshots key).metadata = (w.snapshots key).metadata ∧ (snapshots key).row = (w.snapshots key).row := by
      by_cases hkey : key = key'
      · subst hkey
        rw [← hafter, update_self]
        refine ⟨fun t => ?_, rfl, rfl⟩
        by_cases ht : t = table
        · subst ht
          exact .inl hprogress
        · exact .inr (update_of_ne ht _ _)
      · rw [← hafter, update_of_ne hkey]
        exact ⟨Advances.refl _, rfl, rfl⟩
    obtain ⟨hadvances, hmetadata, hrow⟩ := hsnapshot
    refine { known := ?_, status := (h key).status.step hadvances hstatus, phases := fun i ph queue hi =>
              ((h key).phases i ph queue hi).advances hadvances, recorded := fun hall hprogress' => ?_ }
    · show Advances (snapshots key).metadata (snapshots key).exports
      rw [hmetadata]
      exact (h key).known.trans hadvances
    · refine (h key).recorded ?_ ?_
      · rw [← hmetadata]
        exact hall
      · rw [← hrow]
        exact hprogress'
  · refine (h key).step rfl rfl (h key).known hstatus (fun ph queue' hc => ?_) fun hall hrow => .inr ?_
    · cases queue with
      | nil => cases hc
      | cons next queue =>
        obtain ⟨-, rfl, -⟩ := Call.active.inj hc
        exact trivial
    · refine (h key).mayLeave (fun message queue' hc => ?_) hall hrow
      rw [hidle] at hc
      cases hc
  · by_cases hkey : key = key'
    · subst hkey
      refine (h key).step rfl ?_ ?_ hstatus (fun ph' queue' hc => ?_) ?_
      · rw [World.snapshots_resume_self]
        exact hres.exports
      · rw [World.snapshots_resume_self]
        exact hres.known
      · rcases hres.phase key ph' queue' hc with rfl | ⟨-, hok⟩
        · exact trivial
        · exact hok
      · rw [World.snapshots_resume_self]
        exact hres.recorded
    · have hsame : (w.resume i key' c st).snapshots key = w.snapshots key := World.snapshots_resume_of_ne hkey
      refine (h key).step rfl ?_ ?_ hstatus (fun ph' queue' hc => ?_) ?_
      · rw [hsame]
      · rw [hsame]
        exact (h key).known
      · rcases hres.phase key ph' queue' hc with rfl | ⟨heq, -⟩
        · exact trivial
        · exact absurd heq hkey
      · rw [hsame]
        refine fun hall hrow => .inr ((h key).mayLeave (fun message queue' hc => ?_) hall hrow)
        rw [hcall] at hc
        exact hkey (Call.active.inj hc).1.symm

theorem invariant_of_reach (h : listSnapshots.Reach Careful w) : ∀ key, Invariant w key :=
  h.invariant (I := fun w => ∀ key, Invariant w key) (fun _ hinit => invariant_init hinit)
    fun _ _ _ hI hcareful hnext => invariant_next hI hcareful hnext

/-! ## A call that nothing disturbs -/

section Alone

variable {i : ℕ} {key : SnapshotKey}

theorem World.next_answer {ph : Phase} {queue : List SnapshotKey} (hcall : w.calls i = .active key ph queue) :
    w.next (.answer i) = some (w.resume i key ((answer ph (w.snapshots key)).1.call key queue)
      (answer ph (w.snapshots key)).2) := by
  unfold World.next
  dsimp only
  rw [hcall]

theorem World.resume_resume (w : World) (i : ℕ) (key : SnapshotKey) (c c' : Call) (st st' : Stored) :
    (w.resume i key c st).resume i key c' st' = w.resume i key c' st' := by
  unfold World.resume
  rw [update_idem, update_idem]

/-- An update that returns alone does so in the world. -/
theorem exec_of_leads (i : ℕ) (key : SnapshotKey) {r : Continuation} {st st' : Stored} (h : Leads r st st')
    (w : World) (queue : List SnapshotKey) :
    ∃ n, listSnapshots.exec (w.resume i key (r.call key queue) st) (List.replicate n (.answer i)) =
      some (w.resume i key (proceed queue) st') := by
  induction h with
  | returned => exact ⟨0, rfl⟩
  | @phase ph st st' h ih =>
    obtain ⟨n, hn⟩ := ih
    refine ⟨n + 1, ?_⟩
    rw [List.replicate_succ, System.exec_cons]
    have hcall : (w.resume i key (.active key ph queue) st).calls i = .active key ph queue :=
      World.calls_resume_self w i key _ st
    have hnext := World.next_answer hcall
    rw [World.snapshots_resume_self, World.resume_resume] at hnext
    show ((w.resume i key (.active key ph queue) st).next (.answer i)).bind _ = _
    rw [hnext]
    exact hn

/-- What an undisturbed update makes of a snapshot in progress. -/
structure Updated (st st' : Stored) : Prop where
  failed : SomeFailed st.exports → st'.row.status = .failed
  completed : AllCompleted st.exports → ¬ AllCompleted st.metadata → st'.row.status = .completed

/-- A call goes through its queue and updates each of its snapshots. -/
theorem exec_queue (queue : List SnapshotKey) (hnodup : queue.Nodup) (w : World) (hcall : w.calls i = proceed queue)
    (hready : ∀ key ∈ queue, (w.snapshots key).row.status = .inProgress ∧
      Advances (w.snapshots key).metadata (w.snapshots key).exports) :
    ∃ n w', listSnapshots.exec w (List.replicate n (.answer i)) = some w' ∧ w'.calls i = .ended ∧
      (∀ key ∈ queue, Updated (w.snapshots key) (w'.snapshots key)) ∧
      ∀ key, (w'.snapshots key).exports = (w.snapshots key).exports ∧
        (key ∉ queue → w'.snapshots key = w.snapshots key) := by
  induction queue generalizing w with
  | nil => exact ⟨0, w, rfl, hcall, fun _ h => absurd h List.not_mem_nil, fun _ => ⟨rfl, fun _ => rfl⟩⟩
  | cons key queue ih =>
    rw [List.nodup_cons] at hnodup
    obtain ⟨hrow, hknown⟩ := hready key List.mem_cons_self
    obtain ⟨st', hleads, hexports, hfailed, hcompleted⟩ := leads_getObject (w.snapshots key) hrow hknown
    -- the state before the update is the one that resumes with its first access
    have hstart : w.resume i key (.active key .getObject queue) (w.snapshots key) = w := by
      have hcalls : w.calls i = .active key .getObject queue := hcall
      unfold World.resume
      rw [update_eq_self, ← hcalls, update_eq_self]
    obtain ⟨n, hn⟩ := exec_of_leads i key hleads w queue
    rw [show (Continuation.phase .getObject).call key queue = .active key .getObject queue from rfl, hstart] at hn
    have hother : ∀ {k}, k ≠ key → (w.resume i key (proceed queue) st').snapshots k = w.snapshots k :=
      fun hk => World.snapshots_resume_of_ne hk
    obtain ⟨m, w', hm, hended, hupdated, hframe⟩ := ih hnodup.2 (w.resume i key (proceed queue) st')
      (World.calls_resume_self w i key _ st') fun k hk => by
        have hne : k ≠ key := by
          rintro rfl
          exact hnodup.1 hk
        rw [hother hne]
        exact hready k (List.mem_cons_of_mem key hk)
    have hkept : w'.snapshots key = st' := by
      rw [(hframe key).2 hnodup.1, World.snapshots_resume_self]
    refine ⟨n + m, w', ?_, hended, fun k hk => ?_, fun k => ⟨?_, fun hk => ?_⟩⟩
    · rw [List.replicate_add, System.exec_append, hn]
      exact hm
    · rcases List.mem_cons.mp hk with rfl | hlater
      · rw [hkept]
        exact ⟨hfailed, hcompleted⟩
      · have hne : k ≠ key := by
          rintro rfl
          exact hnodup.1 hlater
        have hthis := hupdated k hlater
        rw [hother hne] at hthis
        exact hthis
    · rw [(hframe k).1]
      by_cases hk : k = key
      · subst hk
        rw [World.snapshots_resume_self]
        exact hexports
      · rw [hother hk]
    · rw [List.mem_cons, not_or] at hk
      rw [(hframe k).2 hk.2, hother hk.1]

end Alone

/-- No call is at work on the snapshot. -/
def Quiet (w : World) (key : SnapshotKey) : Prop := ∀ i ph queue, w.calls i ≠ .active key ph queue

/-- The status of the row says what became of the exports. -/
structure UpToDate (st : Stored) : Prop where
  completed : AllCompleted st.exports → st.row.status = .completed
  failed : SomeFailed st.exports → st.row.status = .failed

/-- An undisturbed call from a state of a careful run. -/
theorem exec_listSnapshots (h : ∀ key, Invariant w key) {i : ℕ} (hidle : w.calls i = .idle)
    {listing : List SnapshotKey} (hnodup : listing.Nodup) :
    ∃ n w', listSnapshots.exec w (.start i listing :: List.replicate n (.answer i)) = some w' ∧
      w'.calls i = .ended ∧ ∀ key ∈ listing, Quiet w key → UpToDate (w'.snapshots key) := by
  let queue := listing.filter fun key => (w.snapshots key).row.status = .inProgress
  have hready : ∀ key ∈ queue, (w.snapshots key).row.status = .inProgress ∧
      Advances (w.snapshots key).metadata (w.snapshots key).exports := by
    intro key hkey
    have hstatus := (List.mem_filter.mp hkey).2
    exact ⟨of_decide_eq_true hstatus, (h key).known⟩
  obtain ⟨n, w', hexec, hended, hupdated, hframe⟩ :=
    exec_queue (i := i) queue (hnodup.filter _) { w with calls := update w.calls i (proceed queue) }
      (update_self _ _ _) hready
  refine ⟨n, w', ?_, hended, fun key hkey hquiet => ?_⟩
  · have hnext : w.next (.start i listing) = some { w with calls := update w.calls i (proceed queue) } := by
      unfold World.next
      dsimp only
      rw [hidle]
      exact if_pos hnodup
    rw [System.exec_cons]
    show (w.next (.start i listing)).bind _ = _
    rw [hnext]
    exact hexec
  · have hexports : (w'.snapshots key).exports = (w.snapshots key).exports := (hframe key).1
    by_cases hmem : key ∈ queue
    · -- with no call at work, the metadata does not record all exports as completed
      have hrow := (hready key hmem).1
      have hnotRecorded : ¬ AllCompleted (w.snapshots key).metadata := by
        intro hall
        obtain ⟨j, message, rest, hj⟩ := (h key).recorded hall hrow
        exact hquiet j _ rest hj
      have hthis : Updated (w.snapshots key) (w'.snapshots key) := hupdated key hmem
      refine ⟨fun hall => ?_, fun hsome => ?_⟩
      · rw [hexports] at hall
        exact hthis.completed hall hnotRecorded
      · rw [hexports] at hsome
        exact hthis.failed hsome
    · have hsame : w'.snapshots key = w.snapshots key := (hframe key).2 hmem
      have hended' : (w.snapshots key).row.status ≠ .inProgress :=
        fun hrow => hmem (List.mem_filter.mpr ⟨hkey, decide_eq_true hrow⟩)
      rw [hsame]
      refine ⟨fun hall => ?_, fun hsome => ?_⟩ <;> rcases hstatus : (w.snapshots key).row.status with _ | _ | _
      · exact absurd hstatus hended'
      · rfl
      · exact absurd ((h key).status.failed hstatus) hall.not_someFailed
      · exact absurd hstatus hended'
      · exact absurd hsome ((h key).status.completed hstatus).not_someFailed
      · rfl

/-- Snapshots that are created, whose exports have come to a status since. -/
def created (exportStatus : SnapshotStatus) : World where
  snapshots _ :=
    { exports := fun _ => ⟨exportStatus, ""⟩, metadata := fun _ => ⟨.inProgress, ""⟩, row := ⟨.inProgress, none⟩ }
  calls _ := .idle

theorem isCreated_created (exportStatus : SnapshotStatus) : IsCreated (created exportStatus) :=
  ⟨fun _ _ => rfl, fun _ => rfl, fun _ => rfl⟩

/-- The key of a snapshot. -/
def nightly : SnapshotKey := ("backups", "nightly")

/-- A call reads the metadata, describes the 35 exports, stores the metadata, and is cut off. -/
def cutOffCall : List Label := .start 0 [nightly] :: List.replicate 37 (.answer 0) ++ [.crash 0]

/-- What the cut off call leaves, and what the next one does. -/
def afterNextCall : Option World :=
  listSnapshots.exec (created .completed) (cutOffCall ++ [.start 1 [nightly], .answer 1])

end ContainRes.Snapshots.StatusUpdate
