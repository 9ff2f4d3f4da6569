import Mathlib.Data.List.Count
import Mathlib.Logic.Function.Basic

/-! # The status of a snapshot

`SnapshotsService.__update_snapshot_status` compares the exports of the tables with what the metadata object in S3
records of them, stores what has changed, and only then sets the status of the snapshot's row. Each call to a
service is one access, so that other calls, the exports and failures may come between.

* **`Stored`** — the exports of a snapshot, its metadata object and its row.
* **`Phase`**, **`answer`** — where the update of a snapshot has come to, and what the next access does when it is
  answered; **`Phase.failWith`** is what follows a `ClientError`.
* **`Leads`** — the run of an update that nothing disturbs; **`leads_getObject`** says what it leaves. -/

namespace ContainRes.Snapshots.StatusUpdate

open Function

/-! ## Exports, metadata and row -/

/-- `SnapshotStatus`; the status of an export is compared with these values too. -/
inductive SnapshotStatus
  | inProgress
  | completed
  | failed
  deriving DecidableEq, Repr

/-- The description of the export of a table. -/
structure ExportDescription where
  exportStatus : SnapshotStatus
  failureMessage : String
  deriving DecidableEq, Repr

/-- The descriptions of the exports, under the table names. -/
abbrev ExportDescriptions : Type := String → ExportDescription

def dynamodbTablesToExport : List String :=
  ["accounts.group-members", "accounts.groups", "accounts.sso-state", "accounts.users", "ad-automation",
    "cluster-settings", "email-templates", "modules", "projects", "projects.project-groups",
    "projects.user-projects", "snapshots", "vdc.controller.permission-profiles", "vdc.controller.schedules",
    "vdc.controller.servers", "vdc.controller.session-permissions", "vdc.controller.software-stacks",
    "vdc.controller.ssm-commands", "vdc.controller.user-sessions", "vdc.controller.user-sessions-counter",
    "vdc.dcv-broker.AgentKeyPair", "vdc.dcv-broker.AgentOAuth2Clients", "vdc.dcv-broker.AuthServerPubKeys",
    "vdc.dcv-broker.BrokerAuthServerPrivateKey", "vdc.dcv-broker.ConnectSessionKeyPair",
    "vdc.dcv-broker.createSessionCustomerRequest", "vdc.dcv-broker.dcvServer",
    "vdc.dcv-broker.deleteSessionCustomerRequest", "vdc.dcv-broker.DescribeNextTokenKeyPair",
    "vdc.dcv-broker.HealthTest", "vdc.dcv-broker.JwksUrls", "vdc.dcv-broker.PortalOAuth2Clients",
    "vdc.dcv-broker.ServerDnsMapping", "vdc.dcv-broker.SoftwareStatement",
    "vdc.dcv-broker.UpdateSessionPermissionsSessionCustomerRequest"]

/-- The attributes of a snapshot's row that the update reads and writes. -/
structure SnapshotRow where
  status : SnapshotStatus
  failureReason : Option String
  deriving DecidableEq, Repr

/-- A snapshot: the exports as DynamoDB knows them, the descriptions in the metadata object, and the row. -/
structure Stored where
  exports : ExportDescriptions
  metadata : ExportDescriptions
  row : SnapshotRow

/-- `update_snapshot_status(snapshot, failure_message)`, where the condition holds. -/
def SnapshotRow.update (row : SnapshotRow) (status : SnapshotStatus) (failureMessage : Option String) : SnapshotRow :=
  { status := status
    failureReason :=
      if status = .failed ∧ failureMessage.getD "" ≠ "" then failureMessage else row.failureReason }

@[simp] theorem SnapshotRow.status_update (row : SnapshotRow) (status : SnapshotStatus) (message : Option String) :
    (row.update status message).status = status := rfl

/-! ## The update, access by access -/

/-- The variables of the loop over the tables. -/
structure Progress where
  tableExportDescriptions : ExportDescriptions
  isExportStatusUpdated : Bool
  exportCompletedTablesCount : Nat
  isExportFailed : Bool
  failureMessage : String

/-- One more table whose export is completed. -/
def Progress.count (p : Progress) : Progress :=
  { p with exportCompletedTablesCount := p.exportCompletedTablesCount + 1 }

/-- The access that an update makes next. -/
inductive Phase
  /-- `get_object` of the metadata. -/
  | getObject
  /-- `describe_export` of a table; the tables after it are still to come. -/
  | describeExport (table : String) (rest : List String) (p : Progress)
  /-- `put_object` of the metadata. -/
  | putObject (p : Progress)
  /-- `update_item` of the row, with the condition that the status changes. -/
  | updateItem (status : SnapshotStatus) (failureMessage : Option String)
  /-- `update_item` of the row in the handler of a `ClientError`. -/
  | handleError (errorMessage : String)

/-- What comes after an access: another one, the end of the update, or an exception that leaves it. -/
inductive Continuation
  | phase (ph : Phase)
  | returned
  | raised

/-- After the loop: what has changed is stored. -/
def afterLoop (p : Progress) : Continuation :=
  if p.isExportStatusUpdated then .phase (.putObject p) else .returned

/-- The loop over the tables, up to the next export that is described. A table whose recorded status is neither
in progress nor completed ends the loop. -/
def checkTables : List String → Progress → Continuation
  | [], p => afterLoop p
  | table :: rest, p =>
    match (p.tableExportDescriptions table).exportStatus with
    | .inProgress => .phase (.describeExport table rest p)
    | .completed => checkTables rest p.count
    | .failed => afterLoop
        { p with
          isExportFailed := true, isExportStatusUpdated := true
          failureMessage := s!"Invalid export status: FAILED for table {table}" }

/-- What the latest description of a table changes. -/
def Progress.describe (p : Progress) (table : String) (latest : ExportDescription) : Progress :=
  match latest.exportStatus with
  | .inProgress => p
  | .completed =>
    { p.count with
      isExportStatusUpdated := true, tableExportDescriptions := update p.tableExportDescriptions table latest }
  | .failed =>
    { p with
      isExportFailed := true, isExportStatusUpdated := true, failureMessage := latest.failureMessage
      tableExportDescriptions := update p.tableExportDescriptions table latest }

/-- After the metadata is stored: the status of the row, if it is known. -/
def afterPut (p : Progress) : Continuation :=
  if p.isExportFailed then .phase (.updateItem .failed (some p.failureMessage))
  else if p.exportCompletedTablesCount = dynamodbTablesToExport.length then .phase (.updateItem .completed none)
  else .returned

/-- The variables before the loop. -/
def Progress.start (metadata : ExportDescriptions) : Progress := ⟨metadata, false, 0, false, ""⟩

/-- An access that is answered. -/
def answer : Phase → Stored → Continuation × Stored
  | .getObject, st => (checkTables dynamodbTablesToExport (.start st.metadata), st)
  | .describeExport table rest p, st => (checkTables rest (p.describe table (st.exports table)), st)
  | .putObject p, st => (afterPut p, { st with metadata := p.tableExportDescriptions })
  | .updateItem status message, st =>
    if st.row.status = status then (.phase (.handleError "The conditional request failed"), st)
    else (.returned, { st with row := st.row.update status message })
  | .handleError message, st =>
    -- the same condition, outside of the `try`
    if st.row.status = .failed then (.raised, st)
    else (.returned, { st with row := st.row.update .failed (some message) })

/-- A `ClientError` of an access. -/
def Phase.failWith (message : String) : Phase → Continuation
  | .handleError _ => .raised
  | _ => .phase (.handleError message)

@[simp] theorem exports_answer (ph : Phase) (st : Stored) : (answer ph st).2.exports = st.exports := by
  cases ph with
  | getObject => rfl
  | describeExport table rest p => rfl
  | putObject p => rfl
  | updateItem status message =>
    rw [answer]
    split <;> rfl
  | handleError message =>
    rw [answer]
    split <;> rfl

/-! ## What is known of the exports -/

/-- The later descriptions differ from the earlier ones only for exports that were in progress. -/
def Advances (earlier later : ExportDescriptions) : Prop :=
  ∀ table, (earlier table).exportStatus = .inProgress ∨ later table = earlier table

theorem Advances.refl (d : ExportDescriptions) : Advances d d := fun _ => .inr rfl

theorem Advances.trans {d e f : ExportDescriptions} (h : Advances d e) (h' : Advances e f) : Advances d f := by
  intro table
  rcases h table with hprogress | heq
  · exact .inl hprogress
  · rcases h' table with hprogress' | heq'
    · rw [heq] at hprogress'
      exact .inl hprogress'
    · exact .inr (heq'.trans heq)

variable {d e : ExportDescriptions}

theorem Advances.eq (h : Advances d e) {table : String}
    (hended : (d table).exportStatus ≠ .inProgress) : e table = d table :=
  (h table).resolve_left hended

/-- Knowing the latest description of a table is still to know no more than the exports. -/
theorem Advances.update (h : Advances d e) (table : String) : Advances (update d table (e table)) e := by
  intro other
  by_cases hother : other = table
  · subst hother
    exact .inr (by rw [update_self])
  · rw [update_of_ne hother]
    exact h other

/-- The exports of all tables are completed. -/
def AllCompleted (d : ExportDescriptions) : Prop :=
  ∀ table ∈ dynamodbTablesToExport, (d table).exportStatus = .completed

/-- The export of a table has failed. -/
def SomeFailed (d : ExportDescriptions) : Prop :=
  ∃ table ∈ dynamodbTablesToExport, (d table).exportStatus = .failed

theorem AllCompleted.advances (h : Advances d e) (hall : AllCompleted d) : AllCompleted e := by
  intro table htable
  have hcompleted := hall table htable
  rw [h.eq (by rw [hcompleted]; decide)]
  exact hcompleted

theorem SomeFailed.advances (h : Advances d e) (hsome : SomeFailed d) : SomeFailed e := by
  obtain ⟨table, htable, hfailed⟩ := hsome
  refine ⟨table, htable, ?_⟩
  rw [h.eq (by rw [hfailed]; decide)]
  exact hfailed

theorem AllCompleted.not_someFailed {d : ExportDescriptions} (hall : AllCompleted d) : ¬ SomeFailed d := by
  rintro ⟨table, htable, hfailed⟩
  exact absurd ((hall table htable).symm.trans hfailed) (by decide)

/-! ## An update that nothing disturbs -/

/-- The update goes on alone and returns. -/
inductive Leads : Continuation → Stored → Stored → Prop
  | returned {st : Stored} : Leads .returned st st
  | phase {ph : Phase} {st st' : Stored} (h : Leads (answer ph st).1 (answer ph st).2 st') :
      Leads (.phase ph) st st'

/-- The loop over the tables when every description is read at once. -/
def checkAll (exports : ExportDescriptions) : List String → Progress → Progress
  | [], p => p
  | table :: rest, p =>
    match (p.tableExportDescriptions table).exportStatus with
    | .inProgress => checkAll exports rest (p.describe table (exports table))
    | .completed => checkAll exports rest p.count
    | .failed =>
      { p with
        isExportFailed := true, isExportStatusUpdated := true
        failureMessage := s!"Invalid export status: FAILED for table {table}" }

variable (tables : List String) {p : Progress}

theorem leads_checkTables {st st' : Stored}
    (h : Leads (afterLoop (checkAll st.exports tables p)) st st') : Leads (checkTables tables p) st st' := by
  induction tables generalizing p with
  | nil => exact h
  | cons table rest ih =>
    unfold checkAll at h
    unfold checkTables
    split at h
    · exact Leads.phase (ih h)
    · exact ih h
    · exact h

variable {exports : ExportDescriptions}

/-- A flag that is set stays set. -/
theorem isExportFailed_checkAll (h : p.isExportFailed = true ∧ p.isExportStatusUpdated = true) :
    (checkAll exports tables p).isExportFailed = true ∧ (checkAll exports tables p).isExportStatusUpdated = true := by
  induction tables generalizing p with
  | nil => exact h
  | cons table rest ih =>
    unfold checkAll
    split
    · refine ih ?_
      unfold Progress.describe
      split
      · exact h
      · exact ⟨h.1, rfl⟩
      · exact ⟨rfl, rfl⟩
    · exact ih h
    · exact ⟨rfl, rfl⟩

/-- A failed export is found. -/
theorem checkAll_of_failed (hknown : Advances p.tableExportDescriptions exports)
    (hfailed : ∃ table ∈ tables, (exports table).exportStatus = .failed) :
    (checkAll exports tables p).isExportFailed = true ∧ (checkAll exports tables p).isExportStatusUpdated = true := by
  induction tables generalizing p with
  | nil =>
    obtain ⟨table, htable, -⟩ := hfailed
    exact absurd htable List.not_mem_nil
  | cons table rest ih =>
    obtain ⟨t, ht, hstatus⟩ := hfailed
    unfold checkAll
    split
    · rename_i hprogress
      rcases hlatest : (exports table).exportStatus with _ | _ | _
      · have hrest : t ∈ rest := by
          rcases List.mem_cons.mp ht with rfl | hrest
          · exact absurd (hlatest.symm.trans hstatus) (by decide)
          · exact hrest
        have hsame : p.describe table (exports table) = p := by
          unfold Progress.describe
          rw [hlatest]
        rw [hsame]
        exact ih hknown ⟨t, hrest, hstatus⟩
      · have hrest : t ∈ rest := by
          rcases List.mem_cons.mp ht with rfl | hrest
          · exact absurd (hlatest.symm.trans hstatus) (by decide)
          · exact hrest
        refine ih ?_ ⟨t, hrest, hstatus⟩
        unfold Progress.describe
        rw [hlatest]
        exact hknown.update table
      · refine isExportFailed_checkAll rest ?_
        unfold Progress.describe
        rw [hlatest]
        exact ⟨rfl, rfl⟩
    · rename_i hcompleted
      have hrest : t ∈ rest := by
        rcases List.mem_cons.mp ht with rfl | hrest
        · rw [hknown.eq (by rw [hcompleted]; decide), hcompleted] at hstatus
          cases hstatus
        · exact hrest
      exact ih hknown ⟨t, hrest, hstatus⟩
    · exact ⟨rfl, rfl⟩

/-- When all exports are completed, all are counted, and one that was not recorded is noticed. -/
theorem checkAll_of_completed (hknown : Advances p.tableExportDescriptions exports)
    (hcompleted : ∀ table ∈ tables, (exports table).exportStatus = .completed) :
    (checkAll exports tables p).isExportFailed = p.isExportFailed ∧
      (checkAll exports tables p).exportCompletedTablesCount = p.exportCompletedTablesCount + tables.length ∧
      (p.isExportStatusUpdated = true ∨
          (∃ table ∈ tables, (p.tableExportDescriptions table).exportStatus ≠ .completed) →
        (checkAll exports tables p).isExportStatusUpdated = true) := by
  induction tables generalizing p with
  | nil =>
    refine ⟨rfl, rfl, ?_⟩
    rintro (h | ⟨table, htable, -⟩)
    · exact h
    · exact absurd htable List.not_mem_nil
  | cons table rest ih =>
    have hhead := hcompleted table List.mem_cons_self
    have hrest : ∀ t ∈ rest, (exports t).exportStatus = .completed :=
      fun t ht => hcompleted t (List.mem_cons_of_mem table ht)
    unfold checkAll
    split
    · have hdescribe : p.describe table (exports table) =
          { p.count with
            isExportStatusUpdated := true
            tableExportDescriptions := update p.tableExportDescriptions table (exports table) } := by
        unfold Progress.describe
        rw [hhead]
      rw [hdescribe]
      obtain ⟨hfailed, hcount, hupdated⟩ := ih (p := { p.count with
        isExportStatusUpdated := true
        tableExportDescriptions := update p.tableExportDescriptions table (exports table) })
        (hknown.update table) hrest
      refine ⟨hfailed, ?_, fun _ => hupdated (.inl rfl)⟩
      rw [hcount, List.length_cons]
      show p.exportCompletedTablesCount + 1 + rest.length = p.exportCompletedTablesCount + (rest.length + 1)
      omega
    · rename_i hrecorded
      obtain ⟨hfailed, hcount, hupdated⟩ := ih (p := p.count) hknown hrest
      refine ⟨hfailed, ?_, fun h => hupdated ?_⟩
      · rw [hcount, List.length_cons]
        show p.exportCompletedTablesCount + 1 + rest.length = p.exportCompletedTablesCount + (rest.length + 1)
        omega
      · rcases h with hflag | ⟨t, ht, hne⟩
        · exact .inl hflag
        · rcases List.mem_cons.mp ht with rfl | htail
          · exact absurd hrecorded hne
          · exact .inr ⟨t, htail, hne⟩
    · rename_i hrecorded
      have heq := hknown.eq (by rw [hrecorded]; decide)
      rw [heq, hrecorded] at hhead
      cases hhead

/-- What follows the loop leads to an end. -/
theorem leads_afterLoop (st : Stored) (p : Progress) (hrow : st.row.status = .inProgress) :
    ∃ st', Leads (afterLoop p) st st' ∧ st'.exports = st.exports ∧
      (p.isExportStatusUpdated = true → p.isExportFailed = true → st'.row.status = .failed) ∧
      (p.isExportStatusUpdated = true → p.isExportFailed = false →
        p.exportCompletedTablesCount = dynamodbTablesToExport.length → st'.row.status = .completed) := by
  -- the row is in progress, so that the condition of the write holds
  have hwrite : ∀ (st : Stored) (status : SnapshotStatus) (message : Option String), st.row.status = .inProgress →
      status ≠ .inProgress → Leads (.phase (.updateItem status message)) st
        { st with row := st.row.update status message } := by
    intro st status message hrow hstatus
    have hne : ¬ st.row.status = status := by
      rw [hrow]
      exact hstatus.symm
    have hanswer : answer (.updateItem status message) st =
        (.returned, { st with row := st.row.update status message }) := if_neg hne
    apply Leads.phase
    rw [hanswer]
    exact Leads.returned
  unfold afterLoop
  rcases hupdated : p.isExportStatusUpdated with _ | _
  · exact ⟨st, Leads.returned, rfl, by simp, by simp⟩
  · rw [if_pos rfl]
    have hput : ∀ st', Leads (afterPut p) { st with metadata := p.tableExportDescriptions } st' →
        Leads (.phase (.putObject p)) st st' := fun st' h => Leads.phase h
    unfold afterPut at hput
    rcases hfailed : p.isExportFailed with _ | _
    · rw [hfailed, if_neg Bool.false_ne_true] at hput
      by_cases hcount : p.exportCompletedTablesCount = dynamodbTablesToExport.length
      · rw [if_pos hcount] at hput
        exact ⟨_, hput _ (hwrite _ .completed none hrow (by decide)), rfl, by simp, fun _ _ _ => rfl⟩
      · rw [if_neg hcount] at hput
        exact ⟨_, hput _ Leads.returned, rfl, by simp, fun _ _ h => absurd h hcount⟩
    · rw [hfailed, if_pos rfl] at hput
      exact ⟨_, hput _ (hwrite _ .failed _ hrow (by decide)), rfl, fun _ _ => rfl, by simp⟩

/-- **An undisturbed update.** From a row in progress it returns. It leaves the row failed if an export has
failed, and completed if all are and the metadata does not record them all. -/
theorem leads_getObject (st : Stored) (hrow : st.row.status = .inProgress) (hknown : Advances st.metadata st.exports) :
    ∃ st', Leads (.phase .getObject) st st' ∧ st'.exports = st.exports ∧
      (SomeFailed st.exports → st'.row.status = .failed) ∧
      (AllCompleted st.exports → ¬ AllCompleted st.metadata → st'.row.status = .completed) := by
  obtain ⟨st', hleads, hexports, hfailed, hcompleted⟩ :=
    leads_afterLoop st (checkAll st.exports dynamodbTablesToExport (.start st.metadata)) hrow
  refine ⟨st', Leads.phase (leads_checkTables _ hleads), hexports, fun hsome => ?_, fun hall hrecorded => ?_⟩
  · obtain ⟨hflag, hupdated⟩ := checkAll_of_failed (p := .start st.metadata) dynamodbTablesToExport hknown hsome
    exact hfailed hupdated hflag
  · obtain ⟨hflag, hcount, hupdated⟩ :=
      checkAll_of_completed dynamodbTablesToExport (p := .start st.metadata) hknown hall
    refine hcompleted (hupdated (.inr ?_)) hflag (hcount.trans (Nat.zero_add _))
    by_contra hnone
    refine hrecorded fun table htable => ?_
    by_contra hne
    exact hnone ⟨table, htable, hne⟩

end ContainRes.Snapshots.StatusUpdate
