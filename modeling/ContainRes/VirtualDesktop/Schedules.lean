import ContainRes.VirtualDesktop.ScheduleDb

/-! # The schedules of a session

`VirtualDesktopScheduleUtils.update_schedule_for_session`: for each day of the week the schedule that is
stored with the session is compared with the one requested, and rows of the schedules table are deleted
and created accordingly. Between two calls the session is stored and read back.

* **`updateScheduleForSession`** — one call, day by day.
* **`InStep`** — each day with an effective type other than `NO_SCHEDULE` has exactly one row, with what
  was requested last, and the session holds its id; the other days have none.
* **`Replaces`** — a custom schedule requested where the effective type is a custom schedule: the old row
  is deleted and none is created.
* **`follows_iff`** — over any sequence of calls the table is in step after each of them exactly when no
  call replaces a custom schedule by a custom schedule. -/

namespace ContainRes.VirtualDesktop.Schedules

open Effects Store Text

def isSameSchedule : Option Schedule → Option Schedule → Bool
  | none, none => true
  | some _, none | none, some _ => false
  | some a, some b =>
    a.scheduleType == b.scheduleType &&
      (a.scheduleType == .stopAllDay || a.scheduleType == .startAllDay ||
        a.scheduleType == .noSchedule || a.scheduleType == .workingHours)

def deleteSchedule (schedule : Option Schedule) : Proc World Exc PUnit :=
  match schedule with
  | none => pure ⟨⟩
  | some schedule =>
    if schedule.scheduleType = .noSchedule then pure ⟨⟩
    else if isEmptyOpt schedule.scheduleId || schedule.dayOfWeek.isNone then pure ⟨⟩
    else delete schedule

/-- The key of the row that a schedule names. -/
def rowKey (schedule : Option Schedule) : Option (String × String) :=
  schedule.bind fun s =>
    if s.scheduleType = .noSchedule ∨ isEmptyOpt s.scheduleId || s.dayOfWeek.isNone then none
    else some (dayText s.dayOfWeek, s.scheduleId.getD "")

/-- A schedule that names no row is not deleted. -/
theorem deleteSchedule_of_rowKey_none {schedule : Option Schedule} (h : rowKey schedule = none) :
    deleteSchedule schedule = pure ⟨⟩ := by
  cases schedule with
  | none => rfl
  | some s =>
    have hguard : s.scheduleType = .noSchedule ∨ isEmptyOpt s.scheduleId || s.dayOfWeek.isNone := by
      by_contra hnot
      simp only [rowKey, Option.bind_some, if_neg hnot] at h
      exact absurd h (by simp)
    unfold deleteSchedule
    dsimp only
    rcases hguard with htype | hempty
    · rw [if_pos htype]
    · by_cases htype : s.scheduleType = .noSchedule
      · rw [if_pos htype]
      · rw [if_neg htype, if_pos hempty]

variable {w : World}

/-- The row that a schedule names is deleted. -/
theorem run_deleteSchedule_of_rowKey {schedule : Option Schedule} {key : String × String}
    (h : rowKey schedule = some key) (hrow : w.table.Has key) :
    (deleteSchedule schedule).run w = (.ok ⟨⟩, { w with table := w.table.deleteItem key }) := by
  cases schedule with
  | none => exact absurd h (by simp [rowKey])
  | some s =>
    by_cases hguard : s.scheduleType = .noSchedule ∨ isEmptyOpt s.scheduleId || s.dayOfWeek.isNone
    · simp only [rowKey, Option.bind_some, if_pos hguard] at h
      exact absurd h (by simp)
    · simp only [rowKey, Option.bind_some, if_neg hguard, Option.some.injEq] at h
      subst h
      obtain ⟨htype, hempty⟩ := not_or.mp hguard
      obtain ⟨row, hget⟩ := Table.has_iff.mp hrow
      unfold deleteSchedule
      dsimp only
      rw [if_neg htype, if_neg hempty]
      exact run_delete w s hget

variable (hours : WorkingHours) (uuids : Uuids)

/-- The schedule that is created for a session and a day from the one requested. -/
def scheduleOfDay (d : DayOfWeek) (schedule : Schedule) (ideaSessionId owner : String) : Schedule where
  dayOfWeek := some d
  ideaSessionId := some ideaSessionId
  ideaSessionOwner := some owner
  scheduleType := schedule.scheduleType
  startUpTime := schedule.startUpTime
  shutDownTime := schedule.shutDownTime

def createScheduleForDayOfWeek (d : DayOfWeek) (schedule : Schedule) (ideaSessionId owner : String) :
    Proc World Exc Schedule :=
  if schedule.scheduleType = .noSchedule then pure (getEmptySchedule (some d))
  else create hours uuids (scheduleOfDay d schedule ideaSessionId owner)

/-- `_create_or_update_schedule_for_session_for_day_of_week`. -/
def createOrUpdateSchedule (d : DayOfWeek) (currentSchedule newSchedule : Option Schedule)
    (ideaSessionId owner : String) : Proc World Exc Schedule :=
  let current := currentSchedule.getD (getEmptySchedule (some d))
  match newSchedule with
  | none => pure current
  | some new =>
    if isSameSchedule (some new) (some current) then pure current
    else do
      -- a custom schedule in place of a custom schedule is neither the same nor created
      let createNew := new.scheduleType ≠ .noSchedule ∧ current.scheduleType ≠ new.scheduleType
      let new := if new.scheduleType = .noSchedule then getEmptySchedule (some d) else new
      Proc.when (current.scheduleType ≠ .noSchedule ∨ isEmptyOpt current.scheduleId = false)
        (deleteSchedule (some current))
      if createNew then createScheduleForDayOfWeek hours uuids d new ideaSessionId owner else pure new

/-- The update of one day of the session's week. -/
def updateDay (newSchedules : DayOfWeek → Option Schedule) (ideaSessionId owner : String)
    (d : DayOfWeek) : Proc World Exc PUnit := do
  let current ← Proc.gets fun w => w.week d
  let schedule ← createOrUpdateSchedule hours uuids d current (newSchedules d) ideaSessionId owner
  Proc.modify fun w => { w with week := Function.update w.week d (some schedule) }

/-- `update_schedule_for_session`: the days one after another. -/
def updateScheduleForSession (newSchedules : DayOfWeek → Option Schedule)
    (ideaSessionId owner : String) : Proc World Exc PUnit :=
  Proc.forEach (updateDay hours uuids newSchedules ideaSessionId owner) DayOfWeek.all

/-- A week of a session is stored and read back. -/
def reloadWeek (week : DayOfWeek → Option Schedule) : Except Exc (DayOfWeek → Option Schedule) :=
  loadWeek hours fun d => (week d).map convertScheduleObjectToDbDict

/-! ## What the table owes to the requests -/

/-- The type that is in effect for a day, where `last` is the schedule requested last. -/
def effectiveType (last : Option Schedule) : ScheduleType :=
  last.elim .noSchedule Schedule.scheduleType

/-- The table holds no row of the session on the day. -/
def NoRow (ideaSessionId : String) (table : Table (String × String) ScheduleDict) (d : DayOfWeek) : Prop :=
  ∀ id row, table.getItem (d.value, id) = some row → row.ideaSessionId ≠ some ideaSessionId

/-- The table holds exactly one row of the session on the day; it is under the id and carries what the
schedule asks for. -/
def OneRow (ideaSessionId : String) (table : Table (String × String) ScheduleDict) (d : DayOfWeek)
    (last : Schedule) (id : String) : Prop :=
  (∃ row, table.getItem (d.value, id) = some row ∧ row.ideaSessionId = some ideaSessionId ∧
    row.scheduleType = last.scheduleType ∧ (last.scheduleType = .customSchedule →
      row.startUpTime = last.startUpTime ∧ row.shutDownTime = last.shutDownTime)) ∧
  ∀ id' row, table.getItem (d.value, id') = some row → row.ideaSessionId = some ideaSessionId → id' = id

/-- The schedules table follows the session: `last` are the schedules requested last for each day. -/
def InStep (ideaSessionId : String) (last : DayOfWeek → Option Schedule) (w : World) : Prop :=
  ∀ d, match last d with
    | none => NoRow ideaSessionId w.table d
    | some schedule =>
      if schedule.scheduleType = .noSchedule then NoRow ideaSessionId w.table d
      else ∃ id, OneRow ideaSessionId w.table d schedule id ∧
        ((w.week d).map convertScheduleObjectToDbDict).bind ScheduleDict.scheduleId = some id

/-- The schedules requested last, after one more request. -/
def afterRequest (last newSchedules : DayOfWeek → Option Schedule) : DayOfWeek → Option Schedule :=
  fun d => (newSchedules d).or (last d)

/-- Each call returns and leaves the table in step, and the session can be read back for the next. -/
def Follows (ideaSessionId owner : String) : List (DayOfWeek → Option Schedule) →
    (DayOfWeek → Option Schedule) → World → Prop
  | [], _, _ => True
  | newSchedules :: rest, last, w =>
    ∃ w' week, (updateScheduleForSession hours uuids newSchedules ideaSessionId owner).run w =
        (.ok ⟨⟩, w') ∧
      InStep ideaSessionId (afterRequest last newSchedules) w' ∧
      reloadWeek hours w'.week = .ok week ∧
      Follows ideaSessionId owner rest (afterRequest last newSchedules) { w' with week := week }

/-- A day for which a custom schedule is requested while a custom schedule is in effect. -/
def Replaces (last newSchedule : Option Schedule) : Prop :=
  effectiveType last = .customSchedule ∧ newSchedule.map Schedule.scheduleType = some .customSchedule

/-- No request asks for a custom schedule on a day on which a custom schedule is in effect. -/
def NeverReplaces : List (DayOfWeek → Option Schedule) → (DayOfWeek → Option Schedule) → Prop
  | [], _ => True
  | newSchedules :: rest, last =>
    (∀ d, ¬ Replaces (last d) (newSchedules d)) ∧ NeverReplaces rest (afterRequest last newSchedules)

/-! ## One day -/

/-- The ids still to be drawn are not in the table. -/
def Fresh (w : World) : Prop := ∀ n, w.drawn ≤ n → ∀ day, w.table.getItem (day, uuids.id n) = none

/-- The session's schedule of a day agrees with the table and with what was requested last. -/
inductive Tracks (ideaSessionId : String) (table : Table (String × String) ScheduleDict) (d : DayOfWeek)
    (last current : Option Schedule) : Prop
  /-- No schedule is in effect. -/
  | idle (heffective : effectiveType last = .noSchedule) (hrow : NoRow ideaSessionId table d)
      (hcurrent : ∀ s, current = some s → s.scheduleType = .noSchedule ∧ isEmptyOpt s.scheduleId = true)
  /-- A schedule is in effect, and the session holds the id of its row. -/
  | row (schedule s : Schedule) (id : String) (hlast : last = some schedule)
      (htype : schedule.scheduleType ≠ .noSchedule) (hcurrent : current = some s)
      (hsame : s.scheduleType = schedule.scheduleType) (hid : s.scheduleId = some id)
      (hplain : getAsString (some id) = some id) (hday : s.dayOfWeek = some d)
      (hrow : OneRow ideaSessionId table d schedule id)

variable {ideaSessionId : String} {d : DayOfWeek} {last current : Option Schedule}

theorem key_ne {d d' : DayOfWeek} (h : d' ≠ d) (id id' : String) : (d'.value, id) ≠ (d.value, id') := by
  intro heq
  exact h (DayOfWeek.value_injective (congrArg Prod.fst heq))

variable {table : Table (String × String) ScheduleDict}

theorem noRow_deleteItem {schedule : Schedule} {id : String}
    (h : OneRow ideaSessionId table d schedule id) : NoRow ideaSessionId (table.deleteItem (d.value, id)) d := by
  intro id' row hrow hsession
  rw [Table.getItem_deleteItem] at hrow
  split at hrow
  · exact absurd hrow (by simp)
  · rename_i hne
    exact hne (by rw [h.2 id' row hrow hsession])

/-- Creating a row on a day without one of the session leaves exactly that one. -/
theorem oneRow_putItem {id owner : String} (h : NoRow ideaSessionId table d) (new : Schedule) :
    OneRow ideaSessionId (table.putItem (d.value, id) (newRow (scheduleOfDay d new ideaSessionId owner) id)) d
      new id := by
  refine ⟨⟨_, Table.getItem_putItem_self _ _ _, rfl, rfl, ?_⟩, ?_⟩
  · intro hcustom
    simp [newRow, convertScheduleObjectToDbDict, scheduleOfDay, hcustom]
  · intro id' row hrow hsession
    rw [Table.getItem_putItem] at hrow
    split at hrow
    · rename_i heq
      exact congrArg Prod.snd heq
    · exact absurd hsession (h id' row hrow)

/-- The deletion of the row that the session holds the id of. -/
theorem run_deleteSchedule {schedule s : Schedule} {id : String}
    (htype : s.scheduleType ≠ .noSchedule) (hid : s.scheduleId = some id)
    (hplain : getAsString (some id) = some id) (hday : s.dayOfWeek = some d)
    (hrow : OneRow ideaSessionId w.table d schedule id) :
    (deleteSchedule (some s)).run w = (.ok ⟨⟩, { w with table := w.table.deleteItem (d.value, id) }) := by
  obtain ⟨⟨row, hget, -⟩, -⟩ := hrow
  have hnonblank : isEmptyOpt (some id) = false := by
    by_contra hblank
    have hblank' : isEmpty id = true := by simpa [isEmptyOpt] using hblank
    simp [getAsString, hblank'] at hplain
  have hkey : rowKey (some s) = some (d.value, id) := by
    simp [rowKey, htype, hnonblank, hday, hid, dayText]
  exact run_deleteSchedule_of_rowKey hkey (Table.Has.of_getItem hget)

/-- A frame: the rows of the other days are as they were, and the ids still to be drawn are fresh. -/
structure DayStep (d : DayOfWeek) (w w' : World) : Prop where
  week : w'.week = w.week
  fresh : Fresh uuids w'
  others : ∀ d', d' ≠ d → ∀ id, w'.table.getItem (d'.value, id) = w.table.getItem (d'.value, id)

namespace DayStep

variable {uuids} {w w' w'' : World}

theorem refl (h : Fresh uuids w) : DayStep uuids d w w := ⟨rfl, h, fun _ _ _ => rfl⟩

theorem trans (h : DayStep uuids d w w') (h' : DayStep uuids d w' w'') : DayStep uuids d w w'' :=
  ⟨h'.week.trans h.week, h'.fresh, fun d' hd id => (h'.others d' hd id).trans (h.others d' hd id)⟩

theorem deleteItem (h : Fresh uuids w) (id : String) :
    DayStep uuids d w { w with table := w.table.deleteItem (d.value, id) } := by
  refine ⟨rfl, fun n hn day => ?_, fun d' hd id' => Table.getItem_deleteItem_of_ne _ (key_ne hd _ _)⟩
  rw [Table.getItem_deleteItem]
  split
  · rfl
  · exact h n hn day

theorem putItem (h : Fresh uuids w) (row : ScheduleDict) :
    DayStep uuids d w { w with
      table := w.table.putItem (d.value, uuids.id w.drawn) row
      drawn := w.drawn + 1 } := by
  refine ⟨rfl, fun n hn day => ?_, fun d' hd id' => Table.getItem_putItem_of_ne _ _ (key_ne hd _ _)⟩
  have hne : (day, uuids.id n) ≠ (d.value, uuids.id w.drawn) := by
    intro heq
    have hdrawn : n = w.drawn := uuids.injective (congrArg Prod.snd heq)
    have hle : w.drawn + 1 ≤ n := hn
    omega
  rw [Table.getItem_putItem_of_ne _ _ hne]
  exact h n (by have hle : w.drawn + 1 ≤ n := hn; omega) day

/-- The rows of the session on another day are as they were. -/
theorem tracks_of_ne (h : DayStep uuids d w w') {d' : DayOfWeek} (hne : d' ≠ d)
    (ht : Tracks ideaSessionId w.table d' last current) : Tracks ideaSessionId w'.table d' last current := by
  have hget := h.others d' hne
  cases ht with
  | idle heffective hrow hcurrent =>
    exact .idle heffective (fun id row hr => hrow id row (hget id ▸ hr)) hcurrent
  | row schedule s id hlast htype hcurrent hsame hid hplain hday hrow =>
    refine .row schedule s id hlast htype hcurrent hsame hid hplain hday ?_
    simp only [OneRow, hget]
    exact hrow

theorem noRow_of_ne (h : DayStep uuids d w w') {d' : DayOfWeek} (hne : d' ≠ d)
    (hn : NoRow ideaSessionId w.table d') : NoRow ideaSessionId w'.table d' :=
  fun id row hr => hn id row (h.others d' hne id ▸ hr)

end DayStep

/-- A schedule is created on a day without a row of the session. -/
theorem run_createScheduleForDayOfWeek (hfresh : Fresh uuids w) {new : Schedule}
    (owner : String) (htype : new.scheduleType ≠ .noSchedule) (hnone : NoRow ideaSessionId w.table d) :
    ∃ s w', (createScheduleForDayOfWeek hours uuids d new ideaSessionId owner).run w = (.ok s, w') ∧
      DayStep uuids d w w' ∧ Tracks ideaSessionId w'.table d (some new) (some s) := by
  obtain ⟨created, hrun, hid, hday, hcreated⟩ :=
    run_create hours uuids w (scheduleOfDay d new ideaSessionId owner) d rfl
  have hcreate : createScheduleForDayOfWeek hours uuids d new ideaSessionId owner =
      create hours uuids (scheduleOfDay d new ideaSessionId owner) := if_neg htype
  rw [hcreate]
  exact ⟨created, _, hrun, DayStep.putItem hfresh _,
    .row new created _ rfl htype rfl hcreated hid (uuids.plain _) hday (oneRow_putItem hnone new)⟩

theorem isEmptyOpt_getEmptySchedule (dayOfWeek : Option DayOfWeek) :
    isEmptyOpt (getEmptySchedule dayOfWeek).scheduleId = true := by
  have hempty : isEmptyOpt (some "") = true := by decide
  exact hempty

theorem isSameSchedule_some (a b : Schedule) : isSameSchedule (some a) (some b) = true ↔
      a.scheduleType = b.scheduleType ∧ a.scheduleType ≠ .customSchedule := by
  cases htype : a.scheduleType <;> simp [isSameSchedule, htype]

variable (owner : String)

/-- The current schedule is kept when none is requested or the same one. -/
theorem createOrUpdateSchedule_of_same {new : Option Schedule} (h : ∀ n, new = some n →
      isSameSchedule (some n) (some (current.getD (getEmptySchedule (some d)))) = true) :
    createOrUpdateSchedule hours uuids d current new ideaSessionId owner =
      pure (current.getD (getEmptySchedule (some d))) := by
  cases new with
  | none => rfl
  | some n =>
    unfold createOrUpdateSchedule
    dsimp only
    rw [if_pos (h n rfl)]

/-- The update of a day on which no schedule is in effect. -/
theorem run_createOrUpdateSchedule_of_idle (hfresh : Fresh uuids w) (owner : String)
    (new : Option Schedule) (heffective : effectiveType last = .noSchedule) (hrow : NoRow ideaSessionId w.table d)
    (hcurrent : ∀ s, current = some s → s.scheduleType = .noSchedule ∧ isEmptyOpt s.scheduleId = true) :
    ∃ s w', (createOrUpdateSchedule hours uuids d current new ideaSessionId owner).run w = (.ok s, w') ∧
      DayStep uuids d w w' ∧ Tracks ideaSessionId w'.table d (new.or last) (some s) := by
  have hkept : (current.getD (getEmptySchedule (some d))).scheduleType = .noSchedule ∧
      isEmptyOpt (current.getD (getEmptySchedule (some d))).scheduleId = true := by
    cases current with
    | none => exact ⟨rfl, isEmptyOpt_getEmptySchedule _⟩
    | some s => exact hcurrent s rfl
  by_cases hnone : ∀ n, new = some n → n.scheduleType = .noSchedule
  · -- nothing is asked for
    refine ⟨current.getD (getEmptySchedule (some d)), w, ?_, DayStep.refl hfresh, .idle ?_ hrow ?_⟩
    · rw [createOrUpdateSchedule_of_same hours uuids owner fun n hn => ?_, Proc.run_pure]
      rw [isSameSchedule_some, hnone n hn, hkept.1]
      exact ⟨rfl, by decide⟩
    · cases new with
      | none => exact heffective
      | some n => exact hnone n rfl
    · rintro s hs
      rw [← Option.some.inj hs]
      exact hkept
  · -- a schedule is asked for, and created
    obtain ⟨n, hnew⟩ := not_forall.mp hnone
    obtain ⟨rfl, htype⟩ := Classical.not_imp.mp hnew
    obtain ⟨s, w', hrun, hstep, htracks⟩ := run_createScheduleForDayOfWeek hours uuids hfresh owner htype hrow
    refine ⟨s, w', ?_, hstep, htracks⟩
    have hdiffer : ¬ isSameSchedule (some n) (some (current.getD (getEmptySchedule (some d)))) = true := by
      rw [isSameSchedule_some, hkept.1]
      exact fun h => htype h.1
    unfold createOrUpdateSchedule
    dsimp only
    rw [if_neg hdiffer, Proc.run_bind_of_ok (Proc.run_when_neg (by simp [hkept]) w), if_neg htype,
      if_pos ⟨htype, by rw [hkept.1]; exact Ne.symm htype⟩]
    exact hrun

/-- The update of a day on which a schedule is in effect: the same schedule is kept, any other request
deletes the row, and a schedule of another type is created. -/
theorem run_createOrUpdateSchedule_of_row (hfresh : Fresh uuids w) (owner : String)
    (new : Option Schedule) {schedule s : Schedule} {id : String}
    (htype : schedule.scheduleType ≠ .noSchedule) (hsame : s.scheduleType = schedule.scheduleType)
    (hid : s.scheduleId = some id) (hplain : getAsString (some id) = some id)
    (hday : s.dayOfWeek = some d) (hrow : OneRow ideaSessionId w.table d schedule id) :
    ∃ s' w', (createOrUpdateSchedule hours uuids d (some s) new ideaSessionId owner).run w = (.ok s', w') ∧
      DayStep uuids d w w' ∧ (¬ Replaces (some schedule) new →
        Tracks ideaSessionId w'.table d (new.or (some schedule)) (some s')) ∧
      (Replaces (some schedule) new → NoRow ideaSessionId w'.table d) := by
  by_cases hkeep : ∀ n, new = some n → isSameSchedule (some n) (some s) = true
  · -- the schedule is kept
    refine ⟨s, w, ?_, DayStep.refl hfresh, fun _ => ?_, ?_⟩
    · rw [createOrUpdateSchedule_of_same hours uuids owner hkeep]
      rfl
    · cases new with
      | none => exact .row schedule s id rfl htype rfl hsame hid hplain hday hrow
      | some n =>
        obtain ⟨htypes, hstatic⟩ := (isSameSchedule_some n s).mp (hkeep n rfl)
        have htypes' : n.scheduleType = schedule.scheduleType := htypes.trans hsame
        refine .row n s id rfl (htypes' ▸ htype) rfl htypes.symm hid hplain hday ?_
        obtain ⟨⟨row, hget, hsession, hrowtype, -⟩, hunique⟩ := hrow
        exact ⟨⟨row, hget, hsession, hrowtype.trans htypes'.symm, fun h => absurd h hstatic⟩, hunique⟩
    · rintro ⟨-, hcustom⟩
      obtain ⟨n, rfl, hn⟩ := Option.map_eq_some_iff.mp hcustom
      exact absurd hn ((isSameSchedule_some n s).mp (hkeep n rfl)).2
  · -- the row is deleted first
    obtain ⟨n, hnew⟩ := not_forall.mp hkeep
    obtain ⟨rfl, hdiffer⟩ := Classical.not_imp.mp hnew
    have hstype : s.scheduleType ≠ .noSchedule := hsame ▸ htype
    have hdelete := run_deleteSchedule (w := w) hstype hid hplain hday hrow
    have hnone := noRow_deleteItem hrow
    have hstep : DayStep uuids d w { w with table := w.table.deleteItem (d.value, id) } := DayStep.deleteItem hfresh id
    have hrun : (createOrUpdateSchedule hours uuids d (some s) (some n) ideaSessionId owner).run w =
        (if n.scheduleType ≠ .noSchedule ∧ s.scheduleType ≠ n.scheduleType then
            createScheduleForDayOfWeek hours uuids d
              (if n.scheduleType = .noSchedule then getEmptySchedule (some d) else n) ideaSessionId owner
          else pure (if n.scheduleType = .noSchedule then getEmptySchedule (some d) else n)).run
            { w with table := w.table.deleteItem (d.value, id) } := by
      have hwhen : (Proc.when (s.scheduleType ≠ .noSchedule ∨ isEmptyOpt s.scheduleId = false)
          (deleteSchedule (some s))).run w =
            (.ok ⟨⟩, { w with table := w.table.deleteItem (d.value, id) }) := by
        rw [Proc.run_when_pos (Or.inl hstype), hdelete]
      unfold createOrUpdateSchedule
      simp only [Option.getD_some]
      rw [if_neg hdiffer, Proc.run_bind_of_ok hwhen]
    rw [hrun]
    by_cases hn : n.scheduleType = .noSchedule
    · have hnot : ¬ (n.scheduleType ≠ .noSchedule ∧ s.scheduleType ≠ n.scheduleType) := fun h => h.1 hn
      rw [if_neg hnot, if_pos hn]
      refine ⟨getEmptySchedule (some d), _, rfl, hstep, fun _ => .idle hn hnone ?_, fun _ => hnone⟩
      rintro s' hs'
      rw [← Option.some.inj hs']
      exact ⟨rfl, isEmptyOpt_getEmptySchedule _⟩
    · by_cases hsame' : s.scheduleType = n.scheduleType
      · -- a custom schedule in place of a custom schedule
        have hcustom : n.scheduleType = .customSchedule := by
          by_contra hne
          exact hdiffer ((isSameSchedule_some n s).mpr ⟨hsame'.symm, hne⟩)
        have hreplaces : Replaces (some schedule) (some n) :=
          ⟨(hsame.symm.trans hsame').trans hcustom, by simp [hcustom]⟩
        rw [if_neg fun h => h.2 hsame']
        exact ⟨n, _, by rw [if_neg hn]; rfl, hstep, fun h => absurd hreplaces h, fun _ => hnone⟩
      · obtain ⟨s', w', hrun', hstep', htracks⟩ :=
          run_createScheduleForDayOfWeek hours uuids hstep.fresh owner hn hnone
        rw [if_pos ⟨hn, hsame'⟩, if_neg hn]
        refine ⟨s', w', hrun', hstep.trans hstep', fun _ => htracks, ?_⟩
        rintro ⟨heffective, hcustom⟩
        have hn' : n.scheduleType = .customSchedule := by simpa using hcustom
        have hs : s.scheduleType = .customSchedule := hsame.trans heffective
        exact absurd (hs.trans hn'.symm) hsame'

/-- **One day.** The update of a day returns. Unless it replaces a custom schedule, the session's schedule
of the day agrees with the table and the request afterwards; a replaced custom schedule leaves no row. -/
theorem run_createOrUpdateSchedule (hfresh : Fresh uuids w) (owner : String)
    (new : Option Schedule) (h : Tracks ideaSessionId w.table d last current) :
    ∃ s w', (createOrUpdateSchedule hours uuids d current new ideaSessionId owner).run w = (.ok s, w') ∧
      DayStep uuids d w w' ∧ (¬ Replaces last new → Tracks ideaSessionId w'.table d (new.or last) (some s)) ∧
      (Replaces last new → NoRow ideaSessionId w'.table d) := by
  cases h with
  | idle heffective hrow hcurrent =>
    obtain ⟨s, w', hrun, hstep, htracks⟩ :=
      run_createOrUpdateSchedule_of_idle hours uuids hfresh owner new heffective hrow hcurrent
    refine ⟨s, w', hrun, hstep, fun _ => htracks, ?_⟩
    rintro ⟨hcustom, -⟩
    rw [heffective] at hcustom
    exact absurd hcustom (by decide)
  | row schedule s id hlast htype hcurrent hsame hid hplain hday hrow =>
    subst hlast hcurrent
    exact run_createOrUpdateSchedule_of_row hours uuids hfresh owner new htype hsame hid hplain hday hrow

/-! ## One call -/

/-- What the update of a day leaves: agreement with the request, or no row where a custom schedule was
replaced. -/
def DayUpdated (ideaSessionId : String) (newSchedules last : DayOfWeek → Option Schedule) (w : World)
    (d : DayOfWeek) : Prop :=
  (¬ Replaces (last d) (newSchedules d) →
    Tracks ideaSessionId w.table d (afterRequest last newSchedules d) (w.week d)) ∧
  (Replaces (last d) (newSchedules d) → NoRow ideaSessionId w.table d)

/-- What holds in the middle of a call, when the days `done` have been updated. -/
structure CallInv (ideaSessionId : String) (newSchedules last : DayOfWeek → Option Schedule)
    (done : List DayOfWeek) (w : World) : Prop where
  fresh : Fresh uuids w
  updated : ∀ d ∈ done, DayUpdated ideaSessionId newSchedules last w d
  pending : ∀ d, d ∉ done → Tracks ideaSessionId w.table d (last d) (w.week d)

/-- The update of one more day. -/
theorem updateDay_spec (newSchedules last : DayOfWeek → Option Schedule)
    {done : List DayOfWeek} {d : DayOfWeek} (hd : d ∉ done) :
    Triple (CallInv uuids ideaSessionId newSchedules last done)
      (updateDay hours uuids newSchedules ideaSessionId owner d)
      (fun _ => CallInv uuids ideaSessionId newSchedules last (done ++ [d])) (fun _ _ => False) := by
  intro w hw
  obtain ⟨s, w', hrun, hstep, htracks, hnone⟩ :=
    run_createOrUpdateSchedule hours uuids hw.fresh owner (newSchedules d) (hw.pending d hd)
  have hupdate : (updateDay hours uuids newSchedules ideaSessionId owner d).run w =
      (.ok ⟨⟩, { w' with week := Function.update w'.week d (some s) }) := by
    unfold updateDay
    rw [Proc.run_bind_of_ok (Proc.run_gets (fun w : World => w.week d) w), Proc.run_bind_of_ok hrun, Proc.run_modify]
  rw [hupdate]
  have hweek : ∀ d', d' ≠ d → Function.update w'.week d (some s) d' = w.week d' := by
    intro d' hne
    rw [Function.update_of_ne hne, hstep.week]
  refine ⟨hstep.fresh, fun d' hd' => ?_, fun d' hd' => ?_⟩
  · by_cases heq : d' = d
    · subst heq
      refine ⟨fun h => ?_, hnone⟩
      dsimp only
      rw [Function.update_self]
      exact htracks h
    · have hdone : d' ∈ done := by simpa [heq] using hd'
      obtain ⟨hupdated, hreplaced⟩ := hw.updated d' hdone
      refine ⟨fun h => ?_, fun h => hstep.noRow_of_ne heq (hreplaced h)⟩
      dsimp only
      rw [hweek d' heq]
      exact hstep.tracks_of_ne heq (hupdated h)
  · rw [List.mem_append, List.mem_singleton, not_or] at hd'
    dsimp only
    rw [hweek d' hd'.2]
    exact hstep.tracks_of_ne hd'.2 (hw.pending d' hd'.1)

/-- A call returns, and every day is updated. -/
theorem run_updateScheduleForSession (hfresh : Fresh uuids w) (owner : String)
    (newSchedules last : DayOfWeek → Option Schedule) (h : ∀ d, Tracks ideaSessionId w.table d (last d) (w.week d)) :
    ∃ w', (updateScheduleForSession hours uuids newSchedules ideaSessionId owner).run w = (.ok ⟨⟩, w') ∧
      Fresh uuids w' ∧ ∀ d, DayUpdated ideaSessionId newSchedules last w' d := by
  have hspec : Triple (CallInv uuids ideaSessionId newSchedules last [])
      (updateScheduleForSession hours uuids newSchedules ideaSessionId owner)
      (fun _ => CallInv uuids ideaSessionId newSchedules last DayOfWeek.all) (fun _ _ => False) := by
    refine Triple.forEach_done (CallInv uuids ideaSessionId newSchedules last) ?_
    intro done d rest hsplit
    refine updateDay_spec hours uuids owner newSchedules last ?_
    -- no day comes twice
    have hnodup := DayOfWeek.nodup_all
    rw [hsplit, List.nodup_append] at hnodup
    exact fun hd => hnodup.2.2 d hd d List.mem_cons_self rfl
  have hinit : CallInv uuids ideaSessionId newSchedules last [] w :=
    ⟨hfresh, by simp, fun d _ => h d⟩
  rcases hrun : (updateScheduleForSession hours uuids newSchedules ideaSessionId owner).run w with
    ⟨e | u, w'⟩
  · exact absurd (hspec.of_error hinit hrun) id
  · have hend := hspec.of_ok hinit hrun
    exact ⟨w', rfl, hend.fresh, fun d => hend.updated d (DayOfWeek.mem_all d)⟩

/-- A schedule that agrees with the table is read back from the session's row as one that does. -/
theorem tracks_reload (h : Tracks ideaSessionId table d last current) :
    ∃ s, convertDbDictToScheduleObject hours (current.map convertScheduleObjectToDbDict) = .ok s ∧
      Tracks ideaSessionId table d last (some s) := by
  cases h with
  | idle heffective hrow hcurrent =>
    have hempty : convertDbDictToScheduleObject hours (current.map convertScheduleObjectToDbDict) =
        .ok (getEmptySchedule none) := by
      cases current with
      | none => rfl
      | some s =>
        have hblank : getAsString (convertScheduleObjectToDbDict s).scheduleId = none := by
          have hid := (hcurrent s rfl).2
          simp only [convertScheduleObjectToDbDict]
          cases hs : s.scheduleId with
          | none => rfl
          | some id =>
            rw [hs] at hid
            have hid' : isEmpty id = true := by simpa [isEmptyOpt] using hid
            simp [getAsString, hid']
        simp only [Option.map_some, convertDbDictToScheduleObject, hblank]
    refine ⟨_, hempty, .idle heffective hrow ?_⟩
    intro s hs
    rw [← Option.some.inj hs]
    exact ⟨rfl, isEmptyOpt_getEmptySchedule none⟩
  | row schedule s id hlast htype hcurrent hsame hid hplain hday hrow =>
    subst hlast hcurrent
    have hvalue : getAsString (some d.value) = some d.value := by
      cases d <;> decide
    obtain ⟨s', hconv, hid', hday', htype'⟩ : ∃ s',
        convertDbDictToScheduleObject hours ((some s).map convertScheduleObjectToDbDict) = .ok s' ∧
          s'.scheduleId = some id ∧ s'.dayOfWeek = some d ∧ s'.scheduleType = s.scheduleType := by
      simp only [Option.map_some, convertDbDictToScheduleObject, convertScheduleObjectToDbDict, hid,
        hplain, hday, dayText, parseDay, hvalue, DayOfWeek.ofValue_value]
      exact ⟨_, rfl, rfl, rfl, rfl⟩
    exact ⟨s', hconv, .row schedule s' id rfl htype rfl (htype'.trans hsame) hid' hplain hday' hrow⟩

variable {last : DayOfWeek → Option Schedule}

/-- A week that agrees with the table is read back as one that does. -/
theorem reloadWeek_of_tracks
    (h : ∀ d, Tracks ideaSessionId w.table d (last d) (w.week d)) : ∃ week, reloadWeek hours w.week = .ok week ∧
      ∀ d, Tracks ideaSessionId w.table d (last d) (week d) := by
  choose s hload htracks using fun d => tracks_reload hours (h d)
  refine ⟨fun d => some (s d), ?_, htracks⟩
  unfold reloadWeek loadWeek
  simp only [hload]
  rfl

/-! ## Sequences of calls -/

/-- Agreement on every day puts the table in step with the requests. -/
theorem inStep_of_tracks
    (h : ∀ d, Tracks ideaSessionId w.table d (last d) (w.week d)) : InStep ideaSessionId last w := by
  intro d
  cases h d with
  | idle heffective hrow hcurrent =>
    cases hlast : last d with
    | none => exact hrow
    | some schedule =>
      rw [hlast] at heffective
      have htype : schedule.scheduleType = .noSchedule := heffective
      simp only [if_pos htype]
      exact hrow
  | row schedule s id hlast htype hcurrent hsame hid hplain hday hrow =>
    rw [hlast]
    simp only [if_neg htype]
    refine ⟨id, hrow, ?_⟩
    rw [hcurrent]
    exact hid

/-- A replaced custom schedule puts the table out of step. -/
theorem not_inStep_of_replaces {newSchedules last : DayOfWeek → Option Schedule}
    (hreplaces : Replaces (last d) (newSchedules d)) (hnone : NoRow ideaSessionId w.table d) :
    ¬ InStep ideaSessionId (afterRequest last newSchedules) w := by
  intro h
  obtain ⟨n, hn, hcustom⟩ := Option.map_eq_some_iff.mp hreplaces.2
  have hday := h d
  have hafter : afterRequest last newSchedules d = some n := by
    rw [afterRequest, hn]
    rfl
  rw [hafter] at hday
  simp only [hcustom] at hday
  rw [if_neg (by decide)] at hday
  obtain ⟨id, ⟨⟨row, hget, hsession, -⟩, -⟩, -⟩ := hday
  exact hnone id row hget hsession

/-- Calls on a session whose schedules agree with the table. -/
theorem follows_iff_of_tracks (requests : List (DayOfWeek → Option Schedule)) (hfresh : Fresh uuids w)
    (h : ∀ d, Tracks ideaSessionId w.table d (last d) (w.week d)) :
    Follows hours uuids ideaSessionId owner requests last w ↔ NeverReplaces requests last := by
  induction requests generalizing last w with
  | nil => exact Iff.rfl
  | cons newSchedules rest ih =>
    obtain ⟨w', hrun, hfresh', hupdated⟩ := run_updateScheduleForSession hours uuids hfresh owner newSchedules last h
    constructor
    · rintro ⟨w'', week, hrun', hstep, hreload, hrest⟩
      rw [hrun] at hrun'
      obtain rfl : w' = w'' := congrArg Prod.snd hrun'
      have hnever : ∀ d, ¬ Replaces (last d) (newSchedules d) := fun d hd =>
        not_inStep_of_replaces hd ((hupdated d).2 hd) hstep
      have htracks : ∀ d, Tracks ideaSessionId w'.table d (afterRequest last newSchedules d) (w'.week d) :=
        fun d => (hupdated d).1 (hnever d)
      obtain ⟨week', hreload', hweek⟩ := reloadWeek_of_tracks hours htracks
      rw [hreload'] at hreload
      obtain rfl : week' = week := Except.ok.inj hreload
      exact ⟨hnever, (ih (w := { w' with week := week' }) hfresh' hweek).mp hrest⟩
    · rintro ⟨hnever, hrest⟩
      have htracks : ∀ d, Tracks ideaSessionId w'.table d (afterRequest last newSchedules d) (w'.week d) :=
        fun d => (hupdated d).1 (hnever d)
      obtain ⟨week, hreload, hweek⟩ := reloadWeek_of_tracks hours htracks
      exact ⟨w', week, hrun, inStep_of_tracks htracks, hreload,
        (ih (w := { w' with week := week }) hfresh' hweek).mpr hrest⟩

/-- A session without schedules: no rows, and nothing but empty schedules in the session. -/
structure Unscheduled (ideaSessionId : String) (w : World) : Prop where
  fresh : Fresh uuids w
  noRow : ∀ d, NoRow ideaSessionId w.table d
  empty : ∀ d s, w.week d = some s → s.scheduleType = .noSchedule ∧ isEmptyOpt s.scheduleId = true

/-- **Schedules follow the session.** From a session without schedules, the table is in step after every
call of a sequence if and only if no call asks for a custom schedule on a day on which one is in effect. -/
theorem follows_iff (owner : String) (requests : List (DayOfWeek → Option Schedule)) {w : World}
    (h : Unscheduled uuids ideaSessionId w) : Follows hours uuids ideaSessionId owner requests (fun _ => none) w ↔
      NeverReplaces requests fun _ => none :=
  follows_iff_of_tracks hours uuids owner requests h.fresh fun d => .idle rfl (h.noRow d) (h.empty d)

/-- A session without schedules beside an empty table. -/
def emptyWorld : World where
  table := ∅
  drawn := 0
  week := fun _ => none

theorem unscheduled_emptyWorld : Unscheduled Uuids.unary ideaSessionId emptyWorld where
  fresh := fun _ _ _ => Table.getItem_empty _
  noRow := fun _ _ _ hrow => absurd hrow (by simp [emptyWorld])
  empty := fun _ _ hs => absurd hs (by simp [emptyWorld])

/-- A week that asks for one schedule, on Mondays. -/
def onMonday (schedule : Schedule) (d : DayOfWeek) : Option Schedule :=
  if d = .monday then some schedule else none

/-- Working hours on Mondays, then no schedule. -/
theorem follows_workingHours_noSchedule : Follows ⟨"09:00", "17:00"⟩ Uuids.unary "session" "owner"
      [onMonday { scheduleType := .workingHours }, onMonday { scheduleType := .noSchedule }]
      (fun _ => none) emptyWorld := by
  refine (follows_iff _ Uuids.unary "owner" _ unscheduled_emptyWorld).mpr ⟨?_, ?_, trivial⟩
  · rintro d ⟨heffective, -⟩
    exact ScheduleType.noConfusion heffective
  · rintro d ⟨-, hcustom⟩
    obtain ⟨n, hn, htype⟩ := Option.map_eq_some_iff.mp hcustom
    unfold onMonday at hn
    split at hn
    · rw [← Option.some.inj hn] at htype
      exact absurd htype (by decide)
    · exact absurd hn (by simp)

/-- From nine to five, then from eight to four: after the second call the session has no row on
Mondays. -/
theorem custom_for_custom_lost : ¬ ∀ (hours : WorkingHours) (uuids : Uuids) (ideaSessionId owner : String)
        (requests : List (DayOfWeek → Option Schedule)) (w : World), Unscheduled uuids ideaSessionId w →
          Follows hours uuids ideaSessionId owner requests (fun _ => none) w := by
  intro h
  have hfollows := h ⟨"09:00", "17:00"⟩ Uuids.unary "session" "owner"
    [onMonday { scheduleType := .customSchedule, startUpTime := "09:00", shutDownTime := "17:00" },
      onMonday { scheduleType := .customSchedule, startUpTime := "08:00", shutDownTime := "16:00" }]
    emptyWorld unscheduled_emptyWorld
  have hw : Unscheduled Uuids.unary "session" emptyWorld := unscheduled_emptyWorld
  obtain ⟨-, hnever, -⟩ := (follows_iff_of_tracks _ _ _ _ hw.fresh fun d =>
    .idle rfl (hw.noRow d) (hw.empty d)).mp hfollows
  exact hnever .monday ⟨rfl, rfl⟩

end ContainRes.VirtualDesktop.Schedules
