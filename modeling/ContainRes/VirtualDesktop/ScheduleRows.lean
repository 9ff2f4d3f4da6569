import ContainRes.VirtualDesktop.Schedules

/-! # The rows that an update of schedules deletes

`update_schedule_for_session` deletes the rows that the week of the session at hand names, whoever they
belong to, and creates rows under new ids. Here is which of the rows of the table are gone afterwards, for
any week and any table.

* **`deletedKey`**, **`deletedRows`** — the row that the update of one day deletes, and the rows that the
  update of some days deletes before one of them is not there.
* **`Adds`** — a table keeps its rows and has some more under new ids.
* **`getItem_updateScheduleForSession`** — a row is gone exactly when it is one of the deleted rows.
* **`getItem_deleteSchedules_of_not_named`**, **`getItem_deleteSchedules_of_named`** — the rows after the deletion
  of a week. -/

namespace ContainRes.VirtualDesktop.Schedules

open Effects Store Text

/-- The row that is deleted when a day's schedule gives way to a new one. -/
def deletedKey (d : DayOfWeek) (current new : Option Schedule) : Option (String × String) :=
  match new with
  | none => none
  | some n =>
    if isSameSchedule (some n) (some (current.getD (getEmptySchedule (some d)))) then none
    else rowKey (some (current.getD (getEmptySchedule (some d))))

variable {key : String × String}

/-- The row is the one that the day's schedule names. -/
theorem rowKey_of_deletedKey {d : DayOfWeek} {current new : Option Schedule}
    (h : deletedKey d current new = some key) : rowKey current = some key := by
  cases new with
  | none => exact absurd h (by simp [deletedKey])
  | some n =>
    unfold deletedKey at h
    dsimp only at h
    split at h
    · exact absurd h (by simp)
    · cases current with
      | none =>
        have hnone : rowKey (some (getEmptySchedule (some d))) = none := by
          simp [rowKey, getEmptySchedule]
        rw [Option.getD_none, hnone] at h
        exact absurd h (by simp)
      | some s => exact h

/-- The rows that are deleted one after another, up to the first that is not there. -/
def deletedRows (names : DayOfWeek → Option (String × String)) :
    List DayOfWeek → Table (String × String) ScheduleDict → List (String × String)
  | [], _ => []
  | d :: days, t =>
    match names d with
    | none => deletedRows names days t
    | some key => if t.Has key then key :: deletedRows names days (t.deleteItem key) else []

variable {days : List DayOfWeek}

/-- The rows that are deleted are named by a day. -/
theorem exists_of_mem_deletedRows {names : DayOfWeek → Option (String × String)}
    {t : Table (String × String) ScheduleDict} (h : key ∈ deletedRows names days t) :
    (∃ d ∈ days, names d = some key) ∧ t.Has key := by
  induction days generalizing t with
  | nil => exact absurd h List.not_mem_nil
  | cons d days ih =>
    unfold deletedRows at h
    cases hname : names d with
    | none =>
      rw [hname] at h
      obtain ⟨⟨d', hd', hkey⟩, hhas⟩ := ih h
      exact ⟨⟨d', List.mem_cons_of_mem _ hd', hkey⟩, hhas⟩
    | some key' =>
      simp only [hname] at h
      split at h
      · rename_i hhas'
        rcases List.mem_cons.mp h with rfl | hlater
        · exact ⟨⟨d, List.mem_cons_self, hname⟩, hhas'⟩
        · obtain ⟨⟨d', hd', hkey⟩, hhas⟩ := ih hlater
          exact ⟨⟨d', List.mem_cons_of_mem _ hd', hkey⟩, (Table.has_deleteItem.mp hhas).2⟩
      · exact absurd h List.not_mem_nil

/-- Only the names of the days and whether there are such rows matter. -/
theorem deletedRows_congr {names names' : DayOfWeek → Option (String × String)}
    {t t' : Table (String × String) ScheduleDict} (hnames : ∀ d ∈ days, names d = names' d)
    (hhas : ∀ d ∈ days, ∀ key, names d = some key → (t.Has key ↔ t'.Has key)) :
    deletedRows names days t = deletedRows names' days t' := by
  induction days generalizing t t' with
  | nil => rfl
  | cons d days ih =>
    have hnames' := fun d' hd' => hnames d' (List.mem_cons_of_mem _ hd')
    have hhas' := fun d' hd' => hhas d' (List.mem_cons_of_mem _ hd')
    unfold deletedRows
    rw [← hnames d List.mem_cons_self]
    cases hname : names d with
    | none => exact ih hnames' hhas'
    | some key =>
      have hiff := hhas d List.mem_cons_self key hname
      dsimp only
      by_cases hkey : t.Has key
      · rw [if_pos hkey, if_pos (hiff.mp hkey)]
        congr 1
        refine ih hnames' fun d' hd' key' hname' => ?_
        rw [Table.has_deleteItem, Table.has_deleteItem, hhas' d' hd' key' hname']
      · rw [if_neg hkey, if_neg (mt hiff.mpr hkey)]

variable (hours : WorkingHours) (uuids : Uuids)

/-- The rows are kept, and what is new is under ids drawn in between. -/
structure Adds (w w' : World) : Prop where
  kept : ∀ key row, w.table.getItem key = some row → w'.table.getItem key = some row
  added : ∀ key, w'.table.Has key →
    w.table.Has key ∨ ∃ n, w.drawn ≤ n ∧ n < w'.drawn ∧ key.2 = uuids.id n
  drawn : w.drawn ≤ w'.drawn

namespace Adds

variable {uuids} {w w' : World}

theorem refl (w : World) : Adds uuids w w :=
  ⟨fun _ _ h => h, fun _ h => .inl h, Nat.le_refl _⟩

theorem fresh (h : Adds uuids w w') (hfresh : Fresh uuids w) : Fresh uuids w' := by
  intro n hn day
  by_contra hsome
  have hhas : w'.table.Has (day, uuids.id n) := by
    by_contra hnot
    exact hsome (Table.not_has_iff.mp hnot)
  rcases h.added _ hhas with hold | ⟨n', -, hlt, hid⟩
  · exact Table.not_has_iff.mpr (hfresh n (h.drawn.trans hn) day) hold
  · have heq : n = n' := uuids.injective hid
    omega

/-- A row under no new id is as it was, or still missing. -/
theorem getItem_of_old (h : Adds uuids w w')
    (hold : ∀ n, w.drawn ≤ n → key.2 ≠ uuids.id n) : w'.table.getItem key = w.table.getItem key := by
  cases hrow : w.table.getItem key with
  | some row => exact h.kept key row hrow
  | none =>
    refine Table.not_has_iff.mp fun hhas => ?_
    rcases h.added key hhas with hhas' | ⟨n, hn, -, hid⟩
    · exact Table.not_has_iff.mpr hrow hhas'
    · exact hold n hn hid

end Adds

variable {w : World} {d : DayOfWeek}

theorem Fresh.deleteItem (h : Fresh uuids w) (key : String × String) :
    Fresh uuids { w with table := w.table.deleteItem key } := by
  intro n hn day
  rw [Table.getItem_deleteItem, h n hn day, ite_self]

/-- A schedule is created under a new id. -/
theorem run_createScheduleForDayOfWeek_adds (hfresh : Fresh uuids w) (new : Schedule) (ideaSessionId owner : String) :
    ∃ s w', (createScheduleForDayOfWeek hours uuids d new ideaSessionId owner).run w = (.ok s, w') ∧
      Adds uuids w w' ∧ w'.week = w.week := by
  unfold createScheduleForDayOfWeek
  split
  · exact ⟨_, w, rfl, Adds.refl w, rfl⟩
  · obtain ⟨created, hrun, -⟩ := run_create hours uuids w (scheduleOfDay d new ideaSessionId owner) d rfl
    refine ⟨created, _, hrun, ⟨?_, ?_, Nat.le_succ _⟩, rfl⟩
    · intro key row hrow
      have hne : key ≠ (d.value, uuids.id w.drawn) := by
        rintro rfl
        rw [hfresh w.drawn (Nat.le_refl _)] at hrow
        exact absurd hrow (by simp)
      rw [← hrow]
      exact Table.getItem_putItem_of_ne _ _ hne
    · intro key hhas
      rcases Table.has_putItem.mp hhas with rfl | hold
      · exact .inr ⟨w.drawn, Nat.le_refl _, Nat.lt_succ_self _, rfl⟩
      · exact .inl hold

/-- A deletion of the row that a schedule names, whether or not it is there. -/
theorem run_deleteSchedule_of_missing {schedule : Option Schedule}
    (h : rowKey schedule = some key) (hrow : ¬ w.table.Has key) :
    ∃ e, (deleteSchedule schedule).run w = (.error e, { w with table := w.table.deleteItem key }) := by
  cases schedule with
  | none => exact absurd h (by simp [rowKey])
  | some s =>
    by_cases hguard : s.scheduleType = .noSchedule ∨ isEmptyOpt s.scheduleId || s.dayOfWeek.isNone
    · simp only [rowKey, Option.bind_some, if_pos hguard] at h
      exact absurd h (by simp)
    · simp only [rowKey, Option.bind_some, if_neg hguard, Option.some.injEq] at h
      subst h
      obtain ⟨htype, hempty⟩ := not_or.mp hguard
      have hnone := Table.not_has_iff.mp hrow
      refine ⟨.other .keyError "'day_of_week'", ?_⟩
      unfold deleteSchedule delete
      dsimp only
      rw [if_neg htype, if_neg hempty, Proc.run_bind_of_ok (Proc.run_gets _ w), hnone,
        Proc.run_bind_of_ok (Proc.run_modify _ w)]
      exact Proc.run_when_pos rfl _

/-- The deletion of a schedule leaves every other row. -/
theorem getItem_deleteSchedule (schedule : Option Schedule) (key : String × String) :
    ((deleteSchedule schedule).run w).2.table.getItem key =
      if rowKey schedule = some key then none else w.table.getItem key := by
  cases hkey : rowKey schedule with
  | none =>
    rw [deleteSchedule_of_rowKey_none hkey, if_neg (by simp)]
    rfl
  | some key' =>
    have htable : ((deleteSchedule schedule).run w).2.table = w.table.deleteItem key' := by
      by_cases hrow : w.table.Has key'
      · rw [run_deleteSchedule_of_rowKey hkey hrow]
      · obtain ⟨e, hrun⟩ := run_deleteSchedule_of_missing hkey hrow
        rw [hrun]
    rw [htable, Table.getItem_deleteItem]
    by_cases heq : key = key'
    · rw [if_pos heq, if_pos (congrArg some heq.symm)]
    · rw [if_neg heq, if_neg fun h => heq (Option.some.inj h).symm]

/-- The schedules of a week are deleted, and the rows that no day names stay. -/
theorem getItem_deleteSchedules_of_not_named (week : DayOfWeek → Option Schedule)
    (hnot : ∀ d, rowKey (week d) ≠ some key) (w : World) :
    ((Proc.forEach (fun d => deleteSchedule (week d)) DayOfWeek.all).run w).2.table.getItem key =
      w.table.getItem key := by
  have hkeeps : Keeps (fun v : World => v.table.getItem key = w.table.getItem key)
      (Proc.forEach (fun d => deleteSchedule (week d)) DayOfWeek.all) := by
    refine Keeps.forEach fun d _ => Keeps.of_state fun v hv => ?_
    rw [getItem_deleteSchedule, if_neg (hnot d)]
    exact hv
  exact hkeeps.run rfl

/-- A deletion of schedules that returns has found the rows that the days name, and has deleted them. -/
theorem getItem_deleteSchedules_of_named (week : DayOfWeek → Option Schedule)
    {d : DayOfWeek} (hd : d ∈ days) (hkey : rowKey (week d) = some key) {u : PUnit}
    (h : ((Proc.forEach (fun d => deleteSchedule (week d)) days).run w).1 = .ok u) : w.table.Has key ∧
      ((Proc.forEach (fun d => deleteSchedule (week d)) days).run w).2.table.getItem key = none := by
  have hgone : ∀ (days : List DayOfWeek) (v : World), v.table.getItem key = none →
      ((Proc.forEach (fun d => deleteSchedule (week d)) days).run v).2.table.getItem key = none := by
    intro days v hv
    have hkeeps : Keeps (fun v : World => v.table.getItem key = none)
        (Proc.forEach (fun d => deleteSchedule (week d)) days) := by
      refine Keeps.forEach fun d _ => Keeps.of_state fun v hv => ?_
      rw [getItem_deleteSchedule, hv, ite_self]
    exact hkeeps.run hv
  induction days generalizing w with
  | nil => exact absurd hd List.not_mem_nil
  | cons d' days ih =>
    have hrow := getItem_deleteSchedule (w := w) (week d') key
    rw [Proc.forEach_cons, Proc.run_bind] at h ⊢
    rcases hrun : (deleteSchedule (week d')).run w with ⟨e | u', v⟩
    · rw [hrun] at h
      exact absurd h (by simp)
    · rw [hrun] at h hrow
      by_cases hday : rowKey (week d') = some key
      · rw [if_pos hday] at hrow
        refine ⟨?_, hgone days v hrow⟩
        by_contra hnot
        obtain ⟨e, hraised⟩ := run_deleteSchedule_of_missing hday hnot
        exact absurd (congrArg Prod.fst (hrun.symm.trans hraised)) (by simp)
      · rw [if_neg hday] at hrow
        have hd' : d ∈ days := (List.mem_cons.mp hd).resolve_left fun heq => hday (heq ▸ hkey)
        obtain ⟨hhas, hnone⟩ := ih hd' h
        rw [Table.Has, hrow] at hhas
        exact ⟨hhas, hnone⟩

theorem scheduleType_of_rowKey {s : Schedule} (h : rowKey (some s) = some key) : s.scheduleType ≠ .noSchedule := by
  intro htype
  simp [rowKey, htype] at h

/-- **One day.** Without a row to delete the update adds rows only; a row that is there is deleted first,
and one that is not ends the update. -/
theorem run_createOrUpdateSchedule_rows (hfresh : Fresh uuids w) (current new : Option Schedule)
    (ideaSessionId owner : String) : match deletedKey d current new with
    | none => ∃ s w', (createOrUpdateSchedule hours uuids d current new ideaSessionId owner).run w =
        (.ok s, w') ∧ Adds uuids w w' ∧ w'.week = w.week
    | some key =>
      if w.table.Has key then
        ∃ s w', (createOrUpdateSchedule hours uuids d current new ideaSessionId owner).run w =
          (.ok s, w') ∧ Adds uuids { w with table := w.table.deleteItem key } w' ∧ w'.week = w.week
      else
        ∃ e, (createOrUpdateSchedule hours uuids d current new ideaSessionId owner).run w =
          (.error e, { w with table := w.table.deleteItem key }) := by
  cases new with
  | none => exact ⟨_, w, rfl, Adds.refl w, rfl⟩
  | some n =>
    unfold deletedKey createOrUpdateSchedule
    dsimp only
    -- what happens once the row is deleted
    have hcreate : ∀ v : World, Fresh uuids v → v.week = w.week → ∀ (b : Prop) [Decidable b] (n' : Schedule),
        ∃ s w', (if b then createScheduleForDayOfWeek hours uuids d n' ideaSessionId owner
          else pure n').run v = (.ok s, w') ∧ Adds uuids v w' ∧ w'.week = w.week := by
      intro v hv hweek b _ n'
      split
      · obtain ⟨s, w', hrun, hadds, hweek'⟩ :=
          run_createScheduleForDayOfWeek_adds hours uuids hv n' ideaSessionId owner (d := d)
        exact ⟨s, w', hrun, hadds, hweek'.trans hweek⟩
      · exact ⟨n', v, rfl, Adds.refl v, hweek⟩
    by_cases hsame : isSameSchedule (some n) (some (current.getD (getEmptySchedule (some d)))) = true
    · rw [if_pos hsame, if_pos hsame]
      exact ⟨_, w, rfl, Adds.refl w, rfl⟩
    · rw [if_neg hsame, if_neg hsame]
      cases hkey : rowKey (some (current.getD (getEmptySchedule (some d)))) with
      | none =>
        have hwhen : ∀ (b : Prop) [Decidable b], (Proc.when b (deleteSchedule
            (some (current.getD (getEmptySchedule (some d)))))).run w = (.ok ⟨⟩, w) := by
          intro b _
          rw [deleteSchedule_of_rowKey_none hkey, Proc.run_when]
          split <;> rfl
        dsimp only
        rw [Proc.run_bind_of_ok (hwhen _)]
        exact hcreate w hfresh rfl _ _
      | some key =>
        have htype : (current.getD (getEmptySchedule (some d))).scheduleType ≠ .noSchedule ∨
            isEmptyOpt (current.getD (getEmptySchedule (some d))).scheduleId = false :=
          .inl (scheduleType_of_rowKey hkey)
        dsimp only
        split
        · rename_i hhas
          rw [Proc.run_bind_of_ok ((Proc.run_when_pos htype w).trans (run_deleteSchedule_of_rowKey hkey hhas))]
          exact hcreate _ (Fresh.deleteItem uuids hfresh key) rfl _ _
        · rename_i hhas
          obtain ⟨e, hrun⟩ := run_deleteSchedule_of_missing hkey hhas
          exact ⟨e, Proc.run_bind_of_error ((Proc.run_when_pos htype w).trans hrun)⟩

/-! ## The week -/

variable (newSchedules : DayOfWeek → Option Schedule) (ideaSessionId owner : String)

/-- The update of one day of the week, in terms of the row that it deletes. -/
theorem run_updateDay_rows (hfresh : Fresh uuids w) : match deletedKey d (w.week d) (newSchedules d) with
    | none => ∃ w', (updateDay hours uuids newSchedules ideaSessionId owner d).run w = (.ok ⟨⟩, w') ∧
        Adds uuids w w' ∧ ∀ d', d' ≠ d → w'.week d' = w.week d'
    | some key =>
      if w.table.Has key then
        ∃ w', (updateDay hours uuids newSchedules ideaSessionId owner d).run w = (.ok ⟨⟩, w') ∧
          Adds uuids { w with table := w.table.deleteItem key } w' ∧ ∀ d', d' ≠ d → w'.week d' = w.week d'
      else
        ∃ e, (updateDay hours uuids newSchedules ideaSessionId owner d).run w =
          (.error e, { w with table := w.table.deleteItem key }) := by
  have hday := run_createOrUpdateSchedule_rows hours uuids hfresh (w.week d) (newSchedules d)
    ideaSessionId owner (d := d)
  have hfinish : ∀ (s : Schedule) (v w' : World), Adds uuids v w' → w'.week = w.week →
      (createOrUpdateSchedule hours uuids d (w.week d) (newSchedules d) ideaSessionId owner).run w =
        (.ok s, w') →
      ∃ w', (updateDay hours uuids newSchedules ideaSessionId owner d).run w = (.ok ⟨⟩, w') ∧
        Adds uuids v w' ∧ ∀ d', d' ≠ d → w'.week d' = w.week d' := by
    intro s v w' hadds hweek hrun
    refine ⟨{ w' with week := Function.update w'.week d (some s) }, ?_, ⟨hadds.kept, hadds.added,
      hadds.drawn⟩, ?_⟩
    · unfold updateDay
      rw [Proc.run_bind_of_ok (Proc.run_gets _ w), Proc.run_bind_of_ok hrun]
      rfl
    · intro d' hne
      dsimp only
      rw [Function.update_of_ne hne, hweek]
  cases hkey : deletedKey d (w.week d) (newSchedules d) with
  | none =>
    rw [hkey] at hday
    obtain ⟨s, w', hrun, hadds, hweek⟩ := hday
    exact hfinish s w w' hadds hweek hrun
  | some key =>
    simp only [hkey] at hday ⊢
    by_cases hhas : w.table.Has key
    · rw [if_pos hhas] at hday ⊢
      obtain ⟨s, w', hrun, hadds, hweek⟩ := hday
      exact hfinish s _ w' hadds hweek hrun
    · rw [if_neg hhas] at hday ⊢
      obtain ⟨e, hrun⟩ := hday
      refine ⟨e, ?_⟩
      unfold updateDay
      rw [Proc.run_bind_of_ok (Proc.run_gets _ w), Proc.run_bind_of_error hrun]

/-- The rows of a table after the update of some days, but for those under ids drawn on the way. The names
of the days are no such ids either. -/
theorem getItem_updateDays (hnodup : days.Nodup) (hfresh : Fresh uuids w)
    (hnamed : ∀ d ∈ days, ∀ key, deletedKey d (w.week d) (newSchedules d) = some key →
      ∀ n, w.drawn ≤ n → key.2 ≠ uuids.id n) (hold : ∀ n, w.drawn ≤ n → key.2 ≠ uuids.id n) :
    ((Proc.forEach (updateDay hours uuids newSchedules ideaSessionId owner) days).run w).2.table.getItem key =
      if key ∈ deletedRows (fun d => deletedKey d (w.week d) (newSchedules d)) days w.table then none
      else w.table.getItem key := by
  induction days generalizing w with
  | nil => simp [deletedRows]
  | cons d days ih =>
    rw [List.nodup_cons] at hnodup
    have hnamed' := fun d' hd' => hnamed d' (List.mem_cons_of_mem _ hd')
    -- the days that are left see the week, and of the rows they name which are there, as they were
    have hrest : ∀ v w' : World, Adds uuids v w' → v.drawn = w.drawn →
        (∀ d', d' ≠ d → w'.week d' = w.week d') → Fresh uuids v →
        ((Proc.forEach (updateDay hours uuids newSchedules ideaSessionId owner) days).run w').2.table.getItem
            key =
          if key ∈ deletedRows (fun d => deletedKey d (w.week d) (newSchedules d)) days v.table then none
          else v.table.getItem key := by
      intro v w' hadds hdrawn hweek hv
      have hle : w.drawn ≤ w'.drawn := hdrawn ▸ hadds.drawn
      have hnames : ∀ d' ∈ days, deletedKey d' (w'.week d') (newSchedules d') =
          deletedKey d' (w.week d') (newSchedules d') := by
        intro d' hd'
        rw [hweek d' fun h => hnodup.1 (h ▸ hd')]
      have hrows : deletedRows (fun d => deletedKey d (w'.week d) (newSchedules d)) days w'.table =
          deletedRows (fun d => deletedKey d (w.week d) (newSchedules d)) days v.table := by
        refine deletedRows_congr hnames fun d' hd' key' hname => ?_
        rw [hnames d' hd'] at hname
        rw [Table.Has, Table.Has, hadds.getItem_of_old fun n hn => hnamed' d' hd' key' hname n (hdrawn ▸ hn)]
      rw [ih hnodup.2 (hadds.fresh hv) (fun d' hd' key' hname n hn => ?_)
        (fun n hn => hold n (hle.trans hn)), hrows, hadds.getItem_of_old fun n hn => hold n (hdrawn ▸ hn)]
      rw [hnames d' hd'] at hname
      exact hnamed' d' hd' key' hname n (hle.trans hn)
    have hday := run_updateDay_rows hours uuids newSchedules ideaSessionId owner hfresh (d := d)
    rw [Proc.forEach_cons]
    cases hkey : deletedKey d (w.week d) (newSchedules d) with
    | none =>
      rw [hkey] at hday
      obtain ⟨w', hrun, hadds, hweek⟩ := hday
      rw [Proc.run_bind_of_ok hrun, hrest w w' hadds rfl hweek hfresh]
      simp only [deletedRows, hkey]
    | some key' =>
      simp only [hkey] at hday
      by_cases hhas : w.table.Has key'
      · rw [if_pos hhas] at hday
        obtain ⟨w', hrun, hadds, hweek⟩ := hday
        rw [Proc.run_bind_of_ok hrun, hrest _ w' hadds rfl hweek (Fresh.deleteItem uuids hfresh key'),
          Table.getItem_deleteItem]
        simp only [deletedRows, hkey, if_pos hhas, List.mem_cons]
        by_cases heq : key = key'
        · simp [heq]
        · simp [heq]
      · rw [if_neg hhas] at hday
        obtain ⟨e, hrun⟩ := hday
        rw [Proc.run_bind_of_error hrun]
        simp only [deletedRows, hkey, if_neg hhas, List.not_mem_nil, if_false, Table.getItem_deleteItem]
        split
        · rename_i heq
          rw [heq, Table.not_has_iff.mp hhas]
        · rfl

/-- **The rows after an update.** Where no schedule of the week names an id still to be drawn, exactly the
deleted rows are gone. -/
theorem getItem_updateScheduleForSession (hfresh : Fresh uuids w)
    (hnamed : ∀ d key, deletedKey d (w.week d) (newSchedules d) = some key → ∀ n, w.drawn ≤ n → key.2 ≠ uuids.id n)
    {row : ScheduleDict} (hrow : w.table.getItem key = some row) :
    ((updateScheduleForSession hours uuids newSchedules ideaSessionId owner).run w).2.table.getItem key =
      if key ∈ deletedRows (fun d => deletedKey d (w.week d) (newSchedules d)) DayOfWeek.all w.table then none
      else some row := by
  have hold : ∀ n, w.drawn ≤ n → key.2 ≠ uuids.id n := by
    intro n hn hid
    have hnone := hfresh n hn key.1
    rw [← hid, hrow] at hnone
    exact absurd hnone (by simp)
  have hdays := getItem_updateDays hours uuids newSchedules ideaSessionId owner DayOfWeek.nodup_all hfresh
    (fun d _ => hnamed d) hold
  rw [hrow] at hdays
  exact hdays

end ContainRes.VirtualDesktop.Schedules
