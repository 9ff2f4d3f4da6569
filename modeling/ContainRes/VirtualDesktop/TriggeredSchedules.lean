import ContainRes.Common.Paginator
import ContainRes.Store.PagedScan
import ContainRes.VirtualDesktop.Events
import ContainRes.VirtualDesktop.ScheduleDb

/-! # The schedules that a scheduled event triggers

`ScheduledEventHandler.handle_event`, up to the sweep of the permissions: the schedules of the day are read with
one query and triggered one after the other.

* **`triggerSchedule`** — what one schedule sends at a time of the day; **`startUpTime`** takes its minutes from the
  other of the two times.
* **`triggerSchedules`** — the loop, with a record of its calls.
* **`clockTime`**, **`Fires`**, **`FiresAtTimes`** — what the schedules of a day are to send.
* **`firesAtTimes_iff`** — they do exactly when the query has one page, nothing on it raises, and the time of the
  event does not fall between the two readings of a start. -/

namespace ContainRes.VirtualDesktop.Schedules

open Effects Store Text

/-! ## Times of the day -/

/-- The microseconds of a minute. Times of the day are counted in microseconds, which is the order in which `time`
objects are compared. -/
def microsecondsPerMinute : ℕ := 60 * 1000000

def toTimeObject (hours minutes : ℤ) : Except Exc ℕ :=
  if hours < 0 ∨ 23 < hours then .error (.other .valueError "hour must be in 0..23")
  else if minutes < 0 ∨ 59 < minutes then .error (.other .valueError "minute must be in 0..59")
  else .ok ((hours.toNat * 60 + minutes.toNat) * microsecondsPerMinute)

/-- `int(parts[i])`. -/
def component (parts : List String) (i : ℕ) : Except Exc ℤ :=
  match parts[i]? with
  | none => .error (.other .indexError "list index out of range")
  | some text =>
    match parseInt text with
    | none => .error (.other .valueError "invalid literal for int() with base 10")
    | some n => .ok n

/-- The start, whose minutes are those of the other time. -/
def startUpTime (startUpParts shutDownParts : List String) : Except Exc ℕ := do
  let hours ← component startUpParts 0
  let minutes ← component shutDownParts 1
  toTimeObject hours minutes

/-- The stop. -/
def shutDownTime (shutDownParts : List String) : Except Exc ℕ := do
  let hours ← component shutDownParts 0
  let minutes ← component shutDownParts 1
  toTimeObject hours minutes

/-! ## One schedule -/

variable (hours : WorkingHours)

/-- The two texts that the times are parsed from. -/
def timeTexts (schedule : Schedule) : Option String × Option String :=
  if schedule.scheduleType = .workingHours then (some hours.startUpTime, some hours.shutDownTime)
  else (schedule.startUpTime, schedule.shutDownTime)

/-- `value.split(":")`. -/
def splitTime : Option String → Except Exc (List String)
  | none => .error (.other .attributeError "'NoneType' object has no attribute 'split'")
  | some text => .ok (splitChar ':' text)

/-- The two times of a schedule. -/
def scheduleTimes (schedule : Schedule) : Except Exc (ℕ × ℕ) := do
  let startUpParts ← splitTime (timeTexts hours schedule).1
  let shutDownParts ← splitTime (timeTexts hours schedule).2
  let start ← startUpTime startUpParts shutDownParts
  let stop ← shutDownTime shutDownParts
  return (start, stop)

/-- The event of `publish_idea_session_scheduled_stop_event` for a schedule. -/
def stopEvent (schedule : Schedule) : VirtualDesktopEvent :=
  ideaSessionScheduledStopEvent schedule.ideaSessionId schedule.ideaSessionOwner

/-- The event of `publish_idea_session_scheduled_resume_event` for a schedule. -/
def resumeEvent (schedule : Schedule) : VirtualDesktopEvent :=
  ideaSessionScheduledResumeEvent schedule.ideaSessionId schedule.ideaSessionOwner

/-- What `trigger_schedule` publishes, if anything. -/
def triggeredEvent (eventTime : ℕ) (schedule : Schedule) : Except Exc (Option VirtualDesktopEvent) :=
  match schedule.scheduleType with
  | .stopAllDay => .ok (some (stopEvent schedule))
  | .startAllDay => .ok (some (resumeEvent schedule))
  | .workingHours | .customSchedule | .noSchedule => do
    let (start, stop) ← scheduleTimes hours schedule
    if eventTime < start then return none
    else if start ≤ eventTime ∧ eventTime < stop then return some (resumeEvent schedule)
    else return some (stopEvent schedule)

/-- The messages for an event that may be there. -/
def sendEvent : Option VirtualDesktopEvent → Except Exc (List QueueMessage)
  | none => .ok []
  | some event => (messageOf event).map fun message => [message]

/-- `trigger_schedule`: the messages that it sends. -/
def triggerSchedule (eventTime : ℕ) (schedule : Schedule) : Except Exc (List QueueMessage) := do
  let event ← triggeredEvent hours eventTime schedule
  sendEvent event

/-! ## The schedules of a day -/

/-- What queries for the schedules of a day answer. -/
structure SchedulePages (κ : Type) where
  pages : DayOfWeek → PagedRows κ ScheduleDict
  keyed : ∀ d, ∀ row ∈ (pages d).rows, row.dayOfWeek = d.value

variable {κ : Type} [DecidableEq κ] (table : SchedulePages κ)

/-- `get_schedules_for_day_of_week`: one query. -/
def getSchedulesForDayOfWeek (dayOfWeek : DayOfWeek) : Except Exc (List Schedule) :=
  ((table.pages dayOfWeek).read none).1.mapM fun row => convertDbDictToScheduleObject hours (some row)

/-- A call of `trigger_schedule`: the schedule, and the messages that were sent. -/
structure Trigger where
  schedule : Schedule
  sent : List QueueMessage
  deriving DecidableEq, Repr

/-- One turn of the loop, with a record of the call. -/
def triggerOne (eventTime : ℕ) (schedule : Schedule) : Proc (List Trigger) Exc PUnit :=
  match triggerSchedule hours eventTime schedule with
  | .error e => do
    Proc.modify fun calls => calls ++ [⟨schedule, []⟩]
    Proc.raise e
  | .ok sent => Proc.modify fun calls => calls ++ [⟨schedule, sent⟩]

/-- The part of `ScheduledEventHandler.handle_event` that triggers the schedules of the day. -/
def triggerSchedules (dayOfWeek : DayOfWeek) (eventTime : ℕ) : Proc (List Trigger) Exc PUnit := do
  let schedules ← Proc.liftExcept (getSchedulesForDayOfWeek hours table dayOfWeek)
  Proc.forEach (triggerOne hours eventTime) schedules

/-! ## What the schedules are to send -/

/-- The time at an hour and a minute. -/
def timeAt (hour minute : ℕ) : ℕ := (hour * 60 + minute) * microsecondsPerMinute

/-- The time that a text `hh:mm` stands for. -/
def clockTime (text : String) : Option ℕ :=
  match splitChar ':' text with
  | [hour, minute] =>
    match parseInt hour, parseInt minute with
    | some hour, some minute => (toTimeObject hour minute).toOption
    | _, _ => none
  | _ => none

/-- The start and the stop of a schedule whose texts are both `hh:mm`. -/
def clockTimes (schedule : Schedule) : Option (ℕ × ℕ) := do
  let startUp ← (timeTexts hours schedule).1
  let shutDown ← (timeTexts hours schedule).2
  let start ← clockTime startUp
  let stop ← clockTime shutDown
  return (start, stop)

/-- A schedule sends what it is to send at a time of the day; of a schedule with working hours or times of its own
this is said when its start comes before its stop. -/
def Fires (eventTime : ℕ) (schedule : Schedule) (sent : List QueueMessage) : Prop :=
  match schedule.scheduleType with
  | .stopAllDay => sent.map .ok = [messageOf (stopEvent schedule)]
  | .startAllDay => sent.map .ok = [messageOf (resumeEvent schedule)]
  | .workingHours | .customSchedule =>
    ∀ start stop, clockTimes hours schedule = some (start, stop) → start < stop →
      sent.map .ok =
        if eventTime < start then []
        else if eventTime < stop then [messageOf (resumeEvent schedule)]
        else [messageOf (stopEvent schedule)]
  | .noSchedule => True

/-- The schedule that a row of the table is read as. -/
def scheduleOf (row : ScheduleDict) : Schedule :=
  (convertDbDictToScheduleObject hours (some row)).toOption.getD (getEmptySchedule none)

/-- **Schedules fire at their times.** The loop comes to its end, it has called `trigger_schedule` once for every
row of the day, and each call sent what the schedule is to send. -/
structure FiresAtTimes (dayOfWeek : DayOfWeek) (eventTime : ℕ)
    (outcome : Except Exc PUnit × List Trigger) : Prop where
  returns : outcome.1 = .ok ⟨⟩
  once : (outcome.2.map Trigger.schedule).Perm ((table.pages dayOfWeek).rows.map (scheduleOf hours))
  fires : ∀ call ∈ outcome.2, Fires hours eventTime call.schedule call.sent

/-! ## When they do -/

/-- The hours of the two times and the minute of the second one are numbers in their ranges. -/
structure Reads (schedule : Schedule) (startHour stopHour minute : ℕ) : Prop where
  texts : ∃ startUp shutDown, timeTexts hours schedule = (some startUp, some shutDown) ∧
    component (splitChar ':' startUp) 0 = .ok startHour ∧ component (splitChar ':' shutDown) 0 = .ok stopHour ∧
      component (splitChar ':' shutDown) 1 = .ok minute
  startHour_lt : startHour < 24
  stopHour_lt : stopHour < 24
  minute_lt : minute < 60

/-- A schedule that can be triggered: its times can be read, and if it publishes then it names its session. -/
def Regular (eventTime : ℕ) (schedule : Schedule) : Prop :=
  match schedule.scheduleType with
  | .stopAllDay | .startAllDay => schedule.ideaSessionId.isSome
  | .workingHours | .customSchedule | .noSchedule =>
    ∃ startHour stopHour minute, Reads hours schedule startHour stopHour minute ∧
      (timeAt startHour minute ≤ eventTime → schedule.ideaSessionId.isSome)

/-- The microseconds of an hour. -/
def microsecondsPerHour : ℕ := 60 * microsecondsPerMinute

/-- The hour of one time with the minutes of another. -/
def withMinutesOf (start stop : ℕ) : ℕ :=
  start / microsecondsPerHour * microsecondsPerHour + stop % microsecondsPerHour

/-- The time of the event does not fall between a start and the start with the minutes of the stop. -/
def MinutesAgree (eventTime : ℕ) (schedule : Schedule) : Prop :=
  schedule.scheduleType = .workingHours ∨ schedule.scheduleType = .customSchedule →
    ∀ start stop, clockTimes hours schedule = some (start, stop) → start < stop → eventTime < stop →
      (start ≤ eventTime ↔ withMinutesOf start stop ≤ eventTime)

/-! ### Times -/

theorem toTimeObject_eq_ok_iff {hour minute : ℤ} {t : ℕ} : toTimeObject hour minute = .ok t ↔
      ∃ h m : ℕ, hour = h ∧ minute = m ∧ h < 24 ∧ m < 60 ∧ t = timeAt h m := by
  unfold toTimeObject timeAt
  constructor
  · intro h
    split at h
    · cases h
    · split at h
      · cases h
      · refine ⟨hour.toNat, minute.toNat, by omega, by omega, by omega, by omega, ?_⟩
        exact (Except.ok.inj h).symm
  · rintro ⟨h, m, rfl, rfl, hh, hm, rfl⟩
    rw [if_neg (by omega), if_neg (by omega)]
    rfl

variable {schedule : Schedule}

/-- What the code makes of the two texts. -/
theorem scheduleTimes_eq_ok_iff {start stop : ℕ} : scheduleTimes hours schedule = .ok (start, stop) ↔
      ∃ h h' m, Reads hours schedule h h' m ∧ start = timeAt h m ∧ stop = timeAt h' m := by
  unfold scheduleTimes startUpTime shutDownTime
  constructor
  · intro hok
    obtain ⟨startUpParts, hstartUp, hok⟩ := bind_eq_ok.mp hok
    obtain ⟨shutDownParts, hshutDown, hok⟩ := bind_eq_ok.mp hok
    obtain ⟨start', hstart, hok⟩ := bind_eq_ok.mp hok
    obtain ⟨stop', hstop, hok⟩ := bind_eq_ok.mp hok
    obtain ⟨rfl, rfl⟩ := Prod.mk.inj (Except.ok.inj hok)
    obtain ⟨a, ha, hstart⟩ := bind_eq_ok.mp hstart
    obtain ⟨b, hb, hstart⟩ := bind_eq_ok.mp hstart
    obtain ⟨c, hc, hstop⟩ := bind_eq_ok.mp hstop
    obtain ⟨d, hd, hstop⟩ := bind_eq_ok.mp hstop
    obtain rfl := Except.ok.inj (hb.symm.trans hd)
    obtain ⟨h, m, rfl, rfl, hh, hm, rfl⟩ := toTimeObject_eq_ok_iff.mp hstart
    obtain ⟨h', m', rfl, hm', hh', -, rfl⟩ := toTimeObject_eq_ok_iff.mp hstop
    obtain rfl : m = m' := by omega
    rcases htexts : timeTexts hours schedule with ⟨_ | startUp, _ | shutDown⟩
    · rw [htexts] at hstartUp
      cases hstartUp
    · rw [htexts] at hstartUp
      cases hstartUp
    · rw [htexts] at hshutDown
      cases hshutDown
    · rw [htexts] at hstartUp hshutDown
      obtain rfl := Except.ok.inj hstartUp
      obtain rfl := Except.ok.inj hshutDown
      exact ⟨h, h', m, ⟨⟨startUp, shutDown, htexts, ha, hc, hb⟩, hh, hh', hm⟩, rfl, rfl⟩
  · rintro ⟨h, h', m, ⟨⟨startUp, shutDown, htexts, ha, hc, hb⟩, hh, hh', hm⟩, rfl, rfl⟩
    have hstart := toTimeObject_eq_ok_iff.mpr ⟨h, m, rfl, rfl, hh, hm, rfl⟩
    have hstop := toTimeObject_eq_ok_iff.mpr ⟨h', m, rfl, rfl, hh', hm, rfl⟩
    rw [htexts]
    simp only [splitTime, bind, Except.bind, ha, hb, hc, hstart, hstop]
    rfl

/-- A text `hh:mm`. -/
theorem clockTime_eq_some {text : String} {t : ℕ} (h : clockTime text = some t) :
    ∃ hour minute : ℕ, component (splitChar ':' text) 0 = .ok hour ∧ component (splitChar ':' text) 1 = .ok minute ∧
      hour < 24 ∧ minute < 60 ∧ t = timeAt hour minute := by
  unfold clockTime at h
  split at h
  · rename_i hourText minuteText hsplit
    cases hhour : parseInt hourText with
    | none =>
      rw [hhour] at h
      cases h
    | some hour =>
      cases hminute : parseInt minuteText with
      | none =>
        rw [hhour, hminute] at h
        cases h
      | some minute =>
        rw [hhour, hminute] at h
        dsimp only at h
        cases htime : toTimeObject hour minute with
        | error e =>
          rw [htime] at h
          cases h
        | ok t' =>
          rw [htime] at h
          obtain rfl := Option.some.inj h
          obtain ⟨a, b, rfl, rfl, ha, hb, rfl⟩ := toTimeObject_eq_ok_iff.mp htime
          refine ⟨a, b, ?_, ?_, ha, hb, rfl⟩
          · simp [component, hsplit, hhour]
          · simp [component, hsplit, hminute]
  · cases h

/-- A schedule whose texts are both `hh:mm` can be read, with the minutes of its stop. -/
theorem reads_of_clockTimes {start stop : ℕ} (h : clockTimes hours schedule = some (start, stop)) :
    ∃ a a' m, Reads hours schedule a a' m ∧ withMinutesOf start stop = timeAt a m ∧ stop = timeAt a' m ∧
      start / microsecondsPerHour = a := by
  unfold clockTimes at h
  rcases htexts : timeTexts hours schedule with ⟨_ | startUp, _ | shutDown⟩
  · rw [htexts] at h
    cases h
  · rw [htexts] at h
    cases h
  · rw [htexts] at h
    cases h
  · rw [htexts] at h
    simp only [Option.bind_eq_bind, Option.bind_some, Option.bind_eq_some_iff] at h
    obtain ⟨start', hstart, stop', hstop, hpair⟩ := h
    obtain ⟨rfl, rfl⟩ := Prod.mk.inj (Option.some.inj hpair)
    obtain ⟨a, m, ha, -, ha24, hm60, rfl⟩ := clockTime_eq_some hstart
    obtain ⟨a', m', ha', hm', ha24', hm60', rfl⟩ := clockTime_eq_some hstop
    refine ⟨a, a', m', ⟨⟨startUp, shutDown, htexts, ha, ha', hm'⟩, ha24, ha24', hm60'⟩, ?_, rfl, ?_⟩
    · simp only [withMinutesOf, timeAt, microsecondsPerHour, microsecondsPerMinute, Nat.reduceMul]
      omega
    · simp only [timeAt, microsecondsPerHour, microsecondsPerMinute, Nat.reduceMul]
      omega

/-! ### One schedule -/

theorem messageOf_ok_iff {event : VirtualDesktopEvent} :
    (∃ message, messageOf event = .ok message) ↔ event.eventGroupId.isSome := by
  unfold messageOf
  cases event.eventGroupId <;> simp

/-- The schedules that last all day. -/
def AllDay (schedule : Schedule) : Prop :=
  schedule.scheduleType = .stopAllDay ∨ schedule.scheduleType = .startAllDay

variable {eventTime : ℕ}

/-- What is published for a schedule with two times. -/
theorem triggeredEvent_of_times {startTime stopTime : ℕ}
    (hday : ¬ AllDay schedule) (htimes : scheduleTimes hours schedule = .ok (startTime, stopTime)) :
    triggeredEvent hours eventTime schedule = .ok (if eventTime < startTime then none
        else if eventTime < stopTime then some (resumeEvent schedule) else some (stopEvent schedule)) := by
  have hcode : triggeredEvent hours eventTime schedule = (do
      let (start, stop) ← scheduleTimes hours schedule
      if eventTime < start then return none
      else if start ≤ eventTime ∧ eventTime < stop then return some (resumeEvent schedule)
      else return some (stopEvent schedule)) := by
    unfold triggeredEvent
    cases htype : schedule.scheduleType with
    | stopAllDay => exact absurd (.inl htype) hday
    | startAllDay => exact absurd (.inr htype) hday
    | workingHours => rfl
    | customSchedule => rfl
    | noSchedule => rfl
  rw [hcode, htimes]
  show (if eventTime < startTime then .ok none
    else if startTime ≤ eventTime ∧ eventTime < stopTime then .ok (some (resumeEvent schedule))
    else .ok (some (stopEvent schedule)) : Except Exc (Option VirtualDesktopEvent)) = _
  by_cases hstart : eventTime < startTime
  · rw [if_pos hstart, if_pos hstart]
  · rw [if_neg hstart, if_neg hstart]
    by_cases hstop : eventTime < stopTime
    · rw [if_pos ⟨Nat.le_of_not_lt hstart, hstop⟩, if_pos hstop]
    · rw [if_neg (fun h => hstop h.2), if_neg hstop]

/-- What is published for a schedule whose texts can be read. -/
theorem triggeredEvent_of_reads {a b c : ℕ}
    (hday : ¬ AllDay schedule) (h : Reads hours schedule a b c) : triggeredEvent hours eventTime schedule = .ok
      (if eventTime < timeAt a c then none
        else if eventTime < timeAt b c then some (resumeEvent schedule) else some (stopEvent schedule)) :=
  triggeredEvent_of_times hours hday ((scheduleTimes_eq_ok_iff hours).mpr ⟨a, b, c, h, rfl, rfl⟩)

theorem triggerSchedule_of_event
    {event : Option VirtualDesktopEvent} (h : triggeredEvent hours eventTime schedule = .ok event) :
    triggerSchedule hours eventTime schedule = sendEvent event := by
  unfold triggerSchedule
  rw [h]
  rfl

/-- A schedule is triggered without an exception exactly when it is regular. -/
theorem triggerSchedule_ok_iff :
    (∃ sent, triggerSchedule hours eventTime schedule = .ok sent) ↔ Regular hours eventTime schedule := by
  have hsend : ∀ event : VirtualDesktopEvent,
      (∃ sent, sendEvent (some event) = .ok sent) ↔ event.eventGroupId.isSome := by
    intro event
    rw [← messageOf_ok_iff, sendEvent]
    cases messageOf event <;> simp [Except.map]
  by_cases hday : AllDay schedule
  · rcases hday with htype | htype
    · have hevent : triggeredEvent hours eventTime schedule = .ok (some (stopEvent schedule)) := by
        unfold triggeredEvent
        rw [htype]
      rw [triggerSchedule_of_event hours hevent, Regular, htype]
      exact hsend _
    · have hevent : triggeredEvent hours eventTime schedule = .ok (some (resumeEvent schedule)) := by
        unfold triggeredEvent
        rw [htype]
      rw [triggerSchedule_of_event hours hevent, Regular, htype]
      exact hsend _
  · have hregular : Regular hours eventTime schedule ↔ ∃ a b c, Reads hours schedule a b c ∧
        (timeAt a c ≤ eventTime → schedule.ideaSessionId.isSome) := by
      unfold Regular
      cases htype : schedule.scheduleType with
      | stopAllDay => exact absurd (.inl htype) hday
      | startAllDay => exact absurd (.inr htype) hday
      | workingHours => exact Iff.rfl
      | customSchedule => exact Iff.rfl
      | noSchedule => exact Iff.rfl
    rw [hregular]
    constructor
    · rintro ⟨sent, hsent⟩
      -- the times were read, or nothing would have been sent
      obtain ⟨⟨start, stop⟩, htimes⟩ : ∃ times, scheduleTimes hours schedule = .ok times := by
        unfold triggerSchedule triggeredEvent at hsent
        cases htype : schedule.scheduleType with
        | stopAllDay => exact absurd (.inl htype) hday
        | startAllDay => exact absurd (.inr htype) hday
        | workingHours | customSchedule | noSchedule =>
          rw [htype] at hsent
          obtain ⟨event, hevent, -⟩ := bind_eq_ok.mp hsent
          obtain ⟨times, htimes, -⟩ := bind_eq_ok.mp hevent
          exact ⟨times, htimes⟩
      obtain ⟨a, b, c, hreads, rfl, rfl⟩ := (scheduleTimes_eq_ok_iff hours).mp htimes
      refine ⟨a, b, c, hreads, fun hle => ?_⟩
      rw [triggerSchedule_of_event hours (triggeredEvent_of_reads hours hday hreads),
        if_neg (Nat.not_lt.mpr hle)] at hsent
      by_cases hstop : eventTime < timeAt b c
      · rw [if_pos hstop] at hsent
        exact (hsend (resumeEvent schedule)).mp ⟨sent, hsent⟩
      · rw [if_neg hstop] at hsent
        exact (hsend (stopEvent schedule)).mp ⟨sent, hsent⟩
    · rintro ⟨a, b, c, hreads, hid⟩
      rw [triggerSchedule_of_event hours (triggeredEvent_of_reads hours hday hreads)]
      by_cases hstart : eventTime < timeAt a c
      · rw [if_pos hstart]
        exact ⟨[], rfl⟩
      · rw [if_neg hstart]
        have hgroup := hid (Nat.le_of_not_lt hstart)
        by_cases hstop : eventTime < timeAt b c
        · rw [if_pos hstop]
          exact (hsend (resumeEvent schedule)).mpr hgroup
        · rw [if_neg hstop]
          exact (hsend (stopEvent schedule)).mpr hgroup

/-- What a regular schedule sends. -/
theorem fires_iff {sent : List QueueMessage} (h : triggerSchedule hours eventTime schedule = .ok sent) :
    Fires hours eventTime schedule sent ↔ MinutesAgree hours eventTime schedule := by
  have hsent : ∀ {event : VirtualDesktopEvent}, sendEvent (some event) = .ok sent →
      sent.map .ok = [messageOf event] := by
    intro event hevent
    change (messageOf event).map (fun message => [message]) = .ok sent at hevent
    cases hmessage : messageOf event with
    | error e =>
      rw [hmessage] at hevent
      cases hevent
    | ok message =>
      rw [hmessage] at hevent
      rw [← Except.ok.inj hevent]
      rfl
  by_cases hday : AllDay schedule
  · have hagree : MinutesAgree hours eventTime schedule := by
      rintro (htype | htype)
      · rcases hday with h' | h' <;> rw [htype] at h' <;> cases h'
      · rcases hday with h' | h' <;> rw [htype] at h' <;> cases h'
    refine iff_of_true ?_ hagree
    unfold Fires
    rcases hday with htype | htype
    · have hevent : triggeredEvent hours eventTime schedule = .ok (some (stopEvent schedule)) := by
        unfold triggeredEvent
        rw [htype]
      rw [triggerSchedule_of_event hours hevent] at h
      rw [htype]
      exact hsent h
    · have hevent : triggeredEvent hours eventTime schedule = .ok (some (resumeEvent schedule)) := by
        unfold triggeredEvent
        rw [htype]
      rw [triggerSchedule_of_event hours hevent] at h
      rw [htype]
      exact hsent h
  · by_cases hkind : schedule.scheduleType = .workingHours ∨ schedule.scheduleType = .customSchedule
    · have hfires : Fires hours eventTime schedule sent ↔
          ∀ start stop, clockTimes hours schedule = some (start, stop) → start < stop →
            sent.map .ok =
              if eventTime < start then []
              else if eventTime < stop then [messageOf (resumeEvent schedule)]
              else [messageOf (stopEvent schedule)] := by
        unfold Fires
        rcases hkind with htype | htype <;> rw [htype]
      rw [hfires]
      unfold MinutesAgree
      rw [forall_prop_of_true hkind]
      refine forall_congr' fun start => forall_congr' fun stop => forall_congr' fun hclock =>
        forall_congr' fun hlt => ?_
      obtain ⟨a, b, c, hreads, hmixed, hstop, hhour⟩ := reads_of_clockTimes hours hclock
      rw [triggerSchedule_of_event hours (triggeredEvent_of_reads hours hday hreads), ← hmixed, ← hstop] at h
      -- the start as it is read does not come after the stop
      have hle : withMinutesOf start stop ≤ stop := by
        simp only [withMinutesOf, microsecondsPerHour, microsecondsPerMinute, Nat.reduceMul]
        omega
      by_cases hafter : eventTime < stop
      · rw [if_pos hafter, forall_prop_of_true hafter]
        rw [if_pos hafter] at h
        by_cases hread : eventTime < withMinutesOf start stop
        · rw [if_pos hread] at h
          obtain rfl := Except.ok.inj h
          by_cases hstart : eventTime < start
          · rw [if_pos hstart]
            refine iff_of_true rfl ?_
            omega
          · rw [if_neg hstart]
            refine iff_of_false (by simp) ?_
            omega
        · rw [if_neg hread] at h
          rw [hsent h]
          by_cases hstart : eventTime < start
          · rw [if_pos hstart]
            refine iff_of_false (by simp) ?_
            omega
          · rw [if_neg hstart]
            refine iff_of_true rfl ?_
            omega
      · -- both readings of the start are over
        have hstart : ¬ eventTime < start := by omega
        have hread : ¬ eventTime < withMinutesOf start stop := by omega
        rw [if_neg hread, if_neg hafter] at h
        rw [if_neg hstart, if_neg hafter, hsent h]
        exact iff_of_true rfl fun hlt' => absurd hlt' hafter
    · have hnone : schedule.scheduleType = .noSchedule := by
        cases htype : schedule.scheduleType <;> simp_all [AllDay]
      refine iff_of_true ?_ fun hk => absurd hk hkind
      unfold Fires
      rw [hnone]
      trivial

/-! ### The loop -/

/-- What a call sends. -/
def sentFor (eventTime : ℕ) (schedule : Schedule) : List QueueMessage :=
  (triggerSchedule hours eventTime schedule).toOption.getD []

/-- The record of a call. -/
def triggerOf (eventTime : ℕ) (schedule : Schedule) : Trigger := ⟨schedule, sentFor hours eventTime schedule⟩

theorem triggerSchedule_sentFor (h : Regular hours eventTime schedule) :
    triggerSchedule hours eventTime schedule = .ok (sentFor hours eventTime schedule) := by
  obtain ⟨sent, hsent⟩ := (triggerSchedule_ok_iff hours).mpr h
  unfold sentFor
  rw [hsent]
  rfl

theorem run_triggerOne (h : Regular hours eventTime schedule) (calls : List Trigger) :
    (triggerOne hours eventTime schedule).run calls = (.ok ⟨⟩, calls ++ [triggerOf hours eventTime schedule]) := by
  unfold triggerOne
  rw [triggerSchedule_sentFor hours h]
  rfl

/-- The loop over regular schedules. -/
theorem run_forEach_triggerOne {schedules : List Schedule}
    (h : ∀ schedule ∈ schedules, Regular hours eventTime schedule) (calls : List Trigger) :
    (Proc.forEach (triggerOne hours eventTime) schedules).run calls =
      (.ok ⟨⟩, calls ++ schedules.map (triggerOf hours eventTime)) := by
  induction schedules generalizing calls with
  | nil => simp
  | cons schedule schedules ih =>
    have hhead := run_triggerOne hours (h schedule List.mem_cons_self) calls
    rw [Proc.forEach_cons, Proc.run_bind_of_ok hhead,
      ih (fun s hs => h s (List.mem_cons_of_mem _ hs)), List.append_assoc]
    rfl

/-- A loop that comes to its end has met regular schedules only. -/
theorem regular_of_run_forEach {schedules : List Schedule} {calls : List Trigger}
    (h : ((Proc.forEach (triggerOne hours eventTime) schedules).run calls).1 = .ok ⟨⟩) :
    ∀ schedule ∈ schedules, Regular hours eventTime schedule := by
  induction schedules generalizing calls with
  | nil => exact fun _ hs => absurd hs List.not_mem_nil
  | cons schedule schedules ih =>
    have hhead : Regular hours eventTime schedule := by
      rw [← triggerSchedule_ok_iff]
      cases htrigger : triggerSchedule hours eventTime schedule with
      | ok sent => exact ⟨sent, rfl⟩
      | error e =>
        have hraise : (triggerOne hours eventTime schedule).run calls = (.error e, calls ++ [⟨schedule, []⟩]) := by
          unfold triggerOne
          rw [htrigger]
          rfl
        rw [Proc.forEach_cons, Proc.run_bind_of_error hraise] at h
        cases h
    rw [Proc.forEach_cons, Proc.run_bind_of_ok (run_triggerOne hours hhead calls)] at h
    intro s hs
    rcases List.mem_cons.mp hs with rfl | hrest
    · exact hhead
    · exact ih h s hrest

/-- A row of the day can be read. -/
theorem convertDbDictToScheduleObject_of_keyed {row : ScheduleDict} {d : DayOfWeek} (h : row.dayOfWeek = d.value) :
    convertDbDictToScheduleObject hours (some row) = .ok (scheduleOf hours row) := by
  obtain ⟨schedule, hschedule⟩ : ∃ schedule, convertDbDictToScheduleObject hours (some row) = .ok schedule := by
    have hday : parseDay row.dayOfWeek = .ok (some d) := by
      rw [h]
      cases d <;> decide
    unfold convertDbDictToScheduleObject
    dsimp only
    cases getAsString row.scheduleId with
    | none => exact ⟨_, rfl⟩
    | some id =>
      rw [hday]
      exact ⟨_, rfl⟩
  unfold scheduleOf
  rw [hschedule]
  rfl

/-- The rows of the first page. -/
def firstRows (dayOfWeek : DayOfWeek) : List ScheduleDict := ((table.pages dayOfWeek).read none).1

theorem rows_eq (dayOfWeek : DayOfWeek) :
    (table.pages dayOfWeek).rows = firstRows table dayOfWeek ++ (table.pages dayOfWeek).pages.tail.flatten := by
  unfold firstRows PagedRows.rows
  rw [PagedRows.read_none]
  have hne := (table.pages dayOfWeek).pages_ne_nil
  cases hpages : (table.pages dayOfWeek).pages with
  | nil => exact absurd hpages hne
  | cons page pages => simp [PagedRows.page, hpages]

theorem getSchedulesForDayOfWeek_eq (dayOfWeek : DayOfWeek) :
    getSchedulesForDayOfWeek hours table dayOfWeek = .ok ((firstRows table dayOfWeek).map (scheduleOf hours)) := by
  have hkeyed : ∀ row ∈ firstRows table dayOfWeek, row.dayOfWeek = dayOfWeek.value := by
    intro row hrow
    refine table.keyed dayOfWeek row ?_
    rw [rows_eq]
    exact List.mem_append_left _ hrow
  show (firstRows table dayOfWeek).mapM _ = _
  generalize firstRows table dayOfWeek = rows at hkeyed
  induction rows with
  | nil => rfl
  | cons row rows ih =>
    have hrow := convertDbDictToScheduleObject_of_keyed hours (hkeyed row List.mem_cons_self)
    rw [List.mapM_cons, hrow, ih fun r hr => hkeyed r (List.mem_cons_of_mem _ hr)]
    rfl

/-- **Schedules and their times.** The schedules of a day fire at their times exactly when the query answers all rows
of the day on its first page, each of these can be triggered, and the event does not come between the start of one
of them and that start with the minutes of the stop. -/
theorem firesAtTimes_iff (dayOfWeek : DayOfWeek) (eventTime : ℕ) :
    FiresAtTimes hours table dayOfWeek eventTime ((triggerSchedules hours table dayOfWeek eventTime).run []) ↔
      (∀ page ∈ (table.pages dayOfWeek).pages.tail, page = []) ∧ ∀ row ∈ firstRows table dayOfWeek,
          Regular hours eventTime (scheduleOf hours row) ∧ MinutesAgree hours eventTime (scheduleOf hours row) := by
  have hrun : (triggerSchedules hours table dayOfWeek eventTime).run [] =
      (Proc.forEach (triggerOne hours eventTime) ((firstRows table dayOfWeek).map (scheduleOf hours))).run [] := by
    unfold triggerSchedules
    rw [getSchedulesForDayOfWeek_eq]
    rfl
  rw [hrun]
  constructor
  · rintro ⟨hreturns, honce, hfires⟩
    have hregular := regular_of_run_forEach hours hreturns
    rw [run_forEach_triggerOne hours hregular, List.nil_append] at honce hfires
    constructor
    · -- every row was met, so there are no rows behind the first page
      have hlength := honce.length_eq
      rw [rows_eq, List.length_map, List.length_map, List.length_map, List.length_map, List.length_append] at hlength
      have hempty : (table.pages dayOfWeek).pages.tail.flatten = [] := List.length_eq_zero_iff.mp (by omega)
      exact List.flatten_eq_nil_iff.mp hempty
    · intro row hrow
      have hmem : scheduleOf hours row ∈ (firstRows table dayOfWeek).map (scheduleOf hours) := List.mem_map_of_mem hrow
      have hreg := hregular _ hmem
      refine ⟨hreg, ?_⟩
      rw [← fires_iff hours (triggerSchedule_sentFor hours hreg)]
      exact hfires (triggerOf hours eventTime (scheduleOf hours row)) (List.mem_map_of_mem hmem)
  · rintro ⟨hpages, hrows⟩
    have hregular : ∀ schedule ∈ (firstRows table dayOfWeek).map (scheduleOf hours),
        Regular hours eventTime schedule := by
      intro schedule hschedule
      obtain ⟨row, hrow, rfl⟩ := List.mem_map.mp hschedule
      exact (hrows row hrow).1
    rw [run_forEach_triggerOne hours hregular, List.nil_append]
    refine ⟨rfl, ?_, ?_⟩
    · have hempty : (table.pages dayOfWeek).pages.tail.flatten = [] := List.flatten_eq_nil_iff.mpr hpages
      rw [rows_eq, hempty, List.append_nil]
      dsimp only
      rw [List.map_map]
      exact List.Perm.of_eq (List.map_id _)
    · intro call hcall
      obtain ⟨schedule, hschedule, rfl⟩ := List.mem_map.mp hcall
      obtain ⟨row, hrow, rfl⟩ := List.mem_map.mp hschedule
      exact (fires_iff hours (triggerSchedule_sentFor hours (hrows row hrow).1)).mpr (hrows row hrow).2

/-! ## A start whose minutes are not its own -/

/-- Working hours that begin on the hour and end at half past. -/
def halfPast : WorkingHours := ⟨"09:00", "17:30"⟩

/-- A session of dora that follows the working hours on mondays. -/
def workingRow : ScheduleDict where
  dayOfWeek := "monday"
  scheduleId := some "schedule-1"
  ideaSessionId := some "session-1"
  ideaSessionOwner := some "dora"
  scheduleType := .workingHours
  startUpTime := none
  shutDownTime := none

/-- The schedules of every monday. -/
def mondays : SchedulePages ℕ where
  pages d := ⟨[if d = .monday then [workingRow] else []], List.cons_ne_nil _ _, id, Function.injective_id⟩
  keyed := by
    intro d row hrow
    rw [PagedRows.rows, List.flatten_singleton] at hrow
    split at hrow
    · rename_i hday
      rw [List.mem_singleton.mp hrow, hday]
      rfl
    · exact absurd hrow List.not_mem_nil

/-- **Late by half an hour.** At a quarter past nine the session of dora is not resumed. -/
theorem quarter_past_nine : ¬ FiresAtTimes halfPast mondays .monday (timeAt 9 15)
      ((triggerSchedules halfPast mondays .monday (timeAt 9 15)).run []) := by
  rintro ⟨-, -, hfires⟩
  have hrun : (triggerSchedules halfPast mondays .monday (timeAt 9 15)).run [] =
      (.ok ⟨⟩, [⟨scheduleOf halfPast workingRow, []⟩]) := by decide +kernel
  rw [hrun] at hfires
  have hfire := hfires _ (List.mem_singleton_self _)
  have hclock : clockTimes halfPast (scheduleOf halfPast workingRow) = some (timeAt 9 0, timeAt 17 30) := by
    decide +kernel
  have htype : (scheduleOf halfPast workingRow).scheduleType = .workingHours := rfl
  unfold Fires at hfire
  rw [htype] at hfire
  have hsent := hfire _ _ hclock (by decide)
  rw [if_neg (by decide), if_pos (by decide)] at hsent
  cases hsent

end ContainRes.VirtualDesktop.Schedules
