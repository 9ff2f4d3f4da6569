import ContainRes.Common.Exceptions
import ContainRes.Effects.Proc
import ContainRes.Store.Table
import ContainRes.Text.Python

/-! # The schedules table

`VirtualDesktopScheduleDB`: the schedules of the sessions, one row for a session and a day, under the
day and a fresh id.

* **`Schedule`**, **`ScheduleDict`** — a schedule as an object and as the dictionary that is stored, in
  the schedules table and in the session's row; `convertScheduleObjectToDbDict` and
  `convertDbDictToScheduleObject` between the two.
* **`Uuids`** — the ids that `Utils.uuid` returns one after another.
* **`create`**, **`delete`** — a new row under a fresh id; the deletion of a row that is not there
  raises. -/

namespace ContainRes.VirtualDesktop.Schedules

open Effects Store Text

inductive DayOfWeek
  | monday
  | tuesday
  | wednesday
  | thursday
  | friday
  | saturday
  | sunday
  deriving DecidableEq, Repr

/-- The days in the order in which a week's schedules are updated. -/
def DayOfWeek.all : List DayOfWeek :=
  [.monday, .tuesday, .wednesday, .thursday, .friday, .saturday, .sunday]

theorem DayOfWeek.mem_all (d : DayOfWeek) : d ∈ DayOfWeek.all := by
  cases d <;> decide

theorem DayOfWeek.nodup_all : DayOfWeek.all.Nodup := by decide

/-- The value of a day, which is also its text in an f-string. -/
def DayOfWeek.value : DayOfWeek → String
  | .monday => "monday"
  | .tuesday => "tuesday"
  | .wednesday => "wednesday"
  | .thursday => "thursday"
  | .friday => "friday"
  | .saturday => "saturday"
  | .sunday => "sunday"

/-- The text of a day that may be missing, in an f-string. -/
def dayText : Option DayOfWeek → String
  | none => "None"
  | some d => d.value

/-- The day with a value. -/
def DayOfWeek.ofValue (s : String) : Option DayOfWeek := DayOfWeek.all.find? fun d => d.value == s

@[simp] theorem DayOfWeek.ofValue_value (d : DayOfWeek) : DayOfWeek.ofValue d.value = some d := by
  cases d <;> decide

theorem DayOfWeek.value_injective : Function.Injective DayOfWeek.value := by
  intro d d' h
  have hsome := congrArg DayOfWeek.ofValue h
  rw [ofValue_value, ofValue_value] at hsome
  exact Option.some.inj hsome

/-- `VirtualDesktopScheduleType`. -/
inductive ScheduleType
  | workingHours
  | stopAllDay
  | startAllDay
  | customSchedule
  | noSchedule
  deriving DecidableEq, Repr

/-- `VirtualDesktopSchedule`. -/
structure Schedule where
  scheduleId : Option String := none
  ideaSessionId : Option String := none
  ideaSessionOwner : Option String := none
  dayOfWeek : Option DayOfWeek := none
  startUpTime : Option String := none
  shutDownTime : Option String := none
  scheduleType : ScheduleType
  deriving DecidableEq, Repr

/-- A schedule as it is stored. -/
structure ScheduleDict where
  dayOfWeek : String
  scheduleId : Option String
  ideaSessionId : Option String
  ideaSessionOwner : Option String
  scheduleType : ScheduleType
  startUpTime : Option String
  shutDownTime : Option String
  deriving DecidableEq, Repr

/-- The working hours of the configuration. -/
structure WorkingHours where
  startUpTime : String
  shutDownTime : String
  deriving DecidableEq, Repr

def getEmptySchedule (dayOfWeek : Option DayOfWeek) : Schedule where
  scheduleId := some ""
  dayOfWeek := dayOfWeek
  scheduleType := .noSchedule

/-- `convert_schedule_object_to_db_dict`: the times are stored for a custom schedule only. -/
def convertScheduleObjectToDbDict (schedule : Schedule) : ScheduleDict where
  dayOfWeek := dayText schedule.dayOfWeek
  scheduleId := schedule.scheduleId
  ideaSessionId := schedule.ideaSessionId
  ideaSessionOwner := schedule.ideaSessionOwner
  scheduleType := schedule.scheduleType
  startUpTime := if schedule.scheduleType = .customSchedule then schedule.startUpTime else none
  shutDownTime := if schedule.scheduleType = .customSchedule then schedule.shutDownTime else none

/-- The day of a stored schedule; a text that is no day fails the model's validation. -/
def parseDay (s : String) : Except Exc (Option DayOfWeek) :=
  match getAsString (some s) with
  | none => .ok none
  | some s =>
    match DayOfWeek.ofValue s with
    | some d => .ok (some d)
    | none => .error (.other .valueError "value is not a valid enumeration member")

/-- The times of a stored schedule by its type. -/
def timesOf (hours : WorkingHours) (dict : ScheduleDict) : Option String × Option String :=
  match dict.scheduleType with
  | .workingHours => (some hours.startUpTime, some hours.shutDownTime)
  | .stopAllDay => (some "23:59", some "00:00")
  | .startAllDay => (some "00:00", some "23:59")
  | .customSchedule | .noSchedule => (getAsString dict.startUpTime, getAsString dict.shutDownTime)

/-- `convert_db_dict_to_schedule_object`: without an id it is the empty schedule. -/
def convertDbDictToScheduleObject (hours : WorkingHours) : Option ScheduleDict → Except Exc Schedule
  | none => .ok (getEmptySchedule none)
  | some dict =>
    match getAsString dict.scheduleId with
    | none => .ok (getEmptySchedule none)
    | some scheduleId => do
      let dayOfWeek ← parseDay dict.dayOfWeek
      return {
        scheduleId := some scheduleId
        ideaSessionId := getAsString dict.ideaSessionId
        ideaSessionOwner := getAsString dict.ideaSessionOwner
        dayOfWeek := dayOfWeek
        startUpTime := (timesOf hours dict).1
        shutDownTime := (timesOf hours dict).2
        scheduleType := dict.scheduleType }

/-- A week that is stored with a session is read back, if every day can be. -/
def loadWeek (hours : WorkingHours) (week : DayOfWeek → Option ScheduleDict) :
    Except Exc (DayOfWeek → Option Schedule) :=
  let load := fun d => convertDbDictToScheduleObject hours (week d)
  let failure := fun d =>
    match load d with
    | .error e => some e
    | .ok _ => none
  match DayOfWeek.all.findSome? failure with
  | some e => .error e
  | none => .ok fun d => (load d).toOption

/-- The ids that `Utils.uuid` returns: no two are equal, and none has blanks around it. -/
structure Uuids where
  id : Nat → String
  injective : Function.Injective id
  plain : ∀ n, getAsString (some (id n)) = some (id n)

/-- Ids of increasing length. -/
def Uuids.unary : Uuids where
  id n := String.ofList (List.replicate (n + 1) 'a')
  injective := by
    intro n n' h
    have hlength := congrArg List.length (String.ofList_injective h)
    rw [List.length_replicate, List.length_replicate] at hlength
    omega
  plain := by
    intro n
    have hspace : ∀ c ∈ List.replicate (n + 1) 'a', isSpace c = false := by
      intro c hc
      rw [List.eq_of_mem_replicate hc]
      decide
    have hstrip := stripList_of_noSpace hspace
    simp [getAsString, isEmpty, strip, hstrip]

/-- What the schedule functions read and write: the schedules table under day and id, the number of ids
drawn so far, and the week of the session at hand. -/
structure World where
  table : Table (String × String) ScheduleDict
  drawn : Nat
  week : DayOfWeek → Option Schedule

variable (hours : WorkingHours) (uuids : Uuids)

/-- The row that `create` puts for a schedule under an id. -/
def newRow (schedule : Schedule) (id : String) : ScheduleDict :=
  { convertScheduleObjectToDbDict schedule with scheduleId := some id }

/-- `VirtualDesktopScheduleDB.create`: the row is put under the day and a fresh id. -/
def create (schedule : Schedule) : Proc World Exc Schedule := do
  let n ← Proc.gets World.drawn
  Proc.modify fun w => { w with
    table := w.table.putItem (dayText schedule.dayOfWeek, uuids.id n) (newRow schedule (uuids.id n))
    drawn := w.drawn + 1 }
  Proc.liftExcept (convertDbDictToScheduleObject hours (some (newRow schedule (uuids.id n))))

/-- `VirtualDesktopScheduleDB.delete`: the event about the deletion is made from the row that was there,
and without one that raises. -/
def delete (schedule : Schedule) : Proc World Exc PUnit := do
  let key := (dayText schedule.dayOfWeek, schedule.scheduleId.getD "")
  let old ← Proc.gets fun w => w.table.getItem key
  Proc.modify fun w => { w with table := w.table.deleteItem key }
  Proc.when (old = none) (Proc.raise (.other .keyError "'day_of_week'"))

/-! ## What the operations do -/

/-- A new row, and the schedule read back from it. -/
theorem run_create (w : World) (schedule : Schedule) (d : DayOfWeek) (hday : schedule.dayOfWeek = some d) :
    ∃ created, (create hours uuids schedule).run w =
        (.ok created, { w with
          table := w.table.putItem (d.value, uuids.id w.drawn) (newRow schedule (uuids.id w.drawn))
          drawn := w.drawn + 1 }) ∧
      created.scheduleId = some (uuids.id w.drawn) ∧ created.dayOfWeek = some d ∧
      created.scheduleType = schedule.scheduleType := by
  have hplain : getAsString (some d.value) = some d.value := by
    cases d <;> decide
  obtain ⟨created, hconv, hcreated⟩ : ∃ created,
      convertDbDictToScheduleObject hours (some (newRow schedule (uuids.id w.drawn))) = .ok created ∧
        created.scheduleId = some (uuids.id w.drawn) ∧ created.dayOfWeek = some d ∧
          created.scheduleType = schedule.scheduleType := by
    simp only [convertDbDictToScheduleObject, newRow, convertScheduleObjectToDbDict, uuids.plain, hday,
      dayText, parseDay, hplain, DayOfWeek.ofValue_value]
    exact ⟨_, rfl, rfl, rfl, rfl⟩
  refine ⟨created, ?_, hcreated⟩
  unfold create
  rw [Proc.run_bind_of_ok (Proc.run_gets World.drawn w), Proc.run_bind_of_ok (Proc.run_modify _ w),
    Proc.run_liftExcept, hconv, hday]
  rfl

/-- The row of a schedule that is there is deleted. -/
theorem run_delete (w : World) (schedule : Schedule) {row : ScheduleDict}
    (h : w.table.getItem (dayText schedule.dayOfWeek, schedule.scheduleId.getD "") = some row) :
    (delete schedule).run w = (.ok ⟨⟩, { w with
      table := w.table.deleteItem (dayText schedule.dayOfWeek, schedule.scheduleId.getD "") }) := by
  unfold delete
  dsimp only
  rw [Proc.run_bind_of_ok (Proc.run_gets _ w), h, Proc.run_bind_of_ok (Proc.run_modify _ w)]
  exact Proc.run_when_neg (by simp) _

end ContainRes.VirtualDesktop.Schedules
