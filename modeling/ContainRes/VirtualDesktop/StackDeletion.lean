import ContainRes.VirtualDesktop.SoftwareStackDb

/-! # Deleting a software stack

`VirtualDesktopAdminAPI.delete_software_stack`: before a stack is deleted, the sessions that use it are
looked for by comparing the stack of the request as a whole with the copies in the session rows of one
page.

* **`deleteSoftwareStack`** — the operation; `run_deleteSoftwareStack_of_recognised` and the two lemmas
  beside it say what it does.
* **`deletedIffUnused_iff`** — when it deletes exactly the stacks that no session uses.
* **`updated_stack_deleted`** — a stack that was updated since a session was created. -/

namespace ContainRes.VirtualDesktop.SoftwareStacks

open Effects Store Text
open SessionPermissions

/-- The tables of stacks and of sessions. -/
structure World where
  /-- Keyed by `base_os` and `stack_id`. -/
  softwareStacks : Table (BaseOS × String) SoftwareStackDict
  sessions : Paged StoredSession

/-- The answer to a request. -/
inductive Reply
  /-- `INVALID_PARAMS`: stack ID and base OS are required. -/
  | invalidParams
  /-- `GENERAL_ERROR`: the stack is still in use by the sessions. -/
  | stillInUse (stackId : Option String) (dcvSessionIds : List (Option String))
  | success
  deriving DecidableEq, Repr

variable (texts : RowTexts) (decode : String → Except Exc (Option String)) (str : ℚ → String)

/-- `VirtualDesktopSoftwareStackDB.delete`: the event about the deletion is made from the row that was
there, and without one that raises. -/
def delete (softwareStack : SoftwareStack) : Proc World Exc PUnit :=
  match softwareStack.stackId, softwareStack.baseOs with
  | some stackId, some baseOs =>
    if isEmpty stackId then Proc.raise (Exc.invalidParams "stack_id and base_os are required")
    else do
      let old ← Proc.gets fun w : World => w.softwareStacks.getItem (baseOs, stackId)
      Proc.modify fun w => { w with softwareStacks := w.softwareStacks.deleteItem (baseOs, stackId) }
      Proc.when (old = none) (Proc.raise (.other .keyError "'Attributes'"))
  | _, _ => Proc.raise (Exc.invalidParams "stack_id and base_os are required")

def deleteSoftwareStack (softwareStack : Option SoftwareStack) : Proc World Exc Reply :=
  match softwareStack with
  | none => Proc.raise (.other .attributeError "'NoneType' object has no attribute 'stack_id'")
  | some softwareStack =>
    if isEmptyOpt softwareStack.stackId || softwareStack.baseOs.isNone then pure .invalidParams
    else do
      let sessions ← Proc.gets World.sessions
      let listing ← Proc.liftExcept (listAllForSoftwareStack texts decode str sessions {} softwareStack)
      if listing ≠ [] then
        pure (.stillInUse softwareStack.stackId (listing.map fun row => row.dcvSessionId))
      else do
        delete softwareStack
        return .success

/-! ## What it does -/

/-- The request has an id, and both of the amounts of memory that the row form is made from. -/
def Complete (softwareStack : SoftwareStack) : Prop :=
  isEmptyOpt softwareStack.stackId = false ∧ softwareStack.minStorage.isSome ∧ softwareStack.minRam.isSome

/-- A row of the first page carries exactly the row form of the stack. -/
def Recognised (sessions : Paged StoredSession) (softwareStack : SoftwareStack) : Prop :=
  ∃ row ∈ sessions.first, convertSoftwareStackObjectToDbDict str softwareStack = .ok row.softwareStack

variable {texts decode str} {w : World} {softwareStack : SoftwareStack} {baseOs : BaseOS} {stackId : String}

/-- A request that is not complete deletes nothing. -/
theorem run_deleteSoftwareStack_of_not_complete (h : ¬ Complete softwareStack) :
    ((deleteSoftwareStack texts decode str (some softwareStack)).run w).1 ≠ .ok .success ∧
      ((deleteSoftwareStack texts decode str (some softwareStack)).run w).2 = w := by
  unfold deleteSoftwareStack
  by_cases hkey : (isEmptyOpt softwareStack.stackId || softwareStack.baseOs.isNone) = true
  · simp only [hkey, if_true]
    exact ⟨by simp, rfl⟩
  · simp only [hkey, Bool.false_eq_true, if_false]
    rw [Bool.or_eq_true, not_or, Bool.not_eq_true] at hkey
    have hconvert : ∀ dict, convertSoftwareStackObjectToDbDict str softwareStack ≠ .ok dict := by
      intro dict hdict
      obtain ⟨hstorage, hram⟩ := (exists_convert_iff str softwareStack).mp ⟨dict, hdict⟩
      exact h ⟨hkey.1, hstorage, hram⟩
    cases hdict : convertSoftwareStackObjectToDbDict str softwareStack with
    | ok dict => exact absurd hdict (hconvert dict)
    | error e =>
      have hlist : listAllForSoftwareStack texts decode str w.sessions {} softwareStack = .error e := by
        rw [listAllForSoftwareStack, hdict]
        rfl
      simp only [Proc.run_bind, Proc.run_gets, Proc.run_liftExcept, hlist]
      exact ⟨by simp, trivial⟩

variable (texts decode str w) in
/-- What a complete request finds. -/
theorem listing_of_complete (h : Complete softwareStack) :
    ∃ dict, convertSoftwareStackObjectToDbDict str softwareStack = .ok dict ∧
      listAllForSoftwareStack texts decode str w.sessions {} softwareStack =
        .ok (w.sessions.first.filter fun row => row.softwareStack = dict) := by
  obtain ⟨dict, hdict⟩ := (exists_convert_iff str softwareStack).mpr h.2
  exact ⟨dict, hdict, listAllForSoftwareStack_eq texts decode w.sessions hdict⟩

/-- A complete request that is recognised deletes nothing. -/
theorem run_deleteSoftwareStack_of_recognised (hcomplete : Complete softwareStack)
    (hos : softwareStack.baseOs = some baseOs) (h : Recognised str w.sessions softwareStack) :
    ((deleteSoftwareStack texts decode str (some softwareStack)).run w).1 ≠ .ok .success ∧
      ((deleteSoftwareStack texts decode str (some softwareStack)).run w).2 = w := by
  obtain ⟨dict, hdict, hlist⟩ := listing_of_complete texts decode str w hcomplete
  obtain ⟨row, hrow, hsame⟩ := h
  have hne : (w.sessions.first.filter fun row => row.softwareStack = dict) ≠ [] := by
    intro hnil
    have hmem : row ∈ w.sessions.first.filter fun row => row.softwareStack = dict := by
      rw [hdict] at hsame
      simp [hrow, Except.ok.inj hsame]
    rw [hnil] at hmem
    exact absurd hmem List.not_mem_nil
  unfold deleteSoftwareStack
  simp only [hcomplete.1, hos, Option.isNone_some, Bool.or_self, Bool.false_eq_true, if_false, Proc.run_bind,
    Proc.run_gets, Proc.run_liftExcept, hlist, hne, ne_eq, not_false_eq_true, if_true]
  exact ⟨by simp, rfl⟩

/-- A complete request that is not recognised deletes the stack. -/
theorem run_deleteSoftwareStack_of_not_recognised (hcomplete : Complete softwareStack)
    (hos : softwareStack.baseOs = some baseOs) (hid : softwareStack.stackId = some stackId)
    (hex : w.softwareStacks.Has (baseOs, stackId)) (h : ¬ Recognised str w.sessions softwareStack) :
    (deleteSoftwareStack texts decode str (some softwareStack)).run w =
      (.ok .success, { w with softwareStacks := w.softwareStacks.deleteItem (baseOs, stackId) }) := by
  obtain ⟨dict, hdict, hlist⟩ := listing_of_complete texts decode str w hcomplete
  have hnil : (w.sessions.first.filter fun row => row.softwareStack = dict) = [] := by
    refine List.filter_eq_nil_iff.mpr fun row hrow hsame => h ⟨row, hrow, ?_⟩
    rw [hdict, of_decide_eq_true hsame]
  obtain ⟨old, hold⟩ := Table.has_iff.mp hex
  have hblank : isEmpty stackId = false := by
    have hkey := hcomplete.1
    rw [hid] at hkey
    exact hkey
  unfold deleteSoftwareStack delete
  simp [hid, hos, isEmptyOpt, hblank, Proc.run_bind, hlist, hnil, hold, Proc.run_when]

/-! ## Only stacks that are not used -/

/-- Some session carries the stack. -/
def InUse (sessions : Paged StoredSession) (baseOs : BaseOS) (stackId : String) : Prop :=
  ∃ row ∈ sessions.rows,
    row.softwareStack.baseOs = some baseOs ∧ row.softwareStack.stackId = some stackId

theorem inUse_of_recognised (hos : softwareStack.baseOs = some baseOs)
    (hid : softwareStack.stackId = some stackId) (h : Recognised str w.sessions softwareStack) :
    InUse w.sessions baseOs stackId := by
  obtain ⟨row, hrow, hdict⟩ := h
  obtain ⟨hbase, hstack⟩ := key_of_convert hdict
  refine ⟨row, ?_, hbase.trans hos, hstack.trans hid⟩
  rw [Paged.rows_eq]
  exact List.mem_append_left _ hrow

variable (texts decode str w softwareStack baseOs stackId)

/-- What is asked of the request: a stack that is in use stays and the request fails, and another is
deleted. -/
def DeletedIffUnused : Prop :=
  (InUse w.sessions baseOs stackId →
    ((deleteSoftwareStack texts decode str (some softwareStack)).run w).1 ≠ .ok .success ∧
      ((deleteSoftwareStack texts decode str (some softwareStack)).run w).2 = w) ∧
  (¬ InUse w.sessions baseOs stackId → (deleteSoftwareStack texts decode str (some softwareStack)).run w =
      (.ok .success, { w with softwareStacks := w.softwareStacks.deleteItem (baseOs, stackId) }))

variable {softwareStack baseOs stackId}

/-- **When only unused stacks are deleted.** For a request that names an existing stack: a stack in use
has to be found as it is in the request on the first page of the sessions, unless the request lacks an
amount of memory, which makes it fail; and for a stack that is not used the request has to be complete. -/
theorem deletedIffUnused_iff (hos : softwareStack.baseOs = some baseOs)
    (hid : softwareStack.stackId = some stackId) (hex : w.softwareStacks.Has (baseOs, stackId)) :
    DeletedIffUnused texts decode str w softwareStack baseOs stackId ↔
      (InUse w.sessions baseOs stackId → Complete softwareStack → Recognised str w.sessions softwareStack) ∧
        (¬ InUse w.sessions baseOs stackId → Complete softwareStack) := by
  constructor
  · rintro ⟨hused, hunused⟩
    refine ⟨fun hin hcomplete => ?_, fun hout => ?_⟩
    · by_contra hnot
      exact (hused hin).1 (by rw [run_deleteSoftwareStack_of_not_recognised hcomplete hos hid hex hnot])
    · by_contra hnot
      exact (run_deleteSoftwareStack_of_not_complete hnot).1 (by rw [hunused hout])
  · rintro ⟨hfound, hcomplete⟩
    refine ⟨fun hin => ?_, fun hout => ?_⟩
    · by_cases hc : Complete softwareStack
      · exact run_deleteSoftwareStack_of_recognised hc hos (hfound hin hc)
      · exact run_deleteSoftwareStack_of_not_complete hc
    · refine run_deleteSoftwareStack_of_not_recognised (hcomplete hout) hos hid hex fun hrec => ?_
      exact hout (inUse_of_recognised hos hid hrec)

/-! ## A stack that was updated -/

/-- A stack for Windows, by its name. -/
def windowsStack (name : String) : SoftwareStack where
  stackId := some "ss-1"
  baseOs := some .windows
  name := some name
  minStorage := some ⟨10, .gb⟩
  minRam := some ⟨4, .gb⟩

/-- A session with a copy of the stack that has a name of its own. -/
def sessionWithStack (name : String) : StoredSession where
  owner := "clara"
  ideaSessionId := "s1"
  dcvSessionId := some "dcv-1"
  softwareStack := windowsDict name
  project := ⟨some "p1", none, none⟩
  others := fun _ => none

/-- The stack, and a session that was created when it had the name. -/
def usedStack (name : String) : World where
  softwareStacks := (∅ : Table (BaseOS × String) SoftwareStackDict).putItem (.windows, "ss-1") (windowsDict "new")
  sessions := { pages := [[sessionWithStack name]], after := fun _ => [] }

theorem inUse_usedStack (name : String) : InUse (usedStack name).sessions .windows "ss-1" :=
  ⟨_, List.mem_flatten.mpr ⟨_, List.mem_singleton_self _, List.mem_singleton_self _⟩, rfl, rfl⟩

/-- A stack that was not updated is found. -/
theorem deletedIffUnused_usedStack :
    DeletedIffUnused RowTexts.ofEncodable (fun _ => .ok none) toString (usedStack "new")
      (windowsStack "new") .windows "ss-1" :=
  (deletedIffUnused_iff _ _ _ _ rfl rfl (by decide)).mpr
    ⟨fun _ _ => ⟨sessionWithStack "new", List.mem_singleton_self _, rfl⟩, fun h => absurd (inUse_usedStack "new") h⟩

/-- **A stack in use is deleted.** The name of the stack was changed after the session was created. -/
theorem updated_stack_deleted : ¬ DeletedIffUnused RowTexts.ofEncodable (fun _ => .ok none) toString (usedStack "old")
      (windowsStack "new") .windows "ss-1" := by
  intro h
  have hcomplete : Complete (windowsStack "new") := ⟨by decide, rfl, rfl⟩
  obtain ⟨row, hrow, hdict⟩ :=
    ((deletedIffUnused_iff _ _ _ _ rfl rfl (by decide)).mp h).1 (inUse_usedStack "old") hcomplete
  rw [List.mem_singleton.mp hrow] at hdict
  exact absurd (congrArg SoftwareStackDict.name (Except.ok.inj hdict)) (by decide)

end ContainRes.VirtualDesktop.SoftwareStacks
