import ContainRes.VirtualDesktop.PermissionChanges

/-! # The sweep over expired permissions

`ScheduledEventHandler.handle_event`, after the schedules of the day have been triggered: the permissions
table is scanned page by page, every permission whose expiry date has come is deleted, and after the last
page an enforce event is published for each session that lost one. A message whose handler raises is
delivered again.

* **`handleEvent`** — the handler, with an outcome for each call. Of the schedules that are triggered in
  front of the sweep only whether that raises is kept.
* **`Swept`** — the expired permissions and no others are gone, and their sessions have their events.
* **`HarmlessSweep`** — a delivery that fails before it deletes a permission, or gets through.
* **`permission_changes_enforced`** — requests and sweeps together. -/

namespace ContainRes.VirtualDesktop.SessionPermissions

open Effects Store Text

/-- A row of the table with its key. -/
abbrev Entry : Type := (String × String) × SessionPermissionRow

/-- What each call of a delivery meets. -/
structure SweepOutcomes where
  trigger : Outcome
  scan : Nat → Outcome
  delete : String × String → Outcome
  publish : Nat → Outcome

/-- A delivery in which no call fails. -/
def SweepOutcomes.faultless : SweepOutcomes := ⟨.done, fun _ => .done, fun _ => .done, fun _ => .done⟩

variable (paginator : Paginator Entry) (order : SetOrder) (clock : Nat → Int)

/-- `VirtualDesktopSessionPermissionDB.list_all_from_db`: the permissions of a page, and whether there is a
cursor for the next one; an exception is logged, and what was read in front of it is returned. -/
def listAllFromDb (o : Outcome) (page : List Entry) : Proc Permissions Exc (List SessionPermission × Bool) :=
  Proc.gets fun t =>
    if o = .done then readPage (page.filter fun entry => t.getItem entry.1 = some entry.2) else ([], false)

/-- The loop over the permissions of a page. -/
def sweepPermissions (o : SweepOutcomes) (eventTime : Int) :
    List SessionPermission → List SessionInfo → Proc World Exc (List SessionInfo)
  | [], info => pure info
  | p :: rest, info =>
    match p.expiryDate with
    | none => Proc.raise (.other .typeError
        "'>=' not supported between instances of 'datetime.datetime' and 'NoneType'")
    | some expiryDate =>
      if expiryDate ≤ eventTime then do
        Proc.attempt (o.delete (p.ideaSessionId.getD "", p.actorName.getD "")) callFailed
          (onPermissions (delete p))
        sweepPermissions o eventTime rest (info ++ [(p.ideaSessionId, p.ideaSessionOwner)])
      else sweepPermissions o eventTime rest info

/-- The loop over the pages, from the page `i` on. -/
def sweepPages (o : SweepOutcomes) (eventTime : Int) :
    Nat → List (List Entry) → List SessionInfo → Proc World Exc (List SessionInfo)
  | _, [], info => pure info
  | i, page :: pages, info => do
    let (permissions, complete) ← onPermissions (listAllFromDb (o.scan i) page)
    let info ← sweepPermissions o eventTime permissions info
    if complete then sweepPages o eventTime (i + 1) pages info else pure info

/-- The sweep. It deletes only rows that it has read, so the pages that it reads are those of the table at
its start. -/
def sweep (o : SweepOutcomes) (eventTime : Int) : Proc World Exc PUnit := do
  let pages ← Proc.gets fun w : World => paginator.split w.permissions.scan
  let info ← sweepPages o eventTime 0 pages []
  publishAll clock o.publish 0 (order.list info)

def handleEvent (scheduledRoleId : String) (parseTime : String → Except Exc Int) (senderId : String)
    (event : VirtualDesktopEvent) (o : SweepOutcomes) : Proc World Exc PUnit :=
  if isSenderRole scheduledRoleId senderId = false then Proc.raise (corruptedSender senderId)
  else
    match event.detailString "time" with
    | none => pure ⟨⟩
    | some text => do
      let eventTime ← Proc.liftExcept (parseTime text)
      Proc.attempt o.trigger callFailed (pure ⟨⟩)
      sweep paginator order clock o eventTime

/-! ## What a sweep is to do -/

/-- The expiry date that the permission of a row has when it is read has come. -/
def Expired (eventTime : Int) (row : SessionPermissionRow) : Prop := toDatetime row.expiryDate ≤ eventTime

instance (eventTime : Int) (row : SessionPermissionRow) : Decidable (Expired eventTime row) :=
  inferInstanceAs (Decidable (_ ≤ _))

/-- The session of a permission that is read from a row. -/
def sessionOf (entry : Entry) : SessionInfo := (some (textOf (some entry.1.1)), some (textOf entry.2.ideaSessionOwner))

/-- Of the permissions that were in the table exactly the expired ones are gone, and an enforce event has
been published for the session of each. -/
structure Swept (eventTime : Int) (start : Permissions) (w : World) : Prop where
  rows : ∀ key row, w.permissions.getItem key = some row ↔
    start.getItem key = some row ∧ ¬ Expired eventTime row
  enforced : ∀ key row, start.getItem key = some row → Expired eventTime row →
    Enforced (sessionOf (key, row)) w.outbox

/-- Every row can be read back under its key. -/
def AllReadable (t : Permissions) : Prop :=
  ∀ key row, t.getItem key = some row → row.Readable ∧ Plain key.1 ∧ Plain key.2

/-- Reading an expiry date drops what is less than a second; no permission expires earlier by that. -/
def DatesKept (eventTime : Int) (t : Permissions) : Prop :=
  ∀ key row, t.getItem key = some row → (toDatetime row.expiryDate ≤ eventTime ↔ row.expiryDate ≤ eventTime)

/-- The rows of a list that are expired. -/
def expired (eventTime : Int) (entries : List Entry) : List Entry :=
  entries.filter fun entry => Expired eventTime entry.2

/-- The expired rows of a table in the order in which a scan reads them. -/
def expiredOf (eventTime : Int) (t : Permissions) : List Entry :=
  expired eventTime (paginator.split t.scan).flatten

/-- The table without its expired rows. -/
def sweptTable (eventTime : Int) (t : Permissions) : Permissions :=
  t.deleteItems ((expiredOf paginator eventTime t).map Prod.fst)

/-- A delivery that deletes nothing and raises, or gets through. -/
inductive HarmlessSweep (eventTime : Int) (o : SweepOutcomes) (t : Permissions) : Prop
  /-- The sweep is not reached. -/
  | untriggered (h : o.trigger ≠ .done)
  /-- The first expired permission is not deleted. -/
  | first (hscan : ∀ i, o.scan i = .done) (entry : Entry)
      (hfirst : (paginator.split t.scan).flatten.find? (fun entry => Expired eventTime entry.2) = some entry)
      (h : o.delete entry.1 = .failed)
  /-- Every page is read, every deletion succeeds, and so does every publication, except that the answer
  to the last may be lost. -/
  | completes (htrigger : o.trigger = .done) (hscan : ∀ i, o.scan i = .done)
      (hdelete : ∀ key row, t.getItem key = some row → Expired eventTime row → o.delete key = .done)
      (hpublish : AllPublished o.publish (order.list ((expiredOf paginator eventTime t).map sessionOf)).length)

/-- What each delivery meets: while there are expired permissions, it is harmless. -/
def MeetsSweep (eventTime : Int) (o : SweepOutcomes) (w : World) : Prop :=
  (∃ key row, w.permissions.getItem key = some row ∧ Expired eventTime row) →
    HarmlessSweep paginator order eventTime o w.permissions

/-! ## Pages -/

variable {o : SweepOutcomes} {eventTime : Int} {permissions : List SessionPermission} {entries : List Entry}

/-- A page of which every deletion succeeds. -/
theorem run_sweepPermissions
    (hread : List.Forall₂ (fun entry p => convertDbDictToSessionPermissionObject entry.1 entry.2 = .ok p)
      entries permissions) (info : List SessionInfo) (w : World) (hrows : ∀ entry ∈ entries, w.permissions.Has entry.1)
    (hentry : ∀ entry ∈ entries, entry.2.Readable ∧ Plain entry.1.1 ∧ Plain entry.1.2)
    (hnodup : (entries.map Prod.fst).Nodup) (hdelete : ∀ entry ∈ expired eventTime entries, o.delete entry.1 = .done) :
    (sweepPermissions o eventTime permissions info).run w = (.ok (info ++ (expired eventTime entries).map sessionOf),
        { w with permissions := w.permissions.deleteItems ((expired eventTime entries).map Prod.fst) }) := by
  induction hread generalizing info w with
  | nil =>
    have hnil : expired eventTime [] = [] := rfl
    simp only [sweepPermissions, hnil, List.map_nil, List.append_nil]
    rfl
  | @cons entry p entries permissions hp _ ih =>
    obtain ⟨hreadable, hid, hactor⟩ := hentry entry List.mem_cons_self
    obtain ⟨p', hp', hpid, hpactor, hpowner, -, hpexpiry⟩ := exists_convert hreadable entry.1
    obtain rfl : p' = p := Except.ok.inj (hp'.symm.trans hp)
    rw [List.map_cons, List.nodup_cons] at hnodup
    obtain ⟨hnot, hnodup'⟩ := hnodup
    have hentry' : ∀ e ∈ entries, e.2.Readable ∧ Plain e.1.1 ∧ Plain e.1.2 :=
      fun e he => hentry e (List.mem_cons_of_mem _ he)
    unfold sweepPermissions
    simp only [hpexpiry]
    by_cases hexp : Expired eventTime entry.2
    · have hcons : expired eventTime (entry :: entries) = entry :: expired eventTime entries := by
        simp [expired, hexp]
      rw [hcons] at hdelete ⊢
      have hle : toDatetime entry.2.expiryDate ≤ eventTime := hexp
      rw [hid.textOf] at hpid
      rw [hactor.textOf] at hpactor
      obtain ⟨r, hr⟩ := Table.has_iff.mp (hrows entry List.mem_cons_self)
      have hrun : (Proc.attempt (o.delete (p'.ideaSessionId.getD "", p'.actorName.getD "")) callFailed
          (onPermissions (delete p'))).run w =
            (.ok ⟨⟩, { w with permissions := w.permissions.deleteItem entry.1 }) := by
        have hkey : (p'.ideaSessionId.getD "", p'.actorName.getD "") = entry.1 := by
          rw [hpid, hpactor]
          rfl
        rw [hkey, hdelete entry List.mem_cons_self, Proc.attempt_done]
        exact Proc.run_zoom_of (run_delete hpid hpactor hid.isEmpty hactor.isEmpty hr)
      have hsession : (p'.ideaSessionId, p'.ideaSessionOwner) = sessionOf entry := by
        rw [hpid, hpowner, sessionOf, hid.textOf]
      rw [if_pos hle, Proc.run_bind_of_ok hrun, hsession]
      rw [ih _ _ ?_ hentry' hnodup' fun e he => hdelete e (List.mem_cons_of_mem _ he)]
      · rw [List.map_cons, List.append_assoc, List.singleton_append]
        rfl
      · intro e he
        have hne : e.1 ≠ entry.1 := fun heq => hnot (heq ▸ List.mem_map_of_mem he)
        exact Table.has_deleteItem.mpr ⟨hne, hrows e (List.mem_cons_of_mem _ he)⟩
    · have hcons : expired eventTime (entry :: entries) = expired eventTime entries := by
        simp [expired, hexp]
      rw [hcons] at hdelete ⊢
      have hle : ¬ toDatetime entry.2.expiryDate ≤ eventTime := hexp
      rw [if_neg hle]
      exact ih info w (fun e he => hrows e (List.mem_cons_of_mem _ he)) hentry' hnodup' hdelete

/-- Permissions that are not expired are left alone. -/
theorem run_sweepPermissions_of_none
    (h : ∀ p ∈ permissions, ∃ expiryDate, p.expiryDate = some expiryDate ∧ ¬ expiryDate ≤ eventTime)
    (info : List SessionInfo) (w : World) : (sweepPermissions o eventTime permissions info).run w = (.ok info, w) := by
  induction permissions with
  | nil => rfl
  | cons p rest ih =>
    obtain ⟨expiryDate, hexpiry, hle⟩ := h p List.mem_cons_self
    unfold sweepPermissions
    simp only [hexpiry]
    rw [if_neg hle]
    exact ih fun p' hp' => h p' (List.mem_cons_of_mem _ hp')

variable {first : Entry}

/-- A page whose first expired permission is not deleted. -/
theorem run_sweepPermissions_of_failed
    (hread : List.Forall₂ (fun entry p => convertDbDictToSessionPermissionObject entry.1 entry.2 = .ok p)
      entries permissions) (hentry : ∀ entry ∈ entries, entry.2.Readable ∧ Plain entry.1.1 ∧ Plain entry.1.2)
    (hfirst : entries.find? (fun entry => Expired eventTime entry.2) = some first)
    (hfailed : o.delete first.1 = .failed) (info : List SessionInfo) (w : World) :
    (sweepPermissions o eventTime permissions info).run w = (.error callFailed, w) := by
  induction hread with
  | nil => exact absurd hfirst (by simp)
  | @cons entry p entries permissions hp _ ih =>
    obtain ⟨hreadable, hid, hactor⟩ := hentry entry List.mem_cons_self
    obtain ⟨p', hp', hpid, hpactor, -, -, hpexpiry⟩ := exists_convert hreadable entry.1
    obtain rfl : p' = p := Except.ok.inj (hp'.symm.trans hp)
    unfold sweepPermissions
    simp only [hpexpiry]
    rw [List.find?_cons] at hfirst
    by_cases hexp : Expired eventTime entry.2
    · simp only [hexp, decide_true, Option.some.injEq] at hfirst
      subst hfirst
      have hle : toDatetime entry.2.expiryDate ≤ eventTime := hexp
      have hkey : (p'.ideaSessionId.getD "", p'.actorName.getD "") = entry.1 := by
        rw [hpid, hpactor, hid.textOf, hactor.textOf]
        rfl
      rw [if_pos hle, hkey, hfailed]
      exact Proc.run_bind_of_error (Proc.run_attempt_failed _ _ _)
    · simp only [hexp, decide_false] at hfirst
      have hle : ¬ toDatetime entry.2.expiryDate ≤ eventTime := hexp
      rw [if_neg hle]
      exact ih (fun e he => hentry e (List.mem_cons_of_mem _ he)) hfirst

variable {w : World}

/-- A page of rows that are all in the table and can all be read. -/
theorem run_listAllFromDb {page : List Entry}
    (hrows : ∀ entry ∈ page, w.permissions.getItem entry.1 = some entry.2) (hentry : ∀ entry ∈ page, entry.2.Readable) :
    (onPermissions (listAllFromDb .done page)).run w = (.ok ((readPage page).1, true), w) ∧
      List.Forall₂ (fun entry p => convertDbDictToSessionPermissionObject entry.1 entry.2 = .ok p)
        page (readPage page).1 := by
  have hfilter : page.filter (fun entry => w.permissions.getItem entry.1 = some entry.2) = page :=
    List.filter_eq_self.mpr fun entry he => by simpa using hrows entry he
  obtain ⟨hcomplete, hread⟩ := readPage_of_readable page hentry
  refine ⟨Proc.run_zoom_of ?_, hread⟩
  unfold listAllFromDb
  rw [Proc.run_gets, if_pos rfl, hfilter, ← hcomplete]

/-- A sweep of which every page is read and every deletion succeeds. -/
theorem run_sweepPages (hscan : ∀ i, o.scan i = .done) (pages : List (List Entry)) (i : Nat)
    (info : List SessionInfo) (w : World)
    (hrows : ∀ entry ∈ pages.flatten, w.permissions.getItem entry.1 = some entry.2)
    (hentry : ∀ entry ∈ pages.flatten, entry.2.Readable ∧ Plain entry.1.1 ∧ Plain entry.1.2)
    (hnodup : (pages.flatten.map Prod.fst).Nodup)
    (hdelete : ∀ entry ∈ expired eventTime pages.flatten, o.delete entry.1 = .done) :
    (sweepPages o eventTime i pages info).run w = (.ok (info ++ (expired eventTime pages.flatten).map sessionOf),
        { w with permissions := w.permissions.deleteItems ((expired eventTime pages.flatten).map Prod.fst) }) := by
  induction pages generalizing i info w with
  | nil =>
    have hnil : expired eventTime ([] : List (List Entry)).flatten = [] := rfl
    simp only [sweepPages, hnil, List.map_nil, List.append_nil]
    rfl
  | cons page pages ih =>
    rw [List.flatten_cons] at hrows hentry hnodup hdelete ⊢
    have happend : expired eventTime (page ++ pages.flatten) =
        expired eventTime page ++ expired eventTime pages.flatten := List.filter_append _ _
    rw [happend] at hdelete ⊢
    rw [List.map_append, List.nodup_append] at hnodup
    obtain ⟨hnodupPage, hnodupRest, hdisjoint⟩ := hnodup
    obtain ⟨hlist, hread⟩ := run_listAllFromDb
      (fun entry he => hrows entry (List.mem_append_left _ he))
      (fun entry he => (hentry entry (List.mem_append_left _ he)).1)
    have hpage := run_sweepPermissions (o := o) hread info w
      (fun entry he => Table.Has.of_getItem (hrows entry (List.mem_append_left _ he)))
      (fun entry he => hentry entry (List.mem_append_left _ he)) hnodupPage
      (fun entry he => hdelete entry (List.mem_append_left _ he))
    unfold sweepPages
    rw [hscan i, Proc.run_bind_of_ok hlist]
    dsimp only
    rw [Proc.run_bind_of_ok hpage, if_pos rfl]
    rw [ih _ _ _ ?_ (fun entry he => hentry entry (List.mem_append_right _ he)) hnodupRest
      (fun entry he => hdelete entry (List.mem_append_right _ he))]
    · rw [List.map_append, List.append_assoc, List.map_append, Table.deleteItems, Table.deleteItems,
        Table.deleteItems, List.foldl_append]
    · -- the later pages hold other keys
      intro entry he
      rw [Table.getItem_deleteItems, if_neg, hrows entry (List.mem_append_right _ he)]
      intro hmem
      obtain ⟨entry', hmem', hkey⟩ := List.mem_map.mp hmem
      have hpage' : entry' ∈ page := List.mem_of_mem_filter hmem'
      exact hdisjoint entry'.1 (List.mem_map_of_mem hpage') entry.1 (List.mem_map_of_mem he) hkey

/-- A sweep over a table without expired permissions deletes nothing, whatever its scans meet. -/
theorem run_sweepPages_of_none (pages : List (List Entry)) (i : Nat) (info : List SessionInfo) (w : World)
    (h : ∀ key row, w.permissions.getItem key = some row → ¬ Expired eventTime row) :
    (sweepPages o eventTime i pages info).run w = (.ok info, w) := by
  induction pages generalizing i with
  | nil => rfl
  | cons page pages ih =>
    have hlist : ∃ permissions complete,
        (onPermissions (listAllFromDb (o.scan i) page)).run w = (.ok (permissions, complete), w) ∧
          ∀ p ∈ permissions, ∃ entry : Entry, w.permissions.getItem entry.1 = some entry.2 ∧
            convertDbDictToSessionPermissionObject entry.1 entry.2 = .ok p := by
      by_cases hscan : o.scan i = .done
      · refine ⟨_, _, Proc.run_zoom_of (by unfold listAllFromDb; rw [Proc.run_gets, if_pos hscan]), ?_⟩
        intro p hp
        obtain ⟨entry, hmem, hconv⟩ := exists_entry_of_mem_readPage hp
        exact ⟨entry, by simpa using List.of_mem_filter hmem, hconv⟩
      · refine ⟨[], false, Proc.run_zoom_of ?_, fun p hp => absurd hp List.not_mem_nil⟩
        unfold listAllFromDb
        rw [Proc.run_gets, if_neg hscan]
    obtain ⟨permissions, complete, hrun, hentries⟩ := hlist
    have hpage : (sweepPermissions o eventTime permissions info).run w = (.ok info, w) := by
      refine run_sweepPermissions_of_none (fun p hp => ?_) info w
      obtain ⟨entry, hget, hconv⟩ := hentries p hp
      exact ⟨_, expiryDate_of_convert hconv, h entry.1 entry.2 hget⟩
    unfold sweepPages
    rw [Proc.run_bind_of_ok hrun]
    dsimp only
    rw [Proc.run_bind_of_ok hpage]
    cases complete
    · rfl
    · exact ih (i + 1)

/-- A sweep whose first expired permission is not deleted. -/
theorem run_sweepPages_of_failed (hscan : ∀ i, o.scan i = .done) (pages : List (List Entry)) (i : Nat)
    (info : List SessionInfo) (w : World)
    (hrows : ∀ entry ∈ pages.flatten, w.permissions.getItem entry.1 = some entry.2)
    (hentry : ∀ entry ∈ pages.flatten, entry.2.Readable ∧ Plain entry.1.1 ∧ Plain entry.1.2)
    (hfirst : pages.flatten.find? (fun entry => Expired eventTime entry.2) = some first)
    (hfailed : o.delete first.1 = .failed) : (sweepPages o eventTime i pages info).run w = (.error callFailed, w) := by
  induction pages generalizing i info with
  | nil => exact absurd hfirst (by simp)
  | cons page pages ih =>
    rw [List.flatten_cons] at hrows hentry hfirst
    obtain ⟨hlist, hread⟩ := run_listAllFromDb
      (fun entry he => hrows entry (List.mem_append_left _ he))
      (fun entry he => (hentry entry (List.mem_append_left _ he)).1)
    unfold sweepPages
    rw [hscan i, Proc.run_bind_of_ok hlist]
    dsimp only
    rw [List.find?_append] at hfirst
    cases hpage : page.find? (fun entry => Expired eventTime entry.2) with
    | some entry =>
      rw [hpage, Option.some_or] at hfirst
      obtain rfl : entry = first := Option.some.inj hfirst
      exact Proc.run_bind_of_error (run_sweepPermissions_of_failed hread
        (fun e he => hentry e (List.mem_append_left _ he)) hpage hfailed info w)
    | none =>
      rw [hpage, Option.none_or] at hfirst
      have hnone : ∀ p ∈ (readPage page).1,
          ∃ expiryDate, p.expiryDate = some expiryDate ∧ ¬ expiryDate ≤ eventTime := by
        intro p hp
        obtain ⟨entry, hmem, hconv⟩ := exists_entry_of_mem_readPage hp
        have hnot : ¬ Expired eventTime entry.2 := by
          simpa using List.find?_eq_none.mp hpage entry hmem
        exact ⟨_, expiryDate_of_convert hconv, hnot⟩
      rw [Proc.run_bind_of_ok (run_sweepPermissions_of_none hnone info w), if_pos rfl]
      exact ih (i + 1) info (fun e he => hrows e (List.mem_append_right _ he))
        (fun e he => hentry e (List.mem_append_right _ he)) hfirst

/-! ## One delivery -/

theorem mem_pages {t : Permissions} {entry : Entry} :
    entry ∈ (paginator.split t.scan).flatten ↔ t.getItem entry.1 = some entry.2 := by
  rw [(paginator.perm t.scan).mem_iff, ← Table.mem_scan]

theorem nodup_pages (t : Permissions) : ((paginator.split t.scan).flatten.map Prod.fst).Nodup :=
  ((paginator.perm t.scan).map Prod.fst).nodup_iff.mpr t.nodup_scan_keys

theorem mem_expired {entry : Entry} :
    entry ∈ expired eventTime entries ↔ entry ∈ entries ∧ Expired eventTime entry.2 := by
  simp [expired]

theorem SetOrder.list_nil : order.list [] = [] :=
  List.perm_nil.mp ((order.perm []).trans (List.Perm.refl []))

/-- A sweep over a table without expired permissions changes nothing. -/
theorem run_sweep_of_none (h : ∀ key row, w.permissions.getItem key = some row → ¬ Expired eventTime row) :
    (sweep paginator order clock o eventTime).run w = (.ok ⟨⟩, w) := by
  unfold sweep
  rw [Proc.run_bind_of_ok (Proc.run_gets _ w), Proc.run_bind_of_ok (run_sweepPages_of_none _ 0 [] w h), order.list_nil]
  rfl

/-- A sweep whose first expired permission is not deleted changes nothing. -/
theorem run_sweep_of_failed (hreadable : AllReadable w.permissions) (hscan : ∀ i, o.scan i = .done)
    (hfirst : (paginator.split w.permissions.scan).flatten.find? (fun entry => Expired eventTime entry.2) = some first)
    (hfailed : o.delete first.1 = .failed) :
    (sweep paginator order clock o eventTime).run w = (.error callFailed, w) := by
  unfold sweep
  rw [Proc.run_bind_of_ok (Proc.run_gets _ w)]
  refine Proc.run_bind_of_error (run_sweepPages_of_failed hscan _ 0 [] w (fun entry he => ?_)
    (fun entry he => ?_) hfirst hfailed)
  · exact (mem_pages paginator).mp he
  · exact hreadable entry.1 entry.2 ((mem_pages paginator).mp he)

/-- A sweep that gets through. -/
theorem run_sweep_of_completes (hreadable : AllReadable w.permissions) (hscan : ∀ i, o.scan i = .done)
    (hdelete : ∀ key row, w.permissions.getItem key = some row → Expired eventTime row → o.delete key = .done)
    (hpublish : AllPublished o.publish
      (order.list ((expiredOf paginator eventTime w.permissions).map sessionOf)).length) :
    Swept eventTime w.permissions ((sweep paginator order clock o eventTime).run w).2 ∧
      ((∀ i, o.publish i = .done) → ((sweep paginator order clock o eventTime).run w).1 = .ok ⟨⟩) := by
  have hpages : (sweepPages o eventTime 0 (paginator.split w.permissions.scan) []).run w =
      (.ok ((expiredOf paginator eventTime w.permissions).map sessionOf),
        { w with permissions := sweptTable paginator eventTime w.permissions }) :=
    run_sweepPages hscan _ 0 [] w
      (fun entry he => (mem_pages paginator).mp he)
      (fun entry he => hreadable entry.1 entry.2 ((mem_pages paginator).mp he)) (nodup_pages paginator _)
      (fun entry he => hdelete entry.1 entry.2 ((mem_pages paginator).mp (mem_expired.mp he).1) (mem_expired.mp he).2)
  have hmem : ∀ s, s ∈ order.list ((expiredOf paginator eventTime w.permissions).map sessionOf) ↔
      s ∈ (expiredOf paginator eventTime w.permissions).map sessionOf := by
    intro s
    rw [(order.perm _).mem_iff, List.mem_dedup]
  have hsome : ∀ s ∈ order.list ((expiredOf paginator eventTime w.permissions).map sessionOf),
      s.1.isSome := by
    intro s hs
    obtain ⟨entry, -, rfl⟩ := List.mem_map.mp ((hmem s).mp hs)
    rfl
  have hrun : (sweep paginator order clock o eventTime).run w =
      (publishAll clock o.publish 0 (order.list ((expiredOf paginator eventTime w.permissions).map sessionOf))).run
          { w with permissions := sweptTable paginator eventTime w.permissions } := by
    unfold sweep
    rw [Proc.run_bind_of_ok (Proc.run_gets _ w), Proc.run_bind_of_ok hpages]
  rw [hrun]
  refine ⟨?_, fun hdone => run_publishAll_of_done clock hdone 0 _ hsome _⟩
  obtain ⟨n, -, henforced, hcomplete, hpermissions⟩ := run_publishAll clock o.publish 0 _ hsome
    { w with permissions := sweptTable paginator eventTime w.permissions }
  have hindex : (fun k => o.publish (0 + k)) = o.publish := funext fun k => congrArg o.publish (Nat.zero_add k)
  rw [hindex] at hcomplete
  have hn := hcomplete.mpr hpublish
  have hexpired : ∀ key row, (key, row) ∈ expiredOf paginator eventTime w.permissions ↔
      w.permissions.getItem key = some row ∧ Expired eventTime row := by
    intro key row
    rw [expiredOf, mem_expired, mem_pages]
  refine ⟨fun key row => ?_, fun key row hget hexp => ?_⟩
  · rw [hpermissions, sweptTable, Table.getItem_deleteItems]
    constructor
    · intro hget
      split at hget
      · exact absurd hget (by simp)
      · rename_i hnot
        exact ⟨hget, fun hexp => hnot (List.mem_map.mpr ⟨(key, row), (hexpired key row).mpr ⟨hget, hexp⟩, rfl⟩)⟩
    · rintro ⟨hget, hnot⟩
      rw [if_neg, hget]
      intro hmem'
      obtain ⟨⟨key', row'⟩, hentry, rfl⟩ := List.mem_map.mp hmem'
      obtain ⟨hget', hexp⟩ := (hexpired key' row').mp hentry
      obtain rfl : row' = row := Option.some.inj (hget'.symm.trans hget)
      exact hnot hexp
  · rw [henforced, hn, List.take_length, hmem]
    exact .inr (List.mem_map_of_mem ((hexpired key row).mpr ⟨hget, hexp⟩))

variable {start : Permissions}

theorem swept_of_none (hw : w.permissions = start)
    (h : ∀ key row, start.getItem key = some row → ¬ Expired eventTime row) : Swept eventTime start w where
  rows := fun key row => by
    rw [hw]
    exact ⟨fun hget => ⟨hget, h key row hget⟩, fun hget => hget.1⟩
  enforced := fun key row hget hexp => absurd hexp (h key row hget)

/-- What holds of the state at each delivery: nothing is deleted yet, or everything is done. -/
def SweepInv (eventTime : Int) (start : Permissions) (w : World) : Prop :=
  w.permissions = start ∨ Swept eventTime start w

/-- A delivery of the scheduled event that meets the condition leaves the table as it was or swept. -/
theorem sweep_spec (hreadable : AllReadable start) (w : World)
    (hw : SweepInv eventTime start w) (hmeets : MeetsSweep paginator order eventTime o w)
    (htrigger : o.trigger = .done) : (((sweep paginator order clock o eventTime).run w).1 = .ok ⟨⟩ →
        Swept eventTime start ((sweep paginator order clock o eventTime).run w).2) ∧
      SweepInv eventTime start ((sweep paginator order clock o eventTime).run w).2 := by
  by_cases hnone : ∀ key row, w.permissions.getItem key = some row → ¬ Expired eventTime row
  · -- nothing to delete
    rw [run_sweep_of_none paginator order clock hnone]
    rcases hw with hstart | hswept
    · have hswept : Swept eventTime start w := swept_of_none hstart (hstart ▸ hnone)
      exact ⟨fun _ => hswept, .inr hswept⟩
    · exact ⟨fun _ => hswept, .inr hswept⟩
  · have hexists : ∃ key row, w.permissions.getItem key = some row ∧ Expired eventTime row := by
      by_contra hnot
      exact hnone fun key row hget hexp => hnot ⟨key, row, hget, hexp⟩
    have hstart : w.permissions = start := by
      rcases hw with hstart | hswept
      · exact hstart
      · obtain ⟨key, row, hget, hexp⟩ := hexists
        exact absurd hexp ((hswept.rows key row).mp hget).2
    have hreadable' : AllReadable w.permissions := hstart ▸ hreadable
    cases hmeets hexists with
    | untriggered h => exact absurd htrigger h
    | first hscan entry hfirst hfailed =>
      rw [run_sweep_of_failed paginator order clock hreadable' hscan hfirst hfailed]
      exact ⟨fun h => by simp at h, .inl hstart⟩
    | completes _ hscan hdelete hpublish =>
      have hswept := (run_sweep_of_completes paginator order clock hreadable' hscan hdelete hpublish).1
      rw [hstart] at hswept
      exact ⟨fun _ => hswept, .inr hswept⟩

section

variable {scheduledRoleId senderId text : String} {parseTime : String → Except Exc Int}
  {event : VirtualDesktopEvent} (hsender : isSenderRole scheduledRoleId senderId = true)
  (htime : event.detailString "time" = some text) (hparse : parseTime text = .ok eventTime)

include hsender htime hparse

/-- A delivery of the scheduled event runs the sweep, unless the schedules in front of it raise. -/
theorem run_handleEvent (w : World) : (o.trigger = .done →
      (handleEvent paginator order clock scheduledRoleId parseTime senderId event o).run w =
        (sweep paginator order clock o eventTime).run w) ∧ (o.trigger ≠ .done →
      ∃ e, (handleEvent paginator order clock scheduledRoleId parseTime senderId event o).run w = (.error e, w)) := by
  have hrun : (handleEvent paginator order clock scheduledRoleId parseTime senderId event o).run w =
      (Proc.attempt o.trigger callFailed (pure PUnit.unit : Proc World Exc PUnit) >>= fun _ =>
        sweep paginator order clock o eventTime).run w := by
    unfold handleEvent
    rw [if_neg (by simp [hsender]), htime]
    dsimp only
    rw [hparse]
    rfl
  rw [hrun]
  refine ⟨fun h => by rw [h]; rfl, fun h => ?_⟩
  obtain ⟨e, herr⟩ := Proc.run_attempt_of_reads callFailed
    (Reads.pure PUnit.unit : Reads (pure PUnit.unit : Proc World Exc PUnit)) h w
  exact ⟨e, Proc.run_bind_of_error herr⟩

/-- One delivery. -/
theorem handleEvent_spec (hreadable : AllReadable start) (o : SweepOutcomes) :
    Triple (fun w => SweepInv eventTime start w ∧ MeetsSweep paginator order eventTime o w)
      (handleEvent paginator order clock scheduledRoleId parseTime senderId event o)
      (fun _ => Swept eventTime start) fun _ => SweepInv eventTime start := by
  intro w hw
  obtain ⟨hsweep, hraise⟩ := run_handleEvent paginator order clock (o := o) hsender htime hparse w
  by_cases htrigger : o.trigger = .done
  · obtain ⟨hok, hinv⟩ := sweep_spec paginator order clock hreadable w hw.1 hw.2 htrigger
    rw [hsweep htrigger]
    rcases hrun : (sweep paginator order clock o eventTime).run w with ⟨e | u, w'⟩
    · rw [hrun] at hinv
      exact hinv
    · rw [hrun] at hok
      exact hok rfl
  · obtain ⟨e, hrun⟩ := hraise htrigger
    rw [hrun]
    exact hw.1

/-- The faultless delivery returns. -/
theorem handleEvent_faultless_spec (hreadable : AllReadable start) :
    Triple (fun w => SweepInv eventTime start w ∧ MeetsSweep paginator order eventTime .faultless w)
      (handleEvent paginator order clock scheduledRoleId parseTime senderId event .faultless)
      (fun _ => Swept eventTime start) fun _ _ => False := by
  intro w hw
  have hreturns : ∃ w', (handleEvent paginator order clock scheduledRoleId parseTime senderId event
      .faultless).run w = (.ok ⟨⟩, w') := by
    obtain ⟨hsweep, -⟩ := run_handleEvent paginator order clock (o := .faultless) hsender htime hparse w
    rw [hsweep rfl]
    by_cases hnone : ∀ key row, w.permissions.getItem key = some row → ¬ Expired eventTime row
    · exact ⟨w, run_sweep_of_none paginator order clock hnone⟩
    · have hreadable' : AllReadable w.permissions := by
        intro key row hget
        rcases hw.1 with hstart | hswept
        · exact hreadable key row (hstart ▸ hget)
        · exact hreadable key row ((hswept.rows key row).mp hget).1
      have hok : ((sweep paginator order clock .faultless eventTime).run w).1 = .ok ⟨⟩ :=
        (run_sweep_of_completes paginator order clock hreadable' (fun _ => rfl) (fun _ _ _ _ => rfl)
          fun _ _ => .inl rfl).2 fun _ => rfl
      exact ⟨_, Prod.ext hok rfl⟩
  obtain ⟨w', hrun⟩ := hreturns
  rw [hrun]
  exact (handleEvent_spec paginator order clock hsender htime hparse hreadable .faultless).of_ok hw hrun

end

/-- **Every permission change is enforced.** In a request every session of which a row is written gets
its enforce event if and only if the first change writes no row, or all changes and publications
succeed. When every delivery of the scheduled event is harmless and the last one meets no failure, the
run ends, exactly the permissions whose expiry date has come are gone, and their sessions have their
events. -/
theorem permission_changes_enforced :
    (∀ (o : RequestOutcomes) (request : UpdateSessionPermissionRequest) (t : Permissions),
      (∀ s ∈ touched o.change 0 request.changes t, Enforced s
            ((updatePermissionForSessions order clock o request).run { permissions := t }).2.outbox) ↔
        (∀ c, request.changes.head? = some c → o.change 0 = .failed ∨ ¬ c.Writes t) ∨
          (AllSucceed o.change 0 request.changes t ∧
            AllPublished o.publish (order.list (request.changes.map Change.session)).length)) ∧
    ∀ {scheduledRoleId senderId text : String} {parseTime : String → Except Exc Int}
      {event : VirtualDesktopEvent} {eventTime : Int}, isSenderRole scheduledRoleId senderId = true →
      event.detailString "time" = some text → parseTime text = .ok eventTime →
      ∀ (deliveries : List SweepOutcomes) (t : Permissions), AllReadable t → DatesKept eventTime t →
      Along (handleEvent paginator order clock scheduledRoleId parseTime senderId event)
        (MeetsSweep paginator order eventTime) (deliveries ++ [.faultless]) { permissions := t } →
      ∃ w', (Proc.redeliver (handleEvent paginator order clock scheduledRoleId parseTime senderId event)
          .faultless deliveries).run { permissions := t } = (.ok ⟨⟩, w') ∧
        (∀ key row, w'.permissions.getItem key = some row ↔ t.getItem key = some row ∧ eventTime < row.expiryDate) ∧
        ∀ key row, t.getItem key = some row → row.expiryDate ≤ eventTime →
          Enforced (sessionOf (key, row)) w'.outbox := by
  refine ⟨touched_enforced_iff order clock, ?_⟩
  intro _ _ _ _ _ _ hsender htime hparse deliveries t hreadable hdates hmeets
  obtain ⟨w', hrun, hswept⟩ := redeliver_of_along
    (handleEvent_spec paginator order clock hsender htime hparse hreadable)
    (handleEvent_faultless_spec paginator order clock hsender htime hparse hreadable) deliveries
    (.inl rfl) hmeets
  refine ⟨w', hrun, fun key row => ?_, fun key row hget hdate => ?_⟩
  · rw [hswept.rows]
    refine and_congr_right fun hget => ?_
    rw [Expired, hdates key row hget, not_le]
  · exact hswept.enforced key row hget ((hdates key row hget).mpr hdate)

/-- A permission that has expired at the time 1000. -/
def expiredRow : SessionPermissionRow where
  ideaSessionOwner := some "owner"
  ideaSessionName := some "desk"
  ideaSessionInstanceType := none
  ideaSessionState := some .ready
  ideaSessionBaseOs := some .amazonLinux2
  ideaSessionType := some .virtual
  permissionProfileId := some "observer"
  actorType := some .user
  expiryDate := 1000

/-- Two sessions, each with a permission that has expired. -/
def twoExpired : Permissions :=
  ((∅ : Permissions).putItem ("s2", "guest") expiredRow).putItem ("s1", "guest") expiredRow

/-- The scheduled event of the time 1000. -/
def scheduledEvent : VirtualDesktopEvent := ⟨some "group", some .scheduled, some [("time", .S "t")]⟩

theorem getItem_twoExpired {key : String × String} {row : SessionPermissionRow}
    (h : twoExpired.getItem key = some row) : row = expiredRow ∧ (key = ("s1", "guest") ∨ key = ("s2", "guest")) := by
  rw [twoExpired, Table.getItem_putItem, Table.getItem_putItem] at h
  split at h
  · exact ⟨(Option.some.inj h).symm, .inl ‹_›⟩
  · split at h
    · exact ⟨(Option.some.inj h).symm, .inr ‹_›⟩
    · exact absurd h (by simp)

theorem allReadable_twoExpired : AllReadable twoExpired := by
  intro key row hget
  obtain ⟨rfl, rfl | rfl⟩ := getItem_twoExpired hget
  · decide
  · decide

/-- The deletion that comes first fails and the event is delivered again. -/
theorem twoExpired_swept : ∃ w', (Proc.redeliver (handleEvent (Paginator.single _) .dedup (fun _ => 0) "role"
          (fun _ => .ok 1000) "role:lambda" scheduledEvent)
          .faultless [{ SweepOutcomes.faultless with delete := fun _ => .failed }]).run
          { permissions := twoExpired } = (.ok ⟨⟩, w') ∧
      (∀ key row, w'.permissions.getItem key = some row ↔ twoExpired.getItem key = some row ∧ 1000 < row.expiryDate) ∧
      ∀ key row, twoExpired.getItem key = some row → row.expiryDate ≤ 1000 →
        Enforced (sessionOf (key, row)) w'.outbox := by
  have hsender : isSenderRole "role" "role:lambda" = true := by decide
  refine (permission_changes_enforced (Paginator.single _) .dedup (fun _ => 0)).2 hsender rfl rfl _
    twoExpired allReadable_twoExpired (fun key row hget => ?_)
    ⟨fun _ => ?_, fun e w _ => ⟨fun _ => ?_, fun _ _ _ => trivial⟩⟩
  · obtain ⟨rfl, -⟩ := getItem_twoExpired hget
    decide
  · exact .first (fun _ => rfl) (("s1", "guest"), expiredRow) (by decide) rfl
  · exact .completes rfl (fun _ => rfl) (fun _ _ _ _ => rfl) fun _ _ => .inl rfl

/-- The answer to the first deletion is lost: the next delivery no longer sees the permission, and its
session gets no event. -/
theorem expired_not_enforced : ¬ ∀ (deliveries : List SweepOutcomes) (t : Permissions) (w' : World),
      (Proc.redeliver (handleEvent (Paginator.single _) .dedup (fun _ => 0) "role" (fun _ => .ok 1000)
        "role:lambda" scheduledEvent) .faultless deliveries).run { permissions := t } = (.ok ⟨⟩, w') →
      ∀ key row, t.getItem key = some row → ¬ w'.permissions.Has key → Enforced (sessionOf (key, row)) w'.outbox := by
  intro h
  have hlost := h [{ SweepOutcomes.faultless with delete := fun _ => .lost }] twoExpired _ rfl
    ("s1", "guest") expiredRow (Table.getItem_putItem_self _ _ _) (by decide)
  obtain ⟨message, hmem, timestamp, hbody⟩ := hlost
  have hothers : ∀ message ∈ ((Proc.redeliver (handleEvent (Paginator.single _) .dedup (fun _ => 0) "role"
      (fun _ => .ok 1000) "role:lambda" scheduledEvent) .faultless
      [{ SweepOutcomes.faultless with delete := fun _ => .lost }]).run
        { permissions := twoExpired }).2.outbox.messages, message.body.eventGroupId ≠ some "s1" := by
    decide
  exact hothers message hmem (by rw [hbody]; rfl)

end ContainRes.VirtualDesktop.SessionPermissions

