import ContainRes.Accounts.Listings
import ContainRes.Store.Following
import ContainRes.VirtualDesktop.PermissionProfileDb
import ContainRes.VirtualDesktop.SoftwareStackApi

/-! # The pages of the listings

The listings of sessions, of software stacks and of permission profiles answer one page of a scan with a cursor
for the next one. The first two go through `scan_db_records`; the third one has the same steps in its own body,
where a filter's `value` is not looked at.

* **`listRows`** — the common body; **`listSessions`**, **`listSoftwareStacks`**, **`listPermissionProfiles`** are
  its instances.
* **`Asked`** — a row meets all the conditions of a list of filters.
* **`Covers`** — following the cursors of a listing gives exactly the rows that are asked for, each once.
* **`covers_iff`** — when it does: one page, and the conditions that are sent ask as much as all of them. -/

namespace ContainRes.VirtualDesktop.ListingPages

open Accounts (addScanFilter)
open Store Text
open PermissionProfiles SoftwareStacks

/-! ## The listings -/

/-- A table as its listings see it: the pages of its scans, the attributes that filters are about, and the object
of a row, if it has one. -/
structure ListedRows (κ ρ δ : Type) where
  table : PagedRows κ ρ
  item : ρ → Option String → Option AttributeValue
  convert : ρ → Except Exc δ

section Listing

variable {κ ρ δ : Type} [DecidableEq κ] (json : JsonObjects κ)

/-- The key that a cursor stands for. -/
def startKey (cursor : Option String) : Except Exc (Option κ) :=
  match cursor with
  | none => .ok none
  | some cursor => if isEmpty cursor then .ok none else (decodeCursor json cursor).map some

/-- The common body of the listings; `merge` makes the conditions of the filters. The key is handed over as
`LastEvaluatedKey`. -/
def listRows (merge : List SocaFilter → ScanFilter (Option String)) (t : ListedRows κ ρ δ) (request : ListingRequest) :
    Except Exc (List δ × Option String) := do
  let lastEvaluatedKey ← startKey json request.cursor
  let scanFilter := merge request.filterList
  if hasMissingKey scanFilter then throw paramValidationError
  let answer ← scan t.table { lastEvaluatedKey := lastEvaluatedKey }
  let listing ← (answer.1.filter fun row => scanFilter.holds (t.item row)).mapM t.convert
  return (listing, answer.2.map (encodeCursor json))

/-- The conditions of `scan_db_records`. -/
def scanConditions (filters : List SocaFilter) : ScanFilter (Option String) := mergeFilters (withoutAll filters)

/-- The conditions of `VirtualDesktopPermissionProfileDB.list`. -/
def profileConditions (filters : List SocaFilter) : ScanFilter (Option String) := filters.foldl addScanFilter []

/-- The sessions table. -/
def sessionRows (sessions : PagedRows κ SessionRow) : ListedRows κ SessionRow SessionEntry :=
  ⟨sessions, SessionRow.item, fun row => .ok (convertDbDictToSessionObject row)⟩

/-- `VirtualDesktopSessionDB.list_all_from_db`. -/
def listSessions (sessions : PagedRows κ SessionRow) :
    ListingRequest → Except Exc (List SessionEntry × Option String) :=
  listRows json scanConditions (sessionRows sessions)

/-- The software stacks table. -/
def softwareStackRows (numbers : NumberText) (others : SoftwareStackDict → String → Option AttributeValue)
    (softwareStacks : PagedRows κ SoftwareStackDict) : ListedRows κ SoftwareStackDict SoftwareStack :=
  ⟨softwareStacks, SoftwareStackDict.item others, SoftwareStacks.convertDbDictToSoftwareStackObject numbers⟩

/-- `VirtualDesktopSoftwareStackDB.list_all_from_db`. -/
def listSoftwareStacks (numbers : NumberText) (others : SoftwareStackDict → String → Option AttributeValue)
    (softwareStacks : PagedRows κ SoftwareStackDict) :
    ListingRequest → Except Exc (List SoftwareStack × Option String) :=
  listRows json scanConditions (softwareStackRows numbers others softwareStacks)

/-- The attributes of a row of the permission profiles table. The dates are left to `others`. -/
def profileAttribute (others : String × PermissionProfileRow → String → Option AttributeValue)
    (row : String × PermissionProfileRow) (key : Option String) : Option AttributeValue :=
  key.bind fun key =>
    if key = "profile_id" then some (.S row.1)
    else if key = "title" then row.2.title.map .S
    else if key = "description" then row.2.description.map .S
    else ((row.2.flags key).map .BOOL).or (others row key)

/-- The permission profiles table. -/
def permissionProfileRows (types : PermissionTypes)
    (others : String × PermissionProfileRow → String → Option AttributeValue)
    (profiles : PagedRows κ (String × PermissionProfileRow)) :
    ListedRows κ (String × PermissionProfileRow) PermissionProfile :=
  ⟨profiles, profileAttribute others, fun row =>
    .ok (PermissionProfiles.convertDbDictToPermissionProfileObject types row.1 row.2)⟩

/-- `VirtualDesktopPermissionProfileDB.list`. -/
def listPermissionProfiles (types : PermissionTypes)
    (others : String × PermissionProfileRow → String → Option AttributeValue)
    (profiles : PagedRows κ (String × PermissionProfileRow)) :
    ListingRequest → Except Exc (List PermissionProfile × Option String) :=
  listRows json profileConditions (permissionProfileRows types others profiles)

end Listing

/-! ## What the filters ask for -/

/-- What one filter asks: each condition that it has, where the value `$all` is none. -/
def asks (filter : SocaFilter) (item : Option String → Option AttributeValue) : Bool :=
  (filter.eq.all fun operand => Condition.holds ⟨.EQ, operand⟩ (item filter.key)) &&
    (filter.value.all fun operand => operand = .S "$all" || Condition.holds ⟨.CONTAINS, operand⟩ (item filter.key)) &&
    filter.like.all fun operand => Condition.holds ⟨.CONTAINS, .S operand⟩ (item filter.key)

/-- A row meets the conditions of every filter. -/
def Asked (filters : List SocaFilter) (item : Option String → Option AttributeValue) : Bool :=
  filters.all fun filter => asks filter item

section Conditions

variable {scanFilter : ScanFilter (Option String)} {item : Option String → Option AttributeValue}

/-- A condition that holds may be put in. -/
theorem holds_putCondition {key : Option String} {operator : ComparisonOperator} {operand : Option AttributeValue}
    (h : scanFilter.holds item = true)
    (hcondition : ∀ o, operand = some o → Condition.holds ⟨operator, o⟩ (item key) = true) :
    (putCondition scanFilter key operator operand).holds item = true := by
  cases operand with
  | none => exact h
  | some operand =>
    have hrest : (scanFilter.without key).holds item = true := by
      rw [ScanFilter.holds_split _ key, Bool.and_eq_true] at h
      exact h.2
    rw [putCondition, ScanFilter.holds_set, hcondition operand rfl, hrest]
    rfl

/-- What a filter asks, condition by condition. -/
theorem asks_iff {filter : SocaFilter} : asks filter item = true ↔
    (∀ o, filter.eq = some o → Condition.holds ⟨.EQ, o⟩ (item filter.key) = true) ∧
    (∀ o, filter.value = some o → o = .S "$all" ∨ Condition.holds ⟨.CONTAINS, o⟩ (item filter.key) = true) ∧
    ∀ o, filter.like.map .S = some o → Condition.holds ⟨.CONTAINS, o⟩ (item filter.key) = true := by
  rw [asks, Bool.and_eq_true, Bool.and_eq_true, and_assoc]
  cases filter.eq <;> cases filter.value <;> cases filter.like <;> simp

/-- **All conditions.** What meets every filter meets the conditions that `scan_db_records` sends. -/
theorem holds_scanConditions {filters : List SocaFilter} (h : Asked filters item = true) :
    (scanConditions filters).holds item = true := by
  have hall := List.all_eq_true.mp h
  unfold scanConditions mergeFilters
  suffices hfold : ∀ (fs : List SocaFilter) (scanFilter : ScanFilter (Option String)),
      (∀ filter ∈ fs, asks filter item = true ∧ filter.value ≠ some (.S "$all")) →
      scanFilter.holds item = true → (fs.foldl addFilter scanFilter).holds item = true by
    refine hfold _ [] (fun filter hfilter => ?_) rfl
    obtain ⟨hmem, hvalue⟩ := List.mem_filter.mp hfilter
    exact ⟨hall filter hmem, of_decide_eq_true hvalue⟩
  intro fs
  induction fs with
  | nil => exact fun _ _ hholds => hholds
  | cons filter fs ih =>
    intro scanFilter hasks hholds
    obtain ⟨hfilter, hnotall⟩ := hasks filter List.mem_cons_self
    obtain ⟨heq, hvalue, hlike⟩ := asks_iff.mp hfilter
    refine ih _ (fun other hother => hasks other (List.mem_cons_of_mem _ hother)) ?_
    refine holds_putCondition (holds_putCondition (holds_putCondition hholds heq) fun o ho => ?_) hlike
    refine (hvalue o ho).resolve_left ?_
    rintro rfl
    exact hnotall ho

/-- What meets every filter meets the conditions that the listing of profiles sends. -/
theorem holds_profileConditions {filters : List SocaFilter} (h : Asked filters item = true) :
    (profileConditions filters).holds item = true := by
  have hall := List.all_eq_true.mp h
  unfold profileConditions
  suffices hfold : ∀ (fs : List SocaFilter) (scanFilter : ScanFilter (Option String)),
      (∀ filter ∈ fs, asks filter item = true) →
      scanFilter.holds item = true → (fs.foldl addScanFilter scanFilter).holds item = true from
    hfold filters [] hall rfl
  intro fs
  induction fs with
  | nil => exact fun _ _ hholds => hholds
  | cons filter fs ih =>
    intro scanFilter hasks hholds
    obtain ⟨heq, -, hlike⟩ := asks_iff.mp (hasks filter List.mem_cons_self)
    exact ih _ (fun other hother => hasks other (List.mem_cons_of_mem _ hother))
      (holds_putCondition (holds_putCondition hholds heq) hlike)

end Conditions

/-! ## What the listings cover -/

section Coverage

variable {κ ρ δ : Type} [DecidableEq κ]

/-- **Coverage.** The listing with some filters, from no cursor on, comes to an answer without a cursor, and the
answers hold the objects of exactly the rows that are asked for. -/
def Covers (list : ListingRequest → Except Exc (List δ × Option String)) (t : ListedRows κ ρ δ)
    (filters : Option (List SocaFilter)) : Prop :=
  ∃ fuel listing objects, follow (fun cursor => list { filters := filters, cursor := cursor }) fuel none =
      some (.ok listing) ∧
    (t.table.rows.filter fun row => Asked (filters.getD []) (t.item row)).mapM t.convert = .ok objects ∧
    listing.Perm objects

/-- The table is one page, every condition that is sent has a key, the rows that meet them have objects, and they
meet all the conditions that are asked for. -/
structure OnePage (scanFilter : ScanFilter (Option String)) (t : ListedRows κ ρ δ) (filters : List SocaFilter) :
    Prop where
  count : t.table.count = 1
  keys : hasMissingKey scanFilter = false
  objects : ∃ objects, (t.table.rows.filter fun row => scanFilter.holds (t.item row)).mapM t.convert = .ok objects
  asked : ∀ row ∈ t.table.rows, scanFilter.holds (t.item row) = true → Asked filters (t.item row) = true

variable {json : JsonObjects κ} {merge : List SocaFilter → ScanFilter (Option String)} {t : ListedRows κ ρ δ}
  {filters : Option (List SocaFilter)}

variable (json t) in
/-- The first request. -/
theorem listRows_first (hkeys : hasMissingKey (merge (filters.getD [])) = false) :
    listRows json merge t { filters := filters } =
      (((t.table.page 0).1.filter fun row => (merge (filters.getD [])).holds (t.item row)).mapM t.convert).map
        fun listing => (listing, (t.table.page 0).2.map (encodeCursor json)) := by
  show (if hasMissingKey (merge (filters.getD [])) = true then _ else _) = _
  rw [hkeys, if_neg (by decide)]
  show ((t.table.page 0).1.filter fun row => (merge (filters.getD [])).holds (t.item row)).mapM t.convert >>= _ = _
  cases ((t.table.page 0).1.filter fun row => (merge (filters.getD [])).holds (t.item row)).mapM t.convert <;> rfl

variable (json merge t filters) in
/-- A request with a cursor is refused. -/
theorem listRows_next (key : κ) :
    ∃ e, listRows json merge t { filters := filters, cursor := some (encodeCursor json key) } = .error e := by
  have hstart : startKey json (some (encodeCursor json key)) = .ok (some key) := by
    rw [startKey, isEmpty_encodeCursor, if_neg (by decide), decodeCursor_encodeCursor]
    rfl
  unfold listRows
  dsimp only
  rw [hstart]
  show ∃ e, (if hasMissingKey (merge (filters.getD [])) = true then _ else _) = Except.error e
  split
  · exact ⟨_, rfl⟩
  · exact ⟨_, rfl⟩

theorem length_of_mapM {xs : List ρ} {ys : List δ} {f : ρ → Except Exc δ} (h : xs.mapM f = .ok ys) :
    ys.length = xs.length := by
  induction xs generalizing ys with
  | nil =>
    cases h
    rfl
  | cons x xs ih =>
    rw [List.mapM_cons] at h
    obtain ⟨y, -, h⟩ := Effects.bind_eq_ok.mp h
    obtain ⟨rest, hrest, h⟩ := Effects.bind_eq_ok.mp h
    cases h
    rw [List.length_cons, List.length_cons, ih hrest]

/-- **Coverage of a listing**, where what is asked for meets the conditions that are sent. -/
theorem covers_listRows_iff
    (hmerge : ∀ item, Asked (filters.getD []) item = true → (merge (filters.getD [])).holds item = true) :
    Covers (listRows json merge t) t filters ↔ OnePage (merge (filters.getD [])) t (filters.getD []) := by
  have hpos := t.table.count_pos
  -- among the rows, those that are asked for are some of those that are sent
  have hfilter : (t.table.rows.filter fun row => (merge (filters.getD [])).holds (t.item row)).filter
      (fun row => Asked (filters.getD []) (t.item row)) =
        t.table.rows.filter fun row => Asked (filters.getD []) (t.item row) := by
    rw [List.filter_filter]
    refine List.filter_congr fun row _ => ?_
    rw [Bool.eq_iff_iff, Bool.and_eq_true]
    exact ⟨fun h => h.1, fun h => ⟨h, hmerge _ h⟩⟩
  have hone (h : t.table.count = 1) : t.table.page 0 = (t.table.rows, none) := by
    obtain ⟨items, hitems⟩ : ∃ items, t.table.pages = [items] := List.length_eq_one_iff.mp h
    rw [PagedRows.page, if_neg (by omega), PagedRows.rows, hitems, List.flatten_singleton]
    rfl
  constructor
  · rintro ⟨fuel, listing, objects, hfollow, hobjects, hperm⟩
    have hkeys : hasMissingKey (merge (filters.getD [])) = false := by
      rw [Bool.eq_false_iff]
      intro hmissing
      have herror : listRows json merge t { filters := filters } = .error paramValidationError := by
        show (if hasMissingKey (merge (filters.getD [])) = true then _ else _) = _
        rw [if_pos hmissing]
        rfl
      exact follow_ne_ok_of_error herror fuel listing hfollow
    have hfirst := listRows_first json t hkeys
    have hcount : t.table.count = 1 := by
      by_contra hne
      have hmore : 1 < t.table.count := by omega
      obtain ⟨items, hpage⟩ := first_of_more hmore
      rw [hpage] at hfirst
      cases hpageObjects : (items.filter fun row => (merge (filters.getD [])).holds (t.item row)).mapM t.convert with
      | error e =>
        rw [hpageObjects] at hfirst
        exact follow_ne_ok_of_error hfirst fuel listing hfollow
      | ok found =>
        rw [hpageObjects] at hfirst
        obtain ⟨e, hnext⟩ := listRows_next json merge t filters (t.table.lastKey 0)
        exact follow_ne_ok_of_next hfirst hnext fuel listing hfollow
    rw [hone hcount] at hfirst
    cases hall : (t.table.rows.filter fun row => (merge (filters.getD [])).holds (t.item row)).mapM t.convert with
    | error e =>
      rw [hall] at hfirst
      exact absurd hfollow (follow_ne_ok_of_error hfirst fuel listing)
    | ok found =>
      rw [hall] at hfirst
      obtain rfl := (follow_ok_iff_of_last hfirst).mp ⟨fuel, hfollow⟩
      refine ⟨hcount, hkeys, ⟨_, hall⟩, fun row hrow hsent => ?_⟩
      -- as many rows are asked for as are sent, so they are the same
      have hlength := hperm.length_eq
      rw [length_of_mapM hall, length_of_mapM hobjects, ← hfilter] at hlength
      have hsame := List.filter_eq_self.mp (List.filter_sublist.eq_of_length hlength.symm)
      exact hsame row (List.mem_filter.mpr ⟨hrow, hsent⟩)
  · rintro ⟨hcount, hkeys, ⟨objects, hobjects⟩, hasked⟩
    have hfirst := listRows_first json t hkeys
    rw [hone hcount, hobjects] at hfirst
    refine ⟨1, objects, objects, follow_last hfirst 0, ?_, List.Perm.refl _⟩
    rw [← hobjects]
    congr 1
    refine List.filter_congr fun row hrow => ?_
    rw [Bool.eq_iff_iff]
    exact ⟨hmerge _, hasked row hrow⟩

end Coverage

/-! ## The three listings -/

section Instances

variable {κ : Type} [DecidableEq κ]

/-- **The pages of the listings.** Each of the three listings covers what its filters ask for exactly when the
table is one page, each condition that is sent has a key, the rows that meet these conditions have objects, and
they meet all the conditions that the filters ask for. -/
theorem covers_iff (json : JsonObjects κ) (numbers : NumberText)
    (stackOthers : SoftwareStackDict → String → Option AttributeValue) (types : PermissionTypes)
    (profileOthers : String × PermissionProfileRow → String → Option AttributeValue)
    (filters : Option (List SocaFilter)) :
    (∀ sessions : PagedRows κ SessionRow, Covers (listSessions json sessions) (sessionRows sessions) filters ↔
      OnePage (scanConditions (filters.getD [])) (sessionRows sessions) (filters.getD [])) ∧
    (∀ softwareStacks : PagedRows κ SoftwareStackDict,
      Covers (listSoftwareStacks json numbers stackOthers softwareStacks)
          (softwareStackRows numbers stackOthers softwareStacks) filters ↔
        OnePage (scanConditions (filters.getD [])) (softwareStackRows numbers stackOthers softwareStacks)
          (filters.getD [])) ∧ ∀ profiles : PagedRows κ (String × PermissionProfileRow),
      Covers (listPermissionProfiles json types profileOthers profiles)
          (permissionProfileRows types profileOthers profiles) filters ↔
        OnePage (profileConditions (filters.getD [])) (permissionProfileRows types profileOthers profiles)
          (filters.getD []) :=
  ⟨fun _ => covers_listRows_iff fun _ => holds_scanConditions,
    fun _ => covers_listRows_iff fun _ => holds_scanConditions,
    fun _ => covers_listRows_iff fun _ => holds_profileConditions⟩

end Instances

/-! ## Two pages -/

/-- Two sessions on a page each. -/
def twoSessions : PagedRows ℕ SessionRow :=
  ⟨[[⟨"ada", "s1", none, fun _ => none, by decide⟩], [⟨"bob", "s2", none, fun _ => none, by decide⟩]],
    List.cons_ne_nil _ _, id, Function.injective_id⟩

/-- **The second page.** The listing of two pages ends with the error of the second request. -/
theorem second_page_refused :
    ¬ ∀ (json : JsonObjects ℕ) (sessions : PagedRows ℕ SessionRow) (filters : Option (List SocaFilter)),
      Covers (listSessions json sessions) (sessionRows sessions) filters := by
  intro h
  have hcovers := h (JsonObjects.ofEncodable ℕ) twoSessions none
  have hsent : ∀ item, Asked ((none : Option (List SocaFilter)).getD []) item = true →
      (scanConditions []).holds item = true := fun _ => holds_scanConditions
  have hone := ((covers_listRows_iff hsent).mp hcovers).count
  exact absurd hone (by decide)

end ContainRes.VirtualDesktop.ListingPages
