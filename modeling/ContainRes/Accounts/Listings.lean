import ContainRes.Accounts.Dao
import ContainRes.Common.Paginator
import ContainRes.Common.TableScan
import ContainRes.VirtualDesktop.Listing

/-! # Listing all users and all groups

The synchronisation with the directory lists the users and the groups page by page. `list_users` and
`list_groups` are one method on two tables, and so are the two loops of `ADSyncService` around them.

* **`ListedTable`** — a table as the listings see it.
* **`listRecords`** — the listing of one page; **`listUsers`**, **`listGroups`** are its instances.
* **`fetchAll`** — the loop, with the cursor handed over as `start`; **`fetchAllResIdentifiedUsers`** and
  **`fetchAllResIdentifiedGroups`** are its instances.
* **`fetchAll_exact_iff`** — when the loop returns every record once. -/

namespace ContainRes.Accounts

open Store Text
open VirtualDesktop (SocaFilter putCondition hasMissingKey paramValidationError)

/-! ## The listings -/

/-- The fields of a listing request that the methods read. -/
structure ListRequest where
  paginator : Option SocaPaginator := none
  filters : List SocaFilter := []

def ListRequest.cursor (request : ListRequest) : Option String :=
  request.paginator.bind SocaPaginator.cursor

/-- A listing. -/
structure ListResult (δ : Type) where
  listing : List δ
  paginator : SocaPaginator

/-- A table as its listings see it: the pages of its scans, the attributes that filters are about, and what a
row is converted to. -/
structure ListedTable (κ ρ δ : Type) where
  table : PagedRows κ ρ
  item : ρ → Option String → Option AttributeValue
  convertFromDb : ρ → δ

/-- The conditions of one filter of a request. -/
def addScanFilter (scanFilter : ScanFilter (Option String)) (filter : SocaFilter) : ScanFilter (Option String) :=
  putCondition (putCondition scanFilter filter.key .EQ filter.eq) filter.key .CONTAINS (filter.like.map .S)

section Listing

variable {κ ρ δ : Type} [DecidableEq κ] (json : JsonObjects κ) (t : ListedTable κ ρ δ)

/-- The key that a request goes on from. -/
def startKey (request : ListRequest) : Except Exc (Option κ) :=
  match request.cursor with
  | none => .ok none
  | some cursor => if isEmpty cursor then .ok none else (decodeCursor json cursor).map some

/-- The common body of `list_users(request)` and `list_groups(request)`. The key is handed over as
`LastEvaluatedKey`. -/
def listRecords (request : ListRequest) : Except Exc (ListResult δ) := do
  let lastEvaluatedKey ← startKey json request
  let scanFilter := request.filters.foldl addScanFilter []
  if hasMissingKey scanFilter then throw paramValidationError
  let answer ← scan t.table { lastEvaluatedKey := lastEvaluatedKey }
  return {
    listing := (answer.1.filter fun row => scanFilter.holds (t.item row)).map t.convertFromDb
    paginator := { cursor := answer.2.map (encodeCursor json) } }

/-! ## The loops of the synchronisation -/

/-- The loop `while result.paginator.cursor`, after a result; there is no value when the fuel, the number of
further listings, runs out. -/
def fetchFrom : ℕ → ListResult δ → List δ → Option (Except Exc (List δ))
  | 0, _, _ => none
  | fuel + 1, result, found =>
    if (result.paginator.cursor.getD "") = "" then some (.ok found)
    else
      match SocaPaginator.ofStart result.paginator.cursor >>= fun paginator =>
        listRecords json t { paginator := some paginator } with
      | .error e => some (.error e)
      | .ok next => fetchFrom fuel next (found ++ next.listing)

/-- The common body of `fetch_all_res_identified_users()` and `fetch_all_res_identified_groups()`. -/
def fetchAll (fuel : ℕ) : Option (Except Exc (List δ)) :=
  match listRecords json t { paginator := some {} } with
  | .error e => some (.error e)
  | .ok result => fetchFrom json t fuel result result.listing

end Listing

/-! ## What the loops return -/

section Loops

variable {κ ρ δ : Type} [DecidableEq κ] {json : JsonObjects κ} {t : ListedTable κ ρ δ}

variable (json t) in
/-- A listing without a cursor and without filters is the first page. -/
theorem listRecords_first : listRecords json t { paginator := some {} } = .ok {
    listing := (t.table.page 0).1.map t.convertFromDb
    paginator := { cursor := (t.table.page 0).2.map (encodeCursor json) } } := by
  have hfilter : (t.table.page 0).1.filter (fun row => ScanFilter.holds [] (t.item row)) =
      (t.table.page 0).1 := List.filter_true _
  show Except.ok ({
    listing := ((t.table.page 0).1.filter fun row => ScanFilter.holds [] (t.item row)).map t.convertFromDb
    paginator := { cursor := (t.table.page 0).2.map (encodeCursor json) } } : ListResult δ) = _
  rw [hfilter]

/-- One page is everything. -/
theorem fetchAll_one (h : t.table.count = 1) (fuel : ℕ) :
    fetchAll json t (fuel + 1) = some (.ok (t.table.rows.map t.convertFromDb)) := by
  obtain ⟨items, hitems⟩ : ∃ items, t.table.pages = [items] := List.length_eq_one_iff.mp h
  have hpage : t.table.page 0 = (items, none) := by
    rw [PagedRows.page, if_neg (by omega), hitems]
    rfl
  have hrows : t.table.rows = items := by rw [PagedRows.rows, hitems, List.flatten_singleton]
  rw [fetchAll, listRecords_first, hpage, hrows]
  rfl

/-- With more pages the second request is refused before it is sent: the cursor is no number. -/
theorem fetchAll_more (h : 1 < t.table.count) (fuel : ℕ) : fetchAll json t (fuel + 1) =
    some (.error (.other .valueError "1 validation error for SocaPaginator: start")) := by
  obtain ⟨items, hpage⟩ := first_of_more h
  have hne : encodeCursor json (t.table.lastKey 0) ≠ "" := ne_empty_of_not_isEmpty (isEmpty_encodeCursor json _)
  rw [fetchAll, listRecords_first, hpage]
  dsimp only [Option.map_some]
  rw [fetchFrom]
  dsimp only [Option.getD_some]
  rw [if_neg hne, ofStart_cursor]
  rfl

/-- The loop returns exactly when one page holds everything, and then it returns the records of the rows. -/
theorem fetchAll_ok_iff {listing : List δ} : (∃ fuel, fetchAll json t fuel = some (.ok listing)) ↔
    t.table.count = 1 ∧ listing = t.table.rows.map t.convertFromDb := by
  have hpos := t.table.count_pos
  constructor
  · rintro ⟨fuel, hfetch⟩
    match fuel with
    | 0 =>
      rw [fetchAll, listRecords_first] at hfetch
      cases hfetch
    | fuel + 1 =>
      by_cases hone : t.table.count = 1
      · rw [fetchAll_one hone] at hfetch
        cases hfetch
        exact ⟨hone, rfl⟩
      · rw [fetchAll_more (by omega)] at hfetch
        cases hfetch
  · rintro ⟨hone, rfl⟩
    exact ⟨1, fetchAll_one hone 0⟩

end Loops

/-! ## Users and groups -/

/-- The attributes of a row of the users table. -/
def userAttribute (item : String × UserRow) : Option String → Option AttributeValue
  | some "username" => some (.S item.1)
  | some "email" => some (.S item.2.email)
  | some "uid" => item.2.uid.map fun uid => .N uid
  | some "gid" => item.2.gid.map fun gid => .N gid
  | some "additional_groups" => some (.L item.2.additionalGroups)
  | some "login_shell" => some (.S item.2.loginShell)
  | some "home_dir" => some (.S item.2.homeDir)
  | some "sudo" => some (.BOOL item.2.isSudo)
  | some "enabled" => some (.BOOL item.2.enabled)
  | some "role" => some (.S item.2.role)
  | some "is_active" => some (.BOOL item.2.isActive)
  | _ => none

/-- The attributes of a row of the groups table. -/
def groupAttribute (item : String × GroupRow) : Option String → Option AttributeValue
  | some "group_name" => some (.S item.1)
  | some "title" => item.2.title.map .S
  | some "ds_name" => item.2.dsName.map .S
  | some "gid" => item.2.gid.map fun gid => .N gid
  | some "group_type" => item.2.groupType.map .S
  | some "type" => item.2.type.map .S
  | some "enabled" => some (.BOOL item.2.enabled)
  | some "role" => item.2.role.map .S
  | _ => none

section Instances

variable {κ : Type} [DecidableEq κ] (json : JsonObjects κ) (users : TableSplit κ UserRow)
  (groups : TableSplit κ GroupRow) (db : Db)

/-- The users table of the listings. -/
def usersTable : ListedTable κ (String × UserRow) User :=
  ⟨users.split db.users, userAttribute, fun item => UserDao.convertFromDb item.1 item.2⟩

/-- The groups table of the listings. -/
def groupsTable : ListedTable κ (String × GroupRow) Group :=
  ⟨groups.split db.groups, groupAttribute, fun item => GroupDao.convertFromDb item.1 item.2⟩

def listUsers : ListRequest → Except Exc (ListResult User) := listRecords json (usersTable users db)

def listGroups : ListRequest → Except Exc (ListResult Group) := listRecords json (groupsTable groups db)

def fetchAllResIdentifiedUsers (fuel : ℕ) : Option (Except Exc (List User)) :=
  fetchAll json (usersTable users db) fuel

def fetchAllResIdentifiedGroups (fuel : ℕ) : Option (Except Exc (List Group)) :=
  fetchAll json (groupsTable groups db) fuel

/-- The call returns, with every record exactly once. -/
def FetchesExactly {δ : Type} (fetch : ℕ → Option (Except Exc (List δ))) (records : List δ) : Prop :=
  ∃ fuel listing, fetch fuel = some (.ok listing) ∧ listing.Perm records

theorem fetchesExactly_iff {ρ δ : Type} {t : ListedTable κ ρ δ} {rows : List ρ} (hperm : t.table.rows.Perm rows) :
    FetchesExactly (fetchAll json t) (rows.map t.convertFromDb) ↔ t.table.count = 1 := by
  constructor
  · rintro ⟨fuel, listing, hfetch, -⟩
    exact (fetchAll_ok_iff.mp ⟨fuel, hfetch⟩).1
  · intro hone
    exact ⟨1, _, fetchAll_one hone 0, hperm.map _⟩

/-- **Fetching all records.** The users, and the groups, are all fetched exactly when a scan of the table has
one page. -/
theorem fetch_all_exact_iff : (FetchesExactly (fetchAllResIdentifiedUsers json users db)
      (db.users.scan.map fun item => UserDao.convertFromDb item.1 item.2) ↔ (users.split db.users).count = 1) ∧
    (FetchesExactly (fetchAllResIdentifiedGroups json groups db)
      (db.groups.scan.map fun item => GroupDao.convertFromDb item.1 item.2) ↔ (groups.split db.groups).count = 1) :=
  ⟨fetchesExactly_iff json (t := usersTable users db) (users.perm db.users),
    fetchesExactly_iff json (t := groupsTable groups db) (groups.perm db.groups)⟩

end Instances

/-- Two users. -/
def twoUsers : Db :=
  let user : UserRow := ⟨"", none, none, [], "", "", false, true, userRole, true⟩
  { Db.empty with users := (Db.empty.users.putItem "alice" user).putItem "bob" user }

/-- **The second page.** Users on two pages are not fetched. -/
theorem second_page_not_fetched : ¬ ∀ (json : JsonObjects ℕ) (users : TableSplit ℕ UserRow)
    (groups : TableSplit ℕ GroupRow) (db : Db), FetchesExactly (fetchAllResIdentifiedUsers json users db)
      (db.users.scan.map fun item => UserDao.convertFromDb item.1 item.2) ∧
    FetchesExactly (fetchAllResIdentifiedGroups json groups db)
      (db.groups.scan.map fun item => GroupDao.convertFromDb item.1 item.2) := by
  intro h
  have hboth := (h (JsonObjects.ofEncodable ℕ) (TableSplit.twoPages _) (TableSplit.onePage _) twoUsers).1
  rw [(fetch_all_exact_iff (JsonObjects.ofEncodable ℕ) (TableSplit.twoPages _) (TableSplit.onePage _) twoUsers).1] at hboth
  exact absurd hboth (by decide)

end ContainRes.Accounts
