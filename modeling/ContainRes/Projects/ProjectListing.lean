import ContainRes.Snapshots.Records
import ContainRes.VirtualDesktop.ListingPages

/-! # The pages of the projects listing

`ListProjects` answers one page of a scan of the projects table, with a cursor for the next one.

* **`ProjectItem`** — a row of the table, with its attributes and the project that it is converted to.
* **`listProjects`** — the listing, which has the same body as those of the virtual desktops.
* **`CoversProjects`** — following the cursors gives exactly the projects that match all filters, each once.
* **`coversProjects_iff`** — when it does. -/

namespace ContainRes.Projects.ProjectListing

open Store
open Snapshots (ProjectRow)
open VirtualDesktop VirtualDesktop.ListingPages

/-! ## The table -/

/-- An item of the projects table. -/
structure ProjectItem where
  projectId : String
  row : ProjectRow
  createdOn : Option ℤ
  updatedOn : Option ℤ
  deriving DecidableEq, Repr

/-- A project as it is listed; `δ` are the dates. -/
structure ListedProject (δ : Type) where
  project : Snapshots.Project
  createdOn : δ
  updatedOn : δ

/-- The attributes of an item. The maps, `tags` and `scripts`, are left to `maps`. -/
def projectAttribute (maps : ProjectItem → String → Option AttributeValue) (item : ProjectItem) :
    Option String → Option AttributeValue
  | some "project_id" => some (.S item.projectId)
  | some "name" => item.row.name.map .S
  | some "title" => item.row.title.map .S
  | some "description" => item.row.description.map .S
  | some "ldap_groups" => item.row.ldapGroups.map .L
  | some "users" => item.row.users.map .L
  | some "enabled" => item.row.enabled.map .BOOL
  | some "enable_budgets" => item.row.enableBudgets.map .BOOL
  | some "budget_name" => item.row.budgetName.map .S
  | some "policy_arns" => item.row.policyArns.map .L
  | some "security_groups" => item.row.securityGroups.map .L
  | some "created_on" => item.createdOn.map .N
  | some "updated_on" => item.updatedOn.map .N
  | some key => maps item key
  | none => none

variable {δ κ : Type}

/-- `convert_from_db`, with the two dates; `arrow.get` refuses a number that is out of range. -/
def convertItem (arrowGet : ℤ → Except Exc δ) (item : ProjectItem) : Except Exc (ListedProject δ) := do
  let createdOn ← arrowGet (item.createdOn.getD 0)
  let updatedOn ← arrowGet (item.updatedOn.getD 0)
  return ⟨Snapshots.convertFromDb item.projectId item.row, createdOn, updatedOn⟩

/-- The projects table as its listing sees it. -/
def projectRows (arrowGet : ℤ → Except Exc δ) (maps : ProjectItem → String → Option AttributeValue)
    (projects : PagedRows κ ProjectItem) : ListedRows κ ProjectItem (ListedProject δ) :=
  ⟨projects, projectAttribute maps, convertItem arrowGet⟩

/-! ## The listing -/

structure ListProjectsRequest where
  paginator : Option SocaPaginator := none
  filters : Option (List SocaFilter) := none

def ListProjectsRequest.cursor (request : ListProjectsRequest) : Option String :=
  request.paginator.bind SocaPaginator.cursor

structure ListProjectsResult (δ : Type) where
  listing : List (ListedProject δ)
  paginator : SocaPaginator

variable [DecidableEq κ] (json : JsonObjects κ) (arrowGet : ℤ → Except Exc δ)
  (maps : ProjectItem → String → Option AttributeValue) (projects : PagedRows κ ProjectItem)

def listProjects (request : ListProjectsRequest) : Except Exc (ListProjectsResult δ) := do
  let answer ← listRows json profileConditions (projectRows arrowGet maps projects)
    { filters := request.filters, cursor := request.cursor }
  return { listing := answer.1, paginator := { cursor := answer.2 } }

/-- The request with some filters, and with the cursor of the answer before. -/
def nextRequest (filters : Option (List SocaFilter)) (cursor : Option String) : ListProjectsRequest where
  paginator := cursor.map fun cursor => { cursor := some cursor }
  filters := filters

/-- **Coverage.** The requests with the cursors come to an answer without one, and the listings together are the
projects of exactly the items that match all filters. -/
def CoversProjects (filters : Option (List SocaFilter)) : Prop :=
  ∃ fuel listing matching,
    follow (fun cursor => (listProjects json arrowGet maps projects (nextRequest filters cursor)).map fun result =>
      (result.listing, result.paginator.cursor)) fuel none = some (.ok listing) ∧
    (projects.rows.filter fun item =>
        Asked (filters.getD []) (projectAttribute maps item)).mapM (convertItem arrowGet) =
      .ok matching ∧
    listing.Perm matching

variable (filters : Option (List SocaFilter))

theorem cursor_nextRequest (cursor : Option String) : (nextRequest filters cursor).cursor = cursor := by
  cases cursor <;> rfl

/-- An answer is the page and its cursor. -/
theorem listProjects_nextRequest (cursor : Option String) :
    ((listProjects json arrowGet maps projects (nextRequest filters cursor)).map fun result =>
      (result.listing, result.paginator.cursor)) = listRows json profileConditions (projectRows arrowGet maps projects)
          { filters := filters, cursor := cursor } := by
  unfold listProjects
  rw [cursor_nextRequest]
  show Except.map _ (listRows json profileConditions (projectRows arrowGet maps projects)
    { filters := filters, cursor := cursor } >>= _) = _
  cases listRows json profileConditions (projectRows arrowGet maps projects)
    { filters := filters, cursor := cursor } <;> rfl

theorem coversProjects_iff_covers : CoversProjects json arrowGet maps projects filters ↔
      Covers (listRows json profileConditions (projectRows arrowGet maps projects))
        (projectRows arrowGet maps projects) filters := by
  unfold CoversProjects
  rw [funext fun cursor => listProjects_nextRequest json arrowGet maps projects filters cursor]
  exact Iff.rfl

/-- **The pages of the projects listing** cover what the filters ask for exactly when the table is one page, each
condition that is sent has a key, the items that meet these conditions have projects, and they meet all the
conditions that the filters ask for. -/
theorem coversProjects_iff (filters : Option (List SocaFilter)) : CoversProjects json arrowGet maps projects filters ↔
      OnePage (profileConditions (filters.getD [])) (projectRows arrowGet maps projects) (filters.getD []) :=
  (coversProjects_iff_covers json arrowGet maps projects filters).trans
    (covers_listRows_iff fun _ => holds_profileConditions)

/-! ## Two pages -/

/-- Two projects on a page each. -/
def twoProjects : PagedRows ℕ ProjectItem :=
  ⟨[[⟨"p1", { name := some "one" }, none, none⟩], [⟨"p2", { name := some "two" }, none, none⟩]],
    List.cons_ne_nil _ _, id, Function.injective_id⟩

/-- One project with a title, and the two filters of it on one key. -/
def titledProject : PagedRows ℕ ProjectItem :=
  ⟨[[⟨"p1", { name := some "one", title := some "One project" }, none, none⟩]], List.cons_ne_nil _ _, id,
    Function.injective_id⟩

/-- **Neither is covered**: the second page of a table is refused, and of two conditions on one key the first one is
not sent. -/
theorem pages_not_covered :
    ¬ CoversProjects (JsonObjects.ofEncodable ℕ) (fun n : ℤ => Except.ok n) (fun _ _ => none) twoProjects none ∧
      ¬ CoversProjects (JsonObjects.ofEncodable ℕ) (fun n : ℤ => Except.ok n) (fun _ _ => none) titledProject
        (some [{ key := some "title", like := some "Two" }, { key := some "title", like := some "project" }]) := by
  constructor
  · rw [coversProjects_iff_covers, covers_listRows_iff fun _ => holds_profileConditions]
    exact fun hone => absurd hone.count (by decide)
  · rw [coversProjects_iff_covers, covers_listRows_iff fun _ => holds_profileConditions]
    exact fun hone => absurd (hone.asked _ List.mem_cons_self (by decide)) (by decide)

end ContainRes.Projects.ProjectListing
