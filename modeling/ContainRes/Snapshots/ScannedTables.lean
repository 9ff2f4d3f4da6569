import ContainRes.VirtualDesktop.Listing

/-! # The records of the imported tables

`ApplySnapshot.scan_ddb_tables`: the tables of a snapshot that can be applied have been imported under
temporary names, and each is read with one call of `scan_db_records`.

* **`TableName`**, **`tablesToBeImported`** — the tables that are imported.
* **`scanDdbTables`** — the records by table, which the mergers get.
* **`scanned_iff`** — all records of every table are among them exactly when no table goes beyond its first
  page. -/

namespace ContainRes.Snapshots

open Store VirtualDesktop

inductive TableName
  | clusterSettings
  | users
  | projects
  | permissionProfiles
  | softwareStacks
  deriving DecidableEq, Repr

/-- The value of a name. -/
def TableName.value : TableName → String
  | .clusterSettings => "cluster-settings"
  | .users => "accounts.users"
  | .projects => "projects"
  | .permissionProfiles => "vdc.controller.permission-profiles"
  | .softwareStacks => "vdc.controller.software-stacks"

/-- The names in the order of the enumeration. -/
def TableName.all : List TableName :=
  [.clusterSettings, .users, .projects, .permissionProfiles, .softwareStacks]

/-- `get_list_of_tables_to_be_imported`, for the names of the exported tables. -/
def tablesToBeImported (tableExportDescriptions : List String) : List TableName :=
  TableName.all.filter fun table => table.value ∈ tableExportDescriptions

def getTempTableName (clusterName : String) (createdOn : Int) (table : TableName) : String :=
  clusterName ++ ".temp-" ++ table.value ++ "-" ++ toString createdOn

variable {ρ : Type}

/-- What an apply reads its tables with: the tables of the database by name, the attributes of a record, and
how a cursor is decoded. -/
structure ImportedTables (ρ : Type) where
  clusterName : String
  createdOn : Int
  table : String → Paged ρ
  item : ρ → Option String → Option AttributeValue
  decode : String → Except Exc (Option String)

/-- The imported table of a name. -/
def ImportedTables.temp (imported : ImportedTables ρ) (table : TableName) : Paged ρ :=
  imported.table (getTempTableName imported.clusterName imported.createdOn table)

/-- `scan_ddb_tables`: the items of one scan for each table. -/
def scanDdbTables (imported : ImportedTables ρ) (tables : List TableName) :
    Except Exc (List (TableName × List ρ)) :=
  tables.mapM fun table => do
    let items ← scanDbRecords imported.decode (imported.temp table) imported.item {}
    return (table, items)

/-! ## What is returned -/

variable {imported : ImportedTables ρ}

/-- A request without a cursor and without filters reads the first page. -/
theorem scanDbRecords_default (table : TableName) :
    scanDbRecords imported.decode (imported.temp table) imported.item {} = .ok (imported.temp table).first := by
  have hscan : tableScan (imported.temp table) imported.item [] none = .ok (imported.temp table).first := by
    rw [tableScan_eq (fun row => ScanFilter.holds_nil (imported.item row)), if_neg (by decide)]
    exact congrArg Except.ok (List.filter_eq_self.mpr fun _ _ => rfl)
  rw [scanDbRecords_eq]
  exact hscan

theorem scanDdbTables_eq (tables : List TableName) :
    scanDdbTables imported tables = .ok (tables.map fun table => (table, (imported.temp table).first)) := by
  unfold scanDdbTables
  induction tables with
  | nil => rfl
  | cons table tables ih =>
    rw [List.mapM_cons, ih, scanDbRecords_default]
    rfl

/-- The entry of a table. -/
theorem lookup_map_of_mem {α : Type} {tables : List TableName} {f : TableName → α} {table : TableName}
    (h : table ∈ tables) : (tables.map fun table => (table, f table)).lookup table = some (f table) := by
  induction tables with
  | nil => cases h
  | cons other tables ih =>
    rw [List.map_cons, List.lookup_cons]
    by_cases hsame : table = other
    · subst hsame
      simp
    · have hbeq : (table == other) = false := beq_false_of_ne hsame
      rw [hbeq]
      exact ih (List.mem_of_ne_of_mem hsame h)

/-- The first page holds every record once exactly when the others hold none. -/
theorem perm_rows_iff (t : Paged ρ) : t.first.Perm t.rows ↔ t.rest = [] := by
  rw [Paged.rows_eq]
  constructor
  · intro hperm
    have hlength := hperm.length_eq
    rw [List.length_append] at hlength
    exact List.length_eq_zero_iff.mp (by omega)
  · intro hrest
    rw [hrest, List.append_nil]

/-- **The records that reach the mergers.** Every record of each table to be imported is returned exactly once
if and only if none of these tables has a record beyond its first page. -/
theorem scanned_iff (imported : ImportedTables ρ) (tableExportDescriptions : List String) :
    (∃ data, scanDdbTables imported (tablesToBeImported tableExportDescriptions) = .ok data ∧
        ∀ table ∈ tablesToBeImported tableExportDescriptions,
          ∃ records, data.lookup table = some records ∧ records.Perm (imported.temp table).rows) ↔
      ∀ table ∈ tablesToBeImported tableExportDescriptions, (imported.temp table).rest = [] := by
  rw [scanDdbTables_eq]
  constructor
  · rintro ⟨data, hdata, hall⟩ table htable
    obtain rfl := Except.ok.inj hdata
    obtain ⟨records, hrecords, hperm⟩ := hall table htable
    rw [lookup_map_of_mem htable] at hrecords
    obtain rfl := Option.some.inj hrecords
    exact (perm_rows_iff _).mp hperm
  · intro hrest
    refine ⟨_, rfl, fun table htable => ⟨_, lookup_map_of_mem htable, ?_⟩⟩
    exact (perm_rows_iff _).mpr (hrest table htable)

/-- Two projects that were imported, of which a scan returns one at a time. -/
def twoProjects : ImportedTables String where
  clusterName := "res"
  createdOn := 0
  table _ := ⟨[["p1"], ["p2"]], fun _ => []⟩
  item _ _ := none
  decode _ := .ok none

/-- **The tail of a table is lost.** The second project of the snapshot is not returned. -/
theorem second_page_lost : ¬ ∀ (imported : ImportedTables String) (tableExportDescriptions : List String),
      ∃ data, scanDdbTables imported (tablesToBeImported tableExportDescriptions) = .ok data ∧
        ∀ table ∈ tablesToBeImported tableExportDescriptions,
          ∃ records, data.lookup table = some records ∧ records.Perm (imported.temp table).rows := by
  intro h
  obtain ⟨data, hdata, hall⟩ := h twoProjects ["projects"]
  obtain ⟨records, hrecords, hperm⟩ := hall .projects (by decide)
  rw [scanDdbTables_eq] at hdata
  obtain rfl := Except.ok.inj hdata
  obtain rfl : ["p1"] = records := Option.some.inj hrecords
  exact absurd hperm.length_eq (by decide)

end ContainRes.Snapshots
