import ContainRes.Common.Exceptions
import ContainRes.Store.PagedScan
import ContainRes.Store.Table

/-! # Scans of a table

`table.scan(...)` with the arguments that the code hands over, and the loop that several methods have around
it: the key of an answer goes into the arguments of the next scan.

* **`TableSplit`** — how scans cut a table into pages.
* **`ScanArguments`** — the keys among the arguments; `scan` has no parameter `LastEvaluatedKey`.
* **`scan`** — one scan.
* **`scanLoop`** — the loop of the methods that hand the key over as `LastEvaluatedKey`; it comes to an end in
  at most two scans, and **`scanLoop_ok_iff`** says when with a result. -/

namespace ContainRes

open Store

universe u

/-! ## Pages of a table -/

/-- How scans cut a table into pages. -/
structure TableSplit (κ ν : Type) where
  split : Table String ν → PagedRows κ (String × ν)
  perm : ∀ t, (split t).rows.Perm t.scan

/-- Everything on one page. -/
def TableSplit.onePage (ν : Type) : TableSplit ℕ ν where
  split t := ⟨[t.scan], List.cons_ne_nil _ _, id, Function.injective_id⟩
  perm t := by rw [PagedRows.rows, List.flatten_singleton]

/-- One row on the first page, and the others on a second one. -/
def TableSplit.twoPages (ν : Type) : TableSplit ℕ ν where
  split t := ⟨[t.scan.take 1, t.scan.drop 1], List.cons_ne_nil _ _, id, Function.injective_id⟩
  perm t := by
    rw [PagedRows.rows, List.flatten_cons, List.flatten_singleton, List.take_append_drop]

/-! ## The scan and the loop around it -/

/-- The keys that a call of `scan` hands over. -/
structure ScanArguments (κ : Type u) where
  exclusiveStartKey : Option κ := none
  lastEvaluatedKey : Option κ := none

/-- The exception of the client library for a parameter that it does not know. -/
def unknownParameter : Exc := .other .clientError "Parameter validation failed: Unknown parameter in input"

variable {κ α β : Type} [DecidableEq κ]

/-- `table.scan(...)`: the items of a page, and the key for the next one if there is one. -/
def scan (table : PagedRows κ α) (arguments : ScanArguments κ) : Except Exc (List α × Option κ) :=
  if arguments.lastEvaluatedKey.isSome then .error unknownParameter
  else .ok (table.read arguments.exclusiveStartKey)

@[simp] theorem scan_first (table : PagedRows κ α) : scan table {} = .ok (table.page 0) := rfl

theorem scan_lastEvaluatedKey (table : PagedRows κ α) (key : κ) :
    scan table { lastEvaluatedKey := some key } = .error unknownParameter := rfl

/-- The loop around the scans, from the key of the last answer on: what it keeps of the items is collected.
There is no result when the fuel, the number of scans, runs out. -/
def scanLoop (table : PagedRows κ α) (keep : α → Option β) :
    ℕ → Option κ → List β → Option (Except Exc (List β))
  | 0, _, _ => none
  | fuel + 1, lastEvaluatedKey, found =>
    match scan table { lastEvaluatedKey := lastEvaluatedKey } with
    | .error e => some (.error e)
    | .ok (items, none) => some (.ok (found ++ items.filterMap keep))
    | .ok (items, some key) => scanLoop table keep fuel (some key) (found ++ items.filterMap keep)

section Loop

variable {table : PagedRows κ α} {keep : α → Option β}

/-- One page is read by one scan. -/
theorem scanLoop_one (h : table.count = 1) (fuel : ℕ) :
    scanLoop table keep (fuel + 1) none [] = some (.ok (table.rows.filterMap keep)) := by
  obtain ⟨items, hitems⟩ : ∃ items, table.pages = [items] := List.length_eq_one_iff.mp h
  have hpage : table.page 0 = (items, none) := by
    rw [PagedRows.page, if_neg (by omega), hitems]
    rfl
  have hrows : table.rows = items := by rw [PagedRows.rows, hitems, List.flatten_singleton]
  rw [scanLoop, scan_first, hpage, hrows]
  rfl

omit [DecidableEq κ] in
theorem first_of_more (h : 1 < table.count) : ∃ items, table.page 0 = (items, some (table.lastKey 0)) :=
  ⟨_, Prod.ext rfl (if_pos h)⟩

theorem scanLoop_more (h : 1 < table.count) (fuel : ℕ) :
    scanLoop table keep (fuel + 2) none [] = some (.error unknownParameter) := by
  obtain ⟨items, hpage⟩ := first_of_more h
  rw [scanLoop, scan_first, hpage]
  dsimp only
  rw [scanLoop, scan_lastEvaluatedKey]

theorem scanLoop_more_ne_ok (h : 1 < table.count) (fuel : ℕ) (found : List β) :
    scanLoop table keep fuel none [] ≠ some (.ok found) := by
  match fuel with
  | 0 => exact nofun
  | 1 =>
    obtain ⟨items, hpage⟩ := first_of_more h
    rw [scanLoop, scan_first, hpage]
    exact nofun
  | fuel + 2 =>
    rw [scanLoop_more h]
    exact nofun

/-- The loop has a result exactly when one page holds everything. -/
theorem scanLoop_ok_iff {found : List β} : (∃ fuel, scanLoop table keep fuel none [] = some (.ok found)) ↔
    table.count = 1 ∧ found = table.rows.filterMap keep := by
  have hpos := table.count_pos
  constructor
  · rintro ⟨fuel, hfuel⟩
    have hone : table.count = 1 := by
      by_contra hne
      exact scanLoop_more_ne_ok (by omega) fuel found hfuel
    refine ⟨hone, ?_⟩
    cases fuel with
    | zero => cases hfuel
    | succ fuel =>
      rw [scanLoop_one hone] at hfuel
      cases hfuel
      rfl
  · rintro ⟨hone, rfl⟩
    exact ⟨1, scanLoop_one hone 0⟩

end Loop

end ContainRes
