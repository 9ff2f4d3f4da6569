import Mathlib.Data.List.GetD
import Mathlib.Data.List.Range

/-! # Rows that are read page by page

Rows that a reader gets in pages. A page is read from the start or after a key, and the answer holds the key
for the page after it, unless the page is the last one.

* **`PagedRows`** — the pages and the keys between them.
* **`PagedRows.read`** — one read; `read_lastKey` says which page a key stands for.
* **`PagedRows.startAfter`** — the start of the reads when each one starts with the key of the one before, and
  the read after the last page starts again.
* **`PagedRows.read_startAfter`** — such reads go round and round; `done_iff` says when one ends a round. -/

namespace ContainRes.Store

universe u

/-- Rows in pages, with a key for the end of each page. -/
structure PagedRows (κ α : Type u) where
  pages : List (List α)
  pages_ne_nil : pages ≠ []
  /-- The key of the last row of a page. -/
  lastKey : ℕ → κ
  lastKey_injective : Function.Injective lastKey

namespace PagedRows

variable {κ α : Type u} (t : PagedRows κ α)

/-- All rows in the order of the pages. -/
def rows : List α := t.pages.flatten

/-- The number of pages. -/
def count : ℕ := t.pages.length

theorem count_pos : 0 < t.count := List.length_pos_iff.mpr t.pages_ne_nil

/-- The answer that holds a page. -/
def page (n : ℕ) : List α × Option κ := (t.pages.getD n [], if n + 1 < t.count then some (t.lastKey n) else none)

variable [DecidableEq κ]

/-- The page that a read with a start key gets. -/
def position : Option κ → ℕ
  | none => 0
  | some key => (((List.range t.count).find? fun n => t.lastKey n = key).map (· + 1)).getD t.count

/-- One read. -/
def read (start : Option κ) : List α × Option κ := t.page (t.position start)

@[simp] theorem read_none : t.read none = t.page 0 := rfl

/-- A key stands for the page after its own. -/
theorem read_lastKey {n : ℕ} (h : n < t.count) : t.read (some (t.lastKey n)) = t.page (n + 1) := by
  have hfound : ((List.range t.count).find? fun m => t.lastKey m = t.lastKey n) = some n := by
    rw [List.find?_range_eq_some]
    refine ⟨decide_eq_true rfl, List.mem_range.mpr h, fun m hm => ?_⟩
    have hne : t.lastKey m ≠ t.lastKey n := fun heq => absurd (t.lastKey_injective heq) (by omega)
    simp [hne]
  rw [read, position, hfound]
  rfl

/-! ## Reads one after another -/

/-- The start of a read, when each one starts with the key that the one before it answered. -/
def startAfter : ℕ → Option κ
  | 0 => none
  | k + 1 => (t.read (startAfter k)).2

/-- The reads get the pages in order and begin again after the last one. -/
theorem read_startAfter (k : ℕ) : t.read (t.startAfter k) = t.page (k % t.count) := by
  have hpos := t.count_pos
  induction k with
  | zero => rw [startAfter, read_none, Nat.zero_mod]
  | succ k ih =>
    have hlt : k % t.count < t.count := Nat.mod_lt _ hpos
    have hdiv := Nat.div_add_mod k t.count
    rw [startAfter, ih, page]
    by_cases hlast : k % t.count + 1 < t.count
    · have hmod : (k + 1) % t.count = k % t.count + 1 := by
        rw [Nat.add_mod, Nat.mod_eq_of_lt (a := 1) (by omega), Nat.mod_eq_of_lt hlast]
      rw [if_pos hlast, t.read_lastKey hlt, hmod]
    · have hend : k % t.count + 1 = t.count := by omega
      have hmod : (k + 1) % t.count = 0 := by
        rw [← Nat.mod_add_mod, hend, Nat.mod_self]
      rw [if_neg hlast, read_none, hmod]

/-- A read answers no key exactly when it ends a round. -/
theorem done_iff (k : ℕ) : (t.read (t.startAfter k)).2 = none ↔ t.count ∣ k + 1 := by
  have hpos := t.count_pos
  have hlt : k % t.count < t.count := Nat.mod_lt _ hpos
  rw [read_startAfter, page, Nat.dvd_iff_mod_eq_zero, ← Nat.mod_add_mod]
  by_cases hlast : k % t.count + 1 < t.count
  · rw [if_pos hlast, Nat.mod_eq_of_lt hlast]
    simp
  · have hend : k % t.count + 1 = t.count := by omega
    rw [if_neg hlast, hend, Nat.mod_self]
    exact ⟨fun _ => rfl, fun _ => rfl⟩

/-- The first round gets every row. -/
theorem mem_rows_iff {a : α} : a ∈ t.rows ↔ ∃ k, k < t.count ∧ a ∈ (t.read (t.startAfter k)).1 := by
  rw [rows, List.mem_flatten]
  constructor
  · rintro ⟨page, hpage, ha⟩
    obtain ⟨k, hk, rfl⟩ := List.mem_iff_getElem.mp hpage
    refine ⟨k, hk, ?_⟩
    rw [read_startAfter, Nat.mod_eq_of_lt (show k < t.count from hk)]
    show a ∈ t.pages.getD k []
    rwa [List.getD_eq_getElem _ _ hk]
  · rintro ⟨k, hk, ha⟩
    rw [read_startAfter, Nat.mod_eq_of_lt hk] at ha
    have hmem : a ∈ t.pages.getD k [] := ha
    have hk : k < t.pages.length := hk
    rw [List.getD_eq_getElem _ _ hk] at hmem
    exact ⟨t.pages[k], List.getElem_mem hk, hmem⟩

end PagedRows

end ContainRes.Store
