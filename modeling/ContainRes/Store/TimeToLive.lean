import ContainRes.Store.Table

/-! # Items with a time to live

A table may be told which attribute of an item is its time to live: an item is removed once the time, in seconds,
exceeds it.

* **`Table.unexpired`** — the table at a time in milliseconds.
* **`getItem_unexpired`** — an item is there as long as the seconds do not exceed its time to live. -/

namespace ContainRes.Store

universe u v

variable {κ : Type u} {ν : Type v} [DecidableEq κ]

/-- The items that are left at a time in milliseconds. -/
def Table.unexpired (now : ℕ) (ttl : ν → ℕ) (t : Table κ ν) : Table κ ν :=
  t.filterMapItems fun _ item => if ttl item < now / 1000 then none else some item

/-- **An item is left** as long as the seconds do not exceed its time to live. -/
theorem Table.getItem_unexpired {now : ℕ} {ttl : ν → ℕ} {t : Table κ ν} {key : κ} {item : ν} :
    (t.unexpired now ttl).getItem key = some item ↔ t.getItem key = some item ∧ now / 1000 ≤ ttl item := by
  unfold unexpired
  rw [getItem_filterMapItems, Option.bind_eq_some_iff]
  constructor
  · rintro ⟨item', hitem, hleft⟩
    by_cases h : ttl item' < now / 1000
    · rw [if_pos h] at hleft
      exact nomatch hleft
    · rw [if_neg h] at hleft
      rw [← Option.some.inj hleft]
      exact ⟨hitem, Nat.le_of_not_lt h⟩
  · rintro ⟨hitem, hle⟩
    exact ⟨item, hitem, if_neg (Nat.not_lt.mpr hle)⟩

end ContainRes.Store
