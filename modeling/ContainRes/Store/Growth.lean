import ContainRes.Store.Table
import ContainRes.Text.Python

/-! # Tables that only grow

A table **grows** into another when every item of it is still there as it was and the items beside them are
under new keys.

* **`Grows`** — the relation, with the list of the new keys.
* **`Grows.refl`**, **`Grows.trans`**, **`Grows.putItem`** — it composes, and a put under a new key is one
  step of it.
* **`Grows.updateItem`** — the new items may change.
* **`AddsOne`** — one step: a new item with a property.
* **`IdSource`** — where new ids come from. -/

namespace ContainRes.Store

open Text

universe u v

variable {κ : Type u} {ν : Type v} [DecidableEq κ]

/-- `t` holds the items of `s`, and beside them one under each of the keys, which are all new. -/
structure Grows (s : Table κ ν) (keys : List κ) (t : Table κ ν) : Prop where
  kept : ∀ k v, s.getItem k = some v → t.getItem k = some v
  fresh : ∀ k ∈ keys, ¬ s.Has k
  nodup : keys.Nodup
  has : ∀ k, t.Has k ↔ s.Has k ∨ k ∈ keys

namespace Grows

variable {s t r : Table κ ν} {keys later : List κ} {k : κ}

theorem refl (s : Table κ ν) : Grows s [] s where
  kept _ _ h := h
  fresh _ h := absurd h List.not_mem_nil
  nodup := List.nodup_nil
  has _ := by simp

/-- A put under a new key. -/
theorem putItem (h : ¬ s.Has k) (v : ν) : Grows s [k] (s.putItem k v) where
  kept k' v' hk' := by
    have hne : k' ≠ k := by
      rintro rfl
      exact h (Table.Has.of_getItem hk')
    rw [Table.getItem_putItem_of_ne s v hne]
    exact hk'
  fresh k' hk' := by
    rw [List.mem_singleton.mp hk']
    exact h
  nodup := List.nodup_singleton k
  has k' := by
    rw [Table.has_putItem, List.mem_singleton, or_comm]

theorem trans (h : Grows s keys t) (h' : Grows t later r) : Grows s (keys ++ later) r where
  kept k v hk := h'.kept k v (h.kept k v hk)
  fresh k hk := by
    rcases List.mem_append.mp hk with hk | hk
    · exact h.fresh k hk
    · intro hs
      exact h'.fresh k hk ((h.has k).mpr (.inl hs))
  nodup := by
    refine h.nodup.append h'.nodup fun k hk hk' => ?_
    exact h'.fresh k hk' ((h.has k).mpr (.inr hk))
  has k := by
    rw [h'.has, h.has, List.mem_append, or_assoc]

theorem updateItem (h : Grows s keys t) (hk : k ∈ keys) (f : ν → ν) : Grows s keys (t.updateItem k f) where
  kept k' v hk' := by
    have hne : k' ≠ k := by
      rintro rfl
      exact h.fresh k' hk (Table.Has.of_getItem hk')
    rw [Table.getItem_updateItem, if_neg hne]
    exact h.kept k' v hk'
  fresh := h.fresh
  nodup := h.nodup
  has k' := by
    rw [Table.has_updateItem]
    exact h.has k'

/-- A key of the larger table that the smaller does not have is one of the new ones. -/
theorem mem_of_has (h : Grows s keys t) (ht : t.Has k) (hs : ¬ s.Has k) : k ∈ keys :=
  ((h.has k).mp ht).resolve_left hs

end Grows

/-- `t` holds the items of `s`, and beside them one, under a new key, that meets `P`. -/
structure AddsOne (s : Table κ ν) (k : κ) (P : ν → Prop) (t : Table κ ν) : Prop where
  grows : Grows s [k] t
  item : ∃ v, t.getItem k = some v ∧ P v

namespace AddsOne

variable {s t : Table κ ν} {k : κ} {P : ν → Prop}

theorem putItem (h : ¬ s.Has k) {v : ν} (hP : P v) : AddsOne s k P (s.putItem k v) :=
  ⟨Grows.putItem h v, v, Table.getItem_putItem_self s k v, hP⟩

theorem updateItem (h : AddsOne s k P t) {f : ν → ν} (hf : ∀ v, P v → P (f v)) : AddsOne s k P (t.updateItem k f) := by
  obtain ⟨v, hv, hP⟩ := h.item
  refine ⟨h.grows.updateItem (List.mem_singleton.mpr rfl) f, f v, ?_, hf v hP⟩
  rw [Table.getItem_updateItem, if_pos rfl, hv]
  rfl

end AddsOne

/-! ## New ids -/

/-- Ids that nothing has yet, without white space. -/
structure IdSource where
  /-- An id that none of those in use is. -/
  next : List String → String
  next_not_mem : ∀ used, next used ∉ used
  noSpace : ∀ used, ∀ c ∈ (next used).toList, isSpace c = false
  next_ne : ∀ used, next used ≠ ""

namespace IdSource

variable (ids : IdSource) (used : List String)

@[simp] theorem strip_next : strip (ids.next used) = ids.next used := by
  rw [strip, stripList_of_noSpace (ids.noSpace used), String.ofList_toList]

@[simp] theorem isEmpty_next : isEmpty (ids.next used) = false := by
  rw [isEmpty, stripList_of_noSpace (ids.noSpace used), List.isEmpty_eq_false_iff]
  intro h
  apply ids.next_ne used
  apply String.toList_injective
  exact h

@[simp] theorem getAsString_next : getAsString (some (ids.next used)) = some (ids.next used) := by
  rw [getAsString_of_nonblank (ids.isEmpty_next used), ids.strip_next]

/-- A letter repeated more often than any id in use is long. -/
def longest : IdSource where
  next used := String.ofList (List.replicate ((used.map String.length).max?.getD 0 + 1) 'u')
  next_not_mem used h := by
    have hle := List.le_max?_getD_of_mem (k := 0) (List.mem_map_of_mem (f := String.length) h)
    rw [String.length_ofList, List.length_replicate] at hle
    omega
  noSpace used c hc := by
    rw [String.toList_ofList] at hc
    rw [(List.mem_replicate.mp hc).2]
    rfl
  next_ne used h := by
    have hlength := congrArg String.length h
    rw [String.length_ofList, List.length_replicate] at hlength
    exact Nat.succ_ne_zero _ hlength

end IdSource

end ContainRes.Store
