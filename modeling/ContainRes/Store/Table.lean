import Mathlib.Data.List.AList

/-! # Keyed tables

A table holds at most one item under each key. It is an association list without repeated keys, so
that a table with two items under one key cannot be built; the operations are those of a key-value
store, and `getItem` after each of them is a simp equation.

* `Table.getItem`, `Table.putItem`, `Table.deleteItem`, `Table.updateItem` — by primary key.
* `Table.filterMapItems` — change or drop every item.
* `Table.scan`, `Table.queryKeys` — all items, and the keys that satisfy a condition.
* `Table.Has t k` — the table holds an item under `k`. -/

namespace ContainRes.Store

universe u v

variable {κ : Type u} {ν : Type v}

/-- A table: items of type `ν` under keys of type `κ`, one for a key. -/
structure Table (κ : Type u) (ν : Type v) where
  /-- The items with their keys, no key twice. -/
  items : AList fun _ : κ => ν

namespace Table

/-- The empty table. -/
def empty : Table κ ν := ⟨∅⟩

instance : EmptyCollection (Table κ ν) := ⟨empty⟩

/-- All items with their keys. -/
def scan (t : Table κ ν) : List (κ × ν) := t.items.entries.map fun e => (e.1, e.2)

/-- The keys of the items whose key satisfies `p`. -/
def queryKeys (t : Table κ ν) (p : κ → Bool) : List κ := t.items.keys.filter p

/-- Change an entry, or drop it. -/
def changedEntry (f : κ → ν → Option ν) (e : Sigma fun _ : κ => ν) : Option (Sigma fun _ : κ => ν) :=
  (f e.1 e.2).map fun v => ⟨e.1, v⟩

theorem keys_changedEntries (f : κ → ν → Option ν) (l : List (Sigma fun _ : κ => ν)) :
    (l.filterMap (changedEntry f)).keys.Sublist l.keys := by
  induction l with
  | nil => exact List.Sublist.slnil
  | cons e l ih =>
    rw [List.filterMap_cons, changedEntry]
    cases hf : f e.1 e.2 with
    | none => exact ih.cons e.1
    | some v => exact ih.cons_cons e.1

/-- Change every item, or drop it. -/
def filterMapItems (t : Table κ ν) (f : κ → ν → Option ν) : Table κ ν where
  items :=
    { entries := t.items.entries.filterMap (changedEntry f)
      nodupKeys := (keys_changedEntries f t.items.entries).nodup t.items.nodupKeys }

variable [DecidableEq κ]

/-- The item under a key, if there is one. -/
def getItem (t : Table κ ν) (k : κ) : Option ν := t.items.lookup k

/-- Put an item under a key, in the place of the one that was there. -/
def putItem (t : Table κ ν) (k : κ) (v : ν) : Table κ ν := ⟨t.items.insert k v⟩

/-- Delete the item under a key; without one, nothing changes. -/
def deleteItem (t : Table κ ν) (k : κ) : Table κ ν := ⟨t.items.erase k⟩

/-- Change the item under a key; without one, nothing changes. -/
def updateItem (t : Table κ ν) (k : κ) (f : ν → ν) : Table κ ν :=
  match t.getItem k with
  | some v => t.putItem k (f v)
  | none => t

/-- Put several items, one after the other. -/
def putItems (t : Table κ ν) (items : List (κ × ν)) : Table κ ν :=
  items.foldl (fun t item => t.putItem item.1 item.2) t

/-- Delete the items under several keys. -/
def deleteItems (t : Table κ ν) (keys : List κ) : Table κ ν := keys.foldl deleteItem t

/-- The table holds an item under the key. -/
def Has (t : Table κ ν) (k : κ) : Prop := (t.getItem k).isSome

instance (t : Table κ ν) (k : κ) : Decidable (t.Has k) :=
  inferInstanceAs (Decidable ((t.getItem k).isSome = true))

variable {t : Table κ ν} {k : κ}

theorem has_iff : t.Has k ↔ ∃ v, t.getItem k = some v :=
  Option.isSome_iff_exists

theorem not_has_iff : ¬ t.Has k ↔ t.getItem k = none := by
  rw [Has, Bool.not_eq_true, Option.isSome_eq_false_iff, Option.isNone_iff_eq_none]

variable {v : ν}

theorem Has.of_getItem (h : t.getItem k = some v) : t.Has k :=
  has_iff.mpr ⟨v, h⟩

@[simp] theorem getItem_empty (k : κ) : (∅ : Table κ ν).getItem k = none :=
  AList.lookup_empty k

@[simp] theorem not_has_empty (k : κ) : ¬ (∅ : Table κ ν).Has k :=
  not_has_iff.mpr (getItem_empty k)

/-! ## What each operation leaves under each key -/

@[simp] theorem getItem_putItem_self (t : Table κ ν) (k : κ) (v : ν) : (t.putItem k v).getItem k = some v :=
  AList.lookup_insert t.items

variable {k k' : κ}

@[simp] theorem getItem_putItem_of_ne (t : Table κ ν) (v : ν) (h : k' ≠ k) :
    (t.putItem k v).getItem k' = t.getItem k' :=
  AList.lookup_insert_ne h

theorem getItem_putItem (t : Table κ ν) (k k' : κ) (v : ν) :
    (t.putItem k v).getItem k' = if k' = k then some v else t.getItem k' := by
  by_cases h : k' = k
  · rw [if_pos h, h, getItem_putItem_self]
  · rw [if_neg h, getItem_putItem_of_ne t v h]

@[simp] theorem getItem_deleteItem_self (t : Table κ ν) (k : κ) : (t.deleteItem k).getItem k = none :=
  AList.lookup_erase k t.items

@[simp] theorem getItem_deleteItem_of_ne (t : Table κ ν) (h : k' ≠ k) : (t.deleteItem k).getItem k' = t.getItem k' :=
  AList.lookup_erase_ne h

theorem getItem_deleteItem (t : Table κ ν) (k k' : κ) :
    (t.deleteItem k).getItem k' = if k' = k then none else t.getItem k' := by
  by_cases h : k' = k
  · rw [if_pos h, h, getItem_deleteItem_self]
  · rw [if_neg h, getItem_deleteItem_of_ne t h]

theorem getItem_updateItem (t : Table κ ν) (k k' : κ) (f : ν → ν) :
    (t.updateItem k f).getItem k' = if k' = k then (t.getItem k).map f else t.getItem k' := by
  unfold updateItem
  by_cases h : k' = k
  · subst h
    cases hk : t.getItem k' with
    | none => simp [hk]
    | some v => simp
  · cases hk : t.getItem k with
    | none => simp [h]
    | some v => simp [h]

theorem dlookup_changedEntries (f : κ → ν → Option ν) (k : κ) {l : List (Sigma fun _ : κ => ν)} (hnodup : l.NodupKeys) :
    (l.filterMap (changedEntry f)).dlookup k = (l.dlookup k : Option ν).bind (f k) := by
  induction l with
  | nil => rfl
  | cons e l ih =>
    obtain ⟨key, value⟩ := e
    obtain ⟨hnot, hnodup⟩ := List.nodupKeys_cons.mp hnodup
    have hrest := ih hnodup
    rw [List.filterMap_cons, changedEntry]
    by_cases hkey : k = key
    · subst hkey
      have hself : ∀ (v : ν) (rest : List (Sigma fun _ : κ => ν)),
          ((⟨k, v⟩ :: rest).dlookup k : Option ν) = some v := fun v rest => List.dlookup_cons_eq rest k v
      rw [hself, Option.bind_some]
      cases hf : f k value with
      | none =>
        -- the key is not in the rest
        rw [List.dlookup_eq_none.mpr hnot] at hrest
        simp only [Option.map_none]
        exact hrest
      | some v =>
        simp only [Option.map_some]
        exact hself v _
    · have hother : ∀ (v : ν) (rest : List (Sigma fun _ : κ => ν)),
          ((⟨key, v⟩ :: rest).dlookup k : Option ν) = rest.dlookup k :=
        fun v rest => List.dlookup_cons_ne rest ⟨key, v⟩ hkey
      rw [hother, ← hrest]
      cases hf : f key value with
      | none => simp only [Option.map_none]
      | some v =>
        simp only [Option.map_some]
        exact hother v _

@[simp] theorem getItem_filterMapItems (t : Table κ ν) (f : κ → ν → Option ν) (k : κ) :
    (t.filterMapItems f).getItem k = (t.getItem k).bind (f k) :=
  dlookup_changedEntries f k t.items.nodupKeys

@[simp] theorem has_putItem : (t.putItem k v).Has k' ↔ k' = k ∨ t.Has k' := by
  rw [Has, getItem_putItem]
  by_cases h : k' = k <;> simp [h, Has]

@[simp] theorem has_deleteItem : (t.deleteItem k).Has k' ↔ k' ≠ k ∧ t.Has k' := by
  rw [Has, getItem_deleteItem]
  by_cases h : k' = k <;> simp [h, Has]

@[simp] theorem has_updateItem {f : ν → ν} : (t.updateItem k f).Has k' ↔ t.Has k' := by
  rw [Has, getItem_updateItem]
  by_cases h : k' = k <;> simp [h, Has]

theorem getItem_putItems_of_not_mem {items : List (κ × ν)}
    (h : k ∉ items.map Prod.fst) : (t.putItems items).getItem k = t.getItem k := by
  unfold putItems
  induction items generalizing t with
  | nil => rfl
  | cons item items ih =>
    rw [List.map_cons, List.mem_cons, not_or] at h
    rw [List.foldl_cons, ih h.2, getItem_putItem_of_ne _ _ h.1]

theorem getItem_putItems_of_mem {items : List (κ × ν)}
    (hnodup : (items.map Prod.fst).Nodup) (h : (k, v) ∈ items) : (t.putItems items).getItem k = some v := by
  unfold putItems
  induction items generalizing t with
  | nil => cases h
  | cons item items ih =>
    rw [List.map_cons, List.nodup_cons] at hnodup
    rw [List.foldl_cons]
    rcases List.mem_cons.mp h with rfl | hlater
    · have hlast := getItem_putItems_of_not_mem (t := t.putItem k v) hnodup.1
      rw [getItem_putItem_self] at hlast
      exact hlast
    · exact ih hnodup.2 hlater

theorem getItem_deleteItems (t : Table κ ν) (keys : List κ) (k : κ) :
    (t.deleteItems keys).getItem k = if k ∈ keys then none else t.getItem k := by
  unfold deleteItems
  induction keys generalizing t with
  | nil => simp
  | cons key keys ih =>
    rw [List.foldl_cons, ih, getItem_deleteItem]
    by_cases hlater : k ∈ keys
    · simp [hlater]
    · by_cases hkey : k = key <;> simp [hlater, hkey]

theorem getItem_of_deleteItems {keys : List κ}
    (h : (t.deleteItems keys).getItem k = some v) : k ∉ keys ∧ t.getItem k = some v := by
  rw [getItem_deleteItems] at h
  split at h
  · exact absurd h (by simp)
  · rename_i hnot
    exact ⟨hnot, h⟩

/-! ## Queries -/

omit [DecidableEq κ] in
theorem nodup_scan_keys (t : Table κ ν) : (t.scan.map Prod.fst).Nodup := by
  have hkeys : t.scan.map Prod.fst = t.items.keys := by
    simp only [scan, List.map_map, AList.keys, List.keys]
    rfl
  rw [hkeys]
  exact t.items.keys_nodup

omit [DecidableEq κ] in
theorem scan_keys (t : Table κ ν) : t.scan.map Prod.fst = t.items.keys := by
  simp only [scan, List.map_map, AList.keys, List.keys]
  rfl

theorem mem_keys_iff_has : k ∈ t.items.keys ↔ t.Has k := by
  rw [← AList.mem_keys, Has, getItem, AList.lookup_isSome]

@[simp] theorem mem_queryKeys {p : κ → Bool} : k ∈ t.queryKeys p ↔ t.Has k ∧ p k := by
  rw [queryKeys, List.mem_filter, mem_keys_iff_has]

/-- A put adds at most one key that meets a condition. -/
theorem length_queryKeys_putItem_le (t : Table κ ν) (k : κ) (v : ν) (p : κ → Bool) :
    ((t.putItem k v).queryKeys p).length ≤ (t.queryKeys p).length + 1 := by
  have hkeys : (t.putItem k v).items.keys = k :: t.items.keys.erase k := AList.keys_insert t.items
  have hsub : ((t.items.keys.erase k).filter p).length ≤ (t.items.keys.filter p).length :=
    (List.erase_sublist.filter p).length_le
  rw [queryKeys, hkeys, List.filter_cons]
  split
  · rw [List.length_cons]
    exact Nat.succ_le_succ hsub
  · exact Nat.le_succ_of_le hsub

theorem mem_scan : (k, v) ∈ t.scan ↔ t.getItem k = some v := by
  rw [scan, List.mem_map, getItem, ← Option.mem_def, AList.mem_lookup_iff]
  constructor
  · rintro ⟨⟨k', v'⟩, hmem, heq⟩
    cases heq
    exact hmem
  · intro h
    exact ⟨⟨k, v⟩, h, rfl⟩

end Table

end ContainRes.Store
