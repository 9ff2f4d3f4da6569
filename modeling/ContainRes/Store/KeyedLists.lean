import Mathlib.Data.List.Perm.Basic

/-! # Items that are looked up by a key

A list of items, each with a key and a name. A lookup gives for a key the name of one of the items with the key.
Two items with one key may have different names; the names decide the keys.

* **`Lookup`** — the lookup.
* **`Lookup.map_perm_iff`** — when the names that are looked up for a list of keys are those of the items.
* **`Lookup.disjoint_map_iff`** — when the names that are looked up for two lists of keys are different. -/

namespace ContainRes.Store

variable {α ι ν : Type}

/-- `name` is looked up among items, and a name stands for one key. -/
structure Lookup (items : List α) (key : α → ι) (nameOf : α → ν) (name : ι → ν) : Prop where
  found : ∀ a ∈ items, ∃ a' ∈ items, key a' = key a ∧ name (key a) = nameOf a'
  key_eq : ∀ a ∈ items, ∀ a' ∈ items, nameOf a = nameOf a' → key a = key a'

namespace Lookup

variable {items : List α} {key : α → ι} {nameOf : α → ν} {name : ι → ν}

/-- The key of a name. -/
theorem exists_keyOf (h : Lookup items key nameOf name) (hne : items ≠ []) :
    ∃ keyOf : ν → ι, ∀ a ∈ items, keyOf (nameOf a) = key a := by
  classical
  obtain ⟨first, hfirst⟩ := List.exists_mem_of_ne_nil items hne
  refine ⟨fun n => if hn : ∃ a ∈ items, nameOf a = n then key hn.choose else key first, fun a ha => ?_⟩
  have hn : ∃ a' ∈ items, nameOf a' = nameOf a := ⟨a, ha, rfl⟩
  dsimp only
  rw [dif_pos hn]
  exact h.key_eq _ hn.choose_spec.1 _ ha hn.choose_spec.2

theorem keyOf_name (h : Lookup items key nameOf name) {keyOf : ν → ι}
    (hkey : ∀ a ∈ items, keyOf (nameOf a) = key a) {id : ι} (hid : id ∈ items.map key) : keyOf (name id) = id := by
  obtain ⟨a, ha, rfl⟩ := List.mem_map.mp hid
  obtain ⟨a', ha', hsame, hname⟩ := h.found a ha
  rw [hname, hkey a' ha', hsame]

/-- The names that are looked up are those of the items when one key has one name, and the keys are those of the
items. -/
theorem map_perm_iff (h : Lookup items key nameOf name) {ids : List ι} (hids : ∀ id ∈ ids, id ∈ items.map key) :
    (ids.map name).Perm (items.map nameOf) ↔
      (∀ a ∈ items, ∀ a' ∈ items, key a = key a' → nameOf a = nameOf a') ∧ ids.Perm (items.map key) := by
  by_cases hne : items = []
  · subst hne
    simp
  obtain ⟨keyOf, hkey⟩ := h.exists_keyOf hne
  constructor
  · intro hperm
    have hname : ∀ a ∈ items, name (key a) = nameOf a := by
      intro a ha
      obtain ⟨id, hid, heq⟩ := List.mem_map.mp (hperm.mem_iff.mpr (List.mem_map_of_mem ha))
      rw [← hkey a ha, ← heq, h.keyOf_name hkey (hids id hid)]
    refine ⟨fun a ha a' ha' hsame => ?_, ?_⟩
    · rw [← hname a ha, ← hname a' ha', hsame]
    · have hids' : (ids.map name).map keyOf = ids := by
        rw [List.map_map]
        exact (List.map_congr_left fun k hk => h.keyOf_name hkey (hids k hk)).trans (List.map_id ids)
      have hitems : (items.map nameOf).map keyOf = items.map key := by
        rw [List.map_map]
        exact List.map_congr_left hkey
      have hmapped := hperm.map keyOf
      rwa [hids', hitems] at hmapped
  · rintro ⟨hone, hperm⟩
    refine (hperm.map name).trans (List.Perm.of_eq ?_)
    rw [List.map_map]
    refine List.map_congr_left fun a ha => ?_
    obtain ⟨a', ha', hsame, hname⟩ := h.found a ha
    exact hname.trans (hone a' ha' a ha hsame)

/-- The names of different keys are different. -/
theorem disjoint_map_iff (h : Lookup items key nameOf name) {ids ids' : List ι}
    (hids : ∀ id ∈ ids, id ∈ items.map key) (hids' : ∀ id ∈ ids', id ∈ items.map key) :
    (ids.map name).Disjoint (ids'.map name) ↔ ids.Disjoint ids' := by
  by_cases hne : items = []
  · subst hne
    have hnil : ids = [] := List.eq_nil_iff_forall_not_mem.mpr fun id hid => by simpa using hids id hid
    simp [hnil]
  obtain ⟨keyOf, hkey⟩ := h.exists_keyOf hne
  constructor
  · intro hdisjoint id hid hid'
    exact hdisjoint (List.mem_map_of_mem hid) (List.mem_map_of_mem hid')
  · intro hdisjoint n hn hn'
    obtain ⟨id, hid, rfl⟩ := List.mem_map.mp hn
    obtain ⟨id', hid', heq⟩ := List.mem_map.mp hn'
    have hsame : id' = id := by
      rw [← h.keyOf_name hkey (hids' id' hid'), heq, h.keyOf_name hkey (hids id hid)]
    exact hdisjoint hid (hsame ▸ hid')

end Lookup

end ContainRes.Store
