import ContainRes.Effects.Proc

/-! # Dictionaries in insertion order, and walks over their keys

A dictionary that remembers the order of its insertions. A deleted entry leaves its slot empty, so a walk over the
keys goes on from its position; but the walk remembers how many entries there were, and raises at its next step
when there are more or fewer.

* **`InsertionDict`** — the slots, with the keys distinct; `getItem`, `setItem`, `delItem`, and `ofList`.
* **`walk`** — `for key in dict: body`, where the dictionary is part of the state and the body may change it.
* **`run_walk_of_nil`** — the walk over a dictionary without entries; **`run_walk_of_delItem`** — a body that
  deletes its key is run once, and the walk does not finish. -/

namespace ContainRes.Store

open Effects

/-- The entries of slots. -/
def entriesOf {κ ν : Type} (slots : List (Option (κ × ν))) : List (κ × ν) := slots.filterMap id

@[simp] theorem entriesOf_none {κ ν : Type} (slots : List (Option (κ × ν))) :
    entriesOf (none :: slots) = entriesOf slots := rfl

@[simp] theorem entriesOf_some {κ ν : Type} (e : κ × ν) (slots : List (Option (κ × ν))) :
    entriesOf (some e :: slots) = e :: entriesOf slots := rfl

/-- A dictionary: its slots in the order of insertion. -/
structure InsertionDict (κ ν : Type) where
  slots : List (Option (κ × ν))
  nodup : ((entriesOf slots).map Prod.fst).Nodup

namespace InsertionDict

variable {κ ν : Type}

/-- The entries that are there, in order. -/
def entries (d : InsertionDict κ ν) : List (κ × ν) := entriesOf d.slots

/-- `list(d)`. -/
def keys (d : InsertionDict κ ν) : List κ := d.entries.map Prod.fst

/-- `len(d)`. -/
def size (d : InsertionDict κ ν) : ℕ := d.entries.length

/-- `{}`. -/
def empty : InsertionDict κ ν := ⟨[], List.nodup_nil⟩

variable [DecidableEq κ]

/-- `d.get(key)`. -/
def getItem (d : InsertionDict κ ν) (key : κ) : Option ν :=
  (d.entries.find? fun e => e.1 = key).map Prod.snd

/-- The slot of an entry once `key` is deleted. -/
def vacated (key : κ) : Option (κ × ν) → Option (κ × ν)
  | some e => if e.1 = key then none else some e
  | none => none

theorem entriesOf_vacated (key : κ) (slots : List (Option (κ × ν))) :
    entriesOf (slots.map (vacated key)) = (entriesOf slots).filter fun e => e.1 ≠ key := by
  induction slots with
  | nil => rfl
  | cons slot slots ih =>
    cases slot with
    | none => exact ih
    | some e => by_cases h : e.1 = key <;> simp [vacated, h, ih]

/-- `del d[key]`. -/
def delItem (d : InsertionDict κ ν) (key : κ) : InsertionDict κ ν where
  slots := d.slots.map (vacated key)
  nodup := by
    rw [entriesOf_vacated]
    exact d.nodup.sublist (List.filter_sublist.map _)

/-- The slot of an entry once `key` has a new value. -/
def renewed (key : κ) (value : ν) : Option (κ × ν) → Option (κ × ν)
  | some e => if e.1 = key then some (key, value) else some e
  | none => none

theorem keys_renewed (key : κ) (value : ν) (slots : List (Option (κ × ν))) :
    (entriesOf (slots.map (renewed key value))).map Prod.fst = (entriesOf slots).map Prod.fst := by
  induction slots with
  | nil => rfl
  | cons slot slots ih =>
    cases slot with
    | none => exact ih
    | some e => by_cases h : e.1 = key <;> simp [renewed, h, ih]

/-- `d[key] = value`: a key that is there keeps its slot, and a new one gets the last. -/
def setItem (d : InsertionDict κ ν) (key : κ) (value : ν) : InsertionDict κ ν :=
  if h : key ∈ d.keys then
    ⟨d.slots.map (renewed key value), by rw [keys_renewed]; exact d.nodup⟩
  else
    ⟨d.slots ++ [some (key, value)], by
      have hentries : entriesOf (d.slots ++ [some (key, value)]) = d.entries ++ [(key, value)] := by
        simp [entriesOf, entries]
      rw [hentries, List.map_append, List.nodup_append]
      refine ⟨d.nodup, by simp, fun a ha b hb => ?_⟩
      rw [List.mem_singleton.mp hb]
      rintro rfl
      exact h ha⟩

@[simp] theorem entries_delItem (d : InsertionDict κ ν) (key : κ) :
    (d.delItem key).entries = d.entries.filter fun e => e.1 ≠ key := entriesOf_vacated key d.slots

theorem entriesOf_renewed (key : κ) (value : ν) (slots : List (Option (κ × ν))) :
    entriesOf (slots.map (renewed key value)) =
      (entriesOf slots).map fun e => if e.1 = key then (key, value) else e := by
  induction slots with
  | nil => rfl
  | cons slot slots ih =>
    cases slot with
    | none => exact ih
    | some e => by_cases h : e.1 = key <;> simp [renewed, h, ih]

variable {d : InsertionDict κ ν} {key : κ}

/-- The entries after a key has a new value. -/
theorem mem_entries_setItem {value : ν} {e : κ × ν} :
    e ∈ (d.setItem key value).entries ↔ e = (key, value) ∨ (e.1 ≠ key ∧ e ∈ d.entries) := by
  unfold setItem entries
  split
  · rename_i hmem
    obtain ⟨old, hold, hkey⟩ := List.mem_map.mp hmem
    rw [entriesOf_renewed, List.mem_map]
    constructor
    · rintro ⟨e', he', rfl⟩
      by_cases h : e'.1 = key
      · exact .inl (if_pos h)
      · rw [if_neg h]
        exact .inr ⟨h, he'⟩
    · rintro (rfl | ⟨hne, he⟩)
      · exact ⟨old, hold, if_pos hkey⟩
      · exact ⟨e, he, if_neg hne⟩
  · rename_i hmem
    have hentries : entriesOf (d.slots ++ [some (key, value)]) = entriesOf d.slots ++ [(key, value)] := by
      simp [entriesOf]
    rw [hentries, List.mem_append, List.mem_singleton]
    constructor
    · rintro (he | he)
      · exact .inr ⟨fun heq => hmem (List.mem_map.mpr ⟨e, he, heq⟩), he⟩
      · exact .inl he
    · rintro (he | ⟨-, he⟩)
      · exact .inr he
      · exact .inl he

/-- `dict(items)`: a later item takes the place of an earlier one with its key. -/
def ofList (items : List (κ × ν)) : InsertionDict κ ν := items.foldl (fun d e => d.setItem e.1 e.2) empty

variable {items : List (κ × ν)}

theorem mem_entries_foldl {e : κ × ν}
    (h : e ∈ (items.foldl (fun d e => d.setItem e.1 e.2) d).entries) : e ∈ items ∨ e ∈ d.entries := by
  induction items generalizing d with
  | nil => exact .inr h
  | cons item items ih =>
    rcases ih h with hlater | hfirst
    · exact .inl (List.mem_cons_of_mem _ hlater)
    · rcases mem_entries_setItem.mp hfirst with heq | ⟨-, hold⟩
      · exact .inl (List.mem_cons.mpr (.inl heq))
      · exact .inr hold

theorem mem_of_mem_ofList {e : κ × ν} (h : e ∈ (ofList items).entries) : e ∈ items :=
  (mem_entries_foldl h).resolve_right List.not_mem_nil

theorem exists_mem_foldl {value : ν} (h : (key, value) ∈ items ∨ (key, value) ∈ d.entries) :
    ∃ value', (key, value') ∈ (items.foldl (fun d e => d.setItem e.1 e.2) d).entries := by
  induction items generalizing d value with
  | nil => exact ⟨value, h.resolve_left List.not_mem_nil⟩
  | cons item items ih =>
    by_cases hlater : (key, value) ∈ items
    · exact ih (.inl hlater)
    -- otherwise the key is there once the first item is
    by_cases hkey : key = item.1
    · exact ih (.inr (mem_entries_setItem.mpr (.inl (by rw [hkey]))))
    · rcases h with hitem | hold
      · rcases List.mem_cons.mp hitem with heq | hmem
        · exact absurd (congrArg Prod.fst heq) hkey
        · exact absurd hmem hlater
      · exact ih (.inr (mem_entries_setItem.mpr (.inr ⟨hkey, hold⟩)))

theorem exists_mem_ofList {value : ν} (h : (key, value) ∈ items) : ∃ value', (key, value') ∈ (ofList items).entries :=
  exists_mem_foldl (.inl h)

/-- A key that is there is deleted: one entry less. -/
theorem size_delItem (h : key ∈ d.keys) : (d.delItem key).size + 1 = d.size := by
  unfold size
  rw [entries_delItem]
  obtain ⟨e, he, rfl⟩ := List.mem_map.mp h
  obtain ⟨before, after, hsplit⟩ := List.append_of_mem he
  have hnodup : (d.entries.map Prod.fst).Nodup := d.nodup
  rw [hsplit, List.map_append, List.map_cons, List.nodup_append, List.nodup_cons] at hnodup
  obtain ⟨-, ⟨hafter, -⟩, hbefore⟩ := hnodup
  have hleft : before.filter (fun e' => e'.1 ≠ e.1) = before := List.filter_eq_self.mpr fun e' he' => by
    simpa using hbefore e'.1 (List.mem_map_of_mem he') e.1 List.mem_cons_self
  have hright : after.filter (fun e' => e'.1 ≠ e.1) = after := List.filter_eq_self.mpr fun e' he' => by
    simpa using fun heq : e'.1 = e.1 => hafter (heq ▸ List.mem_map_of_mem he')
  rw [hsplit, List.filter_append, List.filter_cons_of_neg (by simp), hleft, hright, List.length_append,
    List.length_append, List.length_cons]
  omega

theorem getItem_of_mem (h : key ∈ d.keys) : ∃ value, d.getItem key = some value := by
  obtain ⟨e, he, rfl⟩ := List.mem_map.mp h
  cases hfind : d.entries.find? fun e' => e'.1 = e.1 with
  | none => simpa using List.find?_eq_none.mp hfind e he
  | some e' => exact ⟨e'.2, by rw [getItem, hfind]; rfl⟩

/-! ## Walks -/

/-- The key in the first slot from `pos` on that is not empty, with the position after it. -/
def nextFrom (pos : ℕ) : List (Option (κ × ν)) → Option (κ × ℕ)
  | [] => none
  | some e :: _ => some (e.1, pos + 1)
  | none :: slots => nextFrom (pos + 1) slots

omit [DecidableEq κ] in
/-- A walk has a next key exactly when there is an entry left, and it is the first one. -/
theorem nextFrom_eq (pos : ℕ) (slots : List (Option (κ × ν))) :
    (nextFrom pos slots).map Prod.fst = ((entriesOf slots).map Prod.fst).head? := by
  induction slots generalizing pos with
  | nil => rfl
  | cons slot slots ih =>
    cases slot with
    | none => exact ih (pos + 1)
    | some e => rfl

variable {σ ε : Type} (get : σ → InsertionDict κ ν) (changed : ε) (body : κ → Proc σ ε PUnit.{1})

/-- The steps of a walk over a dictionary that had `used` entries, from `pos` on: the comparison of the sizes comes
first. `none` when the fuel is used up. -/
def walkFrom (used : ℕ) : ℕ → ℕ → Proc σ ε (Option PUnit.{1})
  | 0, _ => pure none
  | fuel + 1, pos => do
    let d ← Proc.gets get
    if d.size ≠ used then Proc.raise changed
    else match nextFrom pos (d.slots.drop pos) with
      | none => pure (some ⟨⟩)
      | some (key, pos') => do
        body key
        walkFrom used fuel pos'

/-- `for key in d: body(key)`. -/
def walk (fuel : ℕ) : Proc σ ε (Option PUnit.{1}) := do
  let d ← Proc.gets get
  walkFrom get changed body d.size fuel 0

variable {get changed body}

omit [DecidableEq κ] in
/-- A walk over a dictionary without entries. -/
theorem run_walk_of_nil {s : σ} (h : (get s).keys = []) (fuel : ℕ) :
    (walk get changed body (fuel + 1)).run s = (.ok (some ⟨⟩), s) := by
  have hnext : nextFrom 0 (get s).slots = none := by
    have hhead := nextFrom_eq 0 (get s).slots
    rw [show (entriesOf (get s).slots).map Prod.fst = [] from h] at hhead
    simpa using hhead
  unfold walk
  rw [Proc.run_bind_of_ok (Proc.run_gets get s), walkFrom, Proc.run_bind_of_ok (Proc.run_gets get s),
    if_neg (by simp), List.drop_zero, hnext]
  rfl

/-- **A body that deletes its key.** It is run for the first key, and then there is one entry less: the walk does not
finish, however long it may take. -/
theorem run_walk_of_delItem (changed : ε) {s : σ} {rest : List κ} (h : (get s).keys = key :: rest) {t : σ}
    (hbody : (body key).run s = (.ok ⟨⟩, t)) (ht : get t = (get s).delItem key) :
    ∀ fuel, (walk get changed body fuel).run s = (.ok none, s) ∨
      (walk get changed body fuel).run s = (.ok none, t) ∨ (walk get changed body fuel).run s = (.error changed, t) := by
  intro fuel
  have hhead := nextFrom_eq 0 (get s).slots
  rw [show (entriesOf (get s).slots).map Prod.fst = key :: rest from h, List.head?_cons] at hhead
  obtain ⟨⟨key', pos⟩, hnext, rfl⟩ := Option.map_eq_some_iff.mp hhead
  have hsize : (get t).size ≠ (get s).size := by
    have hmem : key' ∈ (get s).keys := by
      rw [h]
      exact List.mem_cons_self
    have hless := size_delItem hmem
    rw [ht]
    dsimp only
    omega
  unfold walk
  rw [Proc.run_bind_of_ok (Proc.run_gets get s)]
  match fuel with
  | 0 => exact .inl rfl
  | 1 =>
    refine .inr (.inl ?_)
    rw [walkFrom, Proc.run_bind_of_ok (Proc.run_gets get s), if_neg (by simp), List.drop_zero, hnext]
    exact Proc.run_bind_of_ok hbody
  | fuel + 2 =>
    refine .inr (.inr ?_)
    rw [walkFrom, Proc.run_bind_of_ok (Proc.run_gets get s), if_neg (by simp), List.drop_zero, hnext]
    dsimp only
    rw [Proc.run_bind_of_ok hbody, walkFrom, Proc.run_bind_of_ok (Proc.run_gets get t), if_pos hsize]
    rfl

end InsertionDict

end ContainRes.Store
