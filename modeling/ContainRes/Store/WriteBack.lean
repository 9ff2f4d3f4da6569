import ContainRes.Effects.Proc
import ContainRes.Store.Table

/-! # Records that are read and written back

A table whose items are read as objects and made from objects again. A caller that changes one attribute reads
the whole item and writes the whole object back, so whatever the two converters do not agree on is lost.

* **`RecordTable`** — the two converters, the key, and what an update leaves of the item that was there.
* **`RecordTable.create`**, **`RecordTable.update`**, **`RecordTable.writeBack`** — `put_item`, `update_item`, and
  an update with the object that was read.
* **`RecordTable.Unchanged`** — no table that has the item is changed when it is written back, up to what a view
  of the items leaves out; **`RecordTable.unchanged_iff`** says it of the converters. -/

namespace ContainRes.Store

open Effects

/-- A table with items `ρ` under keys `κ` for objects `α`. -/
structure RecordTable (κ ρ α ε : Type) where
  /-- The object that an item is read as. -/
  load : ρ → Except ε α
  /-- The attributes of an object. -/
  dump : α → Except ε ρ
  /-- The key among the attributes. -/
  keyOf : ρ → Except ε κ
  /-- What an update leaves under the key: its attributes over what was there. -/
  set : Option ρ → ρ → ρ
  /-- What an update raises that has found nothing under the key. -/
  missing : Option ε

namespace RecordTable

variable {κ ρ α ε σ : Type} [DecidableEq κ] (r : RecordTable κ ρ α ε)

/-- `put_item` with the attributes of an object as `complete` completes them; the object is read from them
again. -/
def create (complete : ρ → ρ) (a : α) : Proc (Table κ ρ) ε α := do
  let attributes ← Proc.liftExcept (r.dump a)
  let key ← Proc.liftExcept (r.keyOf (complete attributes))
  Proc.modify fun t => t.putItem key (complete attributes)
  Proc.liftExcept (r.load (complete attributes))

/-- `update_item` with the attributes of an object as `complete` completes them. -/
def update (complete : ρ → ρ) (a : α) : Proc (Table κ ρ) ε α := do
  let attributes ← Proc.liftExcept (r.dump a)
  let key ← Proc.liftExcept (r.keyOf (complete attributes))
  let old ← Proc.gets fun t : Table κ ρ => t.getItem key
  Proc.modify fun t => t.putItem key (r.set old (complete attributes))
  match old, r.missing with
  | none, some e => Proc.raise e
  | _, _ => Proc.liftExcept (r.load (complete attributes))

/-- An item is read, and its object is written back. -/
def writeBack (complete : ρ → ρ) (item : ρ) : Proc (Table κ ρ) ε α := do
  let a ← Proc.liftExcept (r.load item)
  r.update complete a

/-- The item under a key once an object is created where there was nothing. -/
def WrittenBy (complete : ρ → ρ) (key : κ) (item : ρ) : Prop :=
  ∃ a, ((r.create complete a).run ∅).2.getItem key = some item

/-- Writing an item back, whenever that is, succeeds in every table that has it, and leaves every item as it
was in a view. -/
def Unchanged (complete : Int → ρ → ρ) (view : ρ → σ) (key : κ) (item : ρ) : Prop :=
  ∀ (now : Int) (t : Table κ ρ), t.getItem key = some item →
    ∃ a t', (r.writeBack (complete now) item).run t = (.ok a, t') ∧
      ∀ k, (t'.getItem k).map view = (t.getItem k).map view

variable {r} {complete : ρ → ρ}

/-- What `create` puts. -/
theorem writtenBy_iff {key : κ} {item : ρ} : r.WrittenBy complete key item ↔
      ∃ a attributes, r.dump a = .ok attributes ∧ r.keyOf (complete attributes) = .ok key ∧
        item = complete attributes := by
  unfold WrittenBy create
  refine exists_congr fun a => ?_
  cases hdump : r.dump a with
  | error e =>
    rw [Proc.run_bind_of_error (Proc.run_liftExcept _ _), Table.getItem_empty]
    simp
  | ok attributes =>
    rw [Proc.run_bind_of_ok (Proc.run_liftExcept _ _)]
    cases hkey : r.keyOf (complete attributes) with
    | error e =>
      rw [Proc.run_bind_of_error (Proc.run_liftExcept _ _), Table.getItem_empty]
      simp [hkey]
    | ok key' =>
      rw [Proc.run_bind_of_ok (Proc.run_liftExcept _ _), Proc.run_bind_of_ok (Proc.run_modify _ _),
        Proc.run_liftExcept, Table.getItem_putItem]
      by_cases heq : key = key'
      · subst heq
        simp [hkey, eq_comm]
      · simp [hkey, heq, Ne.symm heq]

/-- An update that returns: the key and the item that it leaves there. -/
theorem returns_update {a b : α} {t t' : Table κ ρ} (h : (r.update complete a).run t = (.ok b, t')) :
    ∃ attributes key, r.dump a = .ok attributes ∧ r.keyOf (complete attributes) = .ok key ∧
      r.load (complete attributes) = .ok b ∧ t' = t.putItem key (r.set (t.getItem key) (complete attributes)) := by
  unfold update at h
  obtain ⟨attributes, s, hdump, h⟩ := Proc.returns_bind.mp h
  obtain ⟨key, s', hkey, h⟩ := Proc.returns_bind.mp h
  obtain ⟨old, s'', hold, h⟩ := Proc.returns_bind.mp h
  obtain ⟨_, s₃, hput, h⟩ := Proc.returns_bind.mp h
  rw [Proc.Returns, Proc.run_liftExcept, Prod.mk.injEq] at hdump hkey
  rw [Proc.returns_gets] at hold
  rw [Proc.returns_modify] at hput
  obtain ⟨hdump, rfl⟩ := hdump
  obtain ⟨hkey, rfl⟩ := hkey
  obtain ⟨rfl, rfl⟩ := hold
  obtain ⟨rfl⟩ := hput
  refine ⟨attributes, key, hdump, hkey, ?_⟩
  split at h
  · exact absurd h Proc.not_returns_raise
  · rw [Proc.Returns, Proc.run_liftExcept, Prod.mk.injEq] at h
    exact ⟨h.1, h.2.symm⟩

/-- An update of an item that is there. -/
theorem run_update {a b : α} {attributes item : ρ} {key : κ} {t : Table κ ρ}
    (hdump : r.dump a = .ok attributes) (hkey : r.keyOf (complete attributes) = .ok key)
    (hitem : t.getItem key = some item) (hload : r.load (complete attributes) = .ok b) :
    (r.update complete a).run t = (.ok b, t.putItem key (r.set (some item) (complete attributes))) := by
  unfold update
  rw [Proc.run_bind_of_ok ((Proc.run_liftExcept _ t).trans (by rw [hdump])),
    Proc.run_bind_of_ok ((Proc.run_liftExcept _ t).trans (by rw [hkey])),
    Proc.run_bind_of_ok (Proc.run_gets _ t), Proc.run_bind_of_ok (Proc.run_modify _ t), hitem]
  dsimp only
  rw [Proc.run_liftExcept, hload]

/-- **What is unchanged.** The item can be read and its object can be written; it stays under its key, and the
attributes that are set are those that were there. -/
theorem unchanged_iff {complete : Int → ρ → ρ} {view : ρ → σ} {key : κ} {item : ρ} :
    r.Unchanged complete view key item ↔ ∃ a attributes, r.load item = .ok a ∧ r.dump a = .ok attributes ∧ ∀ now,
        r.keyOf (complete now attributes) = .ok key ∧ view (r.set (some item) (complete now attributes)) = view item ∧
        ∃ b, r.load (complete now attributes) = .ok b := by
  constructor
  · intro h
    -- in a table with this item alone nothing may appear under another key
    have hone : ∀ now, ∃ a attributes, r.load item = .ok a ∧ r.dump a = .ok attributes ∧
        r.keyOf (complete now attributes) = .ok key ∧
        view (r.set (some item) (complete now attributes)) = view item ∧
        ∃ b, r.load (complete now attributes) = .ok b := by
      intro now
      obtain ⟨b, t', hrun, hsame⟩ := h now (Table.putItem ∅ key item) (Table.getItem_putItem_self _ _ _)
      unfold writeBack at hrun
      obtain ⟨a, s, hload, hupdate⟩ := Proc.returns_bind.mp hrun
      rw [Proc.Returns, Proc.run_liftExcept, Prod.mk.injEq] at hload
      obtain ⟨hload, rfl⟩ := hload
      obtain ⟨attributes, key', hdump, hkey, hagain, rfl⟩ := returns_update hupdate
      have hthere := hsame key'
      rw [Table.getItem_putItem_self, Table.getItem_putItem, Table.getItem_empty] at hthere
      by_cases heq : key' = key
      · subst heq
        rw [if_pos rfl, Option.map_some, Option.map_some, Option.some.injEq] at hthere
        exact ⟨a, attributes, hload, hdump, hkey, hthere, b, hagain⟩
      · rw [if_neg heq] at hthere
        exact absurd hthere (by simp)
    obtain ⟨a, attributes, hload, hdump, -⟩ := hone 0
    refine ⟨a, attributes, hload, hdump, fun now => ?_⟩
    obtain ⟨a', attributes', hload', hdump', hrest⟩ := hone now
    rw [hload, Except.ok.injEq] at hload'
    subst hload'
    rw [hdump, Except.ok.injEq] at hdump'
    subst hdump'
    exact hrest
  · rintro ⟨a, attributes, hload, hdump, hrest⟩ now t hitem
    obtain ⟨hkey, hview, b, hagain⟩ := hrest now
    refine ⟨b, t.putItem key (r.set (some item) (complete now attributes)), ?_, ?_⟩
    · unfold writeBack
      rw [Proc.run_bind_of_ok ((Proc.run_liftExcept _ t).trans (by rw [hload]))]
      exact run_update hdump hkey hitem hagain
    · intro k
      rw [Table.getItem_putItem]
      by_cases heq : k = key
      · rw [if_pos heq, heq, hitem, Option.map_some, Option.map_some, hview]
      · rw [if_neg heq]

end RecordTable

end ContainRes.Store
