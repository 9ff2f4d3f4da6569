import Mathlib.Data.List.Basic

/-! # A copy of a set, kept up to date by queued changes

A set is stored in one place and copied to another. While copying is switched on, every change of the
stored set is queued, and the copy changes when a queued change is run; switching copying on and off
queues a change too, which looks at the stored set only when it runs. A change may refresh the copy
with everything that is stored at that time.

* **`Change`** — what is queued, and `Change.effect`, what it does to one element of the copy.
* **`settled`** — the copy once the queue is empty: the last change with an effect on an element decides
  (`lastEffect`, `lastOf`).
* **`Synced`** — the queue leads to the stored set. Each way to change the stored set and each run of
  the oldest change keeps it (`Synced.update`, `Synced.run`, …). -/

namespace ContainRes.Store

universe u

variable {α : Type u}

/-- A queued change of the copy. -/
inductive Change (α : Type u)
  /-- Put in everything that is stored when the change runs. -/
  | fill
  /-- Take out everything that is stored when the change runs. -/
  | clear
  /-- Take out `removed` and put in `added`. -/
  | update (added removed : List α)

variable [DecidableEq α]

/-- What a change does to an element of the copy: put it in, take it out, or leave it. -/
def Change.effect (stored : List α) : Change α → α → Option Bool
  | .fill, x => if x ∈ stored then some true else none
  | .clear, x => if x ∈ stored then some false else none
  | .update added removed, x =>
    if x ∈ added then some true else if x ∈ removed then some false else none

theorem Change.effect_update_eq_none {stored added removed : List α} {x : α} :
    (Change.update added removed).effect stored x = none ↔ x ∉ added ∧ x ∉ removed := by
  rw [Change.effect]
  by_cases hadded : x ∈ added
  · simp [hadded]
  · by_cases hremoved : x ∈ removed <;> simp [hadded, hremoved]

/-- An element after an effect that may leave it. -/
def decided (effect : Option Bool) (before : Prop) : Prop :=
  match effect with
  | some inside => inside = true
  | none => before

/-- The last effect of a sequence of effects. -/
def lastOf : List (Option Bool) → Option Bool
  | [] => none
  | effect :: effects => (lastOf effects).or effect

/-- The effect of the last queued change that has one. -/
def lastEffect (stored : List α) (queue : List (Change α)) (x : α) : Option Bool :=
  lastOf (queue.map fun c => c.effect stored x)

/-- The copy after all queued changes, if nothing else happens. -/
def settled (stored : List α) (queue : List (Change α)) (copy : α → Prop) (x : α) : Prop :=
  decided (lastEffect stored queue x) (copy x)

@[simp] theorem decided_some (inside : Bool) (before : Prop) : decided (some inside) before ↔ inside = true := Iff.rfl

@[simp] theorem decided_none (before : Prop) : decided none before ↔ before := Iff.rfl

theorem decided_or (later earlier : Option Bool) (before : Prop) :
    decided (later.or earlier) before ↔ decided later (decided earlier before) := by
  cases later <;> rfl

theorem decided_lastOf_cons (effect : Option Bool) (effects : List (Option Bool)) (before : Prop) :
    decided (lastOf (effect :: effects)) before ↔ decided (lastOf effects) (decided effect before) :=
  decided_or _ _ _

theorem lastOf_append (effects effects' : List (Option Bool)) :
    lastOf (effects ++ effects') = (lastOf effects').or (lastOf effects) := by
  induction effects with
  | nil => simp [lastOf]
  | cons effect effects ih => rw [List.cons_append, lastOf, ih, lastOf, Option.or_assoc]

theorem lastOf_eq_none {effects : List (Option Bool)} : lastOf effects = none ↔ ∀ effect ∈ effects, effect = none := by
  induction effects with
  | nil => simp [lastOf]
  | cons effect effects ih =>
    rw [lastOf, Option.or_eq_none_iff, ih, List.forall_mem_cons]
    exact And.comm

theorem lastOf_eq_none_of_sublist {effects effects' : List (Option Bool)}
    (h : effects.Sublist effects') (hnone : lastOf effects' = none) : lastOf effects = none := by
  rw [lastOf_eq_none] at hnone ⊢
  intro effect heffect
  exact hnone effect (h.subset heffect)

/-- **Two ends compared.** An end that is decided where another one is decides the same exactly when the
two effects agree, or when only the other one is decided and alters nothing. -/
theorem decided_iff_decided {effect effect' : Option Bool} (before : Prop) (hnone : effect' = none → effect = none) :
    (decided effect before ↔ decided effect' before) ↔
      effect = effect' ∨ effect = none ∧ ∃ inside, effect' = some inside ∧ (before ↔ inside = true) := by
  cases effect' with
  | none => simp [hnone rfl]
  | some inside =>
    cases effect with
    | none => simp
    | some inside' => cases inside <;> cases inside' <;> simp

variable (stored : List α)

theorem lastEffect_append (queue queue' : List (Change α)) (x : α) :
    lastEffect stored (queue ++ queue') x = (lastEffect stored queue' x).or (lastEffect stored queue x) := by
  rw [lastEffect, List.map_append, lastOf_append, lastEffect, lastEffect]

@[simp] theorem settled_nil (copy : α → Prop) (x : α) : settled stored [] copy x ↔ copy x := Iff.rfl

/-- Running the oldest change does not alter what the queue leads to. -/
theorem settled_cons (c : Change α) (queue : List (Change α)) (copy : α → Prop) (x : α) :
    settled stored (c :: queue) copy x ↔ settled stored queue (fun y => decided (c.effect stored y) (copy y)) x := by
  rw [settled, lastEffect, List.map_cons, decided_lastOf_cons]
  rfl

/-- A newly queued change decides the elements it has an effect on. -/
theorem settled_append_singleton (queue : List (Change α)) (c : Change α) (copy : α → Prop) (x : α) :
    settled stored (queue ++ [c]) copy x ↔ decided (c.effect stored x) (settled stored queue copy x) := by
  rw [settled, lastEffect_append, decided_or]
  rfl

variable {stored stored' : List α}

/-- Whether a change has an effect on an element depends on the stored set only through that
element. -/
theorem Change.effect_congr {x : α} (h : x ∈ stored ↔ x ∈ stored')
    (c : Change α) : c.effect stored x = c.effect stored' x := by
  cases c <;> simp only [Change.effect, h]

theorem lastEffect_congr {x : α} (h : x ∈ stored ↔ x ∈ stored')
    (queue : List (Change α)) : lastEffect stored queue x = lastEffect stored' queue x := by
  unfold lastEffect
  exact congrArg lastOf (List.map_congr_left fun c _ => c.effect_congr h)

theorem settled_congr {x : α} (h : x ∈ stored ↔ x ∈ stored')
    (queue : List (Change α)) (copy : α → Prop) : settled stored queue copy x ↔ settled stored' queue copy x := by
  rw [settled, lastEffect_congr h, settled]

/-! ## Queues that lead to the stored set -/

/-- The queued changes lead to the stored set while copying is switched on, and to the empty set while
it is switched off; in the latter case the last queued change is the one that clears the copy. -/
structure Synced (isOn : Bool) (stored : List α) (queue : List (Change α)) (copy : α → Prop) :
    Prop where
  settles : ∀ x, settled stored queue copy x ↔ isOn = true ∧ x ∈ stored
  closed : isOn = false → queue = [] ∨ ∃ earlier, queue = earlier ++ [.clear]

namespace Synced

variable {isOn : Bool} {stored stored' added removed : List α} {queue : List (Change α)}
  {copy copy' : α → Prop}

theorem copy_iff (h : Synced isOn stored [] copy) (x : α) : copy x ↔ isOn = true ∧ x ∈ stored :=
  h.settles x

theorem initial (stored : List α) (hempty : ∀ x, ¬ copy x) : Synced false stored [] copy where
  settles x := by simp [hempty x]
  closed _ := .inl rfl

theorem switchOn (h : Synced isOn stored queue copy) : Synced true stored (queue ++ [.fill]) copy where
  settles x := by
    rw [settled_append_singleton, h.settles, Change.effect]
    by_cases hx : x ∈ stored <;> simp [hx]
  closed hon := by cases hon

theorem switchOff (h : Synced isOn stored queue copy) : Synced false stored (queue ++ [.clear]) copy where
  settles x := by
    rw [settled_append_singleton, h.settles, Change.effect]
    by_cases hx : x ∈ stored <;> simp [hx]
  closed _ := .inr ⟨queue, rfl⟩

theorem switch (h : Synced isOn stored queue copy) (nowOn : Bool) :
    Synced nowOn stored (queue ++ [if nowOn then .fill else .clear]) copy := by
  cases nowOn
  · exact h.switchOff
  · exact h.switchOn

/-- Changing the stored set and queueing the exact difference. -/
theorem update (h : Synced true stored queue copy) (hadded : ∀ x, x ∈ added ↔ x ∈ stored' ∧ x ∉ stored)
    (hremoved : ∀ x, x ∈ removed ↔ x ∈ stored ∧ x ∉ stored') :
    Synced true stored' (queue ++ [.update added removed]) copy where
  settles x := by
    rw [settled_append_singleton, Change.effect]
    by_cases hold : x ∈ stored <;> by_cases hnew : x ∈ stored'
    · -- neither added nor removed: what decided before still decides
      have hsame : x ∈ stored ↔ x ∈ stored' := by simp only [hold, hnew]
      rw [if_neg, if_neg, decided_none, ← settled_congr hsame, h.settles]
      · simp [hold, hnew]
      · simp [hremoved, hnew]
      · simp [hadded, hold]
    · rw [if_neg, if_pos, decided_some]
      · simp [hnew]
      · exact (hremoved x).mpr ⟨hold, hnew⟩
      · simp [hadded, hnew]
    · rw [if_pos ((hadded x).mpr ⟨hnew, hold⟩), decided_some]
      simp [hnew]
    · have hsame : x ∈ stored ↔ x ∈ stored' := by simp only [hold, hnew]
      rw [if_neg, if_neg, decided_none, ← settled_congr hsame, h.settles]
      · simp [hold, hnew]
      · simp [hremoved, hold]
      · simp [hadded, hnew]
  closed hon := by cases hon

theorem rewrite (h : Synced true stored queue copy) (hsame : ∀ x, x ∈ stored ↔ x ∈ stored') :
    Synced true stored' queue copy where
  settles x := by rw [← settled_congr (hsame x), h.settles, hsame x]
  closed hon := by cases hon

/-- Changing the stored set while copying is switched off queues nothing. That is harmless when nothing
is queued, and when nothing is taken out of the stored set. -/
theorem edit (h : Synced false stored queue copy)
    (hharmless : queue = [] ∨ ∀ x, x ∈ stored → x ∈ stored') : Synced false stored' queue copy where
  settles x := by
    rcases h.closed rfl with rfl | ⟨earlier, rfl⟩
    · have hempty := h.settles x
      simpa using hempty
    · have hgrows := hharmless.resolve_left (by simp) x
      by_cases hnew : x ∈ stored'
      · simp [settled_append_singleton, Change.effect, hnew]
      · have hold : x ∉ stored := fun hold => hnew (hgrows hold)
        have hsame : x ∈ stored ↔ x ∈ stored' := by simp only [hold, hnew]
        rw [← settled_congr hsame, h.settles]
        simp
  closed := h.closed

variable {c : Change α}

/-- Behind the oldest change, nothing is queued or the last change clears the copy. -/
theorem closed_tail (h : Synced isOn stored (c :: queue) copy) (hoff : isOn = false) :
    queue = [] ∨ ∃ earlier, queue = earlier ++ [.clear] := by
  rcases h.closed hoff with hnil | ⟨earlier, hearlier⟩
  · cases hnil
  · cases earlier with
    | nil =>
      rw [List.nil_append, List.cons.injEq] at hearlier
      exact .inl hearlier.2
    | cons c' earlier =>
      rw [List.cons_append, List.cons.injEq] at hearlier
      exact .inr ⟨earlier, hearlier.2⟩

/-- **Running the oldest change**, which may also refresh the copy while copying is switched on. -/
theorem run {refreshes : Prop} (h : Synced isOn stored (c :: queue) copy) (hon : refreshes → isOn = true)
    (hcopy : ∀ x, copy' x ↔ decided (c.effect stored x) (copy x) ∨ refreshes ∧ x ∈ stored) :
    Synced isOn stored queue copy' where
  settles x := by
    have hsettles := (settled_cons stored c queue copy x).symm.trans (h.settles x)
    -- a later change decides in either case; without one, the refresh puts in only what is stored
    unfold settled at hsettles ⊢
    rcases hlast : lastEffect stored queue x with _ | inside
    · rw [hlast, decided_none] at hsettles
      rw [decided_none, hcopy, show decided (c.effect stored x) (copy x) ↔ _ from hsettles]
      constructor
      · rintro (hboth | ⟨hrefreshes, hx⟩)
        · exact hboth
        · exact ⟨hon hrefreshes, hx⟩
      · exact .inl
    · rwa [hlast] at hsettles
  closed hoff := h.closed_tail hoff

/-- **Trying the oldest change again.** A change that is broken off alters other elements only as a refresh
does, and waits to be run once more. -/
theorem retry {refreshes : Prop} (h : Synced isOn stored (c :: queue) copy)
    (hon : refreshes → isOn = true) (hcopy : ∀ x, c.effect stored x = none →
      (copy' x → copy x ∨ refreshes ∧ x ∈ stored) ∧ (copy x → copy' x)) : Synced isOn stored (c :: queue) copy' where
  settles x := by
    have hsettles := h.settles x
    -- where the queue has an effect the copy does not matter
    unfold settled at hsettles ⊢
    rcases hlast : lastEffect stored (c :: queue) x with _ | inside
    · have hnone : c.effect stored x = none := by
        rw [lastEffect, List.map_cons, lastOf_eq_none] at hlast
        exact hlast _ List.mem_cons_self
      rw [hlast, decided_none] at hsettles
      rw [decided_none, ← hsettles]
      constructor
      · intro hx
        rcases (hcopy x hnone).1 hx with hx | ⟨hrefreshes, hstored⟩
        · exact hx
        · exact hsettles.mpr ⟨hon hrefreshes, hstored⟩
      · exact (hcopy x hnone).2
    · rwa [hlast] at hsettles
  closed := h.closed

/-- **Leaving the oldest change out** while copying is switched off does no harm, if what it takes out is
stored or not in the copy. -/
theorem skip (h : Synced false stored (c :: queue) copy) (hc : c ≠ .clear)
    (hout : ∀ x, c.effect stored x = some false → x ∈ stored ∨ ¬ copy x) : Synced false stored queue copy where
  settles x := by
    have hsettles := (settled_cons stored c queue copy x).symm.trans (h.settles x)
    have hclear : queue ≠ [] → ∃ earlier, queue = earlier ++ [.clear] := (h.closed_tail rfl).resolve_left
    obtain ⟨earlier, hqueue⟩ := hclear fun hnil => by
      -- the change left out is not the last one
      rcases h.closed rfl with hcons | ⟨earlier, hearlier⟩
      · cases hcons
      · rw [hnil] at hearlier
        obtain ⟨-, hlast⟩ : earlier = [] ∧ .clear = c := by
          simpa using List.singleton_eq_append_iff.mp hearlier
        exact hc hlast.symm
    unfold settled at hsettles ⊢
    rcases hlast : lastEffect stored queue x with _ | inside
    · -- the change that clears the copy leaves `x`, so `x` is not stored
      have hstored : x ∉ stored := by
        intro hstored
        rw [hqueue, lastEffect_append] at hlast
        simp [lastEffect, lastOf, Change.effect, hstored] at hlast
      rw [hlast, decided_none] at hsettles
      replace hsettles : decided (c.effect stored x) (copy x) ↔ false = true ∧ x ∈ stored := hsettles
      rw [decided_none]
      refine iff_of_false (fun hx => ?_) (by simp)
      rcases heffect : c.effect stored x with _ | inside
      · rw [heffect, decided_none] at hsettles
        exact absurd (hsettles.mp hx).1 (by decide)
      · rw [heffect, decided_some] at hsettles
        cases inside with
        | true => exact absurd (hsettles.mp rfl).1 (by decide)
        | false => exact (hout x heffect).elim hstored fun hnot => hnot hx
    · rwa [hlast] at hsettles
  closed _ := h.closed_tail rfl

end Synced

end ContainRes.Store
