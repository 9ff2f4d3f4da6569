import ContainRes.Effects.Proc
import ContainRes.Store.Replica

/-! # Procedures that put elements into a set and take them out

A state shows a set. A procedure puts elements into it and takes elements out, one after the other, and may
be broken off on the way.

* **`Decides`** — the effects of a procedure on each element, in order: where it returns the last of them
  decides, and where it raises some of them happened. It composes along `bind` and `forEach`.
* **`sets`** — the same effect on all elements of a list; several of them in a row are one
  (`Decides.sets_bind`, `Decides.sets_forEach`). -/

namespace ContainRes.Effects

open Store Proc

universe u v

variable {σ ε α β : Type u} {ι : Type v}

/-! ## Effects in a row -/

/-- An element that is in after some effects was in before, or was put in. -/
theorem of_decided_lastOf {effects : List (Option Bool)} {before : Prop}
    (h : decided (lastOf effects) before) : before ∨ some true ∈ effects := by
  induction effects generalizing before with
  | nil => exact .inl h
  | cons effect effects ih =>
    rw [decided_lastOf_cons] at h
    rcases ih h with h | h
    · rcases effect with _ | inside
      · exact .inl h
      · rw [decided_some] at h
        exact .inr (by rw [h]; exact List.mem_cons_self)
    · exact .inr (List.mem_cons_of_mem _ h)

/-- An element that was in before some effects is in after them, or was taken out. -/
theorem decided_lastOf_of (effects : List (Option Bool)) {before : Prop} (h : before) :
    decided (lastOf effects) before ∨ some false ∈ effects := by
  induction effects generalizing before with
  | nil => exact .inl h
  | cons effect effects ih =>
    rw [decided_lastOf_cons]
    rcases effect with _ | inside
    · exact (ih h).imp_right (List.mem_cons_of_mem _)
    · cases inside with
      | true => exact (ih rfl).imp_right (List.mem_cons_of_mem _)
      | false => exact .inr List.mem_cons_self

variable {inside : Bool}

/-- Effects that are all the same effect, or none. -/
theorem lastOf_eq_of_forall {effects : List (Option Bool)}
    (h : ∀ effect ∈ effects, effect = none ∨ effect = some inside) :
    lastOf effects = if some inside ∈ effects then some inside else none := by
  induction effects with
  | nil => rfl
  | cons effect effects ih =>
    rw [List.forall_mem_cons] at h
    rw [lastOf, ih h.2]
    rcases h.1 with rfl | rfl
    · by_cases hmem : some inside ∈ effects <;> simp [hmem]
    · by_cases hmem : some inside ∈ effects <;> simp [hmem]

/-! ## The effects of a procedure -/

/-- The effects `e y` on each element `y` happen one after the other: all of them where the procedure
returns, and some of them where it raises. -/
def Decides (Shows : (ι → Prop) → σ → Prop) (e : ι → List (Option Bool)) (c : Proc σ ε α) : Prop :=
  ∀ copy, Triple (Shows copy) c (fun _ => Shows fun y => decided (lastOf (e y)) (copy y)) fun _ s =>
    ∃ copy', Shows copy' s ∧ ∀ y, (copy' y → copy y ∨ some true ∈ e y) ∧
      (copy y → copy' y ∨ some false ∈ e y)

namespace Decides

variable {Shows : (ι → Prop) → σ → Prop} {e e' : ι → List (Option Bool)} {c : Proc σ ε β}
  {f : β → Proc σ ε α}

/-- The effects of the same elements in another form. -/
theorem congr (h : Decides Shows e c) (hlast : ∀ y, lastOf (e y) = lastOf (e' y))
    (hmem : ∀ y inside, some inside ∈ e y → some inside ∈ e' y) : Decides Shows e' c := by
  intro copy
  refine (h copy).conseq (fun _ hs => hs) (fun _ s hs => ?_) fun _ s hs => ?_
  · have hsame : (fun y => decided (lastOf (e y)) (copy y)) = fun y => decided (lastOf (e' y)) (copy y) :=
      funext fun y => by rw [hlast]
    rwa [hsame] at hs
  · obtain ⟨copy', hshows, hbetween⟩ := hs
    refine ⟨copy', hshows, fun y => ⟨fun hy => ?_, fun hy => ?_⟩⟩
    · exact ((hbetween y).1 hy).imp_right (hmem y true)
    · exact ((hbetween y).2 hy).imp_right (hmem y false)

theorem raise (e : ι → List (Option Bool)) (exc : ε) : Decides Shows e (Proc.raise exc : Proc σ ε α) :=
  fun copy => Triple.raise fun _ hs => ⟨copy, hs, fun _ => ⟨.inl, .inl⟩⟩

theorem pure (a : α) : Decides Shows (fun _ => []) (Pure.pure a : Proc σ ε α) :=
  fun _ => Triple.pure fun _ hs => hs

theorem modify {g : σ → σ} (h : ∀ copy s, Shows copy s → Shows (fun y => decided (lastOf (e y)) (copy y)) (g s)) :
    Decides Shows e (Proc.modify g : Proc σ ε PUnit) :=
  fun copy => Triple.modify fun s hs => h copy s hs

/-- Effects one after the other. -/
theorem bind (hc : Decides Shows e c) (hf : ∀ b, Decides Shows e' (f b)) :
    Decides Shows (fun y => e y ++ e' y) (c >>= f) := by
  intro copy
  refine Triple.bind ((hc copy).conseq (fun _ hs => hs) (fun _ _ hs => hs) fun _ s hs => ?_) fun b =>
    (hf b _).conseq (fun _ hs => hs) (fun _ s hs => ?_) fun _ s hs => ?_
  · -- the first procedure was broken off
    obtain ⟨copy', hshows, hbetween⟩ := hs
    refine ⟨copy', hshows, fun y => ⟨fun hy => ?_, fun hy => ?_⟩⟩
    · exact ((hbetween y).1 hy).imp_right (List.mem_append_left _)
    · exact ((hbetween y).2 hy).imp_right (List.mem_append_left _)
  · have hsame : (fun y => decided (lastOf (e' y)) (decided (lastOf (e y)) (copy y))) =
        fun y => decided (lastOf (e y ++ e' y)) (copy y) :=
      funext fun y => by rw [lastOf_append, propext (decided_or _ _ _)]
    rwa [hsame] at hs
  · -- the second one was
    obtain ⟨copy', hshows, hbetween⟩ := hs
    refine ⟨copy', hshows, fun y => ⟨fun hy => ?_, fun hy => ?_⟩⟩
    · rcases (hbetween y).1 hy with hy | hy
      · exact (of_decided_lastOf hy).imp_right (List.mem_append_left _)
      · exact .inr (List.mem_append_right _ hy)
    · rcases decided_lastOf_of (e y) hy with hy | hy
      · exact ((hbetween y).2 hy).imp_right (List.mem_append_right _)
      · exact .inr (List.mem_append_left _ hy)

theorem bind_none (hc : Decides Shows (fun _ => []) c) (hf : ∀ b, Decides Shows e (f b)) :
    Decides Shows e (c >>= f) := bind hc hf

/-- Reading before the effects, which may depend on what is read. -/
theorem bind_reads {R : β → Prop} (hc : Reads c) (hvalue : ∀ copy s b t, Shows copy s → c.run s = (.ok b, t) → R b)
    (hf : ∀ b, R b → Decides Shows e (f b)) : Decides Shows e (c >>= f) := by
  intro copy
  refine Triple.bind (R := fun b s => R b ∧ Shows copy s) (Triple.intro (fun s b t hs hrun => ?_)
    fun s exc t hs hrun => ?_) fun b => ?_
  · obtain rfl := hc.eq_of_run hrun
    exact ⟨hvalue copy _ b _ hs hrun, hs⟩
  · obtain rfl := hc.eq_of_run hrun
    exact ⟨copy, hs, fun _ => ⟨.inl, .inl⟩⟩
  · rintro s ⟨hb, hs⟩
    exact hf b hb copy s hs

theorem bind_any (hc : Reads c) (hf : ∀ b, Decides Shows e (f b)) : Decides Shows e (c >>= f) :=
  bind_reads (R := fun _ => True) hc (fun _ _ _ _ _ _ => trivial) fun b _ => hf b

theorem forEach {γ : Type u} {f : γ → Proc σ ε PUnit} {e : γ → ι → List (Option Bool)} {bs : List γ}
    (h : ∀ b ∈ bs, Decides Shows (e b) (f b)) :
    Decides Shows (fun y => bs.flatMap fun b => e b y) (Proc.forEach f bs) := by
  induction bs with
  | nil => exact pure PUnit.unit
  | cons b bs ih =>
    rw [List.forall_mem_cons] at h
    rw [forEach_cons]
    exact bind h.1 fun _ => ih h.2

end Decides

/-! ## One effect on a list of elements -/

section Sets

variable [DecidableEq ι] {Shows : (ι → Prop) → σ → Prop}

/-- Put in all elements of a list, or take them out. -/
def sets (inside : Bool) (ys : List ι) (y : ι) : List (Option Bool) :=
  [if y ∈ ys then some inside else none]

theorem some_mem_sets {inside inside' : Bool} {ys : List ι} {y : ι} :
    some inside' ∈ sets inside ys y ↔ inside' = inside ∧ y ∈ ys := by
  unfold sets
  by_cases hy : y ∈ ys <;> simp [hy]

@[simp] theorem lastOf_sets (inside : Bool) (ys : List ι) (y : ι) :
    lastOf (sets inside ys y) = if y ∈ ys then some inside else none := by
  simp [sets, lastOf]

/-- Effects that are all one effect, on the elements of a list. -/
theorem Decides.to_sets {e : ι → List (Option Bool)} {c : Proc σ ε α} {ys : List ι}
    (h : Decides Shows e c) (hall : ∀ y, ∀ effect ∈ e y, effect = none ∨ effect = some inside)
    (hmem : ∀ y, some inside ∈ e y ↔ y ∈ ys) : Decides Shows (sets inside ys) c := by
  refine h.congr (fun y => ?_) fun y inside' hin => ?_
  · rw [lastOf_eq_of_forall (hall y), lastOf_sets]
    exact if_congr (hmem y) rfl rfl
  · rw [some_mem_sets]
    rcases hall y _ hin with heq | heq
    · cases heq
    · cases heq
      exact ⟨rfl, (hmem y).mp hin⟩

theorem Decides.sets_congr {c : Proc σ ε α} {ys zs : List ι}
    (h : Decides Shows (sets inside ys) c) (hsame : ∀ y, y ∈ ys ↔ y ∈ zs) : Decides Shows (sets inside zs) c :=
  h.to_sets (fun y effect heffect => by
    rw [sets, List.mem_singleton] at heffect
    by_cases hy : y ∈ ys <;> simp [heffect, hy]) fun y => by simp [some_mem_sets, hsame]

theorem Decides.sets_bind {c : Proc σ ε β} {f : β → Proc σ ε α} {ys zs : List ι}
    (hc : Decides Shows (sets inside ys) c) (hf : ∀ b, Decides Shows (sets inside zs) (f b)) :
    Decides Shows (sets inside (ys ++ zs)) (c >>= f) :=
  (bind hc hf).to_sets (fun y effect heffect => by
    simp only [sets, List.mem_append, List.mem_singleton] at heffect
    rcases heffect with rfl | rfl
    · by_cases hy : y ∈ ys <;> simp [hy]
    · by_cases hy : y ∈ zs <;> simp [hy]) fun y => by simp [some_mem_sets]

theorem Decides.sets_forEach {γ : Type u} {f : γ → Proc σ ε PUnit} {ys : γ → List ι}
    {bs : List γ} (h : ∀ b ∈ bs, Decides Shows (sets inside (ys b)) (f b)) :
    Decides Shows (sets inside (bs.flatMap ys)) (Proc.forEach f bs) :=
  (forEach h).to_sets (fun y effect heffect => by
    obtain ⟨b, -, hb⟩ := List.mem_flatMap.mp heffect
    rw [sets, List.mem_singleton] at hb
    by_cases hy : y ∈ ys b <;> simp [hb, hy]) fun y => by simp [some_mem_sets]

end Sets

end ContainRes.Effects
