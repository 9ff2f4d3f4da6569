import ContainRes.Effects.Proc

/-! # Procedures with a known outcome

A loop that collects what it returns for every element, and procedures of which it is known when they return and
what holds then. The condition does not look at the state, as long as the state satisfies an invariant.

* **`Proc.collect`** — a procedure is run for every element of a list, and what it returns is collected.
* **`Settles I c C J`** — from a state with `I`, `c` returns when `C` holds, with `J`, and raises when not.
* **`Settles.bind`**, **`Settles.collect`**, … — the rules. -/

namespace ContainRes.Effects

universe u

variable {σ ε α β : Type u}

/-- Run `f` on the elements of a list in order and collect what it returns; an exception ends the loop. -/
def Proc.collect (f : β → Proc σ ε α) : List β → Proc σ ε (List α)
  | [] => pure []
  | b :: bs => do
    let a ← f b
    let as ← Proc.collect f bs
    return a :: as

variable {R : β → α → Prop} {xs : List β}

/-- Every element of the first of two related lists is related to one of the second. -/
theorem exists_of_forall₂ {ys : List α} (h : List.Forall₂ R xs ys) {x : β} (hx : x ∈ xs) : ∃ y ∈ ys, R x y := by
  induction h with
  | nil => exact absurd hx List.not_mem_nil
  | cons hfirst _ ih =>
    rcases List.mem_cons.mp hx with rfl | hlater
    · exact ⟨_, List.mem_cons_self, hfirst⟩
    · obtain ⟨y, hy, hR⟩ := ih hlater
      exact ⟨y, List.mem_cons_of_mem _ hy, hR⟩

theorem map_eq_of_forall₂ {γ : Type u} {f : β → γ} {g : α → γ}
    (hR : ∀ x y, R x y → g y = f x) {ys : List α} (h : List.Forall₂ R xs ys) : ys.map g = xs.map f := by
  induction h with
  | nil => rfl
  | cons hfirst _ ih => rw [List.map_cons, List.map_cons, hR _ _ hfirst, ih]

/-- What holds of everything that is related holds of the second of two related lists. -/
theorem forall_of_forall₂ {p : α → Prop} (hR : ∀ x y, R x y → p y)
    {ys : List α} (h : List.Forall₂ R xs ys) : ∀ y ∈ ys, p y := by
  induction h with
  | nil => exact fun y hy => absurd hy List.not_mem_nil
  | cons hfirst _ ih => exact List.forall_mem_cons.mpr ⟨hR _ _ hfirst, ih⟩

/-- A list is mapped when each of its elements is. -/
theorem mapM_cases (f : β → Except ε α) (xs : List β) :
    (∃ ys, xs.mapM f = .ok ys ∧ List.Forall₂ (fun x y => f x = .ok y) xs ys) ∨
      (∃ e, xs.mapM f = .error e) ∧ ∃ x ∈ xs, ∃ e, f x = .error e := by
  induction xs with
  | nil => exact .inl ⟨[], rfl, .nil⟩
  | cons x xs ih =>
    rw [List.mapM_cons]
    cases hx : f x with
    | error e => exact .inr ⟨⟨e, rfl⟩, x, List.mem_cons_self, e, hx⟩
    | ok y =>
      rcases ih with ⟨ys, hys, hall⟩ | ⟨⟨e, herr⟩, x', hx', hfail⟩
      · exact .inl ⟨y :: ys, by rw [hys]; rfl, .cons hx hall⟩
      · exact .inr ⟨⟨e, by rw [herr]; rfl⟩, x', List.mem_cons_of_mem _ hx', hfail⟩

/-- From the states with `I`, `c` returns with `J` if `C` holds, and raises if not. -/
def Settles (I : σ → Prop) (c : Proc σ ε α) (C : Prop) (J : α → σ → Prop) : Prop :=
  ∀ s, I s → (C ∧ ∃ a t, c.run s = (.ok a, t) ∧ J a t) ∨ (¬ C ∧ ∃ e t, c.run s = (.error e, t))

namespace Settles

variable {I : σ → Prop} {C D : Prop} {J : α → σ → Prop}

theorem pure {a : α} (h : ∀ s, I s → J a s) : Settles I (Pure.pure a : Proc σ ε α) True J :=
  fun s hs => .inl ⟨trivial, a, s, rfl, h s hs⟩

theorem liftExcept (r : Except ε α) : Settles I (Proc.liftExcept r) (∃ a, r = .ok a) fun a t => r = .ok a ∧ I t := by
  intro s hs
  cases r with
  | error e => exact .inr ⟨by simp, e, s, rfl⟩
  | ok a => exact .inl ⟨⟨a, rfl⟩, a, s, rfl, rfl, hs⟩

variable {f : β → Proc σ ε α}

/-- The second part may use what is known of the value of the first. -/
theorem bind {c : Proc σ ε β} {F : β → Prop} {K : σ → Prop}
    (hc : Settles I c C fun b t => F b ∧ K t) (hf : ∀ b, F b → Settles K (f b) D J) :
    Settles I (c >>= f) (C ∧ D) J := by
  intro s hs
  rcases hc s hs with ⟨hC, b, t, hrun, hF, hK⟩ | ⟨hC, e, t, hrun⟩
  · rcases hf b hF t hK with ⟨hD, a, r, hrun', hJ⟩ | ⟨hD, e, r, hrun'⟩
    · exact .inl ⟨⟨hC, hD⟩, a, r, (Proc.run_bind_of_ok hrun).trans hrun', hJ⟩
    · exact .inr ⟨fun h => hD h.2, e, r, (Proc.run_bind_of_ok hrun).trans hrun'⟩
  · exact .inr ⟨fun h => hC h.1, e, t, Proc.run_bind_of_error hrun⟩

theorem bind_ok {r : Except ε β} {b : β} (hr : r = .ok b) (h : Settles I (f b) C J) :
    Settles I (Proc.liftExcept r >>= f) C J := by
  rw [hr]
  exact h

theorem bind_error {r : Except ε β} {e : ε} (hr : r = .error e) (hC : ¬ C) :
    Settles I (Proc.liftExcept r >>= f) C J := by
  rw [hr]
  exact fun s _ => .inr ⟨hC, e, s, rfl⟩

theorem conseq {c : Proc σ ε α} {I' : σ → Prop} {J' : α → σ → Prop} (h : Settles I c C J) (hCD : C ↔ D)
    (hI : ∀ s, I' s → I s) (hJ : ∀ a s, C → J a s → J' a s) : Settles I' c D J' := by
  intro s hs
  rcases h s (hI s hs) with ⟨hC, a, t, hrun, hK⟩ | ⟨hC, hraise⟩
  · exact .inl ⟨hCD.mp hC, a, t, hrun, hJ a t hC hK⟩
  · exact .inr ⟨fun hD => hC (hCD.mpr hD), hraise⟩

/-- A value that is looked at under a condition. -/
theorem whenLift {b : Prop} [Decidable b] (r : Except ε PUnit) :
    Settles I (Proc.when b (Proc.liftExcept r)) (b → r = .ok ⟨⟩) fun _ t => True ∧ I t := by
  intro s hs
  by_cases hb : b
  · cases r with
    | error e => exact .inr ⟨fun h => absurd (h hb) (by simp), e, s, Proc.run_when_pos hb s⟩
    | ok u => exact .inl ⟨fun _ => rfl, u, s, Proc.run_when_pos hb s, trivial, hs⟩
  · exact .inl ⟨fun hb' => absurd hb' hb, ⟨⟩, s, Proc.run_when_neg hb s, trivial, hs⟩

/-- A loop returns when every round does, and the rounds keep `I`. -/
theorem collect {C : β → Prop} (h : ∀ b ∈ xs, Settles I (f b) (C b) fun a t => R b a ∧ I t) :
    Settles I (Proc.collect f xs) (∀ b ∈ xs, C b) fun as t => List.Forall₂ R xs as ∧ I t := by
  induction xs with
  | nil => exact fun s hs => .inl ⟨fun b hb => absurd hb List.not_mem_nil, [], s, rfl, .nil, hs⟩
  | cons b bs ih =>
    have hrest := ih fun x hx => h x (List.mem_cons_of_mem _ hx)
    intro s hs
    rcases h b List.mem_cons_self s hs with ⟨hC, a, t, hrun, hR, hI⟩ | ⟨hC, e, t, hrun⟩
    · rcases hrest t hI with ⟨hCs, as, r, hrun', hRs, hI'⟩ | ⟨hCs, e, r, hrun'⟩
      · refine .inl ⟨List.forall_mem_cons.mpr ⟨hC, hCs⟩, a :: as, r, ?_, .cons hR hRs, hI'⟩
        exact (Proc.run_bind_of_ok hrun).trans (Proc.run_bind_of_ok hrun')
      · refine .inr ⟨fun hall => hCs (List.forall_mem_cons.mp hall).2, e, r, ?_⟩
        exact (Proc.run_bind_of_ok hrun).trans (Proc.run_bind_of_error hrun')
    · exact .inr ⟨fun hall => hC (List.forall_mem_cons.mp hall).1, e, t, Proc.run_bind_of_error hrun⟩

end Settles

end ContainRes.Effects
