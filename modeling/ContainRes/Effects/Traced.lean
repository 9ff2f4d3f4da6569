import ContainRes.Effects.Faults

/-! # Procedures that record what they act on

A traced procedure is a procedure that also leaves a list of the things it has acted on, so that "it
acts on nothing forbidden" is a property of a run. An exception ends the trace together with the run.

* **`Traced`**, **`Traced.emit`**, **`Traced.observe`** — the monad, an entry of the trace, and a procedure
  whose entries are read off the states before and after it.
* **`ActsOn P c s`** — everything that `c` acts on from `s` satisfies `P`; `actsOn_bind` and the other
  equivalences take a procedure apart.
* **`Confined I P c C Q`** — from the states of `I`, the condition `C` is enough for `c` to act on `P` only, and
  needed where `c` returns; `Confined.bind`, `Confined.forEach`, … compose the conditions.
* **`Explained R c`** — `R` relates the states before and after each run to its trace; one rule for each
  construct, for every `R` that is reflexive and transitive along traces. -/

namespace ContainRes.Effects

universe u

variable {τ σ ρ ε α β : Type u}

/-- A procedure over the state `σ` with a trace of type `τ`. -/
def Traced (τ σ ε α : Type u) : Type u := σ → (Except ε α × σ) × List τ

namespace Traced

/-- Run a traced procedure from a state. -/
def run (c : Traced τ σ ε α) (s : σ) : Except ε α × σ := (c s).1

/-- What a traced procedure acts on from a state. -/
def trace (c : Traced τ σ ε α) (s : σ) : List τ := (c s).2

instance : Monad (Traced τ σ ε) where
  pure a := fun s => ((.ok a, s), [])
  bind c f := fun s =>
    match c s with
    | ((.ok a, t), l) => ((f a t).1, l ++ (f a t).2)
    | ((.error e, t), l) => ((.error e, t), l)

/-- A procedure, with a trace read off the states before and after it. -/
def observe (changes : σ → σ → List τ) (c : Proc σ ε α) : Traced τ σ ε α :=
  fun s => (c.run s, changes s (c.run s).2)

/-- A procedure that acts on nothing. -/
def lift (c : Proc σ ε α) : Traced τ σ ε α := observe (fun _ _ => []) c

/-- Act on some things. -/
def emit (l : List τ) : Traced τ σ ε PUnit := observe (fun _ _ => l) (pure ⟨⟩)

/-- Raise an exception. -/
def raise (e : ε) : Traced τ σ ε α := lift (Proc.raise e)

/-- Run `c` if `b` holds, and go on in either case. -/
def when (b : Prop) [Decidable b] (c : Traced τ σ ε PUnit) : Traced τ σ ε PUnit :=
  if b then c else pure ⟨⟩

/-- Run `f` on the elements of a list in order; an exception ends the loop. -/
def forEach (f : β → Traced τ σ ε PUnit) : List β → Traced τ σ ε PUnit
  | [] => pure ⟨⟩
  | b :: bs => f b >>= fun _ => forEach f bs

theorem forEach_cons (f : β → Traced τ σ ε PUnit) (b : β) (bs : List β) :
    forEach f (b :: bs) = f b >>= fun _ => forEach f bs := rfl

@[simp] theorem run_pure (a : α) (s : σ) : (pure a : Traced τ σ ε α).run s = (.ok a, s) := rfl

@[simp] theorem trace_pure (a : α) (s : σ) : (pure a : Traced τ σ ε α).trace s = [] := rfl

@[simp] theorem run_observe (changes : σ → σ → List τ) (c : Proc σ ε α) (s : σ) :
    (observe changes c).run s = c.run s := rfl

@[simp] theorem trace_observe (changes : σ → σ → List τ) (c : Proc σ ε α) (s : σ) :
    (observe changes c).trace s = changes s (c.run s).2 := rfl

@[simp] theorem run_lift (c : Proc σ ε α) (s : σ) : (lift c : Traced τ σ ε α).run s = c.run s := rfl

@[simp] theorem trace_lift (c : Proc σ ε α) (s : σ) : (lift c : Traced τ σ ε α).trace s = [] := rfl

@[simp] theorem run_emit (l : List τ) (s : σ) : (emit l : Traced τ σ ε PUnit).run s = (.ok ⟨⟩, s) := rfl

@[simp] theorem trace_emit (l : List τ) (s : σ) : (emit l : Traced τ σ ε PUnit).trace s = l := rfl

@[simp] theorem run_raise (e : ε) (s : σ) : (raise e : Traced τ σ ε α).run s = (.error e, s) := rfl

theorem run_bind (c : Traced τ σ ε α) (f : α → Traced τ σ ε β) (s : σ) : (c >>= f).run s = match c.run s with
      | (.ok a, t) => (f a).run t
      | (.error e, t) => (.error e, t) := by
  change ((c >>= f) s).1 = _
  simp only [bind, run]
  split <;> rename_i h <;> rw [h]

variable {f : α → Traced τ σ ε β} {s t : σ}

theorem run_bind_of_ok {c : Traced τ σ ε α} {a : α} (h : c.run s = (.ok a, t)) : (c >>= f).run s = (f a).run t := by
  rw [run_bind, h]

theorem run_bind_of_error {c : Traced τ σ ε α} {e : ε}
    (h : c.run s = (.error e, t)) : (c >>= f).run s = (.error e, t) := by
  rw [run_bind, h]

theorem trace_bind_of_ok {c : Traced τ σ ε α} {a : α}
    (h : c.run s = (.ok a, t)) : (c >>= f).trace s = c.trace s ++ (f a).trace t := by
  change ((c >>= f) s).2 = _
  simp only [bind, run, trace] at h ⊢
  split <;> rename_i heq <;> rw [heq] at h
  · cases h
    rw [heq]
  · exact absurd (congrArg Prod.fst h) (by simp)

theorem trace_bind_of_error {c : Traced τ σ ε α} {e : ε}
    (h : c.run s = (.error e, t)) : (c >>= f).trace s = c.trace s := by
  change ((c >>= f) s).2 = _
  simp only [bind, run, trace] at h ⊢
  split <;> rename_i heq <;> rw [heq] at h
  · exact absurd (congrArg Prod.fst h) (by simp)
  · rw [heq]

end Traced

open Traced

/-! ## What a run acts on -/

/-- Everything that `c` acts on from `s` satisfies `P`. -/
def ActsOn (P : τ → Prop) (c : Traced τ σ ε α) (s : σ) : Prop := ∀ t ∈ c.trace s, P t

section ActsOn

variable {P : τ → Prop} {s : σ}

@[simp] theorem actsOn_pure (a : α) : ActsOn P (pure a : Traced τ σ ε α) s := by
  simp [ActsOn]

@[simp] theorem actsOn_lift (c : Proc σ ε α) : ActsOn P (lift c) s := by
  simp [ActsOn]

@[simp] theorem actsOn_raise (e : ε) : ActsOn P (Traced.raise e : Traced τ σ ε α) s :=
  actsOn_lift _

@[simp] theorem actsOn_emit {l : List τ} : ActsOn P (emit l : Traced τ σ ε PUnit) s ↔ ∀ t ∈ l, P t := Iff.rfl

theorem actsOn_observe {changes : σ → σ → List τ} {c : Proc σ ε α} :
    ActsOn P (observe changes c) s ↔ ∀ t ∈ changes s (c.run s).2, P t := Iff.rfl

variable {f : α → Traced τ σ ε β}

/-- **Sequencing.** The first part acts on `P` only, and so does the second where it is reached. -/
theorem actsOn_bind {c : Traced τ σ ε α} :
    ActsOn P (c >>= f) s ↔ ActsOn P c s ∧ ∀ a t, c.run s = (.ok a, t) → ActsOn P (f a) t := by
  unfold ActsOn
  rcases hrun : c.run s with ⟨e | a, t⟩
  · rw [trace_bind_of_error hrun]
    constructor
    · intro h
      refine ⟨h, fun a t' heq => ?_⟩
      exact absurd (congrArg Prod.fst heq) (by simp)
    · exact fun h => h.1
  · rw [trace_bind_of_ok hrun]
    constructor
    · intro h
      refine ⟨fun x hx => h x (List.mem_append_left _ hx), fun a' t' heq => ?_⟩
      cases heq
      exact fun x hx => h x (List.mem_append_right _ hx)
    · rintro ⟨hc, hf⟩ x hx
      rcases List.mem_append.mp hx with hx | hx
      · exact hc x hx
      · exact hf a t rfl x hx

theorem actsOn_when {b : Prop} [Decidable b] {c : Traced τ σ ε PUnit} (h : b → ActsOn P c s) :
    ActsOn P (Traced.when b c) s := by
  unfold Traced.when
  split
  · rename_i hb
    exact h hb
  · exact actsOn_pure _

theorem actsOn_bind_of_ok {c : Traced τ σ ε α} {t : σ} {a : α}
    (h : c.run s = (.ok a, t)) : ActsOn P (c >>= f) s ↔ ActsOn P c s ∧ ActsOn P (f a) t := by
  rw [actsOn_bind, h]
  constructor
  · exact fun ⟨hc, hf⟩ => ⟨hc, hf a t rfl⟩
  · rintro ⟨hc, hf⟩
    refine ⟨hc, fun a' t' heq => ?_⟩
    cases heq
    exact hf

theorem actsOn_bind_of_error {c : Traced τ σ ε α} {t : σ} {e : ε}
    (h : c.run s = (.error e, t)) : ActsOn P (c >>= f) s ↔ ActsOn P c s := by
  unfold ActsOn
  rw [trace_bind_of_error h]

end ActsOn

/-! ## Conditions for what a procedure acts on -/

/-- `C` decides whether `c` acts from `s` on `P` only: it is enough, and where `c` returns it is needed. -/
structure Decided (P : τ → Prop) (c : Traced τ σ ε α) (s : σ) (C : Prop) : Prop where
  enough : C → ActsOn P c s
  needed : ∀ a, (c.run s).1 = .ok a → ActsOn P c s → C

/-- From the states of `I`, `C` decides whether `c` acts on `P` only, and `c` leaves a state of `I` and returns
values in `Q`. -/
def Confined (I : σ → Prop) (P : τ → Prop) (c : Traced τ σ ε α) (C : Prop) (Q : α → Prop) : Prop :=
  ∀ s, I s → Decided P c s C ∧ I (c.run s).2 ∧ ∀ a, (c.run s).1 = .ok a → Q a

variable {P : τ → Prop} {s : σ} {C : Prop}

theorem Decided.of_iff {c : Traced τ σ ε α} (h : ActsOn P c s ↔ C) : Decided P c s C :=
  ⟨h.mpr, fun _ _ => h.mp⟩

theorem Decided.congr {c : Traced τ σ ε α} {C D : Prop} (h : Decided P c s C) (hCD : C ↔ D) : Decided P c s D :=
  ⟨fun hD => h.enough (hCD.mpr hD), fun a ha hacts => hCD.mp (h.needed a ha hacts)⟩

theorem Decided.raise {e : ε} : Decided P (Traced.raise e : Traced τ σ ε α) s C :=
  ⟨fun _ => actsOn_raise e, fun _ heq => absurd heq (by simp)⟩

variable {f : β → Traced τ σ ε α} {c : Traced τ σ ε β}

/-- **Sequencing.** The condition is that of both parts, where the second is reached. -/
theorem Decided.bind {C D : Prop} (hc : Decided P c s C) (hf : ∀ b t, c.run s = (.ok b, t) → Decided P (f b) t D) :
    Decided P (c >>= f) s (C ∧ D) := by
  rcases hrun : c.run s with ⟨e | b, t⟩
  · refine ⟨fun h => (actsOn_bind_of_error hrun).mpr (hc.enough h.1), fun a ha => ?_⟩
    rw [run_bind_of_error hrun] at ha
    exact absurd ha (by simp)
  · have hsecond := hf b t hrun
    refine ⟨fun h => (actsOn_bind_of_ok hrun).mpr ⟨hc.enough h.1, hsecond.enough h.2⟩, fun a ha hacts => ?_⟩
    rw [run_bind_of_ok hrun] at ha
    obtain ⟨hacts, hacts'⟩ := (actsOn_bind_of_ok hrun).mp hacts
    exact ⟨hc.needed b (by rw [hrun]) hacts, hsecond.needed a ha hacts'⟩

theorem Decided.bind_of_ok {s t : σ} {b : β}
    {C D : Prop} (hrun : c.run s = (.ok b, t)) (hc : Decided P c s C) (hf : Decided P (f b) t D) :
    Decided P (c >>= f) s (C ∧ D) := by
  refine hc.bind fun b' t' h => ?_
  cases hrun.symm.trans h
  exact hf

theorem Decided.bind_of_error {s t : σ} {e : ε} (hrun : c.run s = (.error e, t)) (hc : C → ActsOn P c s) : Decided P
    (c >>= f) s C := by
  refine ⟨fun hC => (actsOn_bind_of_error hrun).mpr (hc hC), fun a ha => ?_⟩
  rw [run_bind_of_error hrun] at ha
  exact absurd ha (by simp)

/-- Sequencing after a part that acts on nothing. -/
theorem Decided.after_lift {c : Proc σ ε β}
    (hc : Reads c) (hf : ∀ b, (c.run s).1 = .ok b → Decided P (f b) s C) : Decided P (lift c >>= f) s C := by
  have hfirst : Decided P (lift c : Traced τ σ ε β) s True := .of_iff (iff_of_true (actsOn_lift c) trivial)
  refine (hfirst.bind fun b t hrun => ?_).congr (iff_of_eq (true_and C))
  obtain rfl : t = s := hc.eq_of_run hrun
  exact hf b (congrArg Prod.fst hrun)

variable {b : Prop}

theorem Decided.when [Decidable b] {c : Traced τ σ ε PUnit}
    (hc : b → Decided P c s C) (hC : ¬ b → C) : Decided P (Traced.when b c) s C := by
  unfold Traced.when
  split
  · rename_i hb
    exact hc hb
  · rename_i hb
    exact .of_iff (iff_of_true (actsOn_pure _) (hC hb))

namespace Confined

variable {I : σ → Prop} {P : τ → Prop} {C D : Prop} {Q : α → Prop} {R : β → Prop}

theorem congr {c : Traced τ σ ε α} (h : Confined I P c C Q) (hCD : C ↔ D) : Confined I P c D Q :=
  fun s hs => ⟨(h s hs).1.congr hCD, (h s hs).2⟩

theorem decided {c : Traced τ σ ε α} (h : Confined I P c C Q) (hs : I s) (hCD : C ↔ D) : Decided P c s D :=
  (h s hs).1.congr hCD

theorem pure {a : α} (h : Q a) : Confined I P (Pure.pure a : Traced τ σ ε α) True Q := by
  intro s hs
  refine ⟨.of_iff (iff_of_true (actsOn_pure a) trivial), hs, fun a' heq => ?_⟩
  cases heq
  exact h

theorem raise (e : ε) : Confined I P (Traced.raise e : Traced τ σ ε α) C Q :=
  fun _ hs => ⟨.raise, hs, fun _ heq => absurd heq (by simp)⟩

theorem lift {c : Proc σ ε α} (hc : Reads c) (h : ∀ s, I s → ∀ a, (c.run s).1 = .ok a → Q a) :
    Confined I P (Traced.lift c) True Q :=
  fun s hs => ⟨.of_iff (iff_of_true (actsOn_lift c) trivial), (hc s).symm ▸ hs, h s hs⟩

theorem of_actsOn {c : Traced τ σ ε α} (h : ∀ s, I s → ActsOn P c s ∧ I (c.run s).2) :
    Confined I P c True fun _ => True :=
  fun s hs => ⟨.of_iff (iff_of_true (h s hs).1 trivial), (h s hs).2, fun _ _ => trivial⟩

theorem emit {l : List τ} : Confined I P (Traced.emit l : Traced τ σ ε PUnit) (∀ t ∈ l, P t) fun _ => True :=
  fun _ hs => ⟨.of_iff Iff.rfl, hs, fun _ _ => trivial⟩

theorem observe {l : List τ} {c : Proc σ ε α} (hI : ∀ s, I s → I (c.run s).2) :
    Confined I P (Traced.observe (fun _ _ => l) c) (∀ t ∈ l, P t) fun _ => True :=
  fun s hs => ⟨.of_iff Iff.rfl, hI s hs, fun _ _ => trivial⟩

/-- **Sequencing.** The condition is that of both parts. -/
theorem bind (hc : Confined I P c C R) (hf : ∀ b, R b → Confined I P (f b) D Q) : Confined I P (c >>= f) (C ∧ D) Q := by
  intro s hs
  obtain ⟨hfirst, hI, hR⟩ := hc s hs
  have hsecond : ∀ b t, c.run s = (.ok b, t) →
      Decided P (f b) t D ∧ I ((f b).run t).2 ∧ ∀ a, ((f b).run t).1 = .ok a → Q a := by
    intro b t hrun
    rw [hrun] at hI hR
    exact hf b (hR b rfl) t hI
  refine ⟨hfirst.bind fun b t hrun => (hsecond b t hrun).1, ?_⟩
  rcases hrun : c.run s with ⟨e | b, t⟩
  · rw [run_bind_of_error hrun]
    rw [hrun] at hI
    exact ⟨hI, fun a ha => absurd ha (by simp)⟩
  · rw [run_bind_of_ok hrun]
    exact (hsecond b t hrun).2

theorem after (hc : Confined I P c True R) (hf : ∀ b, R b → Confined I P (f b) C Q) : Confined I P (c >>= f) C Q :=
  (bind hc hf).congr (iff_of_eq (true_and C))

theorem before (hc : Confined I P c C R) (hf : ∀ b, R b → Confined I P (f b) True Q) : Confined I P (c >>= f) C Q :=
  (bind hc hf).congr (iff_of_eq (and_true C))

theorem ite [Decidable b] {c d : Traced τ σ ε α} (hc : b → Confined I P c C Q)
    (hd : ¬ b → Confined I P d C Q) : Confined I P (if b then c else d) C Q := by
  by_cases h : b
  · rw [if_pos h]
    exact hc h
  · rw [if_neg h]
    exact hd h

theorem when [Decidable b] {c : Traced τ σ ε PUnit} (hc : b → Confined I P c C fun _ => True) :
    Confined I P (Traced.when b c) (b → C) fun _ => True :=
  ite (fun h => (hc h).congr ⟨fun hC _ => hC, fun himp => himp h⟩)
    fun h => (pure trivial).congr (iff_of_true trivial fun hb => absurd hb h)

theorem mono {c : Traced τ σ ε α} {Q' : α → Prop} (h : Confined I P c C Q) (hQ : ∀ a, Q a → Q' a) :
    Confined I P c C Q' :=
  fun s hs => ⟨(h s hs).1, (h s hs).2.1, fun a ha => hQ a ((h s hs).2.2 a ha)⟩

/-- **Loop rule.** The condition is that of every turn. -/
theorem forEach {xs : List β} {f : β → Traced τ σ ε PUnit} {C : β → Prop}
    (h : ∀ b ∈ xs, Confined I P (f b) (C b) fun _ => True) :
    Confined I P (Traced.forEach f xs) (∀ b ∈ xs, C b) fun _ => True := by
  induction xs with
  | nil => exact (pure trivial).congr (iff_of_true trivial fun _ hmem => absurd hmem List.not_mem_nil)
  | cons b xs ih =>
    rw [forEach_cons]
    refine (bind (h b List.mem_cons_self) fun _ _ => ih fun x hx => h x (List.mem_cons_of_mem _ hx)).congr ?_
    rw [List.forall_mem_cons]

theorem forEach_true {xs : List β} {f : β → Traced τ σ ε PUnit} (h : ∀ b ∈ xs, Confined I P (f b) True fun _ => True) :
    Confined I P (Traced.forEach f xs) True fun _ => True :=
  (forEach h).congr (iff_of_true (fun _ _ => trivial) trivial)

end Confined

/-! ## Traces that explain a run -/

/-- A relation between two states and what is done between them that is reflexive, transitive, and kept
when more is done. -/
structure Explanation (R : σ → σ → List τ → Prop) : Prop where
  refl : ∀ s l, R s s l
  trans : ∀ {s t r l l'}, R s t l → R t r l' → R s r (l ++ l')

/-- The trace of each run of `c` explains what it changes. -/
def Explained (R : σ → σ → List τ → Prop) (c : Traced τ σ ε α) : Prop :=
  ∀ s, R s (c.run s).2 (c.trace s)

namespace Explained

variable {R : σ → σ → List τ → Prop} (hR : Explanation R)

include hR

theorem pure (a : α) : Explained R (Pure.pure a : Traced τ σ ε α) := fun s => hR.refl s _

theorem lift_reads {c : Proc σ ε α} (hc : Reads c) : Explained R (Traced.lift c) := by
  intro s
  rw [run_lift, hc s]
  exact hR.refl s _

theorem raise (e : ε) : Explained R (Traced.raise e : Traced τ σ ε α) := lift_reads hR (Reads.raise e)

theorem emit (l : List τ) : Explained R (Traced.emit l : Traced τ σ ε PUnit) := fun s => hR.refl s _

theorem bind (hc : Explained R c) (hf : ∀ b, Explained R (f b)) : Explained R (c >>= f) := by
  intro s
  have hfirst := hc s
  rcases hrun : c.run s with ⟨e | b, t⟩
  · rw [run_bind_of_error hrun, trace_bind_of_error hrun]
    rwa [hrun] at hfirst
  · rw [run_bind_of_ok hrun, trace_bind_of_ok hrun]
    rw [hrun] at hfirst
    exact hR.trans hfirst (hf b t)

omit hR in
theorem ite [Decidable b] {c d : Traced τ σ ε α} (hc : Explained R c) (hd : Explained R d) :
    Explained R (if b then c else d) := by
  split
  · exact hc
  · exact hd

theorem when [Decidable b] {c : Traced τ σ ε PUnit} (hc : Explained R c) : Explained R (Traced.when b c) :=
  ite hc (pure hR _)

theorem forEach {xs : List β} {f : β → Traced τ σ ε PUnit} (h : ∀ b, Explained R (f b)) :
    Explained R (Traced.forEach f xs) := by
  induction xs with
  | nil => exact pure hR _
  | cons b xs ih =>
    rw [forEach_cons]
    exact bind hR (h b) fun _ => ih

end Explained

end ContainRes.Effects
