import ContainRes.Effects.Proc

/-! # Calls that fail and messages that are delivered again

A call to a service may be answered, may fail before it took effect, or may take effect and fail
afterwards; `Proc.attempt` runs a call with one of these outcomes. A message whose handler raises is
delivered again, and a delivery may meet other outcomes than the one before.

* **`Outcome`**, **`Proc.attempt`** — one call.
* **`Proc.zoom`** — a procedure on a part of the state.
* **`Proc.redeliver`** — a handler run again, with the next outcomes, until it returns.
* **`Along`** — a condition that each delivery meets at the state it starts from;
  `redeliver_of_along` is the rule for the whole run. -/

namespace ContainRes.Effects

universe u

variable {σ τ ε α ω : Type u}

/-- What becomes of a call. -/
inductive Outcome
  /-- The call takes effect and is answered. -/
  | done
  /-- The call fails without an effect. -/
  | failed
  /-- The call takes effect, and what follows it fails. -/
  | lost
  deriving DecidableEq, Repr

namespace Proc

/-- Run a call with an outcome; `e` is the exception of one that fails. -/
def attempt (o : Outcome) (e : ε) (c : Proc σ ε α) : Proc σ ε α :=
  match o with
  | .done => c
  | .failed => raise e
  | .lost => c >>= fun _ => raise e

@[simp] theorem attempt_done (e : ε) (c : Proc σ ε α) : attempt .done e c = c := rfl

@[simp] theorem run_attempt_failed (e : ε) (c : Proc σ ε α) (s : σ) : (attempt .failed e c).run s = (.error e, s) := rfl

variable {c : Proc σ ε α}

theorem run_attempt_lost {e : ε} {s t : σ} {a : α} (h : c.run s = (.ok a, t)) :
    (attempt .lost e c).run s = (.error e, t) := by
  unfold attempt
  rw [run_bind_of_ok h, run_raise]

/-- A call with any outcome leaves what the call would leave, or nothing changed. -/
theorem run_attempt_cases {o : Outcome} {e : ε} {s t : σ} {r : Except ε α}
    (h : (attempt o e c).run s = (r, t)) : (o = .done ∧ c.run s = (r, t)) ∨ (o = .failed ∧ r = .error e ∧ t = s) ∨
      (o = .lost ∧ (∃ e', r = .error e') ∧ t = (c.run s).2) := by
  cases o with
  | done => exact .inl ⟨rfl, h⟩
  | failed =>
    rw [run_attempt_failed, Prod.mk.injEq] at h
    exact .inr (.inl ⟨rfl, h.1.symm, h.2.symm⟩)
  | lost =>
    refine .inr (.inr ⟨rfl, ?_⟩)
    unfold attempt at h
    rw [run_bind] at h
    rcases hc : c.run s with ⟨e' | a, t'⟩
    · rw [hc] at h
      cases h
      exact ⟨⟨e', rfl⟩, rfl⟩
    · rw [hc] at h
      cases h
      exact ⟨⟨e, rfl⟩, rfl⟩

theorem done_of_returns_attempt {o : Outcome} {e : ε} {s t : σ} {a : α}
    (h : Returns (attempt o e c) s a t) : o = .done := by
  rcases run_attempt_cases h with ⟨hdone, -⟩ | ⟨-, herr, -⟩ | ⟨-, ⟨e', herr⟩, -⟩
  · exact hdone
  · exact absurd herr (by simp)
  · exact absurd herr (by simp)

/-- A read that is not answered raises and leaves the state as it is. -/
theorem run_attempt_of_reads {o : Outcome} (e : ε) (hc : Reads c) (ho : o ≠ .done)
    (s : σ) : ∃ e', (attempt o e c).run s = (.error e', s) := by
  cases o with
  | done => exact absurd rfl ho
  | failed => exact ⟨e, rfl⟩
  | lost =>
    have hstate := hc s
    unfold attempt
    rw [run_bind]
    rcases hrun : c.run s with ⟨e' | a, t⟩ <;> rw [hrun] at hstate <;> obtain rfl : t = s := hstate
    · exact ⟨e', rfl⟩
    · exact ⟨e, rfl⟩

/-- Run a procedure on the part of the state that `get` reads and `set` writes. -/
def zoom (get : τ → σ) (set : σ → τ → τ) (c : Proc σ ε α) : Proc τ ε α := fun t =>
  ((c.run (get t)).1, set (c.run (get t)).2 t)

theorem run_zoom (get : τ → σ) (set : σ → τ → τ) (c : Proc σ ε α) (t : τ) :
    (zoom get set c).run t = ((c.run (get t)).1, set (c.run (get t)).2 t) := rfl

theorem run_zoom_of {get : τ → σ} {set : σ → τ → τ} {t : τ} {r : Except ε α} {s : σ}
    (h : c.run (get t) = (r, s)) : (zoom get set c).run t = (r, set s t) := by
  rw [run_zoom, h]

/-- Run a handler on the outcomes of a list of deliveries, one after the other as long as it raises, and
at the end on `last`. -/
def redeliver (handler : ω → Proc σ ε PUnit) (last : ω) : List ω → Proc σ ε PUnit
  | [] => handler last
  | o :: os => tryCatch (handler o) fun _ => redeliver handler last os

end Proc

open Proc

variable {c : Proc σ ε α}

theorem Keeps.attempt {I : σ → Prop} (hc : Keeps I c) (o : Outcome) (e : ε) : Keeps I (Proc.attempt o e c) := by
  cases o with
  | done => exact hc
  | failed => exact Keeps.raise e
  | lost => exact Keeps.bind hc fun _ => Keeps.raise e

/-- A call returns when it is answered and returns by itself. -/
theorem OkIff.attempt {I : σ → Prop} {C : Prop} (hc : OkIff I c C) (o : Outcome) (e : ε) :
    OkIff I (Proc.attempt o e c) (o = .done ∧ C) := by
  refine ⟨Keeps.attempt hc.1 o e, fun s hs => ?_⟩
  constructor
  · rintro ⟨a, t, hrun⟩
    obtain rfl := done_of_returns_attempt hrun
    exact ⟨rfl, (hc.2 s hs).mp ⟨a, t, hrun⟩⟩
  · rintro ⟨rfl, hC⟩
    exact (hc.2 s hs).mpr hC

/-- A procedure on a part of the state keeps what its runs there keep. -/
theorem Keeps.zoom {I : τ → Prop} {get : τ → σ} {set : σ → τ → τ}
    (h : ∀ t, I t → I (set (c.run (get t)).2 t)) : Keeps I (Proc.zoom get set c) :=
  Keeps.of_state h

/-- A procedure that only reads a part of the state only reads the state. -/
theorem Reads.zoom {get : τ → σ} {set : σ → τ → τ} (hc : Reads c)
    (h : ∀ t, set (get t) t = t) : Reads (Proc.zoom get set c) := by
  intro t
  rw [run_zoom, hc (get t)]
  exact h t

/-- Each delivery of a run meets `C` at the state it starts from. -/
def Along (handler : ω → Proc σ ε PUnit) (C : ω → σ → Prop) : List ω → σ → Prop
  | [], _ => True
  | o :: os, s => C o s ∧ ∀ e t, (handler o).run s = (.error e, t) → Along handler C os t

variable {handler : ω → Proc σ ε PUnit} {C : ω → σ → Prop}

/-- **Redelivery.** `I` holds of the state at each delivery. A delivery from there that meets `C` returns
in `Q` or raises in `I`, and the last one returns in `Q`: so the run returns in `Q`. -/
theorem redeliver_of_along {I Q : σ → Prop} {last : ω}
    (hstep : ∀ o, Triple (fun s => I s ∧ C o s) (handler o) (fun _ => Q) fun _ => I)
    (hlast : Triple (fun s => I s ∧ C last s) (handler last) (fun _ => Q) fun _ _ => False)
    (os : List ω) {s : σ} (hs : I s) (h : Along handler C (os ++ [last]) s) :
    ∃ t, (redeliver handler last os).run s = (.ok ⟨⟩, t) ∧ Q t := by
  induction os generalizing s with
  | nil =>
    rcases hrun : (handler last).run s with ⟨e | u, t⟩
    · exact absurd (hlast.of_error ⟨hs, h.1⟩ hrun) id
    · exact ⟨t, hrun, hlast.of_ok ⟨hs, h.1⟩ hrun⟩
  | cons o os ih =>
    obtain ⟨hC, hrest⟩ := h
    unfold redeliver
    rw [run_tryCatch]
    rcases hrun : (handler o).run s with ⟨e | u, t⟩
    · have hI : I t := (hstep o).of_error ⟨hs, hC⟩ hrun
      exact ih hI (hrest e t hrun)
    · exact ⟨t, rfl, (hstep o).of_ok ⟨hs, hC⟩ hrun⟩

end ContainRes.Effects
