import Mathlib.Logic.Relation
import Mathlib.Data.List.Basic

/-! # Labelled systems and their guarded runs

A system is a set of initial states and a partial next-state function driven by labels; every
choice of a scheduler, of the environment or of an input is carried by the label, so that one list
of labels is one interleaving and can be executed.

* **`System.exec`** — run a list of labels, `none` when a label is not enabled.
* **`System.Reach guard`** — the states reached by runs all of whose steps meet `guard`, a
  condition on the state before the step and its label. `System.Reachable` is the unguarded case.
* **`System.Reach.of_exec`** — an execution whose steps meet the guard (`System.Meets`) gives a
  reached state.
* **`System.Reach.invariant`** — the induction rule: what the initial states satisfy and every
  guarded step keeps, every reached state satisfies. -/

namespace ContainRes.Systems

universe u v

variable {σ : Type u} {α : Type v}

/-- A labelled system: initial states and a partial next-state function. -/
structure System (σ : Type u) (α : Type v) where
  /-- The states a run may start in. -/
  init : σ → Prop
  /-- One step under a label; `none` when the label is not enabled in the state. -/
  next : σ → α → Option σ

namespace System

variable (sys : System σ α)

/-- Execute a list of labels from a state; `none` as soon as one of them is not enabled. -/
def exec (s : σ) : List α → Option σ
  | [] => some s
  | a :: as => (sys.next s a).bind fun t => exec t as

@[simp] theorem exec_nil (s : σ) : sys.exec s [] = some s := rfl

@[simp] theorem exec_cons (s : σ) (a : α) (as : List α) :
    sys.exec s (a :: as) = (sys.next s a).bind fun t => sys.exec t as := rfl

/-- Executing an appended list is executing its two parts one after the other. -/
theorem exec_append (s : σ) (as bs : List α) : sys.exec s (as ++ bs) = (sys.exec s as).bind fun t => sys.exec t bs := by
  induction as generalizing s with
  | nil => rfl
  | cons a as ih =>
    rw [List.cons_append, exec_cons, exec_cons, Option.bind_assoc]
    exact congrArg _ (funext fun t => ih t)

/-- The states reached from an initial state by steps that all meet `guard`. -/
inductive Reach (guard : σ → α → Prop) : σ → Prop
  | init {s : σ} (h : sys.init s) : Reach guard s
  | step {s t : σ} {a : α} (h : Reach guard s) (hg : guard s a) (hn : sys.next s a = some t) :
      Reach guard t

/-- The states reached by any run. -/
def Reachable (s : σ) : Prop := sys.Reach (fun _ _ => True) s

variable {sys} {s : σ}

theorem Reach.mono {guard guard' : σ → α → Prop} (himp : ∀ s a, guard s a → guard' s a)
    (h : sys.Reach guard s) : sys.Reach guard' s := by
  induction h with
  | init h => exact .init h
  | step _ hg hn ih => exact .step ih (himp _ _ hg) hn

variable {guard : σ → α → Prop}

theorem Reach.reachable (h : sys.Reach guard s) : sys.Reachable s :=
  h.mono fun _ _ _ => trivial

/-- **Invariant rule for guarded runs.** A property of the initial states that every step meeting
the guard keeps holds in every state such runs reach. -/
theorem Reach.invariant {I : σ → Prop} (hinit : ∀ s, sys.init s → I s)
    (hstep : ∀ s a t, I s → guard s a → sys.next s a = some t → I t) (h : sys.Reach guard s) : I s := by
  induction h with
  | init h => exact hinit _ h
  | step _ hg hn ih => exact hstep _ _ _ ih hg hn

variable (sys) in
/-- Every step of an execution meets the guard. -/
def Meets (guard : σ → α → Prop) : σ → List α → Prop
  | _, [] => True
  | s, a :: as => guard s a ∧ ∀ t, sys.next s a = some t → Meets guard t as

@[simp] theorem meets_nil : sys.Meets guard s [] := trivial

@[simp] theorem meets_cons {a : α} {as : List α} : sys.Meets guard s (a :: as) ↔
      guard s a ∧ ∀ t, sys.next s a = some t → sys.Meets guard t as := Iff.rfl

/-- A guard is met by an appended execution when the parts meet it, the second one after the first. -/
theorem meets_append (as bs : List α) : sys.Meets guard s (as ++ bs) ↔
      sys.Meets guard s as ∧ ∀ t, sys.exec s as = some t → sys.Meets guard t bs := by
  induction as generalizing s with
  | nil =>
    rw [List.nil_append, exec_nil]
    refine ⟨fun h => ⟨trivial, fun t ht => Option.some.inj ht ▸ h⟩, fun h => h.2 s rfl⟩
  | cons a as ih =>
    rw [List.cons_append, meets_cons, meets_cons, exec_cons, and_assoc]
    refine and_congr_right fun _ => ⟨fun h => ?_, fun h t ht => ?_⟩
    · refine ⟨fun t ht => (ih.mp (h t ht)).1, fun r hr => ?_⟩
      obtain ⟨t, ht, hrest⟩ := Option.bind_eq_some_iff.mp hr
      exact (ih.mp (h t ht)).2 r hrest
    · refine ih.mpr ⟨h.1 t ht, fun r hr => h.2 r ?_⟩
      rw [ht]
      exact hr

/-- Two guards that agree on the states of an invariant are met by the same executions; the invariant has to be kept
by the steps that meet the first one only. -/
theorem meets_congr {guard guard' : σ → α → Prop} {I : σ → Prop}
    (hstep : ∀ s a t, I s → guard s a → sys.next s a = some t → I t)
    (hiff : ∀ s a, I s → (guard s a ↔ guard' s a)) (hs : I s) (as : List α) :
    sys.Meets guard s as ↔ sys.Meets guard' s as := by
  induction as generalizing s with
  | nil => exact Iff.rfl
  | cons a as ih =>
    rw [meets_cons, meets_cons, ← hiff s a hs]
    refine and_congr_right fun hguard => ?_
    exact forall_congr' fun t => imp_congr_right fun hnext => ih (hstep s a t hs hguard hnext)

/-- The state that an execution leads to is reached, by steps that meet the guard when those of the
execution do. -/
theorem Reach.of_exec {s t : σ} {as : List α} (hs : sys.Reach guard s)
    (hg : sys.Meets guard s as) (h : sys.exec s as = some t) : sys.Reach guard t := by
  induction as generalizing s with
  | nil =>
    rw [exec_nil, Option.some.injEq] at h
    exact h ▸ hs
  | cons a as ih =>
    rw [exec_cons, Option.bind_eq_some_iff] at h
    obtain ⟨r, hr, hrest⟩ := h
    obtain ⟨ha, has⟩ := hg
    exact ih (.step hs ha hr) (has r hr) hrest

/-- The state that an execution leads to from a reachable one is reachable. -/
theorem Reachable.of_exec {s t : σ} {as : List α} (hs : sys.Reachable s)
    (h : sys.exec s as = some t) : sys.Reachable t := by
  refine Reach.of_exec hs ?_ h
  clear h hs
  induction as generalizing s with
  | nil => exact meets_nil
  | cons a as ih => exact ⟨trivial, fun t _ => ih⟩

end System

end ContainRes.Systems
