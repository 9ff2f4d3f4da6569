import ContainRes.Effects.Thread
import ContainRes.Systems.Guarded

/-! # Interleaved threads

Any number of threads on one shared state. A step is one access of one thread, so a list of labels is an
interleaving of all their accesses.

* **`Threads`** — the shared state and the threads; **`Threads.advance`** is what one access leaves.
* **`interleaved`** — the system.
* **`Reach.threads_invariant`** — the invariant rule for threads that follow protocols: an invariant may speak
  of the points that the threads have reached, and only the accesses that the protocols allow are looked at. -/

namespace ContainRes.Systems

open Effects Function

universe u

variable {ι : Type u} [DecidableEq ι] {Op : Type u} {Ans : Op → Type u} {σ ε α γ : Type u}

/-- Threads on a shared state. -/
structure Threads (ι : Type u) (σ : Type u) (Op : Type u) (Ans : Op → Type u) (ε α : Type u) where
  shared : σ
  thread : ι → Thread Op Ans ε α

variable (serve : (op : Op) → σ → Ans op × σ)

/-- What an access of the thread `i` leaves. -/
def Threads.advance (s : Threads ι σ Op Ans ε α) (i : ι) (op : Op) (next : Ans op → Thread Op Ans ε α) :
    Threads ι σ Op Ans ε α where
  shared := (serve op s.shared).2
  thread := update s.thread i (next (serve op s.shared).1)

/-- The system of the threads that `init` starts. -/
def interleaved (init : Threads ι σ Op Ans ε α → Prop) : System (Threads ι σ Op Ans ε α) ι where
  init := init
  next s i :=
    match s.thread i with
    | .done _ => none
    | .access op next => some (s.advance serve i op next)

variable {serve} {init : Threads ι σ Op Ans ε α → Prop} {s t : Threads ι σ Op Ans ε α} {i : ι}

theorem Threads.thread_advance_self (op : Op) (next : Ans op → Thread Op Ans ε α) :
    (s.advance serve i op next).thread i = next (serve op s.shared).1 := update_self _ _ _

theorem Threads.thread_advance_of_ne {j : ι} (hj : j ≠ i) (op : Op) (next : Ans op → Thread Op Ans ε α) :
    (s.advance serve i op next).thread j = s.thread j := update_of_ne hj _ _

theorem interleaved_next (h : (interleaved serve init).next s i = some t) : ∃ op next,
    s.thread i = .access op next ∧ t = s.advance serve i op next := by
  unfold interleaved at h
  dsimp only at h
  split at h
  · cases h
  · next op next hthread => exact ⟨op, next, hthread, (Option.some.inj h).symm⟩

/-- A thread that is done stays as it is. -/
theorem thread_of_exec {r : Except ε α} (hdone : s.thread i = .done r) {labels : List ι}
    (h : (interleaved serve init).exec s labels = some t) : t.thread i = .done r := by
  induction labels generalizing s with
  | nil =>
    obtain rfl : s = t := Option.some.inj h
    exact hdone
  | cons j labels ih =>
    rw [System.exec_cons, Option.bind_eq_some_iff] at h
    obtain ⟨u, hnext, hrest⟩ := h
    obtain ⟨op, next, hthread, rfl⟩ := interleaved_next hnext
    refine ih ?_ hrest
    have hne : i ≠ j := by
      rintro rfl
      rw [hdone] at hthread
      cases hthread
    exact (update_of_ne hne _ _).trans hdone

variable {p : ι → Protocol Op Ans γ} {Q : ι → γ → α → Prop} {E : ι → γ → ε → Prop}

/-- The threads follow their protocols from the points on. -/
def Threads.Obey (p : ι → Protocol Op Ans γ) (Q : ι → γ → α → Prop) (E : ι → γ → ε → Prop)
    (s : Threads ι σ Op Ans ε α) (point : ι → γ) : Prop :=
  ∀ i, (s.thread i).Obeys (p i) (Q i) (E i) (point i)

/-- The threads follow their protocols after an access whose answer is expected. -/
theorem Threads.Obey.advance {point : ι → γ} (h : s.Obey p Q E point) {op : Op}
    {next : Ans op → Thread Op Ans ε α} (hthread : s.thread i = .access op next)
    (hanswer : (p i).expected op (serve op s.shared).1) : (s.advance serve i op next).Obey p Q E
      (update point i ((p i).after (point i) op (serve op s.shared).1)) := by
  intro j
  have hown := h i
  rw [hthread] at hown
  by_cases hj : j = i
  · subst hj
    rw [Threads.thread_advance_self, update_self]
    exact hown.2 _ hanswer
  · rw [Threads.thread_advance_of_ne hj, update_of_ne hj]
    exact h j

/-- **Invariant rule for threads.** An invariant of the start that every allowed access keeps, and that makes
its answer an expected one, holds in every state of the runs. -/
theorem Reach.threads_invariant {guard : Threads ι σ Op Ans ε α → ι → Prop}
    {I : Threads ι σ Op Ans ε α → (ι → γ) → Prop} (hinit : ∀ s, init s → ∃ point, I s point ∧ s.Obey p Q E point)
    (hstep : ∀ s point i op next, I s point → guard s i → s.Obey p Q E point →
      s.thread i = .access op next → (p i).may (point i) op → (p i).expected op (serve op s.shared).1 ∧
        I (s.advance serve i op next) (update point i ((p i).after (point i) op (serve op s.shared).1)))
    (h : (interleaved serve init).Reach guard s) : ∃ point, I s point ∧ s.Obey p Q E point := by
  induction h with
  | init hs => exact hinit _ hs
  | @step s t i _ hg hn ih =>
    obtain ⟨op, next, hthread, rfl⟩ := interleaved_next hn
    obtain ⟨point, hI, hobey⟩ := ih
    have hown := hobey i
    rw [hthread] at hown
    obtain ⟨hanswer, hkeep⟩ := hstep s point i op next hI hg hobey hthread hown.1
    exact ⟨_, hkeep, hobey.advance hthread hanswer⟩

end ContainRes.Systems
