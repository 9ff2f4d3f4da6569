import Mathlib.Data.List.Basic

/-! # Procedures that raise without rolling back

A procedure reads and writes a state and may raise; the writes made before the exception stay, as
in any imperative language with exceptions and no transactions. `Proc σ ε α` is the monad of such
procedures, `Proc.tryCatch` its handler, and `Triple P c Q E` the partial-correctness judgement with
one postcondition for a normal return and one for an exception.

* `Triple.bind`, `Triple.tryCatch`, `Triple.forEach`, … — one rule for each construct.
* `Reads c` — `c` leaves every state as it is; `Reads.bind`, `Reads.when`, … compose.
* `Keeps I c` — `c` keeps `I` whether it returns or raises; `Keeps.bind`, `Keeps.forEach`, … compose.
* `OkIff I c C` — from the states with `I`, `c` returns exactly when `C` holds, and keeps `I`.
* `Proc.Returns` — the run of `c` from `s` returns a value in a state. -/

namespace ContainRes.Effects

universe u

variable {σ ε α β : Type u}

theorem bind_eq_ok {r : Except ε β} {f : β → Except ε α} {a : α} : r >>= f = .ok a ↔ ∃ b, r = .ok b ∧ f b = .ok a := by
  cases r <;> simp [Bind.bind, Except.bind]

/-- What a list is mapped to comes from its elements. -/
theorem mem_of_mapM {f : α → Except ε β} {xs : List α} {ys : List β} (h : xs.mapM f = .ok ys) {y : β} :
    y ∈ ys ↔ ∃ x ∈ xs, f x = .ok y := by
  induction xs generalizing ys with
  | nil =>
    rw [List.mapM_nil] at h
    rw [← Except.ok.inj h]
    simp
  | cons x xs ih =>
    rw [List.mapM_cons] at h
    obtain ⟨z, hx, hrest⟩ := bind_eq_ok.mp h
    obtain ⟨zs, hxs, hzs⟩ := bind_eq_ok.mp hrest
    rw [← Except.ok.inj hzs, List.mem_cons, ih hxs, List.exists_mem_cons_iff, hx]
    simp only [Except.ok.injEq, eq_comm]

/-- A procedure over the state `σ`: a value or an exception, and the state it leaves behind. -/
def Proc (σ ε α : Type u) : Type u := σ → Except ε α × σ

namespace Proc

/-- Run a procedure from a state. -/
def run (c : Proc σ ε α) (s : σ) : Except ε α × σ := c s

instance : Monad (Proc σ ε) where
  pure a := fun s => (.ok a, s)
  bind c f := fun s =>
    match c s with
    | (.ok a, t) => f a t
    | (.error e, t) => (.error e, t)

/-- Raise an exception. -/
def raise (e : ε) : Proc σ ε α := fun s => (.error e, s)

/-- Run `c` and, if it raises, the handler from the state `c` left. -/
def tryCatch (c : Proc σ ε α) (handler : ε → Proc σ ε α) : Proc σ ε α := fun s =>
  match c s with
  | (.ok a, t) => (.ok a, t)
  | (.error e, t) => handler e t

/-- Read a view of the state. -/
def gets (f : σ → α) : Proc σ ε α := fun s => (.ok (f s), s)

/-- Change the state. -/
def modify (f : σ → σ) : Proc σ ε PUnit := fun s => (.ok ⟨⟩, f s)

/-- Return the value of an `Except`, or raise its exception. -/
def liftExcept : Except ε α → Proc σ ε α
  | .ok a => pure a
  | .error e => raise e

/-- Run `c` if `b` holds, and go on in either case. -/
def when (b : Prop) [Decidable b] (c : Proc σ ε PUnit) : Proc σ ε PUnit :=
  if b then c else pure ⟨⟩

/-- Run `f` on the elements of a list in order; an exception ends the loop. -/
def forEach (f : β → Proc σ ε PUnit) : List β → Proc σ ε PUnit
  | [] => pure ⟨⟩
  | b :: bs => f b >>= fun _ => forEach f bs

variable (f : β → Proc σ ε PUnit)

@[simp] theorem forEach_nil : forEach f [] = pure ⟨⟩ := rfl

theorem forEach_cons (b : β) (bs : List β) : forEach f (b :: bs) = f b >>= fun _ => forEach f bs := rfl

@[simp] theorem run_pure (a : α) (s : σ) : (pure a : Proc σ ε α).run s = (.ok a, s) := rfl

@[simp] theorem run_raise (e : ε) (s : σ) : (raise e : Proc σ ε α).run s = (.error e, s) := rfl

@[simp] theorem run_gets (f : σ → α) (s : σ) : (gets f : Proc σ ε α).run s = (.ok (f s), s) := rfl

@[simp] theorem run_modify (f : σ → σ) (s : σ) : (modify f : Proc σ ε PUnit).run s = (.ok ⟨⟩, f s) := rfl

@[simp] theorem run_liftExcept (r : Except ε α) (s : σ) : (liftExcept r : Proc σ ε α).run s = (r, s) := by
  cases r <;> rfl

theorem run_when (b : Prop) [Decidable b] (c : Proc σ ε PUnit) (s : σ) :
    (when b c).run s = if b then c.run s else (.ok ⟨⟩, s) := by
  unfold when
  split <;> rfl

theorem run_when_pos {b : Prop} [Decidable b] {c : Proc σ ε PUnit} (h : b) (s : σ) : (when b c).run s = c.run s := by
  rw [run_when, if_pos h]

theorem run_when_neg {b : Prop} [Decidable b] {c : Proc σ ε PUnit} (h : ¬ b) (s : σ) :
    (when b c).run s = (.ok ⟨⟩, s) := by
  rw [run_when, if_neg h]

variable (c : Proc σ ε α)

theorem run_bind (f : α → Proc σ ε β) (s : σ) : (c >>= f).run s = match c.run s with
      | (.ok a, t) => (f a).run t
      | (.error e, t) => (.error e, t) := rfl

theorem run_tryCatch (handler : ε → Proc σ ε α) (s : σ) : (tryCatch c handler).run s = match c.run s with
      | (.ok a, t) => (.ok a, t)
      | (.error e, t) => (handler e).run t := rfl

variable {s t : σ}

theorem run_bind_of_ok {c : Proc σ ε α} {f : α → Proc σ ε β} {a : α}
    (h : c.run s = (.ok a, t)) : (c >>= f).run s = (f a).run t := by
  rw [run_bind, h]

theorem run_bind_of_error {c : Proc σ ε α} {f : α → Proc σ ε β} {e : ε}
    (h : c.run s = (.error e, t)) : (c >>= f).run s = (.error e, t) := by
  rw [run_bind, h]

theorem ext {c d : Proc σ ε α} (h : ∀ s, c.run s = d.run s) : c = d := funext h

theorem bind_assoc {γ : Type u} (f : α → Proc σ ε β) (g : β → Proc σ ε γ) :
    c >>= f >>= g = c >>= fun a => f a >>= g := by
  refine ext fun s => ?_
  simp only [run_bind]
  rcases c.run s with ⟨e | a, t⟩ <;> rfl

theorem forEach_append (xs ys : List β) : forEach f (xs ++ ys) = forEach f xs >>= fun _ => forEach f ys := by
  induction xs with
  | nil => rfl
  | cons x xs ih =>
    rw [List.cons_append, forEach_cons, forEach_cons, bind_assoc, ih]

/-- The run of `c` from `s` returns `a` and leaves `t`. -/
def Returns (c : Proc σ ε α) (s : σ) (a : α) (t : σ) : Prop := c.run s = (.ok a, t)

/-- A sequence returns exactly when its first part does and the second does from there. -/
theorem returns_bind {c : Proc σ ε α} {f : α → Proc σ ε β} {b : β} :
    Returns (c >>= f) s b t ↔ ∃ a r, Returns c s a r ∧ Returns (f a) r b t := by
  unfold Returns
  rw [run_bind]
  rcases hc : c.run s with ⟨_ | a, r⟩
  · simp
  · constructor
    · intro h
      exact ⟨a, r, rfl, h⟩
    · rintro ⟨a', r', h', h⟩
      cases h'
      exact h

@[simp] theorem returns_pure {a b : α} : Returns (pure a : Proc σ ε α) s b t ↔ a = b ∧ s = t := by
  simp [Returns]

@[simp] theorem not_returns_raise {e : ε} {b : α} : ¬ Returns (raise e : Proc σ ε α) s b t := by
  simp [Returns]

@[simp] theorem returns_gets {f : σ → α} {b : α} : Returns (gets f : Proc σ ε α) s b t ↔ f s = b ∧ s = t := by
  simp [Returns]

@[simp] theorem returns_modify {f : σ → σ} {b : PUnit} : Returns (modify f : Proc σ ε PUnit) s b t ↔ f s = t := by
  simp [Returns]

/-- A loop that returns has run on each element to its end. -/
theorem returns_of_forEach {f : β → Proc σ ε PUnit} {xs : List β} {u : PUnit}
    (h : Returns (forEach f xs) s u t) {x : β} (hx : x ∈ xs) : ∃ s' t', Returns (f x) s' ⟨⟩ t' := by
  induction xs generalizing s with
  | nil => exact absurd hx List.not_mem_nil
  | cons y ys ih =>
    obtain ⟨⟨⟩, r, hy, hys⟩ := returns_bind.mp h
    rcases List.mem_cons.mp hx with rfl | hlater
    · exact ⟨s, r, hy⟩
    · exact ih hys hlater

end Proc

open Proc

/-! ## Procedures that only read -/

/-- `c` leaves every state as it is, whether it returns or raises. -/
def Reads (c : Proc σ ε α) : Prop := ∀ s, (c.run s).2 = s

namespace Reads

theorem pure (a : α) : Reads (Pure.pure a : Proc σ ε α) := fun _ => rfl

theorem raise (e : ε) : Reads (Proc.raise e : Proc σ ε α) := fun _ => rfl

theorem gets (f : σ → α) : Reads (Proc.gets f : Proc σ ε α) := fun _ => rfl

theorem liftExcept (r : Except ε α) : Reads (Proc.liftExcept r : Proc σ ε α) := fun s => by
  rw [run_liftExcept]

theorem bind {c : Proc σ ε β} {f : β → Proc σ ε α} (hc : Reads c) (hf : ∀ b, Reads (f b)) : Reads (c >>= f) := by
  intro s
  rw [run_bind]
  rcases hr : c.run s with ⟨e | b, t⟩ <;> have ht := hc s <;> rw [hr] at ht
  · exact ht
  · exact (hf b t).trans ht

theorem ite {b : Prop} [Decidable b] {c d : Proc σ ε α} (hc : b → Reads c) (hd : ¬ b → Reads d) :
    Reads (if b then c else d) := by
  by_cases h : b
  · rw [if_pos h]
    exact hc h
  · rw [if_neg h]
    exact hd h

theorem when {b : Prop} [Decidable b] {c : Proc σ ε PUnit} (hc : b → Reads c) : Reads (Proc.when b c) :=
  ite hc fun _ => pure _

theorem whenRaise {b : Prop} [Decidable b] (e : ε) : Reads (Proc.when b (Proc.raise e) : Proc σ ε PUnit) :=
  when fun _ => raise e

theorem forEach {xs : List β} {f : β → Proc σ ε PUnit} (h : ∀ b ∈ xs, Reads (f b)) : Reads (Proc.forEach f xs) := by
  induction xs with
  | nil => exact pure _
  | cons b xs ih =>
    rw [forEach_cons]
    exact bind (h b List.mem_cons_self) fun _ => ih fun x hx => h x (List.mem_cons_of_mem _ hx)

theorem eq_of_run {c : Proc σ ε α} (hc : Reads c) {s t : σ} {r : Except ε α} (h : c.run s = (r, t)) : t = s := by
  have ht := hc s
  rwa [h] at ht

/-- A sequence that starts with a read gives the same in two states where its parts do. -/
theorem result_bind {c : Proc σ ε β} {f : β → Proc σ ε α} (hc : Reads c) {s s' : σ} (h : (c.run s).1 = (c.run s').1)
    (hf : ∀ b, (c.run s).1 = .ok b → ((f b).run s).1 = ((f b).run s').1) :
    ((c >>= f).run s).1 = ((c >>= f).run s').1 := by
  have hs : c.run s = ((c.run s).1, s) := Prod.ext rfl (hc s)
  have hs' : c.run s' = ((c.run s).1, s') := Prod.ext h.symm (hc s')
  rw [run_bind, run_bind, hs, hs']
  rcases hr : (c.run s).1 with e | b
  · rfl
  · exact hf b hr

end Reads

theorem Proc.state_when_raise (b : Prop) [Decidable b] (e : ε) (s : σ) :
    ((Proc.when b (Proc.raise e) : Proc σ ε PUnit).run s).2 = s :=
  Reads.whenRaise e s

variable {f : β → Proc σ ε α} {c : Proc σ ε β}

theorem Proc.state_bind_of_reads (hf : ∀ b, Reads (f b)) (s : σ) : ((c >>= f).run s).2 = (c.run s).2 := by
  rw [run_bind]
  rcases c.run s with ⟨e | b, t⟩
  · rfl
  · exact hf b t

/-! ## Partial correctness with two exits -/

/-- From every state satisfying `P`, `c` returns a value and a state satisfying `Q`, or raises an
exception in a state satisfying `E`. -/
def Triple (P : σ → Prop) (c : Proc σ ε α) (Q : α → σ → Prop) (E : ε → σ → Prop) : Prop :=
  ∀ s, P s →
    match c.run s with
    | (.ok a, t) => Q a t
    | (.error e, t) => E e t

namespace Triple

variable {P P' : σ → Prop} {Q Q' : α → σ → Prop} {E E' : ε → σ → Prop}

theorem of_ok {c : Proc σ ε α} (h : Triple P c Q E) {s t : σ} {a : α} (hP : P s)
    (hr : c.run s = (.ok a, t)) : Q a t := by
  have := h s hP
  rwa [hr] at this

theorem of_error {c : Proc σ ε α} (h : Triple P c Q E) {s t : σ} {e : ε} (hP : P s)
    (hr : c.run s = (.error e, t)) : E e t := by
  have := h s hP
  rwa [hr] at this

/-- What a triple whose two postconditions agree says about the state after a run. -/
theorem state {I : σ → Prop} {c : Proc σ ε α} (h : Triple P c (fun _ => I) fun _ => I) {s : σ}
    (hP : P s) : I (c.run s).2 := by
  rcases hr : c.run s with ⟨e | a, t⟩
  · exact h.of_error hP hr
  · exact h.of_ok hP hr

theorem intro {c : Proc σ ε α} (hok : ∀ s a t, P s → c.run s = (.ok a, t) → Q a t)
    (herr : ∀ s e t, P s → c.run s = (.error e, t) → E e t) : Triple P c Q E := by
  intro s hs
  rcases hc : c.run s with ⟨e | a, t⟩
  · exact herr s e t hs hc
  · exact hok s a t hs hc

theorem conseq {c : Proc σ ε α} (h : Triple P c Q E) (hP : ∀ s, P' s → P s)
    (hQ : ∀ a s, Q a s → Q' a s) (hE : ∀ e s, E e s → E' e s) : Triple P' c Q' E' :=
  intro (fun _ _ _ hs hr => hQ _ _ (h.of_ok (hP _ hs) hr))
    fun _ _ _ hs hr => hE _ _ (h.of_error (hP _ hs) hr)

theorem pure {a : α} (h : ∀ s, P s → Q a s) : Triple P (Pure.pure a : Proc σ ε α) Q E :=
  fun s hs => h s hs

theorem raise {e : ε} (h : ∀ s, P s → E e s) : Triple P (Proc.raise e : Proc σ ε α) Q E :=
  fun s hs => h s hs

theorem gets {f : σ → α} (h : ∀ s, P s → Q (f s) s) : Triple P (Proc.gets f : Proc σ ε α) Q E :=
  fun s hs => h s hs

theorem modify {f : σ → σ} {Q : PUnit → σ → Prop} (h : ∀ s, P s → Q ⟨⟩ (f s)) :
    Triple P (Proc.modify f : Proc σ ε PUnit) Q E :=
  fun s hs => h s hs

/-- **Sequencing.** The first part's postcondition is the second's precondition; an exception of
either part is an exception of the whole. -/
theorem bind {R : β → σ → Prop} (hc : Triple P c R E) (hf : ∀ b, Triple (R b) (f b) Q E) : Triple P (c >>= f) Q E := by
  intro s hs
  rw [run_bind]
  rcases hr : c.run s with ⟨e | b, t⟩
  · exact hc.of_error hs hr
  · exact hf b t (hc.of_ok hs hr)

/-- **Sequencing after a read.** A first part that only reads keeps the precondition for the second, and
its exceptions are raised where the precondition holds. -/
theorem bind_reads (hc : Reads c) (hE : ∀ e s, P s → E e s) (hf : ∀ b, Triple P (f b) Q E) : Triple P (c >>= f) Q E :=
  bind (R := fun _ => P) (intro (fun _ _ _ hs hr => hc.eq_of_run hr ▸ hs)
    fun _ e t hs hr => hE e t (hc.eq_of_run hr ▸ hs)) hf

/-- **Handling.** The handler starts from what holds where the exception was raised. -/
theorem tryCatch {R : ε → σ → Prop} {c : Proc σ ε α} {handler : ε → Proc σ ε α}
    (hc : Triple P c Q R) (hh : ∀ e, Triple (R e) (handler e) Q E) : Triple P (Proc.tryCatch c handler) Q E := by
  intro s hs
  rw [run_tryCatch]
  rcases hr : c.run s with ⟨e | a, t⟩
  · exact hh e t (hc.of_error hs hr)
  · exact hc.of_ok hs hr

theorem ite {b : Prop} [Decidable b] {c d : Proc σ ε α} (hc : b → Triple P c Q E)
    (hd : ¬ b → Triple P d Q E) : Triple P (if b then c else d) Q E := by
  by_cases h : b
  · rw [if_pos h]
    exact hc h
  · rw [if_neg h]
    exact hd h

theorem when {b : Prop} [Decidable b] {c : Proc σ ε PUnit} {Q : PUnit → σ → Prop}
    (hc : b → Triple P c Q E) (hd : ¬ b → ∀ s, P s → Q ⟨⟩ s) : Triple P (Proc.when b c) Q E :=
  ite hc fun h => pure (hd h)

theorem liftExcept {r : Except ε α} (hok : ∀ a, r = .ok a → ∀ s, P s → Q a s)
    (herr : ∀ e, r = .error e → ∀ s, P s → E e s) : Triple P (Proc.liftExcept r : Proc σ ε α) Q E := by
  intro s hs
  rw [run_liftExcept]
  cases r with
  | ok a => exact hok a rfl s hs
  | error e => exact herr e rfl s hs

/-- **Loop rule with the work done so far.** `I done` holds after the elements `done`. -/
theorem forEach_done {xs : List β} {f : β → Proc σ ε PUnit} (I : List β → σ → Prop)
    (h : ∀ done b rest, xs = done ++ b :: rest → Triple (I done) (f b) (fun _ => I (done ++ [b])) E) :
    Triple (I []) (Proc.forEach f xs) (fun _ => I xs) E := by
  -- generalised over the elements already processed
  suffices key : ∀ rest done, xs = done ++ rest →
      Triple (I done) (Proc.forEach f rest) (fun _ => I xs) E from key xs [] rfl
  intro rest
  induction rest with
  | nil =>
    rintro done rfl
    rw [forEach_nil]
    exact Triple.pure fun s hs => by rwa [List.append_nil]
  | cons b rest ih =>
    intro done hxs
    rw [forEach_cons]
    refine Triple.bind (h done b rest hxs) fun _ => ih (done ++ [b]) ?_
    rw [hxs, List.append_assoc, List.singleton_append]

/-- **Loop rule.** A loop keeps what each of its iterations keeps. -/
theorem forEach {xs : List β} {f : β → Proc σ ε PUnit} {I : σ → Prop} (h : ∀ b ∈ xs, Triple I (f b) (fun _ => I) E) :
    Triple I (Proc.forEach f xs) (fun _ => I) E :=
  forEach_done (fun _ => I) fun done b rest hxs => h b (by rw [hxs]; simp)

end Triple

/-! ## Invariants of procedures -/

/-- `c` keeps `I`, whether it returns or raises. -/
def Keeps (I : σ → Prop) (c : Proc σ ε α) : Prop := Triple I c (fun _ => I) (fun _ => I)

namespace Keeps

variable {I : σ → Prop}

theorem run {c : Proc σ ε α} (h : Keeps I c) {s : σ} (hs : I s) : I (c.run s).2 :=
  Triple.state h hs

theorem pure (a : α) : Keeps I (Pure.pure a : Proc σ ε α) := Triple.pure fun _ h => h

theorem raise (e : ε) : Keeps I (Proc.raise e : Proc σ ε α) := Triple.raise fun _ h => h

theorem gets (f : σ → α) : Keeps I (Proc.gets f : Proc σ ε α) := Triple.gets fun _ h => h

theorem modify {f : σ → σ} (h : ∀ s, I s → I (f s)) : Keeps I (Proc.modify f : Proc σ ε PUnit) :=
  Triple.modify h

theorem bind (hc : Keeps I c) (hf : ∀ b, Keeps I (f b)) : Keeps I (c >>= f) :=
  Triple.bind hc hf

theorem bind_of_reads (hc : Reads c) (hf : ∀ s b, I s → c.run s = (.ok b, s) → Keeps I (f b)) : Keeps I (c >>= f) := by
  intro s hs
  rw [run_bind]
  rcases hr : c.run s with ⟨e | b, t⟩
  · obtain rfl := hc.eq_of_run hr
    exact hs
  · obtain rfl := hc.eq_of_run hr
    exact hf t b hs hr t hs

theorem tryCatch {c : Proc σ ε α} {handler : ε → Proc σ ε α} (hc : Keeps I c)
    (hh : ∀ e, Keeps I (handler e)) : Keeps I (Proc.tryCatch c handler) :=
  Triple.tryCatch hc hh

theorem ite {b : Prop} [Decidable b] {c d : Proc σ ε α} (hc : b → Keeps I c)
    (hd : ¬ b → Keeps I d) : Keeps I (if b then c else d) :=
  Triple.ite hc hd

theorem forEach {xs : List β} {f : β → Proc σ ε PUnit} (h : ∀ b ∈ xs, Keeps I (f b)) : Keeps I (Proc.forEach f xs) :=
  Triple.forEach h

theorem when {b : Prop} [Decidable b] {c : Proc σ ε PUnit} (hc : b → Keeps I c) : Keeps I (Proc.when b c) :=
  Triple.when hc fun _ _ h => h

theorem liftExcept (r : Except ε α) : Keeps I (Proc.liftExcept r : Proc σ ε α) :=
  Triple.liftExcept (fun _ _ _ h => h) fun _ _ _ h => h

/-- A procedure keeps what holds of the states that its runs leave. -/
theorem of_state {c : Proc σ ε α} (h : ∀ s, I s → I (c.run s).2) : Keeps I c :=
  Triple.intro (fun s _ _ hs hr => by simpa [hr] using h s hs) fun s _ _ hs hr => by simpa [hr] using h s hs

theorem of_reads {c : Proc σ ε α} (h : Reads c) : Keeps I c :=
  Triple.intro (fun _ _ _ hs hr => h.eq_of_run hr ▸ hs) fun _ _ _ hs hr => h.eq_of_run hr ▸ hs

end Keeps

/-! ## Procedures that return under a condition -/

/-- From the states with `I`, `c` returns exactly when `C` holds, and it keeps `I` in either case. -/
def OkIff (I : σ → Prop) (c : Proc σ ε α) (C : Prop) : Prop :=
  Keeps I c ∧ ∀ s, I s → ((∃ a t, c.run s = (.ok a, t)) ↔ C)

namespace OkIff

variable {I : σ → Prop} {C D : Prop}

theorem congr {c : Proc σ ε α} (h : OkIff I c C) (hiff : C ↔ D) : OkIff I c D :=
  ⟨h.1, fun s hs => (h.2 s hs).trans hiff⟩

theorem pure (a : α) : OkIff I (Pure.pure a : Proc σ ε α) True :=
  ⟨Keeps.pure a, fun s _ => ⟨fun _ => trivial, fun _ => ⟨a, s, rfl⟩⟩⟩

theorem raise (e : ε) : OkIff I (Proc.raise e : Proc σ ε α) False := by
  refine ⟨Keeps.raise e, fun s _ => ⟨?_, False.elim⟩⟩
  rintro ⟨a, t, hrun⟩
  cases hrun

theorem modify {f : σ → σ} (h : ∀ s, I s → I (f s)) : OkIff I (Proc.modify f : Proc σ ε PUnit) True :=
  ⟨Keeps.modify h, fun s _ => ⟨fun _ => trivial, fun _ => ⟨⟨⟩, f s, rfl⟩⟩⟩

theorem gets_bind {g : σ → β} (h : ∀ s, I s → OkIff I (f (g s)) C) : OkIff I (Proc.gets g >>= f) C :=
  ⟨Keeps.of_state fun s hs => ((h s hs).1).run hs, fun s hs => (h s hs).2 s hs⟩

/-- A sequence returns when its parts do. -/
theorem bind (hc : OkIff I c C) (hf : C → ∀ b, OkIff I (f b) D) : OkIff I (c >>= f) (C ∧ D) := by
  have hrun : ∀ s, I s → I ((c >>= f).run s).2 ∧ ((∃ a t, (c >>= f).run s = (.ok a, t)) ↔ C ∧ D) := by
    intro s hs
    have hkeep : I (c.run s).2 := hc.1.run hs
    have hok := hc.2 s hs
    rw [Proc.run_bind]
    rcases hfirst : c.run s with ⟨e | b, t⟩
    · rw [hfirst] at hok hkeep
      refine ⟨hkeep, ?_, fun hboth => ?_⟩
      · rintro ⟨a, t, hr⟩
        cases hr
      · obtain ⟨a, t, hr⟩ := hok.mpr hboth.1
        cases hr
    · rw [hfirst] at hok hkeep
      have hC : C := hok.mp ⟨b, t, rfl⟩
      exact ⟨((hf hC b).1).run hkeep, ((hf hC b).2 t hkeep).trans ⟨fun hD => ⟨hC, hD⟩, And.right⟩⟩
  exact ⟨Keeps.of_state fun s hs => (hrun s hs).1, fun s hs => (hrun s hs).2⟩

/-- A loop returns when all its iterations do. -/
theorem forEach {f : β → Proc σ ε PUnit} {C : β → Prop} {xs : List β}
    (h : ∀ b ∈ xs, OkIff I (f b) (C b)) : OkIff I (Proc.forEach f xs) (∀ b ∈ xs, C b) := by
  induction xs with
  | nil => exact (OkIff.pure _).congr ⟨fun _ _ hb => absurd hb List.not_mem_nil, fun _ => trivial⟩
  | cons x xs ih =>
    rw [Proc.forEach_cons]
    refine (OkIff.bind (h x List.mem_cons_self) fun _ _ => ih fun b hb => h b (List.mem_cons_of_mem x hb)).congr ?_
    exact List.forall_mem_cons.symm

end OkIff

end ContainRes.Effects
