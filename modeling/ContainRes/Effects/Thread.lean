import ContainRes.Effects.Proc

/-! # Programs that reach the state by single accesses

A `Proc` runs on the whole state at once. A `Thread` is a tree of accesses: it can be run alone, as a
procedure, and it can be interleaved with other threads at its accesses.

* **`Thread`** — a result, or an access with a continuation for each answer.
* **`Thread.toProc`** — the procedure that a thread is when nothing runs beside it; the lemmas `toProc_…`
  push it through the constructs of the language.
* **`Thread.MayReach`** — the accesses that a thread may still make.
* **`Protocol`** — which accesses a thread may make at a point, which answers are expected, and the point that
  an answer leads to.
* **`Thread.Obeys`** — all accesses of a thread follow a protocol, for all expected answers. -/

namespace ContainRes.Effects

universe u

variable {Op : Type u} {Ans : Op → Type u} {σ ε ε' α β γ : Type u}

/-- A program whose accesses to the shared state are single steps. -/
inductive Thread (Op : Type u) (Ans : Op → Type u) (ε α : Type u) : Type u
  /-- The thread has returned, or raised. -/
  | done (result : Except ε α)
  /-- The next access, and how the thread goes on after its answer. -/
  | access (op : Op) (next : Ans op → Thread Op Ans ε α)

namespace Thread

/-- Go on with `f` after the thread has returned. -/
def bind (f : β → Thread Op Ans ε α) : Thread Op Ans ε β → Thread Op Ans ε α
  | .done (.ok b) => f b
  | .done (.error e) => .done (.error e)
  | .access op next => .access op fun a => (next a).bind f

instance : Monad (Thread Op Ans ε) where
  pure a := .done (.ok a)
  bind t f := t.bind f

/-- Raise an exception. -/
def raise (e : ε) : Thread Op Ans ε α := .done (.error e)

/-- Make an access. -/
def perform (op : Op) : Thread Op Ans ε (Ans op) := .access op pure

/-- Return the value of an `Except`, or raise its exception. -/
def liftExcept (r : Except ε α) : Thread Op Ans ε α := .done r

/-- Run a thread and, if it raises, the handler. The exceptions of the thread may carry more than those of the
handler, such as what the thread had done. -/
def tryCatch (handler : ε → Thread Op Ans ε' α) : Thread Op Ans ε α → Thread Op Ans ε' α
  | .done (.ok a) => .done (.ok a)
  | .done (.error e) => handler e
  | .access op next => .access op fun a => (next a).tryCatch handler

/-- Run a thread if `b` holds, and go on in either case. -/
def when (b : Prop) [Decidable b] (t : Thread Op Ans ε PUnit) : Thread Op Ans ε PUnit :=
  if b then t else pure ⟨⟩

/-- Run `f` on the elements of a list in order. -/
def forEach (f : β → Thread Op Ans ε PUnit) : List β → Thread Op Ans ε PUnit
  | [] => pure ⟨⟩
  | b :: bs => f b >>= fun _ => forEach f bs

theorem bind_access (op : Op) (next : Ans op → Thread Op Ans ε β) (f : β → Thread Op Ans ε α) :
    access op next >>= f = access op fun a => next a >>= f := rfl

theorem perform_bind (op : Op) (f : Ans op → Thread Op Ans ε α) : perform op >>= f = access op f := rfl

theorem pure_bind (b : β) (f : β → Thread Op Ans ε α) : (pure b : Thread Op Ans ε β) >>= f = f b := rfl

theorem raise_bind (e : ε) (f : β → Thread Op Ans ε α) : (raise e : Thread Op Ans ε β) >>= f = raise e := rfl

/-! ## A thread alone -/

section Alone

variable (serve : (op : Op) → σ → Ans op × σ)

/-- The procedure of a thread that runs alone, for the meaning `serve` of the accesses. -/
def toProc : Thread Op Ans ε α → Proc σ ε α
  | .done r => fun s => (r, s)
  | .access op next => fun s => (next (serve op s).1).toProc (serve op s).2

@[simp] theorem run_toProc_done (r : Except ε α) (s : σ) :
    ((done r : Thread Op Ans ε α).toProc serve).run s = (r, s) := rfl

@[simp] theorem run_toProc_access (op : Op) (next : Ans op → Thread Op Ans ε α) (s : σ) :
    ((access op next).toProc serve).run s = ((next (serve op s).1).toProc serve).run (serve op s).2 := rfl

@[simp] theorem toProc_pure (a : α) : (pure a : Thread Op Ans ε α).toProc serve = (pure a : Proc σ ε α) := rfl

@[simp] theorem toProc_raise (e : ε) : (raise e : Thread Op Ans ε α).toProc serve = Proc.raise e := rfl

@[simp] theorem toProc_liftExcept (r : Except ε α) :
    (liftExcept r : Thread Op Ans ε α).toProc serve = Proc.liftExcept r := by
  cases r <;> rfl

theorem run_toProc_perform (op : Op) (s : σ) : ((perform op : Thread Op Ans ε (Ans op)).toProc serve).run s =
      (.ok (serve op s).1, (serve op s).2) := rfl

@[simp] theorem toProc_bind (t : Thread Op Ans ε β) (f : β → Thread Op Ans ε α) :
    (t >>= f).toProc serve = t.toProc serve >>= fun b => (f b).toProc serve := by
  induction t with
  | done r => cases r <;> rfl
  | access op next ih =>
    funext s
    exact congrFun (ih (serve op s).1) (serve op s).2

@[simp] theorem toProc_tryCatch (t : Thread Op Ans ε α) (handler : ε → Thread Op Ans ε α) :
    (t.tryCatch handler).toProc serve = Proc.tryCatch (t.toProc serve) fun e => (handler e).toProc serve := by
  induction t with
  | done r => cases r <;> rfl
  | access op next ih =>
    funext s
    exact congrFun (ih (serve op s).1) (serve op s).2

/-- A thread with a handler that returns. -/
theorem run_toProc_tryCatch_of_ok {t : Thread Op Ans ε α} {handler : ε → Thread Op Ans ε' α} {s s' : σ} {a : α}
    (h : (t.toProc serve).run s = (.ok a, s')) : ((t.tryCatch handler).toProc serve).run s = (.ok a, s') := by
  induction t generalizing s with
  | done r =>
    cases r with
    | ok b =>
      obtain ⟨⟨⟩, rfl⟩ := Prod.mk.inj h
      rfl
    | error e => exact nomatch congrArg Prod.fst h
  | access op next ih => exact ih _ h

/-- A thread that raises goes on with the handler, which may raise exceptions of another type. -/
theorem run_toProc_tryCatch_of_error {t : Thread Op Ans ε α} {handler : ε → Thread Op Ans ε' α} {s s' : σ} {e : ε}
    (h : (t.toProc serve).run s = (.error e, s')) :
    ((t.tryCatch handler).toProc serve).run s = ((handler e).toProc serve).run s' := by
  induction t generalizing s with
  | done r =>
    cases r with
    | ok b => exact nomatch congrArg Prod.fst h
    | error e' =>
      obtain ⟨⟨⟩, rfl⟩ := Prod.mk.inj h
      rfl
  | access op next ih => exact ih _ h

@[simp] theorem toProc_when (b : Prop) [Decidable b] (t : Thread Op Ans ε PUnit) :
    (when b t).toProc serve = Proc.when b (t.toProc serve) := by
  unfold when Proc.when
  split <;> rfl

@[simp] theorem toProc_forEach (f : β → Thread Op Ans ε PUnit) (bs : List β) :
    (forEach f bs).toProc serve = Proc.forEach (fun b => (f b).toProc serve) bs := by
  induction bs with
  | nil => rfl
  | cons b bs ih =>
    rw [forEach, toProc_bind, Proc.forEach_cons, ih]

end Alone

/-! ## What a thread may still do -/

/-- With some answers, the thread comes to an access that is a goal, and to no access before that stops it. -/
def MayReach (goal stop : Op → Prop) : Thread Op Ans ε α → Prop
  | .done _ => False
  | .access op next => goal op ∨ ¬ stop op ∧ ∃ a, (next a).MayReach goal stop

theorem MayReach.of_next {goal stop : Op → Prop} {op : Op} {next : Ans op → Thread Op Ans ε α} {a : Ans op}
    (h : (next a).MayReach goal stop) (hstop : ¬ stop op) : (access op next).MayReach goal stop :=
  .inr ⟨hstop, a, h⟩

end Thread

/-! ## Threads that follow a protocol -/

/-- A protocol for the accesses of a thread, on points of type `γ`. -/
structure Protocol (Op : Type u) (Ans : Op → Type u) (γ : Type u) where
  /-- The access may be made at the point. -/
  may : γ → Op → Prop
  /-- The answer may be given. -/
  expected : (op : Op) → Ans op → Prop
  /-- The point that the answer to an access leads to. -/
  after : γ → (op : Op) → Ans op → γ

namespace Thread

variable (p : Protocol Op Ans γ)

/-- From a point on, the accesses of the thread follow the protocol as long as the answers are expected. It
returns at a point that satisfies `Q`, or raises at a point that satisfies `E`. -/
def Obeys (Q : γ → α → Prop) (E : γ → ε → Prop) : Thread Op Ans ε α → γ → Prop
  | .done (.ok a), c => Q c a
  | .done (.error e), c => E c e
  | .access op next, c => 
    p.may c op ∧ ∀ a, p.expected op a → (next a).Obeys Q E (p.after c op a)

namespace Obeys

variable {p} {Q Q' : γ → α → Prop} {E E' : γ → ε → Prop} {c : γ}

theorem pure {a : α} (h : Q c a) : (Pure.pure a : Thread Op Ans ε α).Obeys p Q E c := h

theorem raise {e : ε} (h : E c e) : (Thread.raise e : Thread Op Ans ε α).Obeys p Q E c := h

theorem perform {op : Op} {Q : γ → Ans op → Prop} (hmay : p.may c op)
    (h : ∀ a, p.expected op a → Q (p.after c op a) a) : (Thread.perform op : Thread Op Ans ε (Ans op)).Obeys p Q E c :=
  ⟨hmay, h⟩

theorem liftExcept {r : Except ε α} (hok : ∀ a, r = .ok a → Q c a) (herror : ∀ e, r = .error e → E c e) :
    (Thread.liftExcept r : Thread Op Ans ε α).Obeys p Q E c := by
  cases r with
  | ok a => exact hok a rfl
  | error e => exact herror e rfl

theorem bind {R : γ → β → Prop} {t : Thread Op Ans ε β} {f : β → Thread Op Ans ε α}
    (ht : t.Obeys p R E c) (hf : ∀ b c', R c' b → (f b).Obeys p Q E c') : (t >>= f).Obeys p Q E c := by
  induction t generalizing c with
  | done r =>
    cases r with
    | ok b => exact hf b c ht
    | error e => exact ht
  | access op next ih => exact ⟨ht.1, fun a ha => ih a (ht.2 a ha)⟩

/-- The rule of handlers. -/
theorem tryCatch {R : γ → ε → Prop} {E : γ → ε' → Prop} {t : Thread Op Ans ε α}
    {handler : ε → Thread Op Ans ε' α} (ht : t.Obeys p Q R c)
    (hf : ∀ e c', R c' e → (handler e).Obeys p Q E c') : (t.tryCatch handler).Obeys p Q E c := by
  induction t generalizing c with
  | done r =>
    cases r with
    | ok a => exact ht
    | error e => exact hf e c ht
  | access op next ih => exact ⟨ht.1, fun a ha => ih a (ht.2 a ha)⟩

theorem ite {b : Prop} [Decidable b] {t t' : Thread Op Ans ε α} (ht : b → t.Obeys p Q E c)
    (ht' : ¬ b → t'.Obeys p Q E c) : (if b then t else t').Obeys p Q E c := by
  split
  · exact ht ‹_›
  · exact ht' ‹_›

theorem when {b : Prop} [Decidable b] {t : Thread Op Ans ε PUnit} {Q : γ → PUnit → Prop}
    (ht : b → t.Obeys p Q E c) (hskip : ¬ b → Q c ⟨⟩) : (Thread.when b t).Obeys p Q E c :=
  ite ht fun hb => pure (hskip hb)

/-- The rule of loops, for an invariant of the elements that are left. -/
theorem forEach {f : β → Thread Op Ans ε PUnit} {I : List β → γ → Prop}
    (hf : ∀ b bs c', I (b :: bs) c' → (f b).Obeys p (fun c'' _ => I bs c'') E c') {bs : List β}
    (h : I bs c) : (Thread.forEach f bs).Obeys p (fun c' _ => I [] c') E c := by
  induction bs generalizing c with
  | nil => exact pure h
  | cons b bs ih => exact bind (hf b bs c h) fun _ c' hc' => ih hc'

theorem mono {t : Thread Op Ans ε α} (h : t.Obeys p Q E c) (hQ : ∀ c a, Q c a → Q' c a)
    (hE : ∀ c e, E c e → E' c e) : t.Obeys p Q' E' c := by
  induction t generalizing c with
  | done r =>
    cases r with
    | ok a => exact hQ c a h
    | error e => exact hE c e h
  | access op next ih => exact ⟨h.1, fun a ha => ih a (h.2 a ha)⟩

end Obeys

end Thread

end ContainRes.Effects
