import ContainRes.Effects.Thread

/-! # One call that fails

A thread runs alone on a server that refuses one of its calls: a number of calls is let through, and the next one
that can fail is answered with a refusal. A call that fails by itself is the failure of the run in its place.

* **`Injection`** — which calls can fail, with which answers; **`Injection.inject`** is the server.
* **`run_of_quiet`** — a thread without such calls runs as on the server below.
* **`eachDone`**, **`run_eachDone`** — a loop of calls that notes what is done: it comes to its end, or stops in front
  of the call that fails. -/

namespace ContainRes.Effects

universe u

variable {Op : Type u} {Ans : Op → Type u} {σ φ ε α β γ : Type u}

/-- A state with the failure that is to come: the number of calls before it, and its kind. -/
structure Injected (σ φ : Type u) where
  state : σ
  fault : Option (ℕ × φ)
  /-- A call has failed. -/
  failed : Bool

/-- The calls that can fail, and the answers that are failures. -/
structure Injection (Op : Type u) (Ans : Op → Type u) (φ : Type u) where
  /-- The refusals of a call that can fail. -/
  refuse : (op : Op) → Option (φ → Ans op)
  fails : (op : Op) → Ans op → Bool
  fails_refuse : ∀ op answer e, refuse op = some answer → fails op (answer e) = true

/-- The failure that is to come, one call later. -/
def later (n : ℕ) (fault : Option (ℕ × φ)) : Option (ℕ × φ) := fault.map fun f => (f.1 - n, f.2)

@[simp] theorem later_none (n : ℕ) : later n (none : Option (ℕ × φ)) = none := rfl

@[simp] theorem later_some (n k : ℕ) (e : φ) : later n (some (k, e)) = some (k - n, e) := rfl

@[simp] theorem later_zero (fault : Option (ℕ × φ)) : later 0 fault = fault := by
  cases fault <;> rfl

theorem later_later (m n : ℕ) (fault : Option (ℕ × φ)) : later n (later m fault) = later (m + n) fault := by
  cases fault with
  | none => rfl
  | some f =>
    obtain ⟨k, e⟩ := f
    rw [later_some, later_some, later_some, Nat.sub_sub]

namespace Injection

variable (inj : Injection Op Ans φ) (serve : (op : Op) → σ → Ans op × σ)

/-- The server. After a failure there is none to come. -/
def inject (op : Op) (s : Injected σ φ) : Ans op × Injected σ φ :=
  match inj.refuse op, s.fault with
  | none, _ => ((serve op s.state).1, { s with state := (serve op s.state).2 })
  | some answer, some (0, e) => (answer e, ⟨s.state, none, true⟩)
  | some _, fault =>
    ((serve op s.state).1, if inj.fails op (serve op s.state).1 then ⟨(serve op s.state).2, none, true⟩
      else ⟨(serve op s.state).2, later 1 fault, s.failed⟩)

variable {inj serve} {op : Op} {s : Injected σ φ}

theorem inject_of_quiet (h : inj.refuse op = none) :
    inj.inject serve op s = ((serve op s.state).1, { s with state := (serve op s.state).2 }) := by
  simp only [Injection.inject, h]

theorem inject_of_fault {answer : φ → Ans op} (h : inj.refuse op = some answer) {e : φ}
    (hfault : s.fault = some (0, e)) : inj.inject serve op s = (answer e, ⟨s.state, none, true⟩) := by
  simp only [Injection.inject, h, hfault]

/-- A call that is let through. -/
theorem inject_of_pass {answer : φ → Ans op} (h : inj.refuse op = some answer) (hfault : ∀ e, s.fault ≠ some (0, e)) :
    inj.inject serve op s = ((serve op s.state).1,
      if inj.fails op (serve op s.state).1 then ⟨(serve op s.state).2, none, true⟩
      else ⟨(serve op s.state).2, later 1 s.fault, s.failed⟩) := by
  unfold Injection.inject
  rw [h]
  rcases hs : s.fault with _ | ⟨_ | n, e⟩
  · rfl
  · exact absurd hs (hfault e)
  · rfl

/-- The accesses of a thread that cannot fail. -/
def quiet (inj : Injection Op Ans φ) : Protocol Op Ans PUnit where
  may _ op := inj.refuse op = none
  expected _ _ := True
  after c _ _ := c

/-- A thread without calls that can fail runs as on the server below. -/
theorem run_of_quiet {t : Thread Op Ans ε α}
    (h : t.Obeys inj.quiet (fun _ _ => True) (fun _ _ => True) ⟨⟩) (s : Injected σ φ) :
    (t.toProc (inj.inject serve)).run s =
      (((t.toProc serve).run s.state).1, { s with state := ((t.toProc serve).run s.state).2 }) := by
  induction t generalizing s with
  | done r => rfl
  | access op next ih =>
    rw [Thread.run_toProc_access, inject_of_quiet h.1, ih _ (h.2 _ trivial), Thread.run_toProc_access]

end Injection

/-! ## Loops that note what is done -/

/-- A call for every element of a list. What was done is noted, and raised when a call fails. -/
def eachDone (op : β → Op) (fails : (op : Op) → Ans op → Bool) (note : γ → β → γ) :
    List β → γ → Thread Op Ans γ γ
  | [], done => pure done
  | b :: bs, done => .access (op b) fun answer =>
    if fails (op b) answer then Thread.raise done else eachDone op fails note bs (note done b)

section EachDone

variable {inj : Injection Op Ans φ} (serve : (op : Op) → σ → Ans op × σ) {op : β → Op} (note : γ → β → γ)
  {R : List β → σ → Prop}

/-- The loop has come to its end. -/
structure Completed (R : List β → σ → Prop) (bs : List β) (s s' : Injected σ φ) : Prop where
  done : R bs s'.state
  failed : s'.failed = s.failed
  fault : s'.fault = later bs.length s.fault
  spared : ∀ f, s.fault = some f → bs.length ≤ f.1

/-- The loop has stopped in front of the element after `pre`, whose call was refused or failed by itself. -/
structure Stopped (inj : Injection Op Ans φ) (serve : (op : Op) → σ → Ans op × σ) (op : β → Op)
    (R : List β → σ → Prop) (pre : List β) (b : β) (s s' : Injected σ φ) : Prop where
  done : R pre s'.state
  failed : s'.failed = true
  fault : s'.fault = none
  spared : ∀ f, s.fault = some f → pre.length ≤ f.1
  cause : (∃ f, s.fault = some f ∧ f.1 = pre.length) ∨
    ∃ t, R pre t ∧ inj.fails (op b) (serve (op b) t).1 = true

/-- **A loop comes to its end or stops.** The relation says what the calls for the elements so far have done. -/
theorem run_eachDone (hrefuse : ∀ b, ∃ answer, inj.refuse (op b) = some answer)
    (hstep : ∀ pre b t, R pre t → inj.fails (op b) (serve (op b) t).1 = false → R (pre ++ [b]) (serve (op b) t).2)
    (hfail : ∀ pre b t, R pre t → inj.fails (op b) (serve (op b) t).1 = true → R pre (serve (op b) t).2)
    (bs : List β) (done : γ) (s : Injected σ φ) (h : R [] s.state) :
    (∃ s', ((eachDone op inj.fails note bs done).toProc (inj.inject serve)).run s =
        (.ok (bs.foldl note done), s') ∧ Completed R bs s s') ∨ ∃ pre b post s', bs = pre ++ b :: post ∧
        ((eachDone op inj.fails note bs done).toProc (inj.inject serve)).run s =
          (.error (pre.foldl note done), s') ∧ Stopped inj serve op R pre b s s' := by
  induction bs generalizing R done s with
  | nil =>
    refine .inl ⟨s, rfl, h, rfl, (later_zero _).symm, ?_⟩
    exact fun _ _ => Nat.zero_le _
  | cons b bs ih =>
    obtain ⟨answer, hanswer⟩ := hrefuse b
    rw [eachDone, Thread.run_toProc_access]
    by_cases hstrikes : ∃ e, s.fault = some (0, e)
    · -- the call is refused
      obtain ⟨e, hfault⟩ := hstrikes
      refine .inr ⟨[], b, bs, ⟨s.state, none, true⟩, rfl, ?_, h, rfl, rfl, fun _ _ => Nat.zero_le _,
        .inl ⟨_, hfault, rfl⟩⟩
      rw [Injection.inject_of_fault hanswer hfault]
      dsimp only
      rw [if_pos (inj.fails_refuse _ _ _ hanswer)]
      rfl
    · have hpass : ∀ e, s.fault ≠ some (0, e) := not_exists.mp hstrikes
      rw [Injection.inject_of_pass hanswer hpass]
      cases hfails : inj.fails (op b) (serve (op b) s.state).1 with
      | true =>
        refine .inr ⟨[], b, bs, ⟨(serve (op b) s.state).2, none, true⟩, rfl, ?_, hfail _ _ _ h hfails, rfl, rfl,
          fun _ _ => Nat.zero_le _, .inr ⟨_, h, hfails⟩⟩
        dsimp only
        rw [if_pos rfl, if_pos rfl]
        rfl
      | false =>
        -- the loop goes on, and one call less is to come before the failure
        have hpositive : ∀ f, s.fault = some f → 1 ≤ f.1 := by
          rintro ⟨k, e⟩ hfault
          by_contra hzero
          obtain rfl : k = 0 := by
            have hzero' : ¬ 1 ≤ k := hzero
            omega
          exact hpass e hfault
        have hlater : ∀ f, s.fault = some f → later 1 s.fault = some (f.1 - 1, f.2) := by
          intro f hfault
          rw [hfault]
          rfl
        have hgo := ih (R := fun pre t => R (b :: pre) t)
          (fun pre b' t hR hok => hstep (b :: pre) b' t hR hok)
          (fun pre b' t hR hbad => hfail (b :: pre) b' t hR hbad) (note done b)
          ⟨(serve (op b) s.state).2, later 1 s.fault, s.failed⟩ (hstep [] b _ h hfails)
        dsimp only
        rw [if_neg (by simp), if_neg (by simp)]
        rcases hgo with ⟨s', hrun, hcompleted⟩ | ⟨pre, b', post, s', heq, hrun, hstopped⟩
        · refine .inl ⟨s', hrun, hcompleted.done, hcompleted.failed, ?_, ?_⟩
          · rw [hcompleted.fault, later_later, List.length_cons, Nat.add_comm]
          · intro f hfault
            have hmore := hcompleted.spared _ (hlater f hfault)
            have hone := hpositive f hfault
            dsimp only at hmore
            rw [List.length_cons]
            omega
        · refine .inr ⟨b :: pre, b', post, s', congrArg (b :: ·) heq, hrun, hstopped.done, hstopped.failed,
            hstopped.fault, ?_, ?_⟩
          · intro f hfault
            have hmore := hstopped.spared _ (hlater f hfault)
            have hone := hpositive f hfault
            dsimp only at hmore
            rw [List.length_cons]
            omega
          · rcases hstopped.cause with ⟨f, hfault, hposition⟩ | hnatural
            · dsimp only at hfault
              rcases hs : s.fault with _ | ⟨k, e⟩
              · rw [hs] at hfault
                exact absurd hfault (by simp)
              · rw [hs, later_some] at hfault
                have hone := hpositive _ hs
                obtain rfl := Option.some.inj hfault
                refine .inl ⟨_, rfl, ?_⟩
                dsimp only at hone hposition ⊢
                rw [List.length_cons]
                omega
            · exact .inr hnatural

end EachDone

/-- A loop whose steps all return. The relation says what the steps for the elements so far have done. -/
theorem run_forEach_of_ok {f : β → Proc σ ε PUnit} {R : List β → σ → Prop} (bs : List β)
    (hstep : ∀ b ∈ bs, ∀ pre t, R pre t → ∃ t', (f b).run t = (.ok ⟨⟩, t') ∧ R (pre ++ [b]) t') (s : σ)
    (h : R [] s) : ∃ s', (Proc.forEach f bs).run s = (.ok ⟨⟩, s') ∧ R bs s' := by
  induction bs generalizing R s with
  | nil => exact ⟨s, rfl, h⟩
  | cons b bs ih =>
    obtain ⟨t, hrun, hR⟩ := hstep b List.mem_cons_self [] s h
    obtain ⟨s', hrest, hdone⟩ := ih (R := fun pre t => R (b :: pre) t)
      (fun b' hb' pre t' hR' => hstep b' (List.mem_cons_of_mem _ hb') (b :: pre) t' hR') t hR
    refine ⟨s', ?_, hdone⟩
    rw [Proc.forEach_cons, Proc.run_bind_of_ok hrun]
    exact hrest

end ContainRes.Effects
