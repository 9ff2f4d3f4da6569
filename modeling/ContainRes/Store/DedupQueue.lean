import Mathlib.Data.List.Basic

/-! # A queue that drops repeated messages

A queue of one message group with content-based deduplication: a message that equals one accepted less
than an interval ago is dropped, every other message is accepted and waits until it is handled.

* **`DedupQueue`** — the messages accepted with their times, and those that wait.
* **`repeats`** — whether a message would be dropped at a time.
* **`mem_waiting_send_iff`** — a message that is not already waiting waits after it was sent if and only
  if it does not repeat an accepted one. -/

namespace ContainRes.Store

/-- The queue of one message group. -/
structure DedupQueue (μ : Type) where
  /-- The messages accepted, with the times at which they were. -/
  accepted : List (Nat × μ) := []
  /-- The messages accepted and not yet handled. -/
  waiting : List μ := []

namespace DedupQueue

variable {μ : Type} [DecidableEq μ] (interval : Nat)

/-- Whether the queue drops a message: an equal one was accepted less than an interval ago. -/
def repeats (q : DedupQueue μ) (now : Nat) (m : μ) : Prop :=
  ∃ entry ∈ q.accepted, entry.2 = m ∧ now < entry.1 + interval

instance (q : DedupQueue μ) (now : Nat) (m : μ) : Decidable (q.repeats interval now m) :=
  inferInstanceAs (Decidable (∃ entry ∈ q.accepted, entry.2 = m ∧ now < entry.1 + interval))

/-- Send a message at a time. -/
def send (q : DedupQueue μ) (now : Nat) (m : μ) : DedupQueue μ :=
  if q.repeats interval now m then q
  else { accepted := q.accepted ++ [(now, m)], waiting := q.waiting ++ [m] }

/-- Handle a waiting message. -/
def handle (q : DedupQueue μ) (m : μ) : DedupQueue μ := { q with waiting := q.waiting.erase m }

variable {q : DedupQueue μ}

theorem send_of_repeats {now : Nat} {m : μ} (h : q.repeats interval now m) : q.send interval now m = q := if_pos h

theorem send_of_not_repeats {now : Nat} {m : μ} (h : ¬ q.repeats interval now m) :
    q.send interval now m = { accepted := q.accepted ++ [(now, m)], waiting := q.waiting ++ [m] } :=
  if_neg h

/-- **Delivery.** A message sent waits afterwards if and only if it waited before or is accepted. -/
theorem mem_waiting_send_iff {now : Nat} {m : μ} :
    m ∈ (q.send interval now m).waiting ↔ m ∈ q.waiting ∨ ¬ q.repeats interval now m := by
  by_cases h : q.repeats interval now m
  · rw [send_of_repeats interval h]
    simp [h]
  · rw [send_of_not_repeats interval h]
    simp [h]

end DedupQueue

end ContainRes.Store
