import Mathlib.Data.List.Basic
import Mathlib.Logic.Function.Basic

/-! # Reading a log with several partitions

Records about keys are appended to partitions, and a reader has a position in some of the partitions. It
meets the records of one partition in order; between partitions the order is left to it, and it may also
give a position up, or go back to an earlier one.

* **`PartitionedLog.Undelivered`** — the records that lie behind a position of the reader.
* **`PartitionedLog.Final`** — the undelivered records of a key are the last ones of its history, so
  that the last one of all is read last.
* `Final.append`, `Final.advance`, `Final.close`, `Final.rewind` — when each operation keeps it. -/

namespace ContainRes.Store

open Function

universe u v

/-- A record about a key. Later records have larger sequence numbers. -/
structure Record (κ : Type u) (α : Type v) where
  key : κ
  change : α
  sequenceNumber : Nat
  deriving DecidableEq, Repr

/-- The records of each partition, and the positions of a reader; it does not read a partition that it
has no position in. -/
structure PartitionedLog (κ : Type u) (α : Type v) where
  records : Nat → List (Record κ α)
  position : Nat → Option Nat

namespace PartitionedLog

variable {κ : Type u} {α : Type v} {log : PartitionedLog κ α} {k : κ} {r r' : Record κ α}
  {p q n m next : Nat}

/-- The records of a partition that the reader is going to meet. -/
def unread (log : PartitionedLog κ α) (p : Nat) : List (Record κ α) :=
  match log.position p with
  | some n => (log.records p).drop n
  | none => []

/-- A record of the key that the reader is going to meet. -/
def Undelivered (log : PartitionedLog κ α) (k : κ) (r : Record κ α) : Prop :=
  r.key = k ∧ ∃ p, r ∈ log.unread p

/-- A record of the key in some partition. -/
def Written (log : PartitionedLog κ α) (k : κ) (r : Record κ α) : Prop :=
  r.key = k ∧ ∃ p, r ∈ log.records p

/-- The undelivered records of a key are the last ones of its history. -/
def Final (log : PartitionedLog κ α) (k : κ) : Prop :=
  ∀ r r', log.Undelivered k r → log.Written k r' → r.sequenceNumber < r'.sequenceNumber →
    log.Undelivered k r'

/-- Sequence numbers increase within each partition and stay below `next`; no position is beyond the end
of its partition. -/
structure Ordered (log : PartitionedLog κ α) (next : Nat) : Prop where
  increasing : ∀ p, (log.records p).Pairwise fun r r' => r.sequenceNumber < r'.sequenceNumber
  bounded : ∀ p, ∀ r ∈ log.records p, r.sequenceNumber < next
  inRange : ∀ p n, log.position p = some n → n ≤ (log.records p).length

/-- Append a record to a partition. -/
def append (log : PartitionedLog κ α) (p : Nat) (r : Record κ α) : PartitionedLog κ α :=
  { log with records := update log.records p (log.records p ++ [r]) }

/-- Move the reader in a partition. -/
def moveTo (log : PartitionedLog κ α) (p : Nat) (position : Option Nat) : PartitionedLog κ α :=
  { log with position := update log.position p position }

/-! ## What is unread -/

theorem unread_of_position (h : log.position p = some n) : log.unread p = (log.records p).drop n := by
  rw [unread, h]

theorem unread_of_not_position (h : log.position p = none) : log.unread p = [] := by
  rw [unread, h]

theorem unread_suffix (log : PartitionedLog κ α) (p : Nat) : log.unread p <:+ log.records p := by
  unfold unread
  split
  · exact List.drop_suffix _ _
  · exact List.nil_suffix

/-- In a partition, what comes after an unread record is unread. -/
theorem mem_unread_of_lt (hlog : log.Ordered next) (hr : r ∈ log.unread p)
    (hr' : r' ∈ log.records p) (hlt : r.sequenceNumber < r'.sequenceNumber) : r' ∈ log.unread p := by
  obtain ⟨earlier, hsplit⟩ := log.unread_suffix p
  rw [← hsplit] at hr'
  rcases List.mem_append.mp hr' with hbefore | hafter
  · -- a record before the position has a smaller number than `r`
    have hpairs := hlog.increasing p
    rw [← hsplit, List.pairwise_append] at hpairs
    have hge := hpairs.2.2 r' hbefore r hr
    omega
  · exact hafter

@[simp] theorem unread_moveTo_of_ne (hq : q ≠ p) (position : Option Nat) :
    (log.moveTo p position).unread q = log.unread q := by
  simp [unread, moveTo, hq]

@[simp] theorem unread_moveTo_none : (log.moveTo p none).unread p = [] := by
  simp [unread, moveTo]

@[simp] theorem unread_moveTo_some : (log.moveTo p (some n)).unread p = (log.records p).drop n := by
  simp [unread, moveTo]

theorem unread_append_of_ne (hq : q ≠ p) : (log.append p r).unread q = log.unread q := by
  simp [unread, append, hq]

/-- The reader is going to meet an appended record if it has a position in the partition. -/
theorem unread_append_self (hlog : log.Ordered next) :
    (log.append p r).unread p = log.unread p ++ if (log.position p).isSome then [r] else [] := by
  unfold unread append
  rcases hpos : log.position p with _ | n
  · simp
  · simp [List.drop_append_of_le_length (hlog.inRange p n hpos)]

theorem undelivered_append (hlog : log.Ordered next) : (log.append p r).Undelivered k r' ↔
      log.Undelivered k r' ∨ r' = r ∧ r.key = k ∧ (log.position p).isSome = true := by
  unfold Undelivered
  constructor
  · rintro ⟨hk, q, hr'⟩
    by_cases hq : q = p
    · subst hq
      rw [unread_append_self hlog] at hr'
      rcases List.mem_append.mp hr' with hold | hnew
      · exact .inl ⟨hk, q, hold⟩
      · split at hnew
        · rename_i hpos
          obtain rfl := List.mem_singleton.mp hnew
          exact .inr ⟨rfl, hk, hpos⟩
        · cases hnew
    · rw [unread_append_of_ne hq] at hr'
      exact .inl ⟨hk, q, hr'⟩
  · rintro (⟨hk, q, hr'⟩ | ⟨rfl, hk, hpos⟩)
    · refine ⟨hk, q, ?_⟩
      by_cases hq : q = p
      · subst hq
        rw [unread_append_self hlog]
        exact List.mem_append_left _ hr'
      · rwa [unread_append_of_ne hq]
    · refine ⟨hk, p, ?_⟩
      rw [unread_append_self hlog, if_pos hpos]
      simp

theorem mem_records_append : r' ∈ (log.append p r).records q ↔ r' ∈ log.records q ∨ q = p ∧ r' = r := by
  show r' ∈ update log.records p _ q ↔ _
  by_cases hq : q = p
  · subst hq
    simp
  · simp [hq]

theorem written_append : (log.append p r).Written k r' ↔ log.Written k r' ∨ r' = r ∧ r.key = k := by
  unfold Written
  simp only [mem_records_append]
  constructor
  · rintro ⟨hk, q, hold | ⟨-, rfl⟩⟩
    · exact .inl ⟨hk, q, hold⟩
    · exact .inr ⟨rfl, hk⟩
  · rintro (⟨hk, q, hr'⟩ | ⟨rfl, hk⟩)
    · exact ⟨hk, q, .inl hr'⟩
    · exact ⟨hk, p, .inr ⟨rfl, rfl⟩⟩

/-! ## The operations keep the order -/

theorem Ordered.append (h : log.Ordered next) (hr : r.sequenceNumber = next) : (log.append p r).Ordered (next + 1) where
  increasing q := by
    by_cases hq : q = p
    · subst hq
      show (update log.records q _ q).Pairwise _
      rw [update_self, List.pairwise_append]
      refine ⟨h.increasing q, List.pairwise_singleton _ _, fun r₁ hr₁ r₂ hr₂ => ?_⟩
      rw [List.mem_singleton.mp hr₂, hr]
      exact h.bounded q r₁ hr₁
    · show (update log.records p _ q).Pairwise _
      rw [update_of_ne hq]
      exact h.increasing q
  bounded q r' hr' := by
    rcases mem_records_append.mp hr' with hold | ⟨-, rfl⟩
    · exact Nat.lt_succ_of_lt (h.bounded q r' hold)
    · exact hr ▸ Nat.lt_succ_self next
  inRange q n hpos := by
    have hle := h.inRange q n hpos
    show n ≤ (update log.records p _ q).length
    by_cases hq : q = p
    · subst hq
      rw [update_self, List.length_append]
      exact Nat.le_add_right_of_le hle
    · rwa [update_of_ne hq]

theorem Ordered.moveTo {position : Option Nat} (h : log.Ordered next)
    (hrange : ∀ n, position = some n → n ≤ (log.records p).length) : (log.moveTo p position).Ordered next where
  increasing := h.increasing
  bounded := h.bounded
  inRange q n hpos := by
    change update log.position p position q = some n at hpos
    by_cases hq : q = p
    · subst hq
      rw [update_self] at hpos
      exact hrange n hpos
    · rw [update_of_ne hq] at hpos
      exact h.inRange q n hpos

/-! ## The operations keep what is undelivered at the end -/

/-- Appending a record to a partition that is read, or about a key of which nothing is undelivered. -/
theorem Final.append (h : log.Final k) (hlog : log.Ordered next) (hr : r.sequenceNumber = next)
    (hread : r.key = k → (log.position p).isSome = true ∨ ∀ r', ¬ log.Undelivered k r') : (log.append p r).Final k := by
  intro r₁ r₂ h₁ h₂ hlt
  rw [undelivered_append hlog] at h₁ ⊢
  rcases written_append.mp h₂ with hold | ⟨rfl, hk⟩
  · rcases h₁ with h₁ | ⟨rfl, -, -⟩
    · exact .inl (h r₁ r₂ h₁ hold hlt)
    · obtain ⟨-, q, hq⟩ := hold
      have hbound := hlog.bounded q r₂ hq
      omega
  · rcases hread hk with hpos | hnone
    · exact .inr ⟨rfl, hk, hpos⟩
    · rcases h₁ with h₁ | ⟨-, -, hpos⟩
      · exact absurd h₁ (hnone r₁)
      · exact .inr ⟨rfl, hk, hpos⟩

/-- What is undelivered after one record was read. -/
theorem undelivered_advance (hpos : log.position p = some n)
    (hget : (log.records p)[n]? = some r) (hlog : log.Ordered next) : (log.moveTo p (some (n + 1))).Undelivered k r' ↔
      log.Undelivered k r' ∧ ¬ (r' = r ∧ ∀ q, q ≠ p → r' ∉ log.unread q) := by
  have hunread : log.unread p = r :: (log.records p).drop (n + 1) := by
    obtain ⟨hlt, hr⟩ := List.getElem?_eq_some_iff.mp hget
    rw [unread_of_position hpos, List.drop_eq_getElem_cons hlt, hr]
  have hnew : r ∉ (log.records p).drop (n + 1) := by
    have hpairs := (hlog.increasing p).sublist (log.unread_suffix p).sublist
    rw [hunread, List.pairwise_cons] at hpairs
    exact fun hmem => Nat.lt_irrefl _ (hpairs.1 r hmem)
  unfold Undelivered
  constructor
  · rintro ⟨hk, q, hr'⟩
    by_cases hq : q = p
    · subst hq
      rw [unread_moveTo_some] at hr'
      refine ⟨⟨hk, q, hunread ▸ List.mem_cons_of_mem _ hr'⟩, ?_⟩
      rintro ⟨rfl, -⟩
      exact hnew hr'
    · rw [unread_moveTo_of_ne hq] at hr'
      exact ⟨⟨hk, q, hr'⟩, fun hgone => hgone.2 q hq hr'⟩
  · rintro ⟨⟨hk, q, hr'⟩, hkept⟩
    by_cases hq : q = p
    · subst hq
      rw [hunread] at hr'
      rcases List.mem_cons.mp hr' with rfl | hrest
      · obtain ⟨q', hq', hmem⟩ : ∃ q', q' ≠ q ∧ r' ∈ log.unread q' := by
          by_contra hnone
          exact hkept ⟨rfl, fun q' hq' hmem => hnone ⟨q', hq', hmem⟩⟩
        exact ⟨hk, q', by rwa [unread_moveTo_of_ne hq']⟩
      · exact ⟨hk, q, by rwa [unread_moveTo_some]⟩
    · exact ⟨hk, q, by rwa [unread_moveTo_of_ne hq]⟩

/-- Reading the next record of a partition, where no other partition has an unread record of its key
that is not newer. -/
theorem Final.advance (h : log.Final k) (hlog : log.Ordered next)
    (hpos : log.position p = some n) (hget : (log.records p)[n]? = some r)
    (holdest : ∀ q, q ≠ p → ∀ r' ∈ log.unread q, r'.key = r.key → r.sequenceNumber < r'.sequenceNumber) :
    (log.moveTo p (some (n + 1))).Final k := by
  intro r₁ r₂ h₁ h₂ hlt
  obtain ⟨h₁, hkept⟩ := (undelivered_advance hpos hget hlog).mp h₁
  refine (undelivered_advance hpos hget hlog).mpr ⟨h r₁ r₂ h₁ h₂ hlt, ?_⟩
  rintro ⟨rfl, -⟩
  obtain ⟨hk, q, hq⟩ := h₁
  by_cases hqp : q = p
  · subst hqp
    -- `r₂` is the first unread record of its partition
    have hpairs := (hlog.increasing q).sublist (log.unread_suffix q).sublist
    obtain ⟨hlt', hr⟩ := List.getElem?_eq_some_iff.mp hget
    rw [unread_of_position hpos, List.drop_eq_getElem_cons hlt', hr] at hpairs hq
    rcases List.mem_cons.mp hq with rfl | hrest
    · exact absurd hlt (Nat.lt_irrefl _)
    · have hafter := (List.pairwise_cons.mp hpairs).1 r₁ hrest
      omega
  · have hafter := holdest q hqp r₁ hq (hk.trans h₂.1.symm)
    omega

/-- Whether the last records are undelivered depends on what is unread only. -/
theorem Final.congr {log' : PartitionedLog κ α} (h : log.Final k)
    (hrecords : log'.records = log.records) (hunread : ∀ q, log'.unread q = log.unread q) : log'.Final k := by
  rintro r₁ r₂ ⟨hk, q, hr₁⟩ ⟨hk₂, q₂, hr₂⟩ hlt
  rw [hunread] at hr₁
  rw [hrecords] at hr₂
  obtain ⟨-, q', hq'⟩ := h r₁ r₂ ⟨hk, q, hr₁⟩ ⟨hk₂, q₂, hr₂⟩ hlt
  exact ⟨hk₂, q', by rwa [hunread]⟩

/-- Giving up a position. The unread records of the partition are about keys of which nothing else is
undelivered. -/
theorem Final.close (h : log.Final k) (halone : ∀ r ∈ log.unread p, ∀ q, q ≠ p → ∀ r' ∈ log.unread q, r'.key ≠ r.key) :
    (log.moveTo p none).Final k := by
  rintro r₁ r₂ ⟨hk, q, hr₁⟩ h₂ hlt
  have hq : q ≠ p := by
    rintro rfl
    rw [unread_moveTo_none] at hr₁
    cases hr₁
  rw [unread_moveTo_of_ne hq] at hr₁
  obtain ⟨hk₂, q', hr₂⟩ := h r₁ r₂ ⟨hk, q, hr₁⟩ h₂ hlt
  refine ⟨hk₂, q', ?_⟩
  by_cases hq' : q' = p
  · subst hq'
    exact absurd (hk.trans hk₂.symm) (halone r₂ hr₂ q hq r₁ hr₁)
  · rwa [unread_moveTo_of_ne hq']

/-- Going back to an earlier position. The newer records of the keys that are read again are still
undelivered, or in the same partition. -/
theorem Final.rewind (h : log.Final k) (hlog : log.Ordered next) (hpos : log.position p = some n) (hle : m ≤ n)
    (hnewer : ∀ r ∈ ((log.records p).take n).drop m, ∀ q, q ≠ p → ∀ r' ∈ log.records q,
      r'.key = r.key → r.sequenceNumber < r'.sequenceNumber → r' ∈ log.unread q) : (log.moveTo p (some m)).Final k := by
  have hsplit : (log.records p).drop m =
      ((log.records p).take n).drop m ++ (log.records p).drop n := by
    conv_lhs => rw [← List.take_append_drop n (log.records p)]
    rw [List.drop_append_of_le_length]
    rw [List.length_take]
    exact Nat.le_min.mpr ⟨hle, Nat.le_trans hle (hlog.inRange p n hpos)⟩
  have hgrows : ∀ q, ∀ r' ∈ log.unread q, r' ∈ (log.moveTo p (some m)).unread q := by
    intro q r' hr'
    by_cases hq : q = p
    · subst hq
      rw [unread_of_position hpos] at hr'
      rw [unread_moveTo_some, hsplit]
      exact List.mem_append_right _ hr'
    · rwa [unread_moveTo_of_ne hq]
  have hlog' : (log.moveTo p (some m)).Ordered next :=
    hlog.moveTo fun n' hn' => by
      cases hn'
      exact Nat.le_trans hle (hlog.inRange p n hpos)
  rintro r₁ r₂ ⟨hk, q, hr₁⟩ ⟨hk₂, q₂, hr₂⟩ hlt
  by_cases hsame : q₂ = q
  · subst hsame
    exact ⟨hk₂, q₂, mem_unread_of_lt hlog' hr₁ hr₂ hlt⟩
  · -- `r₁` was undelivered before, or it is read again
    have hbefore : log.Undelivered k r₁ ∨ q = p ∧ r₁ ∈ ((log.records p).take n).drop m := by
      by_cases hq : q = p
      · subst hq
        rw [unread_moveTo_some, hsplit] at hr₁
        rcases List.mem_append.mp hr₁ with hagain | hstill
        · exact .inr ⟨rfl, hagain⟩
        · exact .inl ⟨hk, q, by rwa [unread_of_position hpos]⟩
      · rw [unread_moveTo_of_ne hq] at hr₁
        exact .inl ⟨hk, q, hr₁⟩
    rcases hbefore with hbefore | ⟨rfl, hagain⟩
    · obtain ⟨-, q', hq'⟩ := h r₁ r₂ hbefore ⟨hk₂, q₂, hr₂⟩ hlt
      exact ⟨hk₂, q', hgrows q' r₂ hq'⟩
    · exact ⟨hk₂, q₂, hgrows q₂ r₂ (hnewer r₁ hagain q₂ hsame r₂ hr₂ (hk₂.trans hk.symm) hlt)⟩

end PartitionedLog

end ContainRes.Store
