import Mathlib.Data.List.DropRight
import Mathlib.Data.List.TakeDrop

/-! # Pieces of a text that grows

A text that is read while it is written at its end. What a reader has of it is a piece between two positions, and a
piece stays what it is when the text grows.

* **`between a b l`** — the piece from the position `a` up to `b`; `between_append`, `between_append_of_le`.
* **`takeLine`** — one line from the front of a text, as a reader with universal newlines gets it, and how much of the
  text it is.
* **`LineStart`** — the position of the beginning of a line. -/

namespace ContainRes.Text

variable {α : Type}

/-- The piece of a list from one position up to another. -/
def between (a b : ℕ) (l : List α) : List α := (l.take b).drop a

theorem between_self (a : ℕ) (l : List α) : between a a l = [] := by
  rw [between, List.drop_eq_nil_iff]
  exact List.length_take_le a l

theorem between_append_of_le {a b : ℕ} {l : List α} (h : b ≤ l.length) (m : List α) :
    between a b (l ++ m) = between a b l := by
  rw [between, between, List.take_append_of_le_length h]

/-- Two pieces next to each other are one piece. -/
theorem between_append {a b c : ℕ} {l : List α} (hab : a ≤ b) (hbc : b ≤ c) (hc : c ≤ l.length) :
    between a b l ++ between b c l = between a c l := by
  have hsplit : l.take c = l.take b ++ between b c l := by
    have hparts := List.take_append_drop b (l.take c)
    rw [List.take_take, Nat.min_eq_left hbc] at hparts
    exact hparts.symm
  have hlength : a ≤ (l.take b).length := by
    rw [List.length_take]
    omega
  have hwhole : between a c l = (l.take b ++ between b c l).drop a := by rw [← hsplit, between]
  rw [hwhole, List.drop_append_of_le_length hlength, between]

theorem take_drop_eq_between (a n : ℕ) (l : List α) : (l.drop a).take n = between a (a + n) l := by
  rw [between, List.drop_take, Nat.add_sub_cancel_left]

theorem between_of_suffix {m l : List α} (h : m <:+ l) : between (l.length - m.length) l.length l = m := by
  obtain ⟨t, rfl⟩ := h
  rw [between, List.take_length, List.length_append, Nat.add_sub_cancel, List.drop_left]

theorem suffix_append_right {m l : List α} (h : m <:+ l) (t : List α) : m ++ t <:+ l ++ t := by
  obtain ⟨front, rfl⟩ := h
  exact ⟨front, (List.append_assoc _ _ _).symm⟩

theorem flatten_suffix {ms ls : List (List α)} (h : ms <:+ ls) : ms.flatten <:+ ls.flatten := by
  obtain ⟨front, rfl⟩ := h
  exact ⟨front.flatten, List.flatten_append.symm⟩

/-! ## Lines -/

/-- The first line of a text, with its end read as `\n`, and the number of characters that it is. The line is empty
at the end of the text only. -/
def takeLine : List Char → List Char × ℕ
  | [] => ([], 0)
  | c :: rest =>
    if c = '\n' then (['\n'], 1)
    else if c = '\r' then (['\n'], if rest.head? = some '\n' then 2 else 1)
    else (c :: (takeLine rest).1, (takeLine rest).2 + 1)

theorem takeLine_le (l : List Char) : (takeLine l).2 ≤ l.length := by
  induction l with
  | nil => exact Nat.le_refl 0
  | cons c rest ih =>
    rw [takeLine, List.length_cons]
    split
    · exact Nat.le_add_left 1 _
    · split
      · cases rest with
        | nil => exact Nat.le_refl 1
        | cons d rest =>
          dsimp only
          rw [List.length_cons]
          split <;> omega
      · exact Nat.succ_le_succ ih

theorem takeLine_eq_nil {l : List Char} (h : (takeLine l).1 = []) : l = [] := by
  cases l with
  | nil => rfl
  | cons c rest =>
    rw [takeLine] at h
    split at h
    · cases h
    · split at h <;> cases h

/-- A line without a carriage return is read as it stands. -/
theorem takeLine_eq_take {l : List Char} (h : '\r' ∉ l.take (takeLine l).2) :
    (takeLine l).1 = l.take (takeLine l).2 := by
  induction l with
  | nil => rfl
  | cons c rest ih =>
    rw [takeLine] at h ⊢
    by_cases hnewline : c = '\n'
    · rw [if_pos hnewline, hnewline]
      rfl
    · rw [if_neg hnewline] at h ⊢
      by_cases hreturn : c = '\r'
      · -- the line begins with the carriage return
        rw [if_pos hreturn, hreturn] at h
        exact absurd (by split <;> simp) h
      · rw [if_neg hreturn] at h ⊢
        dsimp only at h ⊢
        rw [List.take_succ_cons, List.mem_cons, not_or] at h
        rw [List.take_succ_cons, ih h.2]

/-- A position is the beginning of a line. -/
def LineStart (a : ℕ) (content : List Char) : Prop := a = 0 ∨ (0 < a ∧ content[a - 1]? = some '\n')

theorem LineStart.append {a : ℕ} {content : List Char} (h : LineStart a content) (text : List Char) :
    LineStart a (content ++ text) := by
  rcases h with rfl | ⟨hpos, hprev⟩
  · exact .inl rfl
  · refine .inr ⟨hpos, ?_⟩
    obtain ⟨hlt, -⟩ := List.getElem?_eq_some_iff.mp hprev
    rw [List.getElem?_append_left hlt, hprev]

end ContainRes.Text
