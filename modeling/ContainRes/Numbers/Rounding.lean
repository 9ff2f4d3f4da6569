import Mathlib.Data.Rat.Floor
import Mathlib.Tactic.Linarith
import Mathlib.Tactic.FieldSimp

/-! # Rounding of exact numbers

The conversions of an exact number to an integer and to a number with few decimal places.

* **`truncate`** — towards zero.
* **`roundHalfEven`** — to the nearest integer, and to the even one of two that are equally near.
* **`roundHalfEven_eq`**, **`abs_sub_roundHalfEven_le`** — what the nearest integer is, and how far it is.
* **`truncate_mono`**, **`roundHalfEven_mono`** — both keep the order. -/

namespace ContainRes.Numbers

/-- The integer part of a number, towards zero. -/
def truncate (q : ℚ) : ℤ := q.num.tdiv q.den

/-- The nearest integer; of two that are equally near, the even one. -/
def roundHalfEven (q : ℚ) : ℤ :=
  if q - ⌊q⌋ < 1 / 2 then ⌊q⌋
  else if 1 / 2 < q - ⌊q⌋ then ⌊q⌋ + 1
  else if ⌊q⌋ % 2 = 0 then ⌊q⌋ else ⌊q⌋ + 1

theorem truncate_of_nonneg {q : ℚ} (h : 0 ≤ q) : truncate q = ⌊q⌋ := by
  rw [truncate, Rat.floor_def', Int.tdiv_eq_ediv_of_nonneg (Rat.num_nonneg.mpr h)]

@[simp] theorem truncate_intCast (n : ℤ) : truncate n = n := by
  rw [truncate, Rat.num_intCast, Rat.den_intCast, Nat.cast_one, Int.tdiv_one]

theorem truncate_of_nonpos {q : ℚ} (h : q ≤ 0) : truncate q = ⌈q⌉ := by
  have hneg : truncate (-q) = -truncate q := by
    rw [truncate, truncate, Rat.neg_num, Rat.neg_den, Int.neg_tdiv]
  have hfloor : truncate (-q) = ⌊-q⌋ := truncate_of_nonneg (by linarith)
  rw [hneg, Int.floor_neg] at hfloor
  omega

theorem truncate_mono {p q : ℚ} (h : p ≤ q) : truncate p ≤ truncate q := by
  rcases le_total 0 p with hp | hp
  · rw [truncate_of_nonneg hp, truncate_of_nonneg (hp.trans h)]
    exact Int.floor_le_floor h
  · rcases le_total 0 q with hq | hq
    · -- zero lies between the two
      rw [truncate_of_nonpos hp, truncate_of_nonneg hq]
      exact (Int.ceil_le.mpr (by exact_mod_cast hp)).trans (Int.le_floor.mpr (by exact_mod_cast hq))
    · rw [truncate_of_nonpos hp, truncate_of_nonpos hq]
      exact Int.ceil_le_ceil h

/-- The rounded number is at most one half away. -/
theorem abs_sub_roundHalfEven_le (q : ℚ) : |q - roundHalfEven q| ≤ 1 / 2 := by
  have hfloor := Int.floor_le q
  have hlt := Int.lt_floor_add_one q
  unfold roundHalfEven
  rw [abs_le]
  split
  · constructor <;> linarith
  · rename_i hge
    rw [not_lt] at hge
    split
    · push_cast
      constructor <;> linarith
    · rename_i hle
      rw [not_lt] at hle
      split
      · constructor <;> linarith
      · push_cast
        constructor <;> linarith

/-- An integer that is less than one half away is the rounded number. -/
theorem roundHalfEven_eq {q : ℚ} {n : ℤ} (h : |q - n| < 1 / 2) : roundHalfEven q = n := by
  have hnear := abs_sub_roundHalfEven_le q
  rw [abs_lt] at h
  rw [abs_le] at hnear
  have hlow : (roundHalfEven q : ℚ) < (n + 1 : ℤ) := by
    push_cast
    linarith
  have hhigh : ((n - 1 : ℤ) : ℚ) < roundHalfEven q := by
    push_cast
    linarith
  rw [Int.cast_lt] at hlow hhigh
  omega

theorem roundHalfEven_mono {p q : ℚ} (h : p ≤ q) : roundHalfEven p ≤ roundHalfEven q := by
  have hfloor : ⌊p⌋ ≤ ⌊q⌋ := Int.floor_le_floor h
  rcases eq_or_lt_of_le hfloor with heq | hlt
  · -- of two numbers with one integer part, the larger one has the larger rest
    have hrest : p - ⌊p⌋ ≤ q - ⌊p⌋ := by linarith
    unfold roundHalfEven
    rw [← heq]
    split_ifs <;> first | omega | (exfalso; linarith)
  · have hp : roundHalfEven p ≤ ⌊p⌋ + 1 := by
      unfold roundHalfEven
      split_ifs <;> omega
    have hq : ⌊q⌋ ≤ roundHalfEven q := by
      unfold roundHalfEven
      split_ifs <;> omega
    omega

theorem roundHalfEven_nonneg {q : ℚ} (h : 0 ≤ q) : 0 ≤ roundHalfEven q := by
  have hfloor : 0 ≤ ⌊q⌋ := Int.floor_nonneg.mpr h
  unfold roundHalfEven
  split
  · exact hfloor
  · split
    · omega
    · split <;> omega

theorem floor_tenths (n : ℤ) (factor : ℕ) : ⌊(n : ℚ) / 10 * factor⌋ = n * factor / 10 := by
  have hcast : (n : ℚ) / 10 * factor = ((n * factor : ℤ) : ℚ) / ((10 : ℕ) : ℚ) := by
    push_cast
    ring
  rw [hcast, Rat.floor_intCast_div_natCast]
  rfl

end ContainRes.Numbers
