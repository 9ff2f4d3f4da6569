import Mathlib.Algebra.Order.Field.Rat
import Mathlib.Algebra.Order.Ring.Cast
import Mathlib.Data.List.Basic
import Mathlib.Tactic.Ring

/-! # Decimal numbers and their texts

A decimal is a sign, a coefficient and a power of ten. The same number can be written as several decimals, and
`str` of a decimal shows which one it is: with a point, as an integer, or with a power of ten.

* **`Decimal`**, **`Decimal.value`** — a finite decimal, and the number that it stands for.
* **`Decimal.text`** — `str(d)`.
* **`Decimal.HasPoint`** — when there is a point in the text; **`point_mem_text`** says that it is this.
* **`text_of_exponent_zero`**, **`text_scientific`** — the texts without a point. -/

namespace ContainRes.Numbers

/-- `decimal.Decimal`, without infinities and NaNs. -/
structure Decimal where
  negative : Bool
  coefficient : ℕ
  exponent : ℤ
  deriving DecidableEq, Repr

namespace Decimal

/-- The number that a decimal stands for. -/
def value (d : Decimal) : ℚ := (if d.negative then -1 else 1) * d.coefficient * (10 : ℚ) ^ d.exponent

/-- `Decimal(n)` of an integer. -/
def ofInt (n : ℤ) : Decimal := ⟨decide (n < 0), n.natAbs, 0⟩

@[simp] theorem value_ofInt (n : ℤ) : (ofInt n).value = n := by
  have habs : (n.natAbs : ℤ) = |n| := Int.natCast_natAbs n
  have hcast : ((n.natAbs : ℕ) : ℚ) = |(n : ℚ)| := by
    rw [← Int.cast_natCast, habs, Int.cast_abs]
  simp only [value, ofInt, decide_eq_true_eq, hcast, zpow_zero, mul_one]
  split
  · rename_i hneg
    have hneg' : (n : ℚ) < 0 := by exact_mod_cast hneg
    rw [abs_of_neg hneg']
    ring
  · rename_i hpos
    have hpos' : (0 : ℚ) ≤ n := by exact_mod_cast Int.not_lt.mp hpos
    rw [abs_of_nonneg hpos', one_mul]

/-! ## The text -/

variable (d : Decimal)

/-- The digits of the coefficient. -/
def digits : List Char := Nat.toDigits 10 d.coefficient

/-- The number of digits in front of the point when no power of ten is written. -/
def leftDigits : ℤ := d.exponent + d.digits.length

/-- The number is written without a power of ten. -/
def Positional : Prop := d.exponent ≤ 0 ∧ -6 < d.leftDigits

instance : Decidable d.Positional := inferInstanceAs (Decidable (_ ∧ _))

/-- The place of the point among the digits. -/
def dotPlace : ℤ := if d.Positional then d.leftDigits else 1

/-- What is written in front of the point. -/
def intPart : List Char :=
  if d.dotPlace ≤ 0 then ['0']
  else if d.digits.length ≤ d.dotPlace then
    d.digits ++ List.replicate (d.dotPlace - d.digits.length).toNat '0'
  else d.digits.take d.dotPlace.toNat

/-- The point, and what is written behind it. -/
def fracPart : List Char :=
  if d.dotPlace ≤ 0 then '.' :: (List.replicate (-d.dotPlace).toNat '0' ++ d.digits)
  else if d.digits.length ≤ d.dotPlace then []
  else '.' :: d.digits.drop d.dotPlace.toNat

/-- `'E%+d' % n`. -/
def powerOfTen (n : ℤ) : List Char :=
  'E' :: (if n < 0 then '-' else '+') :: Nat.toDigits 10 n.natAbs

/-- The power of ten, if one is written. -/
def exponentPart : List Char :=
  if d.leftDigits = d.dotPlace then [] else powerOfTen (d.leftDigits - d.dotPlace)

/-- The sign of a negative number. -/
def signPart : List Char := if d.negative then ['-'] else []

/-- `str(d)`. -/
def text : String := String.ofList (d.signPart ++ d.intPart ++ d.fracPart ++ d.exponentPart)

example : text ⟨false, 15, -7⟩ = "0.0000015" ∧ text ⟨true, 15, -8⟩ = "-1.5E-7" ∧ text ⟨false, 1, -7⟩ = "1E-7" := by
  decide

/-- When the text has a point. -/
def HasPoint : Prop := if d.Positional then d.exponent < 0 else 1 < d.digits.length

instance : Decidable d.HasPoint := by
  unfold HasPoint
  infer_instance

/-! ### Its characters -/

variable {d}

theorem isDigit_of_mem_digits {c : Char} (h : c ∈ d.digits) : c.isDigit = true :=
  Nat.isDigit_of_mem_toDigits (by decide) (by decide) h

theorem digits_length_pos : 0 < d.digits.length :=
  List.length_pos_iff.mpr Nat.toDigits_ne_nil

theorem point_notMem {l : List Char} (h : ∀ c ∈ l, c.isDigit = true) : '.' ∉ l := by
  intro hmem
  exact absurd (h _ hmem) (by decide)

theorem isDigit_of_mem_intPart {c : Char} (h : c ∈ d.intPart) : c.isDigit = true := by
  unfold intPart at h
  split at h
  · rw [List.mem_singleton.mp h]
    decide
  · split at h
    · rcases List.mem_append.mp h with h | h
      · exact isDigit_of_mem_digits h
      · rw [List.eq_of_mem_replicate h]
        decide
    · exact isDigit_of_mem_digits (List.mem_of_mem_take h)

theorem point_notMem_exponentPart : '.' ∉ d.exponentPart := by
  unfold exponentPart powerOfTen
  split
  · exact List.not_mem_nil
  · have hdigits : '.' ∉ Nat.toDigits 10 (d.leftDigits - d.dotPlace).natAbs :=
      point_notMem fun c hc => Nat.isDigit_of_mem_toDigits (by decide) (by decide) hc
    split <;> simp [hdigits]

/-- The point stands behind all digits, or not. -/
theorem fracPart_eq_nil_iff : d.fracPart = [] ↔ ¬ d.HasPoint := by
  have hlen := d.digits_length_pos
  have hleft : d.leftDigits = d.exponent + d.digits.length := rfl
  unfold fracPart HasPoint dotPlace
  by_cases hpos : d.Positional
  · have hexp := hpos.1
    rw [if_pos hpos, if_pos hpos]
    split
    · exact iff_of_false (List.cons_ne_nil _ _) (by omega)
    · split
      · exact iff_of_true rfl (by omega)
      · exact iff_of_false (List.cons_ne_nil _ _) (by omega)
  · rw [if_neg hpos, if_neg hpos, if_neg (by omega)]
    split
    · exact iff_of_true rfl (by omega)
    · exact iff_of_false (List.cons_ne_nil _ _) (by omega)

/-- **A point in the text.** -/
theorem point_mem_text : '.' ∈ d.text.toList ↔ d.HasPoint := by
  have hsign : '.' ∉ d.signPart := by
    unfold signPart
    split <;> decide
  have hint : '.' ∉ d.intPart := point_notMem fun c hc => isDigit_of_mem_intPart hc
  have hfrac : '.' ∈ d.fracPart ↔ d.fracPart ≠ [] := by
    unfold fracPart
    split
    · simp
    · split <;> simp
  rw [text, String.toList_ofList, List.mem_append, List.mem_append, List.mem_append]
  rw [iff_false_intro hsign, iff_false_intro hint, iff_false_intro point_notMem_exponentPart, false_or, or_false,
    false_or, hfrac, Ne, fracPart_eq_nil_iff, not_not]

/-- The text of an integer is its sign and its digits. -/
theorem text_of_exponent_zero (h : d.exponent = 0) : d.text.toList = d.signPart ++ d.digits := by
  have hlen := d.digits_length_pos
  have hleft : d.leftDigits = d.digits.length := by
    rw [leftDigits, h, zero_add]
  have hpos : d.Positional := ⟨h.le, by omega⟩
  have hdot : d.dotPlace = d.digits.length := by
    rw [dotPlace, if_pos hpos, hleft]
  have hfrac : d.fracPart = [] := by
    rw [fracPart_eq_nil_iff, HasPoint, if_pos hpos]
    omega
  have hexponent : d.exponentPart = [] := by
    rw [exponentPart, hdot, hleft, if_pos rfl]
  have hint : d.intPart = d.digits := by
    rw [intPart, hdot, if_neg (by omega), if_pos le_rfl, sub_self]
    simp
  rw [text, String.toList_ofList, hint, hfrac, hexponent, List.append_nil, List.append_nil]

/-- A text with neither a point nor an integer's form has a power of ten behind its only digit. -/
theorem text_scientific (hpoint : ¬ d.HasPoint) (h : d.exponent ≠ 0) :
    ∃ c rest, d.text.toList = d.signPart ++ c :: 'E' :: rest ∧ c.isDigit = true ∧
      ∀ x ∈ rest, x = '+' ∨ x = '-' ∨ x.isDigit = true := by
  have hlen := d.digits_length_pos
  have hleft : d.leftDigits = d.exponent + d.digits.length := rfl
  have hfrac := fracPart_eq_nil_iff.mpr hpoint
  have hpos : ¬ d.Positional := by
    intro hpos
    rw [HasPoint, if_pos hpos] at hpoint
    have hexp := hpos.1
    omega
  rw [HasPoint, if_neg hpos] at hpoint
  have hone : d.digits.length = 1 := by omega
  obtain ⟨c, hc⟩ := List.length_eq_one_iff.mp hone
  have hdot : d.dotPlace = 1 := if_neg hpos
  have hint : d.intPart = [c] := by
    rw [intPart, hdot, if_neg (by omega), if_pos (by omega), hone, hc]
    rfl
  have hexponent : d.exponentPart = powerOfTen (d.leftDigits - 1) := by
    rw [exponentPart, hdot, if_neg (by omega)]
  refine ⟨c, (if d.leftDigits - 1 < 0 then '-' else '+') :: Nat.toDigits 10 (d.leftDigits - 1).natAbs, ?_, ?_, ?_⟩
  · rw [text, String.toList_ofList, hint, hfrac, hexponent, List.append_nil, List.append_assoc]
    rfl
  · exact isDigit_of_mem_digits (by rw [hc]; exact List.mem_singleton_self c)
  · intro x hx
    rcases List.mem_cons.mp hx with rfl | hx
    · split
      · exact .inr (.inl rfl)
      · exact .inl rfl
    · exact .inr (.inr (Nat.isDigit_of_mem_toDigits (by decide) (by decide) hx))

end Decimal

end ContainRes.Numbers
