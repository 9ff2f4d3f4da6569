import ContainRes.Numbers.Rounding
import ContainRes.VirtualDesktop.SoftwareStackDb

/-! # Sums and differences of memory

The arithmetic of `SocaMemory`, with exact numbers for the floats. A sum or a difference is taken in bytes and
converted to the larger of the two units, where it is rounded to one decimal place.

* **`SocaMemoryUnit.gt`** — the order of the units, which the source writes out comparison by comparison.
* **`SocaMemory.asUnit`** — the conversions.
* **`SocaMemory.add`**, **`SocaMemory.sub`** — `__add__` and `__sub__`.
* **`SocaMemory.gtNumber`**, **`SocaMemory.ltMemory`** — the comparisons with a number and with another amount.
* **`bytes_asUnit_iff`** — a conversion keeps the bytes exactly when they are a whole number of tenths of the
  unit; **`memory_arithmetic`** says it of sums and differences, with how far off they are otherwise. -/

namespace ContainRes.VirtualDesktop.SoftwareStacks

open Numbers

/-! ## Units -/

namespace SocaMemoryUnit

/-- The comparisons of `__gt__` in their order: a unit is greater than all that are not asked for before it. -/
def gtAmong (self other : SocaMemoryUnit) : List SocaMemoryUnit → Bool
  | [] => false
  | unit :: units =>
    if self = unit ∧ other ≠ unit then true
    else if other = unit then false
    else gtAmong self other units

def gt (self other : SocaMemoryUnit) : Bool := gtAmong self other [.tib, .tb, .gib, .gb, .mib, .mb, .kib, .kb]

/-- `__lt__`: what is not greater is less. -/
def lt (self other : SocaMemoryUnit) : Bool := !gt self other

end SocaMemoryUnit

open SocaMemoryUnit

/-! ## Conversions -/

namespace SocaMemory

/-- `_value(value)`: an integer stays one, and anything else is rounded to one decimal place. -/
def roundValue (value : ℚ) : ℚ :=
  if value.isInt then truncate value else (roundHalfEven (10 * value) : ℚ) / 10

/-- The common part of `kib()` and its siblings. -/
def inUnit (self : SocaMemory) (unit : SocaMemoryUnit) (factor : ℚ) : ℚ :=
  if self.unit = unit then roundValue self.value else roundValue (self.bytes / factor)

def kib (self : SocaMemory) : ℚ := self.inUnit .kib 1024

def mib (self : SocaMemory) : ℚ := self.inUnit .mib (1024 ^ 2)

def gib (self : SocaMemory) : ℚ := self.inUnit .gib (1024 ^ 3)

def tib (self : SocaMemory) : ℚ := self.inUnit .tib (1024 ^ 4)

def kb (self : SocaMemory) : ℚ := self.inUnit .kb 1000

def mb (self : SocaMemory) : ℚ := self.inUnit .mb (1000 ^ 2)

def gb (self : SocaMemory) : ℚ := self.inUnit .gb (1000 ^ 3)

def tb (self : SocaMemory) : ℚ := self.inUnit .tb (1000 ^ 4)

def asUnit (self : SocaMemory) (desiredUnit : SocaMemoryUnit) : SocaMemory :=
  match desiredUnit with
  | .tib => ⟨self.tib, .tib⟩
  | .tb => ⟨self.tb, .tb⟩
  | .gib => ⟨self.gib, .gib⟩
  | .gb => ⟨self.gb, .gb⟩
  | .mib => ⟨self.mib, .mib⟩
  | .mb => ⟨self.mb, .mb⟩
  | .kib => ⟨self.kib, .kib⟩
  | .kb => ⟨self.kb, .kb⟩
  | .bytes => ⟨self.bytes, .bytes⟩

/-- The unit of a sum or a difference. -/
def largerUnit (self other : SocaMemory) : SocaMemoryUnit :=
  if lt self.unit other.unit then other.unit else self.unit

/-- `__sub__`, for another amount. -/
def sub (self other : SocaMemory) : SocaMemory :=
  asUnit ⟨((self.bytes - other.bytes : ℤ) : ℚ), .bytes⟩ (self.largerUnit other)

/-- `__add__`, for another amount. -/
def add (self other : SocaMemory) : SocaMemory :=
  asUnit ⟨((self.bytes + other.bytes : ℤ) : ℚ), .bytes⟩ (self.largerUnit other)

/-- `__gt__` for a number, which may be missing: the bare values are compared. -/
def gtNumber (self : SocaMemory) : Option ℤ → Bool
  | none => true
  | some number => (number : ℚ) < self.value

/-- `__lt__` for another amount, which may be missing: the bytes are compared. -/
def ltMemory (self : SocaMemory) : Option SocaMemory → Bool
  | none => false
  | some other => self.bytes < other.bytes

def intVal (self : SocaMemory) : ℤ := truncate self.value

end SocaMemory

/-! ## What the conversions do -/

theorem factor_largerUnit (a b : SocaMemory) : factor (a.largerUnit b) = max (factor a.unit) (factor b.unit) := by
  obtain ⟨_, u⟩ := a
  obtain ⟨_, v⟩ := b
  show factor (if lt u v then v else u) = max (factor u) (factor v)
  cases u <;> cases v <;> rfl

theorem bytes_eq (a : SocaMemory) : a.bytes = truncate (a.value * a.unit.factor) := rfl

theorem bytes_natCast (n : ℕ) (unit : SocaMemoryUnit) : SocaMemory.bytes ⟨n, unit⟩ = (n * factor unit : ℕ) := by
  rw [bytes_eq]
  show truncate ((n : ℚ) * (factor unit : ℚ)) = _
  have hcast : (n : ℚ) * (factor unit : ℚ) = ((n * factor unit : ℕ) : ℤ) := by push_cast; ring
  rw [hcast, truncate_intCast]

/-- A number of bytes in another unit. -/
theorem asUnit_bytes (s : ℤ) (unit : SocaMemoryUnit) : SocaMemory.asUnit ⟨s, .bytes⟩ unit =
      ⟨if unit = .bytes then s else SocaMemory.roundValue (s / factor unit), unit⟩ := by
  have hs : SocaMemory.bytes ⟨s, .bytes⟩ = s := by
    rw [bytes_eq]
    show truncate ((s : ℚ) * ((1 : ℕ) : ℚ)) = s
    rw [Nat.cast_one, mul_one, truncate_intCast]
  cases unit <;>
    simp [SocaMemory.asUnit, SocaMemory.kib, SocaMemory.mib, SocaMemory.gib, SocaMemory.tib, SocaMemory.kb,
      SocaMemory.mb, SocaMemory.gb, SocaMemory.tb, SocaMemory.inUnit, hs, factor] <;>
    norm_num

theorem bytes_asUnit (s : ℤ) (unit : SocaMemoryUnit) : (SocaMemory.asUnit ⟨s, .bytes⟩ unit).bytes =
      if unit = .bytes then s else truncate (SocaMemory.roundValue (s / factor unit) * factor unit) := by
  rw [asUnit_bytes, bytes_eq]
  by_cases hunit : unit = .bytes
  · subst hunit
    rw [if_pos rfl, if_pos rfl]
    show truncate ((s : ℚ) * ((1 : ℕ) : ℚ)) = s
    rw [Nat.cast_one, mul_one, truncate_intCast]
  · rw [if_neg hunit, if_neg hunit]

theorem factor_of_ne_bytes {unit : SocaMemoryUnit} (h : unit ≠ .bytes) : 1000 ≤ factor unit := by
  cases unit <;> simp_all [factor]

/-- A whole number of tenths of a unit, without the part of a byte that is left over. -/
def WholeTenths (size : ℕ) (s : ℤ) : Prop := ∃ n : ℕ, s = n * size / 10

section Conversion

variable {s : ℤ} {unit : SocaMemoryUnit}

/-- The rounded number of units, in tenths. -/
theorem roundValue_eq (value : ℚ) : SocaMemory.roundValue value = (roundHalfEven (10 * value) : ℚ) / 10 := by
  unfold SocaMemory.roundValue
  split
  · rename_i hint
    obtain ⟨n, rfl⟩ : ∃ n : ℤ, value = n := ⟨value.num, (Rat.eq_num_of_isInt hint)⟩
    have hround : roundHalfEven (10 * (n : ℚ)) = 10 * n := roundHalfEven_eq (by norm_num)
    rw [hround, truncate_intCast]
    push_cast
    ring
  · rfl

/-- The bytes of the rounded number of units. -/
theorem bytes_of_roundValue (hs : 0 ≤ s) (size : ℕ) :
    truncate (SocaMemory.roundValue (s / size) * size) = roundHalfEven (10 * (s / size)) * size / 10 := by
  have hnonneg : (0 : ℚ) ≤ 10 * ((s : ℚ) / size) := by positivity
  have hround : (0 : ℚ) ≤ roundHalfEven (10 * ((s : ℚ) / size)) := by exact_mod_cast roundHalfEven_nonneg hnonneg
  rw [roundValue_eq, truncate_of_nonneg (by positivity), floor_tenths]

/-- Bytes that are a whole number of tenths are found again. -/
theorem roundHalfEven_tenths {size n : ℕ} (hsize : 1000 ≤ size) (hs : s = n * size / 10) :
    roundHalfEven (10 * (s / size)) = n := by
  have hpos : (0 : ℚ) < size := by exact_mod_cast (by omega : 0 < size)
  have hmul := Int.mul_ediv_add_emod (n * size : ℤ) 10
  have hlow := Int.emod_nonneg (n * size : ℤ) (by decide : (10 : ℤ) ≠ 0)
  have hhigh := Int.emod_lt_of_pos (n * size : ℤ) (by decide : (0 : ℤ) < 10)
  rw [← hs] at hmul
  -- the part of a byte that was left over
  have hle : 10 * s ≤ n * size := by omega
  have hge : (n : ℤ) * size - 9 ≤ 10 * s := by omega
  have hleQ : 10 * (s : ℚ) ≤ n * size := by exact_mod_cast hle
  have hgeQ : (n : ℚ) * size - 9 ≤ 10 * s := by exact_mod_cast hge
  have hsizeQ : (1000 : ℚ) ≤ size := by exact_mod_cast hsize
  have hdiv : 10 * ((s : ℚ) / size) - n = (10 * s - n * size) / size := by field_simp
  refine roundHalfEven_eq ?_
  show |10 * ((s : ℚ) / size) - ((n : ℤ) : ℚ)| < 1 / 2
  rw [Int.cast_natCast, hdiv, abs_div, abs_of_pos hpos, div_lt_iff₀ hpos, abs_lt]
  constructor <;> linarith

/-- **A conversion keeps the bytes** exactly when they are a whole number of tenths of the unit. -/
theorem bytes_asUnit_iff (hs : 0 ≤ s) :
    (SocaMemory.asUnit ⟨s, .bytes⟩ unit).bytes = s ↔ WholeTenths (factor unit) s := by
  rw [bytes_asUnit]
  by_cases hunit : unit = .bytes
  · subst hunit
    rw [if_pos rfl]
    refine iff_of_true rfl ⟨10 * s.toNat, ?_⟩
    simp only [factor]
    omega
  · rw [if_neg hunit, bytes_of_roundValue hs]
    constructor
    · intro h
      have hnonneg : 0 ≤ roundHalfEven (10 * ((s : ℚ) / factor unit)) := roundHalfEven_nonneg (by positivity)
      refine ⟨(roundHalfEven (10 * ((s : ℚ) / factor unit))).toNat, ?_⟩
      rw [Int.toNat_of_nonneg hnonneg, h]
    · rintro ⟨n, hn⟩
      rw [roundHalfEven_tenths (factor_of_ne_bytes hunit) hn, ← hn]

/-- **A conversion keeps the order.** -/
theorem bytes_asUnit_mono {s t : ℤ} (h : s ≤ t) (unit : SocaMemoryUnit) :
    (SocaMemory.asUnit ⟨s, .bytes⟩ unit).bytes ≤ (SocaMemory.asUnit ⟨t, .bytes⟩ unit).bytes := by
  rw [bytes_asUnit, bytes_asUnit]
  by_cases hunit : unit = .bytes
  · rw [if_pos hunit, if_pos hunit]
    exact h
  · rw [if_neg hunit, if_neg hunit, roundValue_eq, roundValue_eq]
    have hfactor : (0 : ℚ) < factor unit := by
      have hsize := factor_of_ne_bytes hunit
      exact_mod_cast (by omega : 0 < factor unit)
    have hle : (s : ℚ) ≤ t := by exact_mod_cast h
    have hround : roundHalfEven (10 * (s / factor unit)) ≤ roundHalfEven (10 * (t / factor unit)) := by
      apply roundHalfEven_mono
      gcongr
    have hroundQ : (roundHalfEven (10 * ((s : ℚ) / factor unit)) : ℚ) ≤
        roundHalfEven (10 * ((t : ℚ) / factor unit)) := by
      exact_mod_cast hround
    apply truncate_mono
    gcongr

/-- A conversion misses the bytes by no more than the rounding of the tenths and of the bytes. -/
theorem bytes_asUnit_near (hs : 0 ≤ s) : 20 * |(SocaMemory.asUnit ⟨s, .bytes⟩ unit).bytes - s| < factor unit + 20 := by
  rw [bytes_asUnit]
  by_cases hunit : unit = .bytes
  · rw [if_pos hunit]
    simp only [sub_self, abs_zero, mul_zero]
    omega
  · rw [if_neg hunit, bytes_of_roundValue hs]
    have hsize := factor_of_ne_bytes hunit
    have hpos : (0 : ℚ) < factor unit := by exact_mod_cast (by omega : 0 < factor unit)
    have hnear := abs_sub_roundHalfEven_le (10 * ((s : ℚ) / factor unit))
    set n := roundHalfEven (10 * ((s : ℚ) / factor unit))
    -- the tenths are off by at most one half
    have hscaled : 10 * (s : ℚ) - n * factor unit = (10 * ((s : ℚ) / factor unit) - n) * factor unit := by field_simp
    have hbound : |10 * (s : ℚ) - n * factor unit| ≤ factor unit / 2 := by
      rw [hscaled, abs_mul, abs_of_pos hpos]
      nlinarith
    rw [abs_le] at hbound
    have hupper : 2 * (10 * s - n * factor unit) ≤ factor unit := by
      have hQ : 2 * (10 * (s : ℚ) - n * factor unit) ≤ factor unit := by linarith [hbound.2]
      exact_mod_cast hQ
    have hlower : -(factor unit : ℤ) ≤ 2 * (10 * s - n * factor unit) := by
      have hQ : -(factor unit : ℚ) ≤ 2 * (10 * (s : ℚ) - n * factor unit) := by linarith [hbound.1]
      exact_mod_cast hQ
    -- and the bytes by less than one
    have hmul := Int.mul_ediv_add_emod (n * factor unit) 10
    have hlow := Int.emod_nonneg (n * factor unit) (by decide : (10 : ℤ) ≠ 0)
    have hhigh := Int.emod_lt_of_pos (n * factor unit) (by decide : (0 : ℤ) < 10)
    rcases abs_cases (n * factor unit / 10 - s) with ⟨habs, -⟩ | ⟨habs, -⟩
    · rw [habs]
      omega
    · rw [habs]
      omega

end Conversion

/-- **Sums and differences.** For whole numbers of units, and a difference that is not negative, the result has
exactly the bytes of the sum or the difference if and only if these are a whole number of tenths of the larger
unit; otherwise it is off by less than a twentieth of that unit and one byte. -/
theorem memory_arithmetic (m n : ℕ) (u v : SocaMemoryUnit) : let a : SocaMemory := ⟨m, u⟩
    let b : SocaMemory := ⟨n, v⟩
    let larger := max (factor u) (factor v)
    ((a.add b).bytes = a.bytes + b.bytes ↔ WholeTenths larger (a.bytes + b.bytes)) ∧
      20 * |(a.add b).bytes - (a.bytes + b.bytes)| < larger + 20 ∧
      (b.bytes ≤ a.bytes → ((a.sub b).bytes = a.bytes - b.bytes ↔ WholeTenths larger (a.bytes - b.bytes)) ∧
          20 * |(a.sub b).bytes - (a.bytes - b.bytes)| < larger + 20) := by
  intro a b larger
  have hlarger : larger = factor (a.largerUnit b) := (factor_largerUnit a b).symm
  have ha : 0 ≤ a.bytes := by
    rw [bytes_natCast]
    exact Int.natCast_nonneg _
  have hb : 0 ≤ b.bytes := by
    rw [bytes_natCast]
    exact Int.natCast_nonneg _
  rw [hlarger]
  refine ⟨bytes_asUnit_iff (by omega), ?_, fun hle => ⟨bytes_asUnit_iff (by omega), ?_⟩⟩
  · exact_mod_cast bytes_asUnit_near (by omega)
  · exact_mod_cast bytes_asUnit_near (by omega)

/-- **A sum that loses a mebibyte.** One gibibyte and one mebibyte are one gibibyte. -/
theorem gibibyte_and_mebibyte : ¬ ∀ (m n : ℕ) (u v : SocaMemoryUnit),
    (SocaMemory.add ⟨m, u⟩ ⟨n, v⟩).bytes = SocaMemory.bytes ⟨m, u⟩ + SocaMemory.bytes ⟨n, v⟩ := by
  intro h
  have hsum := h 1 1 .gib .mib
  rw [bytes_natCast, bytes_natCast] at hsum
  have hadd : SocaMemory.add ⟨(1 : ℕ), .gib⟩ ⟨(1 : ℕ), .mib⟩ =
      SocaMemory.asUnit ⟨((1 * factor .gib + 1 * factor .mib : ℕ) : ℤ), .bytes⟩ .gib := by
    show SocaMemory.asUnit _ _ = _
    rw [bytes_natCast, bytes_natCast, Nat.cast_add]
    rfl
  rw [hadd, ← Nat.cast_add, bytes_asUnit_iff (Int.natCast_nonneg _)] at hsum
  obtain ⟨k, hk⟩ := hsum
  simp only [factor] at hk
  omega

end ContainRes.VirtualDesktop.SoftwareStacks
