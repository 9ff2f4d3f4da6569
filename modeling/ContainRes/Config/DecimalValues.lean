import ContainRes.Common.Paginator
import ContainRes.Effects.Proc
import ContainRes.Numbers.Decimal
import Mathlib.Data.Rat.Floor

/-! # Numbers among the settings

The table of the settings has one type for all numbers, which the client library reads and writes as decimals.
`ClusterConfigDB.set_config_entry` makes decimals of floats, and `Utils.check_and_convert_decimal_value` makes
integers and floats of decimals again, by the look of their texts.

* **`FloatFormat`**, **`NumberStore`** — floats with their shortest texts; what the table answers for a number.
* **`setConfigEntry`**, **`postProcessDdbConfigEntry`** — writing and reading a setting.
* **`RoundTrips`** — what is read is equal to what was written.
* **`roundTrips_iff`** — an integer or a float round-trips when the text of what the table answers has a point, or
  has no power of ten, and names the number; a list round-trips only when it is empty. -/

namespace ContainRes.DecimalValues

open Effects Numbers Text

/-! ## Floats and the table -/

/-- Finite floats, with equality by the exact number. -/
structure FloatFormat (F : Type) where
  /-- The exact number. -/
  toRat : F → ℚ
  /-- `Decimal(str(x))`. -/
  shortest : F → Decimal
  /-- `float(text)` of the text of a number. -/
  nearest : ℚ → F
  /-- `float(str(x)) == x`. -/
  nearest_shortest : ∀ x, toRat (nearest (shortest x).value) = toRat x

/-- What the table answers for a number that is written to it; it does not take a number with too many digits or
one that is too small or too large. -/
structure NumberStore where
  put : Decimal → Option Decimal
  value_put : ∀ {d d'}, put d = some d' → d'.value = d.value

variable {F : Type} (floats : FloatFormat F) (store : NumberStore)

/-- A number that is an integer or a float. -/
inductive Number (F : Type)
  | int (n : ℤ)
  | float (x : F)
  deriving DecidableEq, Repr

/-- The exact number, by which numbers are compared. -/
def Number.toRat : Number F → ℚ
  | .int n => n
  | .float x => floats.toRat x

/-- A setting that is a number, or a list of integers or of floats. -/
inductive ConfigValue (F : Type)
  | int (n : ℤ)
  | float (x : F)
  | ints (l : List ℤ)
  | floats (l : List F)
  deriving DecidableEq, Repr

/-- What an item of the table holds under `value` or `version`. -/
inductive Stored
  | number (d : Decimal)
  | list (l : List Decimal)
  deriving DecidableEq, Repr

/-- An element of a list that was read: a number, or the list of decimals itself. -/
inductive ReadItem (F : Type)
  | number (n : Number F)
  | decimals (l : List Decimal)
  deriving DecidableEq, Repr

/-- What is read. -/
inductive ReadValue (F : Type)
  | number (n : Number F)
  | list (l : List (ReadItem F))
  deriving DecidableEq, Repr

/-! ## Writing -/

/-- The exception of the client library for a number that it cannot write. -/
def notRepresentable : Exc := .other .valueError "Inexact, Rounded, Clamped, Overflow or Underflow"

/-- A number is written. -/
def putNumber (d : Decimal) : Except Exc Decimal :=
  match store.put d with
  | none => .error notRepresentable
  | some d' => .ok d'

/-- `set_config_entry`, and the `value` of the item afterwards: floats are turned into decimals, alone or in a list
that begins with one. -/
def setConfigEntry : ConfigValue F → Except Exc Stored
  | .int n => (putNumber store (.ofInt n)).map .number
  | .float x => (putNumber store (floats.shortest x)).map .number
  | .ints l => (l.mapM fun n => putNumber store (.ofInt n)).map .list
  | .floats l => (l.mapM fun x => putNumber store (floats.shortest x)).map .list

/-! ## Reading -/

/-- The number that a decimal is read as: a float when there is a point in the text, an integer otherwise. -/
def convertDecimal (d : Decimal) : Except Exc (Number F) :=
  if '.' ∈ d.text.toList then .ok (.float (floats.nearest d.value))
  else
    match parseInt d.text with
    | none => .error (.other .valueError "invalid literal for int() with base 10")
    | some n => .ok (.int n)

/-- The loop over a list, which appends the whole list after each of its elements. -/
def convertList (value : List Decimal) : List Decimal → Except Exc (List (ReadItem F))
  | [] => .ok []
  | d :: rest => do
    let n ← convertDecimal floats d
    let items ← convertList value rest
    return .number n :: .decimals value :: items

def checkAndConvertDecimalValue : Stored → Except Exc (ReadValue F)
  | .number d => (convertDecimal floats d).map .number
  | .list l => (convertList floats l l).map .list

@[simp] theorem checkAndConvertDecimalValue_number (d : Decimal) :
    checkAndConvertDecimalValue floats (.number d) = (convertDecimal floats d).map .number := rfl

@[simp] theorem checkAndConvertDecimalValue_list (l : List Decimal) :
    checkAndConvertDecimalValue floats (.list l) = (convertList floats l l).map .list := rfl

/-- An item of the table, without its key. -/
structure Item where
  version : Stored
  value : Stored
  deriving DecidableEq, Repr

/-- An item that was read. -/
structure ReadEntry (F : Type) where
  version : ReadValue F
  value : ReadValue F
  deriving DecidableEq, Repr

def postProcessDdbConfigEntry (item : Item) : Except Exc (ReadEntry F) := do
  let version ← checkAndConvertDecimalValue floats item.version
  let value ← checkAndConvertDecimalValue floats item.value
  return ⟨version, value⟩

/-! ## The round trip -/

/-- `==` of an element that was read and a number. -/
def ReadItem.Equals (item : ReadItem F) (n : Number F) : Prop :=
  match item with
  | .number m => m.toRat floats = n.toRat floats
  | .decimals _ => False

/-- `==` of a value that was read and a setting. -/
def ReadValue.Equals (read : ReadValue F) : ConfigValue F → Prop
  | .int n => ∃ m, read = .number m ∧ m.toRat floats = n
  | .float x => ∃ m, read = .number m ∧ m.toRat floats = floats.toRat x
  | .ints l => ∃ items, read = .list items ∧ List.Forall₂ (fun item n => item.Equals floats (.int n)) items l
  | .floats l => ∃ items, read = .list items ∧ List.Forall₂ (fun item x => item.Equals floats (.float x)) items l

/-- **The round trip**: a setting is written, and what is read from the item with that value is equal to it. -/
def RoundTrips (version : Decimal) (value : ConfigValue F) : Prop :=
  ∃ stored entry, setConfigEntry floats store value = .ok stored ∧
    postProcessDdbConfigEntry floats ⟨.number version, stored⟩ = .ok entry ∧ entry.value.Equals floats value

/-- The settings that survive it. The table takes the number, and the text of its answer has a point, or it has no
power of ten; with a point an integer must be a float, and without one the shortest text of a float must be exact. -/
def Survives : ConfigValue F → Prop
  | .int n => ∃ d, store.put (.ofInt n) = some d ∧
      ((d.HasPoint ∧ floats.toRat (floats.nearest n) = n) ∨ d.exponent = 0)
  | .float x => ∃ d, store.put (floats.shortest x) = some d ∧
      (d.HasPoint ∨ (d.exponent = 0 ∧ floats.toRat x = (floats.shortest x).value))
  | .ints l => l = []
  | .floats l => l = []

/-! ### Integers that are read -/

theorem digitsFrom_eq {l : List Char} (h : ∀ c ∈ l, c.isDigit = true) (value : ℕ) :
    digitsFrom value true l = some (Nat.ofDigitChars 10 l value) := by
  induction l generalizing value with
  | nil => simp [digitsFrom]
  | cons c rest ih =>
    unfold digitsFrom
    rw [if_pos (h c List.mem_cons_self), ih fun x hx => h x (List.mem_cons_of_mem _ hx), Nat.ofDigitChars_cons,
      Nat.mul_comm]

theorem digitsFrom_eq_of_ne_nil {l : List Char} (hne : l ≠ []) (h : ∀ c ∈ l, c.isDigit = true) :
    digitsFrom 0 false l = some (Nat.ofDigitChars 10 l 0) := by
  cases l with
  | nil => exact absurd rfl hne
  | cons c rest =>
    unfold digitsFrom
    rw [if_pos (h c List.mem_cons_self), digitsFrom_eq fun x hx => h x (List.mem_cons_of_mem _ hx),
      Nat.ofDigitChars_cons, Nat.mul_comm]

theorem digitsFrom_scientific {c : Char} (hc : c.isDigit = true) (rest : List Char) :
    digitsFrom 0 false (c :: 'E' :: rest) = none := by
  unfold digitsFrom
  rw [if_pos hc]
  unfold digitsFrom
  rw [if_neg (by decide), if_neg (by decide)]

variable {d : Decimal}

/-- What is read behind the sign of a decimal. -/
theorem parseInt_signed {body : List Char} {result : Option ℕ}
    (htext : d.text.toList = d.signPart ++ body) (hspace : ∀ c ∈ body, isSpace c = false)
    (hhead : ∀ c ∈ body.head?, c.isDigit = true) (hbody : digitsFrom 0 false body = result) :
    parseInt d.text = result.map fun n : ℕ => if d.negative then -(n : ℤ) else (n : ℤ) := by
  have hstrip : stripList d.text.toList = d.signPart ++ body := by
    rw [htext]
    refine stripList_of_noSpace fun c hc => ?_
    rcases List.mem_append.mp hc with hsign | hbody
    · unfold Decimal.signPart at hsign
      split at hsign
      · rw [List.mem_singleton.mp hsign]
        decide
      · exact absurd hsign List.not_mem_nil
    · exact hspace c hbody
  unfold parseInt
  rw [hstrip]
  cases hneg : d.negative with
  | true =>
    rw [Decimal.signPart, hneg, if_pos rfl]
    show (digitsFrom 0 false body).map _ = _
    rw [hbody]
    rfl
  | false =>
    rw [Decimal.signPart, hneg, if_neg (by simp), List.nil_append]
    -- the first character is a digit, and no sign
    split
    · exact absurd (hhead '-' rfl) (by decide)
    · exact absurd (hhead '+' rfl) (by decide)
    · rw [hbody]
      rfl

/-- **An integer's text** is read as the integer. -/
theorem parseInt_of_exponent_zero (h : d.exponent = 0) : ∃ n : ℤ, parseInt d.text = some n ∧ (n : ℚ) = d.value := by
  have hdigit : ∀ c ∈ d.digits, c.isDigit = true := fun c hc => Decimal.isDigit_of_mem_digits hc
  have hne : d.digits ≠ [] := Nat.toDigits_ne_nil
  have hbody : digitsFrom 0 false d.digits = some d.coefficient := by
    rw [digitsFrom_eq_of_ne_nil hne hdigit]
    exact congrArg some Nat.ofDigitChars_ten_toDigits
  refine ⟨_, parseInt_signed (Decimal.text_of_exponent_zero h) (fun c hc => isSpace_of_isDigit (hdigit c hc))
    (fun c hc => hdigit c (List.mem_of_mem_head? hc)) hbody, ?_⟩
  rw [Decimal.value, h, zpow_zero, mul_one]
  split
  · push_cast
    ring
  · push_cast
    ring

/-- **A power of ten without a point** cannot be read. -/
theorem parseInt_scientific (hpoint : ¬ d.HasPoint) (h : d.exponent ≠ 0) : parseInt d.text = none := by
  obtain ⟨c, rest, htext, hc, hrest⟩ := Decimal.text_scientific hpoint h
  refine (parseInt_signed htext ?_ ?_ (digitsFrom_scientific hc rest)).trans rfl
  · intro x hx
    rcases List.mem_cons.mp hx with rfl | hx
    · exact isSpace_of_isDigit hc
    · rcases List.mem_cons.mp hx with rfl | hx
      · decide
      · rcases hrest x hx with rfl | rfl | hdigit
        · decide
        · decide
        · exact isSpace_of_isDigit hdigit
  · intro x hx
    rw [List.head?_cons, Option.mem_def, Option.some.injEq] at hx
    rw [← hx]
    exact hc

/-! ### Numbers -/

/-- A decimal without a power of ten has no point exactly when it is an integer. -/
theorem not_hasPoint_of_exponent_zero (h : d.exponent = 0) : ¬ d.HasPoint := by
  have hmem : '.' ∉ d.text.toList := by
    rw [Decimal.text_of_exponent_zero h, List.mem_append, not_or]
    constructor
    · unfold Decimal.signPart
      split <;> decide
    · exact Decimal.point_notMem fun c hc => Decimal.isDigit_of_mem_digits hc
  exact fun hpoint => hmem (Decimal.point_mem_text.mpr hpoint)

/-- The numbers that a decimal is read as. -/
theorem exists_convertDecimal_iff {q : ℚ} : (∃ n, convertDecimal floats d = .ok n ∧ n.toRat floats = q) ↔
      (d.HasPoint ∧ floats.toRat (floats.nearest d.value) = q) ∨ (d.exponent = 0 ∧ d.value = q) := by
  unfold convertDecimal
  by_cases hpoint : d.HasPoint
  · rw [if_pos (Decimal.point_mem_text.mpr hpoint)]
    have hexp : d.exponent ≠ 0 := fun h => not_hasPoint_of_exponent_zero h hpoint
    constructor
    · rintro ⟨n, hn, hq⟩
      rw [← Except.ok.inj hn] at hq
      exact .inl ⟨hpoint, hq⟩
    · rintro (⟨-, hq⟩ | ⟨h, -⟩)
      · exact ⟨_, rfl, hq⟩
      · exact absurd h hexp
  · rw [if_neg (mt Decimal.point_mem_text.mp hpoint)]
    by_cases hexp : d.exponent = 0
    · obtain ⟨n, hparse, hvalue⟩ := parseInt_of_exponent_zero hexp
      rw [hparse]
      constructor
      · rintro ⟨m, hm, hq⟩
        rw [← Except.ok.inj hm] at hq
        exact .inr ⟨hexp, hvalue.symm.trans hq⟩
      · rintro (⟨h, -⟩ | ⟨-, hq⟩)
        · exact absurd h hpoint
        · exact ⟨_, rfl, hvalue.trans hq⟩
    · rw [parseInt_scientific hpoint hexp]
      constructor
      · rintro ⟨m, hm, -⟩
        cases hm
      · rintro (⟨h, -⟩ | ⟨h, -⟩)
        · exact absurd h hpoint
        · exact absurd h hexp

variable {version : Decimal}

theorem checkAndConvert_version (h : version.exponent = 0) :
    ∃ read, checkAndConvertDecimalValue floats (.number version) = .ok read := by
  obtain ⟨n, hn, -⟩ := (exists_convertDecimal_iff floats).mpr (.inr ⟨h, rfl⟩)
  refine ⟨.number n, ?_⟩
  rw [checkAndConvertDecimalValue_number, hn]
  rfl

/-- What is read under `value` does not depend on the version. -/
theorem postProcess_iff (hversion : version.exponent = 0) {stored : Stored}
    {P : ReadValue F → Prop} :
    (∃ entry, postProcessDdbConfigEntry floats ⟨.number version, stored⟩ = .ok entry ∧ P entry.value) ↔
      ∃ read, checkAndConvertDecimalValue floats stored = .ok read ∧ P read := by
  obtain ⟨versionRead, hread⟩ := checkAndConvert_version floats hversion
  unfold postProcessDdbConfigEntry
  rw [hread]
  constructor
  · rintro ⟨entry, hentry, hP⟩
    obtain ⟨_, -, hentry⟩ := bind_eq_ok.mp hentry
    obtain ⟨read, hvalue, hok⟩ := bind_eq_ok.mp hentry
    rw [← Except.ok.inj hok] at hP
    exact ⟨read, hvalue, hP⟩
  · rintro ⟨read, hvalue, hP⟩
    refine ⟨⟨versionRead, read⟩, ?_, hP⟩
    dsimp only
    rw [hvalue]
    rfl

/-- The round trip of one number. -/
theorem roundTrip_number (hversion : version.exponent = 0) (q : ℚ) :
    (∃ stored entry, (putNumber store d).map Stored.number = .ok stored ∧
        postProcessDdbConfigEntry floats ⟨.number version, stored⟩ = .ok entry ∧
          ∃ n, entry.value = .number n ∧ n.toRat floats = q) ↔ ∃ d', store.put d = some d' ∧
        ((d'.HasPoint ∧ floats.toRat (floats.nearest d.value) = q) ∨ (d'.exponent = 0 ∧ d.value = q)) := by
  unfold putNumber
  cases hput : store.put d with
  | none =>
    refine iff_of_false ?_ (by simp)
    rintro ⟨stored, entry, hstored, -⟩
    cases hstored
  | some d' =>
    have hvalue := store.value_put hput
    have hread : (∃ entry, postProcessDdbConfigEntry floats ⟨.number version, .number d'⟩ = .ok entry ∧
        ∃ n, entry.value = .number n ∧ n.toRat floats = q) ↔
        ∃ n, convertDecimal floats d' = .ok n ∧ n.toRat floats = q := by
      rw [postProcess_iff floats hversion (P := fun read => ∃ n, read = .number n ∧ n.toRat floats = q)]
      rw [checkAndConvertDecimalValue_number]
      cases convertDecimal floats d' with
      | error e => simp [Except.map]
      | ok n => simp [Except.map]
    rw [exists_convertDecimal_iff, hvalue] at hread
    constructor
    · rintro ⟨stored, entry, hstored, hentry⟩
      obtain rfl := Except.ok.inj hstored
      exact ⟨d', rfl, hread.mp ⟨entry, hentry⟩⟩
    · rintro ⟨d'', hd'', h⟩
      obtain rfl := Option.some.inj hd''
      obtain ⟨entry, hentry⟩ := hread.mpr h
      exact ⟨_, entry, rfl, hentry⟩

/-! ### Lists -/

/-- **A list that is read** has two elements for each of its decimals. -/
theorem length_convertList {value l : List Decimal} {items : List (ReadItem F)}
    (h : convertList floats value l = .ok items) : items.length = 2 * l.length := by
  induction l generalizing items with
  | nil =>
    rw [← Except.ok.inj h]
    rfl
  | cons d rest ih =>
    obtain ⟨n, -, h⟩ := bind_eq_ok.mp h
    obtain ⟨tail, htail, h⟩ := bind_eq_ok.mp h
    rw [← Except.ok.inj h, List.length_cons, List.length_cons, List.length_cons, ih htail]
    omega

/-- As many decimals are stored as there are numbers in a list. -/
theorem length_of_mapM {α β : Type} {f : α → Except Exc β} {l : List α} {result : List β}
    (h : l.mapM f = .ok result) : result.length = l.length := by
  induction l generalizing result with
  | nil =>
    rw [List.mapM_nil] at h
    rw [← Except.ok.inj h]
    rfl
  | cons a rest ih =>
    rw [List.mapM_cons] at h
    obtain ⟨b, -, h⟩ := bind_eq_ok.mp h
    obtain ⟨tail, htail, h⟩ := bind_eq_ok.mp h
    rw [← Except.ok.inj h, List.length_cons, List.length_cons, ih htail]

/-- The round trip of a list. -/
theorem roundTrip_list {α : Type} (hversion : version.exponent = 0) (f : α → Decimal)
    (R : ReadItem F → α → Prop) (l : List α) :
    (∃ stored entry, (l.mapM fun a => putNumber store (f a)).map Stored.list = .ok stored ∧
        postProcessDdbConfigEntry floats ⟨.number version, stored⟩ = .ok entry ∧
          ∃ items, entry.value = .list items ∧ List.Forall₂ R items l) ↔ l = [] := by
  constructor
  · rintro ⟨stored, entry, hstored, hentry, items, hitems, hequal⟩
    cases hput : l.mapM fun a => putNumber store (f a) with
    | error e =>
      rw [hput] at hstored
      cases hstored
    | ok decimals =>
      rw [hput] at hstored
      obtain rfl := Except.ok.inj hstored
      obtain ⟨read, hread, hlist⟩ := (postProcess_iff floats hversion
        (P := fun read => read = .list items)).mp ⟨entry, hentry, hitems⟩
      subst hlist
      -- the list that is read is twice as long
      have hconvert : convertList floats decimals decimals = .ok items := by
        rw [checkAndConvertDecimalValue_list] at hread
        cases hlist : convertList floats decimals decimals with
        | error e =>
          rw [hlist] at hread
          cases hread
        | ok items' =>
          rw [hlist] at hread
          cases hread
          rfl
      have hlength := length_convertList floats hconvert
      have hsame := hequal.length_eq
      have hstoredLength := length_of_mapM hput
      exact List.length_eq_zero_iff.mp (by omega)
  · rintro rfl
    have hempty : checkAndConvertDecimalValue floats (.list []) = .ok (.list []) := rfl
    obtain ⟨entry, hentry, hvalue⟩ := (postProcess_iff floats hversion
      (P := fun read => read = .list [])).mpr ⟨.list [], hempty, rfl⟩
    exact ⟨.list [], entry, rfl, hentry, [], hvalue, List.Forall₂.nil⟩

/-- **The decimal round trip.** A setting is read as it was written exactly when it survives: a number whose decimal
has a readable text, or the empty list. -/
theorem roundTrips_iff {version : Decimal} (hversion : version.exponent = 0) (value : ConfigValue F) :
    RoundTrips floats store version value ↔ Survives floats store value := by
  cases value with
  | int n =>
    refine (roundTrip_number floats store hversion (n : ℚ)).trans ?_
    rw [Decimal.value_ofInt]
    simp [Survives]
  | float x =>
    refine (roundTrip_number floats store hversion (floats.toRat x)).trans ?_
    have hnearest := floats.nearest_shortest x
    simp only [Survives, hnearest, and_true, eq_comm]
  | ints l => exact roundTrip_list floats store hversion Decimal.ofInt (fun item n => item.Equals floats (.int n)) l
  | floats l =>
    exact roundTrip_list floats store hversion floats.shortest (fun item x => item.Equals floats (.float x)) l

/-! ## A list that is read twice as long -/

/-- Floats that are whole numbers of halves. -/
def halves : FloatFormat ℤ where
  toRat z := z / 2
  shortest z := ⟨decide (z < 0), z.natAbs * 5, -1⟩
  nearest q := ⌊2 * q⌋
  nearest_shortest := by
    intro z
    have hvalue : (⟨decide (z < 0), z.natAbs * 5, -1⟩ : Decimal).value = (Decimal.ofInt z).value / 2 := by
      cases hneg : decide (z < 0) <;> simp only [Decimal.value, Decimal.ofInt, hneg] <;> push_cast <;> ring
    rw [hvalue, Decimal.value_ofInt, mul_div_cancel₀ _ (by norm_num), Int.floor_intCast]

/-- A table that answers what was written. -/
def exactStore : NumberStore where
  put := some
  value_put := by
    intro d d' h
    rw [Option.some.inj h]

/-- One half, in the first version of its item. -/
theorem roundTrips_iff_half : RoundTrips halves exactStore ⟨false, 1, 0⟩ (.float 1) ↔
    Survives halves exactStore (.float 1) :=
  roundTrips_iff halves exactStore rfl (.float 1)

/-- **Two numbers become four elements.** -/
theorem list_doubled : ¬ RoundTrips halves exactStore ⟨false, 1, 0⟩ (.ints [1, 2]) := by
  intro h
  have hempty := (roundTrip_list halves exactStore rfl Decimal.ofInt
    (fun item n => item.Equals halves (.int n)) [1, 2]).mp h
  cases hempty

end ContainRes.DecimalValues
