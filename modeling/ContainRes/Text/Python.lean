import Mathlib.Data.List.DropRight
import Mathlib.Data.List.Infix

/-! # The string operations of the source language

`str.strip`, `str.lower`, `str.split`, `in` and `Utils.is_empty` as the services use them on names,
paths and scopes. A string is turned into its list of characters, the operation is done there, and
the lemmas below are about that list.

* `strip`, `lower` — and their composition, which is idempotent (`lower_strip_idem`).
* `isEmpty`, `getAsString` — `Utils.is_empty` of a string: nothing is left after `strip`; and the
  stripped string unless it is empty.
* `splitChar` — `str.split` with a one-character separator.
* `contains` — the `in` operator on two strings; it is the infix relation (`contains_iff`). -/

namespace ContainRes.Text

/-- The characters `str.strip` removes: the white space of `str.isspace`. -/
def isSpace (c : Char) : Bool :=
  let n := c.toNat
  (9 ≤ n && n ≤ 13) || (28 ≤ n && n ≤ 32) || n == 0x85 || n == 0xA0 || n == 0x1680 ||
    (0x2000 ≤ n && n ≤ 0x200A) || n == 0x2028 || n == 0x2029 || n == 0x202F || n == 0x205F ||
    n == 0x3000

/-- `str.lower` of one character, exact on the characters whose lower case is ASCII: the letters
`A` to `Z` and the Kelvin sign. The other characters stay; names are compared only with stored
names, which are ASCII, and the lower case of a string with one of these is not. -/
def lowerChar (c : Char) : Char :=
  if c.toNat = 0x212A then 'k' else c.toLower

/-- White space removed at both ends of a list of characters. -/
def stripList (l : List Char) : List Char := (l.dropWhile isSpace).rdropWhile isSpace

def strip (s : String) : String := String.ofList (stripList s.toList)

def lower (s : String) : String := String.ofList (s.toList.map lowerChar)

/-- Membership of an optional text is decided by one instance. -/
instance lawfulBEqOptionString : LawfulBEq (Option String) := inferInstance

/-- `Utils.is_empty` of a string. -/
def isEmpty (s : String) : Bool := (stripList s.toList).isEmpty

/-- `Utils.is_empty` of a string that may be missing. -/
def isEmptyOpt (s : Option String) : Bool := s.all isEmpty

/-- `Utils.get_as_string` of a string that may be missing: stripped, and missing when blank. -/
def getAsString (s : Option String) : Option String :=
  s.bind fun value => if isEmpty value then none else some (strip value)

/-- `str.split(sep)` for a separator of one character. -/
def splitChar (sep : Char) (s : String) : List String := (s.toList.splitOn sep).map String.ofList

/-- `needle in hay` for two strings. -/
def contains (needle hay : String) : Bool := hay.toList.tails.any needle.toList.isPrefixOf

def startsWith (hay pre : String) : Bool := pre.toList.isPrefixOf hay.toList

/-! ## `strip` and `lower` together are idempotent -/

theorem dropWhile_eq_self_of_head {p : Char → Bool} {l : List Char}
    (h : ∀ c ∈ l.head?, p c = false) : l.dropWhile p = l := by
  cases l with
  | nil => rfl
  | cons c cs => simp [h c (by simp)]

variable (l : List Char)

/-- The list that is left has no white space at its head. -/
theorem head_stripList : ∀ c ∈ (stripList l).head?, isSpace c = false := by
  intro c hc
  have hpre : stripList l <+: l.dropWhile isSpace := List.rdropWhile_prefix _ _
  obtain ⟨t, ht⟩ := hpre
  have hne : stripList l ≠ [] := by
    intro h
    simp [h] at hc
  have hhead : c ∈ (l.dropWhile isSpace).head? := by
    rw [← ht, List.head?_append_of_ne_nil _ hne]
    exact hc
  exact List.head?_dropWhile_not isSpace l |> fun h => by
    rw [Option.mem_def] at hhead
    simpa [hhead] using h

@[simp] theorem stripList_idem : stripList (stripList l) = stripList l := by
  have hdrop : (stripList l).dropWhile isSpace = stripList l := dropWhile_eq_self_of_head (head_stripList l)
  rw [stripList, hdrop, stripList, List.rdropWhile_idempotent]

/-- The code point of an ASCII lower case. -/
theorem toNat_toLower (c : Char) : c.toLower.toNat = if 65 ≤ c.toNat ∧ c.toNat ≤ 90 then c.toNat + 32 else c.toNat := by
  have hval : c.toNat = c.val.toNat := rfl
  unfold Char.toLower
  split
  · rename_i h
    obtain ⟨h1, h2⟩ := h
    have h1' : 65 ≤ c.val.toNat := h1
    have h2' : c.val.toNat ≤ 90 := h2
    rw [if_pos ⟨h1', h2'⟩]
    show (c.val + 32).toNat = c.val.toNat + 32
    have h32 : (32 : UInt32).toNat = 32 := rfl
    rw [UInt32.toNat_add, h32]
    exact Nat.mod_eq_of_lt (by omega)
  · rename_i h
    rw [if_neg]
    rintro ⟨h1, h2⟩
    exact h ⟨h1, h2⟩

theorem isSpace_lowerChar (c : Char) : isSpace (lowerChar c) = isSpace c := by
  unfold lowerChar
  split
  · rename_i h
    simp [isSpace, h]
  · unfold isSpace
    rw [toNat_toLower]
    split
    · rename_i h
      rw [Bool.eq_iff_iff]
      simp only [Bool.or_eq_true, Bool.and_eq_true, decide_eq_true_eq, beq_iff_eq]
      omega
    · rfl

theorem lowerChar_idem (c : Char) : lowerChar (lowerChar c) = lowerChar c := by
  unfold lowerChar
  by_cases h : c.toNat = 0x212A
  · simp [h]
  · have hlow := toNat_toLower c
    have hne : c.toLower.toNat ≠ 0x212A := by
      rw [hlow]
      split <;> omega
    rw [if_neg h, if_neg hne]
    apply Char.toNat_inj.mp
    rw [toNat_toLower c.toLower, if_neg]
    rw [hlow]
    split <;> omega

theorem stripList_map_lowerChar : stripList (l.map lowerChar) = (stripList l).map lowerChar := by
  have hcomp : isSpace ∘ lowerChar = isSpace := funext isSpace_lowerChar
  unfold stripList List.rdropWhile
  rw [List.dropWhile_map, hcomp, ← List.map_reverse, List.dropWhile_map, hcomp, ← List.map_reverse]

variable (s : String)

@[simp] theorem toList_strip : (strip s).toList = stripList s.toList := by
  simp [strip]

@[simp] theorem toList_lower : (lower s).toList = s.toList.map lowerChar := by
  simp [lower]

/-- **Idempotence.** Stripping and lowering a name twice is doing it once. -/
@[simp] theorem lower_strip_idem : lower (strip (lower (strip s))) = lower (strip s) := by
  have hid : lowerChar ∘ lowerChar = lowerChar := funext lowerChar_idem
  apply String.toList_injective
  simp only [toList_lower, toList_strip, stripList_map_lowerChar, stripList_idem, List.map_map, hid]

theorem isEmpty_lower_strip : isEmpty (lower (strip s)) = isEmpty s := by
  simp [isEmpty, stripList_map_lowerChar]

/-- Without white space there is nothing to strip. -/
theorem stripList_of_noSpace {l : List Char} (h : ∀ c ∈ l, isSpace c = false) : stripList l = l := by
  have hdrop : ∀ l : List Char, (∀ c ∈ l, isSpace c = false) → l.dropWhile isSpace = l := by
    intro l hl
    cases l with
    | nil => rfl
    | cons c l => rw [List.dropWhile_cons, hl c List.mem_cons_self]; rfl
  unfold stripList List.rdropWhile
  rw [hdrop l h, hdrop l.reverse fun c hc => h c (List.mem_reverse.mp hc), List.reverse_reverse]

theorem isEmpty_strip : isEmpty (strip s) = isEmpty s := by
  simp [isEmpty]

theorem strip_strip : strip (strip s) = strip s := by
  rw [strip, toList_strip, stripList_idem, strip]

@[simp] theorem getAsString_getAsString (s : Option String) : getAsString (getAsString s) = getAsString s := by
  cases s with
  | none => rfl
  | some value =>
    by_cases h : isEmpty value = true
    · simp [getAsString, h]
    · simp [getAsString, h, isEmpty_strip, strip_strip]

variable {s : String}

theorem getAsString_of_nonblank (h : isEmpty s = false) : getAsString (some s) = some (strip s) := by
  simp [getAsString, h]

/-- A text without white space is its own stripped text. -/
theorem getAsString_of_noSpace (hne : s ≠ "") (h : ∀ c ∈ s.toList, isSpace c = false) :
    getAsString (some s) = some s := by
  have hfix := stripList_of_noSpace h
  have hlist : s.toList ≠ [] := fun hnil => hne (by simpa using hnil)
  have hnonblank : isEmpty s = false := by
    rw [isEmpty, hfix]
    simpa using hlist
  rw [getAsString_of_nonblank hnonblank, strip, hfix, String.ofList_toList]

theorem isSpace_of_isDigit {c : Char} (h : c.isDigit = true) : isSpace c = false := by
  have hrange : 48 ≤ c.toNat ∧ c.toNat ≤ 57 := by
    simpa [Char.isDigit, UInt32.le_iff_toNat_le] using h
  unfold isSpace
  simp only [Bool.or_eq_false_iff, Bool.and_eq_false_iff, decide_eq_false_iff_not, beq_eq_false_iff_ne]
  omega

/-- A string is blank when all of it is white space. -/
theorem isEmpty_iff (s : String) : isEmpty s = true ↔ ∀ c ∈ s.toList, isSpace c = true := by
  unfold isEmpty
  rw [List.isEmpty_iff]
  constructor
  · intro h
    -- what is left at the front is all white space, and does not begin with it
    have hall := List.rdropWhile_eq_nil_iff.mp h
    apply List.dropWhile_eq_nil_iff.mp
    cases hdrop : s.toList.dropWhile isSpace with
    | nil => rfl
    | cons c rest =>
      have hhead := List.head?_dropWhile_not isSpace s.toList
      rw [hdrop] at hhead hall
      exact absurd (hall c List.mem_cons_self) (by simpa using hhead)
  · intro h
    unfold stripList
    rw [List.dropWhile_eq_nil_iff.mpr h]
    rfl

theorem ne_empty_of_not_isEmpty (h : isEmpty s = false) : s ≠ "" := by
  rintro rfl
  exact absurd h (by decide)

theorem isEmpty_append_of_not_isEmpty (h : isEmpty s = false) (t : String) : isEmpty (s ++ t) = false := by
  rw [← Bool.not_eq_true, isEmpty_iff] at h ⊢
  intro hall
  apply h
  intro c hc
  apply hall
  rw [String.toList_append]
  exact List.mem_append_left _ hc

/-! ## `in` is the infix relation -/

theorem contains_iff (needle hay : String) : contains needle hay = true ↔ needle.toList <:+: hay.toList := by
  unfold contains
  rw [List.any_eq_true, List.infix_iff_prefix_suffix]
  simp only [List.mem_tails, List.isPrefixOf_iff_prefix, and_comm]

@[simp] theorem contains_self (s : String) : contains s s = true :=
  (contains_iff s s).mpr List.infix_rfl

theorem contains_strip (s : String) : contains (strip s) s = true := by
  rw [contains_iff, toList_strip]
  have hpre : stripList s.toList <+: s.toList.dropWhile isSpace := List.rdropWhile_prefix _ _
  have hsuf : s.toList.dropWhile isSpace <:+ s.toList := List.dropWhile_suffix _
  exact hpre.isInfix.trans hsuf.isInfix

/-- A string does not start with two strings of which neither starts with the other. -/
theorem not_startsWith_of_startsWith {s p q : String} (h : startsWith s p = true)
    (hpq : startsWith p q = false) (hqp : startsWith q p = false) : startsWith s q = false := by
  rw [Bool.eq_false_iff]
  intro hq
  unfold startsWith at h hpq hqp hq
  rw [List.isPrefixOf_iff_prefix] at h hq
  rcases List.prefix_or_prefix_of_prefix h hq with hp | hp
  · rw [List.isPrefixOf_iff_prefix.mpr hp] at hqp
    cases hqp
  · rw [List.isPrefixOf_iff_prefix.mpr hp] at hpq
    cases hpq

end ContainRes.Text
