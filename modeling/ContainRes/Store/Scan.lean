import ContainRes.Text.Python
import Mathlib.Logic.Encodable.Basic
import Mathlib.Logic.Equiv.List

/-! # Filtered scans of a paged table

A scan reads a table page by page and returns, of one page, the items that meet a filter: a conjunction
with at most one condition for each attribute, where `EQ` is equality and `CONTAINS` is containment of a
substring in a string or of an element in a list.

* **`ScanFilter`** — the conditions by attribute; `set` replaces the condition an attribute had.
* **`ScanFilter.holds`** — an item meets every condition; `holds_set` says what the condition put last
  asks, `without_set_self` and `without_set_of_ne` what becomes of the others.
* **`Paged`** — a table as its scans see it: the pages read one after another from the start, and the
  page read after a start key.
* **`Paginator`** — how the rows of an answer are cut into pages.
* **`JsonText`** — the texts that maps stand for; different maps have different texts. -/

namespace ContainRes.Store

open Text

/-- The value of an attribute. A map stands as its JSON text. -/
inductive AttributeValue
  | S (s : String)
  | N (n : Int)
  | BOOL (b : Bool)
  | L (items : List String)
  | M (json : String)
  deriving DecidableEq, Repr

/-- The comparison operators of a filter. -/
inductive ComparisonOperator
  | EQ
  | CONTAINS
  deriving DecidableEq, Repr

/-- One condition on the value of an attribute. -/
structure Condition where
  operator : ComparisonOperator
  operand : AttributeValue
  deriving DecidableEq, Repr

/-- `CONTAINS` of two values. -/
def AttributeValue.includes : AttributeValue → AttributeValue → Bool
  | .S hay, .S needle => contains needle hay
  | .L items, .S element => items.contains element
  | _, _ => false

/-- Whether a value meets the condition; an attribute that is missing meets none. -/
def Condition.holds (c : Condition) : Option AttributeValue → Bool
  | none => false
  | some value =>
    match c.operator with
    | .EQ => decide (value = c.operand)
    | .CONTAINS => value.includes c.operand

@[simp] theorem Condition.holds_contains (needle hay : String) :
    Condition.holds ⟨.CONTAINS, .S needle⟩ (some (.S hay)) = contains needle hay := rfl

@[simp] theorem Condition.holds_eq (value operand : AttributeValue) :
    Condition.holds ⟨.EQ, operand⟩ (some value) = decide (value = operand) := rfl

/-- A filter: a condition for each of some attributes. -/
abbrev ScanFilter (κ : Type) : Type := List (κ × Condition)

namespace ScanFilter

variable {κ : Type} [DecidableEq κ]

/-- The filter without its condition on one attribute. -/
def without (f : ScanFilter κ) (key : κ) : ScanFilter κ := f.filter fun entry => entry.1 ≠ key

/-- Put a condition on an attribute, in place of the one it had. -/
def set (f : ScanFilter κ) (key : κ) (c : Condition) : ScanFilter κ := (key, c) :: f.without key

/-- Whether an item meets every condition. -/
def holds (f : ScanFilter κ) (item : κ → Option AttributeValue) : Bool :=
  f.all fun entry => entry.2.holds (item entry.1)

variable (f : ScanFilter κ) (key : κ) (c : Condition) (item : κ → Option AttributeValue)

omit [DecidableEq κ] in
@[simp] theorem holds_nil : holds [] item = true := rfl

/-- The filter that a condition was put on last holds when that condition does and the rest of the
filter does. -/
@[simp] theorem holds_set : (f.set key c).holds item = (c.holds (item key) && (f.without key).holds item) := rfl

@[simp] theorem without_set_self : (f.set key c).without key = f.without key := by
  simp [set, without, List.filter_filter]

theorem without_set_of_ne {key key' : κ} (h : key' ≠ key) :
    (f.set key' c).without key = (f.without key).set key' c := by
  simp [set, without, h, List.filter_filter, Bool.and_comm]

/-- The conditions that a filter has for one attribute. -/
def conditionsAt (f : ScanFilter κ) (key : κ) : ScanFilter κ := f.filter fun entry => entry.1 = key

/-- A filter holds when its conditions for one attribute do and the others do. -/
theorem holds_split : f.holds item = ((f.conditionsAt key).holds item && (f.without key).holds item) := by
  rw [Bool.eq_iff_iff, Bool.and_eq_true]
  simp only [holds, conditionsAt, without, List.all_filter, List.all_eq_true, Bool.or_eq_true]
  constructor
  · intro h
    exact ⟨fun entry hentry => .inr (h entry hentry), fun entry hentry => .inr (h entry hentry)⟩
  · rintro ⟨hat, hrest⟩ entry hentry
    by_cases hkey : entry.1 = key
    · exact (hat entry hentry).resolve_left (by simp [hkey])
    · exact (hrest entry hentry).resolve_left (by simp [hkey])

@[simp] theorem conditionsAt_set_self : (f.set key c).conditionsAt key = [(key, c)] := by
  simp [set, conditionsAt, without, List.filter_filter]

theorem conditionsAt_set_of_ne {key key' : κ} (h : key' ≠ key) :
    (f.set key' c).conditionsAt key = f.conditionsAt key := by
  simp only [set, conditionsAt, without, List.filter_filter, List.filter_cons_of_neg, h, decide_false,
    Bool.false_eq_true, not_false_eq_true]
  refine List.filter_congr fun entry _ => ?_
  by_cases hkey : entry.1 = key
  · simp [hkey, h.symm]
  · simp [hkey]

@[simp] theorem without_nil : without ([] : ScanFilter κ) key = [] := rfl

end ScanFilter

/-- A table as its scans see it. -/
structure Paged (α : Type) where
  /-- The pages that a scan from the start reads one after another. -/
  pages : List (List α)
  /-- The page that a scan after a start key reads. -/
  after : String → List α

namespace Paged

variable {α : Type}

/-- The page that a scan from the start reads first. -/
def first (t : Paged α) : List α := t.pages.headD []

/-- The page that one scan reads. -/
def page (t : Paged α) : Option String → List α
  | none => t.first
  | some key => t.after key

/-- The rows of the table that the first page leaves out. -/
def rest (t : Paged α) : List α := t.pages.tail.flatten

/-- Every row of the table. -/
def rows (t : Paged α) : List α := t.pages.flatten

theorem rows_eq (t : Paged α) : t.rows = t.first ++ t.rest := by
  unfold rows first rest
  cases t.pages with
  | nil => rfl
  | cons p ps => rfl

end Paged

/-- How the rows of an answer are cut into pages: every row is on one of them. -/
structure Paginator (α : Type) where
  split : List α → List (List α)
  perm : ∀ rows, (split rows).flatten.Perm rows

namespace Paginator

variable {α : Type} (p : Paginator α)

/-- The page that is read when the others are not asked for. -/
def first (rows : List α) : List α := (p.split rows).headD []

/-- The pages after the first hold nothing. -/
def Fits (rows : List α) : Prop := (p.split rows).tail.flatten = []

theorem mem_of_mem_first {rows : List α} {a : α} (h : a ∈ p.first rows) : a ∈ rows := by
  refine (p.perm rows).mem_iff.mp ?_
  unfold first at h
  cases hsplit : p.split rows with
  | nil =>
    rw [hsplit] at h
    exact absurd h List.not_mem_nil
  | cons page pages =>
    rw [hsplit] at h
    exact List.mem_flatten.mpr ⟨page, List.mem_cons_self, h⟩

/-- Where one page holds everything, the first is a permutation of the rows. -/
theorem perm_first {rows : List α} (h : p.Fits rows) : (p.first rows).Perm rows := by
  have hperm := p.perm rows
  unfold first
  unfold Fits at h
  cases hsplit : p.split rows with
  | nil =>
    rw [hsplit] at hperm
    exact hperm
  | cons page pages =>
    rw [hsplit, List.tail_cons] at h
    rw [hsplit, List.flatten_cons, h, List.append_nil] at hperm
    exact hperm

theorem first_nil : p.first [] = [] :=
  List.eq_nil_iff_forall_not_mem.mpr fun _ ha => absurd (p.mem_of_mem_first ha) List.not_mem_nil

end Paginator

/-- Everything on one page. -/
def Paginator.single (α : Type) : Paginator α where
  split rows := [rows]
  perm rows := by simp

/-! ## Maps -/

/-- The JSON texts of the maps of one kind, from which they are read back. -/
structure JsonText (α : Type) where
  text : α → String
  injective : Function.Injective text

namespace JsonText

variable {α : Type}

@[simp] theorem text_inj (json : JsonText α) {a b : α} : json.text a = json.text b ↔ a = b :=
  json.injective.eq_iff

/-- Texts by the number of a map. -/
def ofEncodable (α : Type) [Encodable α] : JsonText α where
  text a := String.ofList (List.replicate (Encodable.encode a) '0')
  injective a b h := by
    have hlength := congrArg (fun s : String => s.toList.length) h
    simp only [String.toList_ofList, List.length_replicate] at hlength
    exact Encodable.encode_injective hlength

end JsonText

/-- Strings by the code points of their characters. -/
instance encodableString : Encodable String :=
  Encodable.ofLeftInverse (fun s => s.toList.map Char.toNat)
    (fun codes => String.ofList (codes.map Char.ofNat)) fun s => by
      simp [List.map_map, Function.comp_def]

end ContainRes.Store
