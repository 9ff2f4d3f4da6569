import Mathlib.Data.Rat.Init

/-! # JSON values

The values of JSON, with arrays and objects as lists of their own, and relations between two objects
that have the same keys.

* **`Json`**, **`Items`**, **`Fields`** — a value, the items of an array, the fields of an object.
* **`Fields.get?`**, **`Fields.set`** — the value of a key, and an object with another value for it.
* **`Fields.Pointwise`** — two objects with the same keys in the same order whose values are related key by
  key; `Pointwise.get?` is what it says of one key. -/

namespace ContainRes.Text

mutual

/-- A JSON value. -/
inductive Json
  | null
  | bool (b : Bool)
  | num (n : ℚ)
  | str (s : String)
  | arr (items : Items)
  | obj (fields : Fields)

/-- The items of an array. -/
inductive Items
  | nil
  | cons (head : Json) (tail : Items)

/-- The fields of an object in their order. -/
inductive Fields
  | nil
  | cons (key : String) (value : Json) (rest : Fields)

end

namespace Items

/-- The items as a list. -/
def toList : Items → List Json
  | nil => []
  | cons head tail => head :: tail.toList

/-- The items of a list. -/
def ofList : List Json → Items
  | [] => nil
  | head :: tail => cons head (ofList tail)

@[simp] theorem toList_ofList (l : List Json) : (ofList l).toList = l := by
  induction l with
  | nil => rfl
  | cons head tail ih => rw [ofList, toList, ih]

theorem ofList_injective : Function.Injective ofList := by
  intro l m h
  rw [← toList_ofList l, h, toList_ofList]

end Items

namespace Fields

@[induction_eliminator]
theorem induct {motive : Fields → Prop} (nil : motive nil)
    (cons : ∀ key value rest, motive rest → motive (cons key value rest)) : ∀ fields, motive fields
  | .nil => nil
  | .cons key value rest => cons key value rest (induct nil cons rest)

/-- The value of a key. -/
def get? (key : String) : Fields → Option Json
  | nil => none
  | cons k value rest => if k = key then some value else rest.get? key

/-- The fields with another value for a key, at the end if the key is new. -/
def set (key : String) (value : Json) : Fields → Fields
  | nil => cons key value nil
  | cons k old rest => if k = key then cons k value rest else cons k old (rest.set key value)

/-- The keys in their order. -/
def keys : Fields → List String
  | nil => []
  | cons k _ rest => k :: rest.keys

@[simp] theorem get?_cons_self (key : String) (value : Json) (rest : Fields) :
    (cons key value rest).get? key = some value := by
  rw [get?, if_pos rfl]

@[simp] theorem get?_set_self (key : String) (value : Json) (fields : Fields) :
    (fields.set key value).get? key = some value := by
  induction fields with
  | nil => exact get?_cons_self key value nil
  | cons k old rest ih =>
    rw [set]
    by_cases hkey : k = key
    · rw [if_pos hkey, get?, if_pos hkey]
    · rw [if_neg hkey, get?, if_neg hkey, ih]

theorem get?_set_of_ne {key other : String} (value : Json) (fields : Fields) (h : other ≠ key) :
    (fields.set key value).get? other = fields.get? other := by
  induction fields with
  | nil => simp [set, get?, Ne.symm h]
  | cons k old rest ih =>
    rw [set]
    by_cases hkey : k = key
    · subst hkey
      rw [if_pos rfl, get?, get?, if_neg (Ne.symm h), if_neg (Ne.symm h)]
    · rw [if_neg hkey, get?, get?, ih]

@[simp] theorem set_set (key : String) (value value' : Json) (fields : Fields) :
    (fields.set key value').set key value = fields.set key value := by
  induction fields with
  | nil => simp [set]
  | cons k old rest ih =>
    by_cases hkey : k = key
    · simp [set, hkey]
    · simp [set, hkey, ih]

@[simp] theorem set_inj {key : String} {value value' : Json} {fields : Fields} :
    fields.set key value = fields.set key value' ↔ value = value' := by
  constructor
  · intro h
    have hget := congrArg (fun fields : Fields => fields.get? key) h
    simpa using hget
  · rintro rfl
    rfl

/-- Two objects with the same keys whose values are related key by key. -/
inductive Pointwise (R : String → Json → Json → Prop) : Fields → Fields → Prop
  | nil : Pointwise R .nil .nil
  | cons {key : String} {v w : Json} {f g : Fields} :
      R key v w → Pointwise R f g → Pointwise R (.cons key v f) (.cons key w g)

variable {R : String → Json → Json → Prop} {f g : Fields}

/-- A key is missing in both objects, or its values are related. -/
theorem Pointwise.get? (h : Pointwise R f g) (key : String) : (f.get? key = none ∧ g.get? key = none) ∨
      ∃ v w, f.get? key = some v ∧ g.get? key = some w ∧ R key v w := by
  induction h with
  | nil => exact .inl ⟨rfl, rfl⟩
  | @cons k v w f g hvalue _ ih =>
    by_cases hkey : k = key
    · subst hkey
      exact .inr ⟨v, w, get?_cons_self k v f, get?_cons_self k w g, hvalue⟩
    · simpa [Fields.get?, hkey] using ih

end Fields

end ContainRes.Text
