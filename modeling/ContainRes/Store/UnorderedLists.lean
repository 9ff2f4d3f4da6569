import Mathlib.Data.List.Perm.Subperm
import Mathlib.Data.List.Duplicate

/-! # Records that are compared without the order of their lists

Two lists are often compared by their lengths and by asking for each element of one whether it is in the
other. This asks in one direction only, and it sees no difference between an element that is there twice and
two elements.

* **`Covers`** — the comparison; it is reflexive and transitive.
* **`covers_iff_perm`** — for a list on the right without repetitions it says that the lists are permutations.
* **`exists_covers_not_covers`** — for any other list on the right it is not even symmetric.
* **`RecordShape`** — a kind of records: what is compared as it is, and the lists.
* **`LawfulAt`** — what is asked of an equality of records at the record on the right.
* **`RecordShape.lawfulAt_iff`** — it is lawful exactly at the records whose lists have no repetitions. -/

namespace ContainRes.Store

universe u

/-! ## Lists -/

section Lists

variable {α : Type u} {xs ys zs : List α}

/-- The lists have one length, and each element of the second is in the first. -/
def Covers (xs ys : List α) : Prop := xs.length = ys.length ∧ ys ⊆ xs

@[simp] theorem Covers.refl (xs : List α) : Covers xs xs := ⟨rfl, List.Subset.refl xs⟩

theorem Covers.trans (h : Covers xs ys) (h' : Covers ys zs) : Covers xs zs :=
  ⟨h.1.trans h'.1, List.Subset.trans h'.2 h.2⟩

theorem Covers.of_perm (h : xs.Perm ys) : Covers xs ys := ⟨h.length_eq, h.symm.subset⟩

/-- **Permutations.** Without repetitions on the right, no element of the left is left out. -/
theorem covers_iff_perm (hys : ys.Nodup) : Covers xs ys ↔ xs.Perm ys := by
  constructor
  · rintro ⟨hlength, hsubset⟩
    have hsub : ys.Subperm xs := hys.subperm hsubset
    exact (hsub.perm_of_length_le (Nat.le_of_eq hlength)).symm
  · exact Covers.of_perm

/-- **Asymmetry.** An element that is there twice is covered by itself and any other one. -/
theorem exists_covers_not_covers [DecidableEq α] (hfresh : ∃ x, x ∉ ys) (hys : ¬ ys.Nodup) :
    ∃ xs, Covers xs ys ∧ ¬ Covers ys xs := by
  obtain ⟨fresh, hfresh⟩ := hfresh
  obtain ⟨twice, htwice⟩ := List.exists_duplicate_iff_not_nodup.mpr hys
  have hmem : twice ∈ ys := htwice.mem
  have hleft : twice ∈ ys.erase twice := by
    have hcount : 2 ≤ ys.count twice := List.duplicate_iff_two_le_count.mp htwice
    rw [← List.count_pos_iff, List.count_erase_self]
    omega
  refine ⟨fresh :: ys.erase twice, ⟨?_, ?_⟩, ?_⟩
  · have hpos : 0 < ys.length := List.length_pos_of_mem hmem
    rw [List.length_cons, List.length_erase_of_mem hmem]
    omega
  · intro y hy
    by_cases heq : y = twice
    · rw [heq]
      exact List.mem_cons_of_mem _ hleft
    · exact List.mem_cons_of_mem _ ((List.mem_erase_of_ne heq).mpr hy)
  · rintro ⟨-, hsubset⟩
    exact hfresh (hsubset List.mem_cons_self)

end Lists

/-! ## Records -/

/-- A kind of records: what is compared as it is, and lists of elements of which there is always one more. -/
structure RecordShape (R : Type u) where
  Scalars : Type u
  scalars : R → Scalars
  /-- The names of the lists. -/
  Field : Type
  Elem : Field → Type
  lists : R → (field : Field) → List (Elem field)
  /-- The record with another list. -/
  withList : R → (field : Field) → List (Elem field) → R
  scalars_withList : ∀ r field xs, scalars (withList r field xs) = scalars r
  lists_withList_self : ∀ r field xs, lists (withList r field xs) field = xs
  lists_withList_of_ne : ∀ r field xs other, other ≠ field → lists (withList r field xs) other = lists r other
  fresh : ∀ field (xs : List (Elem field)), ∃ x, x ∉ xs

/-- What is asked of an equality at the record on its right: the laws of an equivalence, and that it says
that the records are the same. -/
structure LawfulAt {R : Type u} (eq : R → R → Bool) (Same : R → R → Prop) (b : R) : Prop where
  refl : eq b b = true
  symm : ∀ a, eq a b = true → eq b a = true
  trans : ∀ a c, eq a b = true → eq b c = true → eq a c = true
  same : ∀ a, eq a b = true ↔ Same a b

namespace RecordShape

variable {R : Type u} (shape : RecordShape R)

/-- The scalars are equal and each list covers the other record's. -/
def Equal (a b : R) : Prop :=
  shape.scalars a = shape.scalars b ∧ ∀ field, Covers (shape.lists a field) (shape.lists b field)

/-- The scalars are equal and the lists are permutations of one another. -/
def Same (a b : R) : Prop :=
  shape.scalars a = shape.scalars b ∧ ∀ field, (shape.lists a field).Perm (shape.lists b field)

/-- No list of the record has an element twice. -/
def NoRepeats (b : R) : Prop := ∀ field, (shape.lists b field).Nodup

variable {a b c : R}

theorem Equal.refl (a : R) : shape.Equal a a := ⟨rfl, fun _ => Covers.refl _⟩

variable {shape}

theorem Equal.trans (h : shape.Equal a b) (h' : shape.Equal b c) : shape.Equal a c :=
  ⟨h.1.trans h'.1, fun field => (h.2 field).trans (h'.2 field)⟩

theorem Same.symm (h : shape.Same a b) : shape.Same b a := ⟨h.1.symm, fun field => (h.2 field).symm⟩

theorem Same.equal (h : shape.Same a b) : shape.Equal a b := ⟨h.1, fun field => Covers.of_perm (h.2 field)⟩

theorem equal_iff_same (hb : shape.NoRepeats b) : shape.Equal a b ↔ shape.Same a b := by
  constructor
  · rintro ⟨hscalars, hlists⟩
    exact ⟨hscalars, fun field => (covers_iff_perm (hb field)).mp (hlists field)⟩
  · exact Same.equal

/-- The relation is symmetric at a record only if its lists have no repetitions. -/
theorem noRepeats_of_symm (h : ∀ a, shape.Equal a b → shape.Equal b a) : shape.NoRepeats b := by
  classical
  intro field
  by_contra hrepeats
  obtain ⟨xs, hcovers, hnot⟩ := exists_covers_not_covers (shape.fresh field _) hrepeats
  have hequal : shape.Equal (shape.withList b field xs) b := by
    refine ⟨shape.scalars_withList b field xs, fun other => ?_⟩
    by_cases hother : other = field
    · subst hother
      rw [shape.lists_withList_self]
      exact hcovers
    · rw [shape.lists_withList_of_ne b field xs other hother]
      exact Covers.refl _
  have hback := (h _ hequal).2 field
  rw [shape.lists_withList_self] at hback
  exact hnot hback

/-- **The laws** hold at a record exactly when its lists have no repetitions. -/
theorem lawfulAt_iff {eq : R → R → Bool} (heq : ∀ a b, eq a b = true ↔ shape.Equal a b) :
    LawfulAt eq shape.Same b ↔ shape.NoRepeats b := by
  constructor
  · intro h
    refine noRepeats_of_symm fun a hab => ?_
    exact (heq b a).mp (h.symm a ((heq a b).mpr hab))
  · intro hb
    refine ⟨(heq b b).mpr (Equal.refl shape b), fun a hab => ?_, fun a c hab hbc => ?_, fun a => ?_⟩
    · have hsame := (equal_iff_same hb).mp ((heq a b).mp hab)
      exact (heq b a).mpr hsame.symm.equal
    · exact (heq a c).mpr (((heq a b).mp hab).trans ((heq b c).mp hbc))
    · exact (heq a b).trans (equal_iff_same hb)

end RecordShape

end ContainRes.Store
