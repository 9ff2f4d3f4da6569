import Mathlib.Data.List.Basic

/-! # Following cursors

A list that is answered in parts: an answer holds some of the items and, where there is more, a cursor that the
next request hands back.

* **`follow`** — the requests from a cursor on until an answer has none; what the answers hold is joined.
* **`follow_ok_iff_of_last`** — one answer without a cursor is the whole list.
* **`follow_ne_ok_of_error`** — a refused request leaves no list. -/

namespace ContainRes.Store

universe u v w

variable {α : Type u} {γ : Type v} {ε : Type w} {answer : Option γ → Except ε (List α × Option γ)}

/-- The items of all answers from a cursor on. There is no value when the fuel, the number of requests, runs
out. -/
def follow (answer : Option γ → Except ε (List α × Option γ)) : ℕ → Option γ → Option (Except ε (List α))
  | 0, _ => none
  | fuel + 1, cursor =>
    match answer cursor with
    | .error e => some (.error e)
    | .ok (items, none) => some (.ok items)
    | .ok (items, some next) => (follow answer fuel (some next)).map fun rest => rest.map fun later => items ++ later

variable {cursor : Option γ}

theorem follow_last {items : List α} (h : answer cursor = .ok (items, none)) (fuel : ℕ) :
    follow answer (fuel + 1) cursor = some (.ok items) := by
  rw [follow, h]

theorem follow_ok_iff_of_last {items found : List α} (h : answer cursor = .ok (items, none)) :
    (∃ fuel, follow answer fuel cursor = some (.ok found)) ↔ found = items := by
  constructor
  · rintro ⟨fuel, hfuel⟩
    cases fuel with
    | zero => cases hfuel
    | succ fuel =>
      rw [follow_last h] at hfuel
      cases hfuel
      rfl
  · rintro rfl
    exact ⟨1, follow_last h 0⟩

theorem follow_ne_ok_of_error {e : ε} (h : answer cursor = .error e) (fuel : ℕ) (found : List α) :
    follow answer fuel cursor ≠ some (.ok found) := by
  cases fuel with
  | zero => exact nofun
  | succ fuel =>
    rw [follow, h]
    exact nofun

/-- A cursor with which the request is refused. -/
theorem follow_ne_ok_of_next {items : List α} {next : γ} {e : ε}
    (h : answer cursor = .ok (items, some next)) (hnext : answer (some next) = .error e) (fuel : ℕ)
    (found : List α) : follow answer fuel cursor ≠ some (.ok found) := by
  cases fuel with
  | zero => exact nofun
  | succ fuel =>
    rw [follow, h]
    dsimp only
    intro hfound
    obtain ⟨rest, hrest, hmap⟩ := Option.map_eq_some_iff.mp hfound
    cases rest with
    | error e' => cases hmap
    | ok later => exact follow_ne_ok_of_error hnext fuel later hrest

end ContainRes.Store
