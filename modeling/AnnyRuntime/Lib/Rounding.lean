import Mathlib.Algebra.Order.Round
import Mathlib.Algebra.Order.Archimedean.Basic
import Mathlib.Tactic.Linarith
import Mathlib.Tactic.Positivity

/-!
# Rounding half to even

Python's `round`: the nearest integer, and of two integers that are equally near the even one
(`roundHalfEven`); with a number of places it does so for the digits after them (`roundTo`).

* `le_roundHalfEven`, `roundHalfEven_le` : rounding does not pass an integer.
* `abs_sub_roundHalfEven` : it goes at most one half far.
* `roundTo_eq_self` : a number that has no more places stays.
-/

namespace AnnyRuntime

variable {α : Type*} [Field α] [LinearOrder α] [IsStrictOrderedRing α] [FloorRing α]

/-- The nearest integer, and of two the even one. -/
def roundHalfEven (x : α) : ℤ := if 2 * Int.fract x = 1 ∧ Even ⌊x⌋ then ⌊x⌋ else round x

/-- `round(x, places)`. -/
def roundTo (places : ℕ) (x : α) : α := roundHalfEven (x * 10 ^ places) / 10 ^ places

variable {x : α} {n : ℤ} {places : ℕ}

@[simp] theorem roundHalfEven_intCast (n : ℤ) : roundHalfEven (n : α) = n := by
  simp [roundHalfEven]

theorem le_roundHalfEven (h : (n : α) ≤ x) : n ≤ roundHalfEven x := by
  unfold roundHalfEven
  split_ifs
  · exact Int.le_floor.2 h
  · rw [round_eq, Int.le_floor]
    linarith

theorem roundHalfEven_le (h : x ≤ n) : roundHalfEven x ≤ n := by
  unfold roundHalfEven
  split_ifs
  · exact Int.floor_le_iff.2 (by linarith)
  · rw [round_eq, Int.floor_le_iff]
    linarith

theorem abs_sub_roundHalfEven (x : α) : |x - roundHalfEven x| ≤ 1 / 2 := by
  unfold roundHalfEven
  split_ifs with h
  · have hfract : x - ⌊x⌋ = 1 / 2 := by
      have htwice : 2 * (x - ⌊x⌋) = 1 := h.1
      linarith
    rw [hfract, abs_of_pos one_half_pos]
  · exact abs_sub_round x

omit [FloorRing α] in
theorem pow_places_pos : (0 : α) < 10 ^ places := by positivity

/-- **A number with no more places** stays as it is. -/
theorem roundTo_eq_self (h : x * 10 ^ places = n) : roundTo places x = x := by
  rw [roundTo, h, roundHalfEven_intCast, ← h, mul_div_cancel_right₀ _ pow_places_pos.ne']

theorem roundTo_zero : roundTo places (0 : α) = 0 := roundTo_eq_self (n := 0) (by simp)

theorem roundTo_one : roundTo places (1 : α) = 1 := roundTo_eq_self (n := 10 ^ places) (by simp)

theorem roundTo_nonneg (h : 0 ≤ x) : 0 ≤ roundTo places x := by
  have hscaled : ((0 : ℤ) : α) ≤ x * 10 ^ places := by
    rw [Int.cast_zero]
    exact mul_nonneg h pow_places_pos.le
  have hint : (0 : ℤ) ≤ roundHalfEven (x * 10 ^ places) := le_roundHalfEven hscaled
  exact div_nonneg (Int.cast_nonneg hint) pow_places_pos.le

theorem roundTo_le_one (h : x ≤ 1) : roundTo places x ≤ 1 := by
  have hscaled : x * 10 ^ places ≤ (((10 : ℤ) ^ places : ℤ) : α) := by
    push_cast
    exact mul_le_of_le_one_left pow_places_pos.le h
  have hint : roundHalfEven (x * 10 ^ places) ≤ (10 : ℤ) ^ places := roundHalfEven_le hscaled
  rw [roundTo, div_le_one pow_places_pos]
  exact_mod_cast hint

/-- Rounding goes at most one half of the last place far. -/
theorem abs_sub_roundTo (x : α) : |x - roundTo places x| ≤ 1 / 2 / 10 ^ places := by
  have hpos : (0 : α) < 10 ^ places := pow_places_pos
  have hscaled : x - roundTo places x =
      (x * 10 ^ places - roundHalfEven (x * 10 ^ places)) / 10 ^ places := by
    rw [roundTo, sub_div, mul_div_cancel_right₀ _ hpos.ne']
  rw [hscaled, abs_div, abs_of_pos hpos]
  exact div_le_div_of_nonneg_right (abs_sub_roundHalfEven _) hpos.le

end AnnyRuntime
