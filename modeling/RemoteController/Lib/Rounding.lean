import Mathlib.Algebra.Order.Round
import Mathlib.Data.Rat.Floor
import Mathlib.Tactic.FieldSimp
import Mathlib.Tactic.Ring

/-!
# Rounding by an integer division

`(a + h) / (2h + 1)` in whole numbers is `a / (2h + 1)` rounded to the nearest
integer: with an odd divisor there are no ties.
-/

namespace Lib

/-- **The division rounds to the nearest integer.** -/
theorem round_div_odd (a h : ℕ) :
    round ((a : ℚ) / ((2 * h + 1 : ℕ) : ℚ)) = (((a + h) / (2 * h + 1) : ℕ) : ℤ) := by
  have hhalf : (a : ℚ) / ((2 * h + 1 : ℕ) : ℚ) + 1 / 2 =
      ((2 * (a + h) + 1 : ℕ) : ℚ) / ((2 * (2 * h + 1) : ℕ) : ℚ) := by
    push_cast
    field_simp
    ring
  have hdiv : (2 * (a + h) + 1) / (2 * (2 * h + 1)) = (a + h) / (2 * h + 1) := by
    rw [← Nat.div_div_eq_div_mul]
    congr 1
    omega
  rw [round_eq, hhalf, Rat.floor_natCast_div_natCast, ← Int.natCast_div, hdiv]

end Lib
