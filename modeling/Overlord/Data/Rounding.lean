import Mathlib

/-!
# Arithmetic with a bounded relative error

Floating-point numbers as rationals: every operation is the exact one followed by a rounding, whose
error is bounded relative to the exact value.  IEEE arithmetic is like this as long as nothing
overflows and no product or quotient underflows; `exact` is the arithmetic without an error.
-/

set_option autoImplicit false

/-- A rounding with a bounded relative error. -/
structure Rounding where
  /-- The value that is stored. -/
  fl : ℚ → ℚ
  /-- The bound of the relative error. -/
  unit : ℚ
  unit_nonneg : 0 ≤ unit
  unit_le_one : unit ≤ 1
  abs_sub_le : ∀ x, |fl x - x| ≤ unit * |x|

namespace Rounding

/-- No error at all. -/
def exact : Rounding where
  fl := id
  unit := 0
  unit_nonneg := le_refl 0
  unit_le_one := zero_le_one
  abs_sub_le := by simp

variable (r : Rounding) {x y : ℚ}

theorem one_le_one_add_unit : 1 ≤ 1 + r.unit := le_add_of_nonneg_right r.unit_nonneg

theorem fl_le (hx : 0 ≤ x) : r.fl x ≤ (1 + r.unit) * x := by
  have h := (abs_le.mp (r.abs_sub_le x)).2
  rw [abs_of_nonneg hx] at h
  linarith

theorem fl_nonneg (hx : 0 ≤ x) : 0 ≤ r.fl x := by
  have h := (abs_le.mp (r.abs_sub_le x)).1
  have hunit := mul_le_mul_of_nonneg_right r.unit_le_one hx
  rw [abs_of_nonneg hx] at h
  linarith

/-- A value that is bounded before the rounding. -/
theorem fl_le_of_le (hx : 0 ≤ x) (h : x ≤ y) : r.fl x ≤ (1 + r.unit) * y := by
  have hunit := r.one_le_one_add_unit
  exact (r.fl_le hx).trans (mul_le_mul_of_nonneg_left h (by linarith))

end Rounding
