import Mathlib.Algebra.Order.Field.Rat
import Mathlib.Algebra.Order.Group.Abs
import Mathlib.Data.Rat.Cast.Order
import Mathlib.Tactic.Linarith
import SimplexMethod.Tolerance

/-!
# Comparisons of rational numbers

On rational numbers the comparisons up to a tolerance are ordinary inequalities. A number that is
zero or has a magnitude above the tolerance is judged as it would be without any tolerance.

## Main definitions

* `IsSeparated`: a number that the tolerance does not take for zero unless it is zero
-/

namespace SimplexMethod

@[simp] theorem scalar_abs (value : Rat) : Scalar.abs value = |value| := by
  rcases le_total 0 value with nonnegative | nonpositive
  · rw [abs_of_nonneg nonnegative]
    exact Rat.abs_of_nonneg nonnegative
  · rw [abs_of_nonpos nonpositive]
    exact Rat.abs_of_nonpos nonpositive

@[simp] theorem isZero_iff (value tolerance : Rat) :
    isZero value tolerance = true ↔ |value| ≤ tolerance := by
  simp [isZero]

@[simp] theorem isPositive_iff (value tolerance : Rat) :
    isPositive value tolerance = true ↔ tolerance < value := by
  simp [isPositive]

@[simp] theorem isNegative_iff (value tolerance : Rat) :
    isNegative value tolerance = true ↔ value < -tolerance := by
  simp [isNegative]

/-- Rounding to zero moves a number by at most the tolerance. -/
theorem abs_clean_sub_le {tolerance : Rat} (nonnegative : 0 ≤ tolerance) (value : Rat) :
    |clean value tolerance - value| ≤ tolerance := by
  unfold clean
  split
  · rename_i zero
    rwa [zero_sub, abs_neg, ← isZero_iff]
  · rwa [sub_self, abs_zero]

/-- A number that is zero or has a magnitude above the tolerance. -/
def IsSeparated (tolerance value : Rat) : Prop := value = 0 ∨ tolerance < |value|

instance (tolerance value : Rat) : Decidable (IsSeparated tolerance value) :=
  inferInstanceAs (Decidable (_ ∨ _))

namespace IsSeparated

variable {tolerance value : Rat}

theorem eq_zero (separated : IsSeparated tolerance value) (small : |value| ≤ tolerance) :
    value = 0 :=
  separated.resolve_right small.not_gt

theorem nonneg (separated : IsSeparated tolerance value) (above : -tolerance ≤ value) :
    0 ≤ value := by
  by_contra negative
  have magnitude : |value| = -value := abs_of_neg (lt_of_not_ge negative)
  have := separated.eq_zero (by linarith)
  exact negative this.ge

theorem nonpos (separated : IsSeparated tolerance value) (below : value ≤ tolerance) :
    value ≤ 0 := by
  by_contra positive
  have magnitude : |value| = value := abs_of_pos (lt_of_not_ge positive)
  have := separated.eq_zero (by linarith)
  exact positive this.le

/-- Rounding to zero keeps a separated number. -/
theorem clean_eq (separated : IsSeparated tolerance value) : clean value tolerance = value := by
  unfold clean
  split
  · rename_i zero
    exact (separated.eq_zero ((isZero_iff _ _).1 zero)).symm
  · rfl

end IsSeparated

end SimplexMethod
