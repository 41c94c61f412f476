import SimplexMethod.Scalar

/-!
# Comparison up to a tolerance

Every question whether a number is zero, positive or negative is asked with an explicit tolerance.
For a positive tolerance exactly one of the three holds of each rational number.
-/

namespace SimplexMethod

variable {α : Type} [Scalar α]

/-- The magnitude of `value` is at most `tolerance`. -/
def isZero (value tolerance : α) : Bool := decide (Scalar.abs value ≤ tolerance)

/-- The number `value` lies strictly above `tolerance`. -/
def isPositive (value tolerance : α) : Bool := decide (tolerance < value)

/-- The number `value` lies strictly below `-tolerance`. -/
def isNegative (value tolerance : α) : Bool := decide (value < -tolerance)

/-- Zero itself for numbers that are zero to tolerance, and every other number unchanged. -/
def clean (value tolerance : α) : α := if isZero value tolerance then 0 else value

end SimplexMethod
