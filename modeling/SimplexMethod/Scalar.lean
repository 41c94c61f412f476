/-!
# Numbers of a tableau

The simplex method is written once for every kind of number. `Scalar` names the operations it uses
and assumes no law about them, so the same definitions run on double-precision numbers, where each
operation rounds on its own, and on rational numbers, where every step is exact.
-/

namespace SimplexMethod

/-- The operations of the numbers in a problem and its tableau. No law is part of the class. -/
class Scalar (α : Type) extends
    Zero α, One α, Neg α, Sub α, Mul α, Div α, LT α, LE α, BEq α where
  /-- The magnitude of a number. -/
  abs : α → α
  /-- Whether a number is neither infinite nor undefined. -/
  isFinite : α → Bool
  decidableLT : DecidableLT α
  decidableLE : DecidableLE α

namespace Scalar

variable {α : Type} [Scalar α]

instance (priority := low) : DecidableLT α := Scalar.decidableLT

instance (priority := low) : DecidableLE α := Scalar.decidableLE

/-- Double-precision numbers, with the comparisons of their standard: nothing compares to an
undefined number. -/
instance : Scalar Float where
  zero := 0.0
  one := 1.0
  abs := Float.abs
  isFinite := Float.isFinite
  decidableLT := inferInstance
  decidableLE := inferInstance

/-- Rational numbers, all of them finite. -/
instance : Scalar Rat where
  toZero := @Zero.ofOfNat0 Rat Rat.instOfNat
  toOne := @One.ofOfNat1 Rat Rat.instOfNat
  abs := Rat.abs
  isFinite _ := true
  decidableLT := inferInstance
  decidableLE := inferInstance

end Scalar

end SimplexMethod
