import SimplexMethod.Proofs.DoublePrecision
import SimplexMethod.Proofs.Tolerance

/-!
# Zeros and finite numbers

A pivot writes ones and zeros outright, so that it does not matter how numbers are rounded. What
does matter is that zeros stay zeros, of either sign, where a row is divided or a multiple of
another row is taken off, and that numbers that are infinite or undefined never make a finite one.
These laws hold of rational numbers and of double-precision numbers.

## Main definitions

* `LawfulZero`: the laws of zeros and finite numbers

## Main results

* `instLawfulZeroRat`, `instLawfulZeroFloat`: both kinds of numbers have them
-/

namespace SimplexMethod

open Scalar

/-- The laws of zeros and finite numbers. A zero is a number that is equal to zero in the sense of
the comparison of numbers, which knows nothing of its sign. -/
class LawfulZero (α : Type) [Scalar α] : Prop where
  zero_beq_zero : (0 : α) == 0
  one_beq_zero : ((1 : α) == 0) = false
  one_sub_one : (1 : α) - 1 == 0
  /-- Taking off a zero does not change a one. -/
  one_sub {z : α} (zero : z == 0) : 1 - z = 1
  zero_sub {v z : α} (left : v == 0) (right : z == 0) : v - z == 0
  mul_zero {f z : α} (finite : isFinite f) (zero : z == 0) : f * z == 0
  zero_div {z p : α} (zero : z == 0) (finite : isFinite p) (nonzero : (p == 0) = false) :
    z / p == 0
  zero_le_zero : (0 : α) ≤ 0
  /-- A zero has the least magnitude. -/
  abs_le {z t : α} (zero : z == 0) (nonnegative : 0 ≤ t) : abs z ≤ t
  zero_le {t : α} (finite : isFinite t) (positive : ¬t ≤ 0) : 0 ≤ t
  isFinite_of_sub {v w : α} (finite : isFinite (v - w)) : isFinite v ∧ isFinite w
  isFinite_of_mul {f q : α} (finite : isFinite (f * q)) : isFinite f
  isFinite_of_div {v p : α} (finite : isFinite (v / p)) : isFinite v

/-- In exact arithmetic these are the laws of a field, and every number is finite. -/
instance : LawfulZero Rat where
  zero_beq_zero := by simp
  one_beq_zero := by simp
  one_sub_one := by simp
  one_sub zero := by simp_all
  zero_sub left right := by simp_all
  mul_zero _ zero := by simp_all
  zero_div zero _ _ := by simp_all
  zero_le_zero := le_rfl
  abs_le zero nonnegative := by simp_all
  zero_le _ positive := (not_le.1 positive).le
  isFinite_of_sub _ := ⟨rfl, rfl⟩
  isFinite_of_mul _ := rfl
  isFinite_of_div _ := rfl

/-! ## Double-precision numbers -/

open DoublePrecision
open Float.Model (UnpackedFloat)

/-- Nothing finite is made of something that is not, unless another number is divided by it. -/
private theorem isFinite_of_sub {v w : UnpackedFloat}
    (finite : (UnpackedFloat.sub .binary64 v w).isFinite) : v.isFinite ∧ w.isFinite := by
  cases v with
  | notANumber => cases finite
  | infinity first =>
    cases w with
    | infinity second => cases first <;> cases second <;> cases finite
    | notANumber | zero | finite => cases finite
  | zero | finite =>
    cases w with
    | notANumber | infinity => cases finite
    | zero | finite => exact ⟨rfl, rfl⟩

private theorem isFinite_of_mul {v w : UnpackedFloat}
    (finite : (UnpackedFloat.mul .binary64 v w).isFinite) : v.isFinite := by
  cases v with
  | notANumber => cases finite
  | infinity => cases w <;> cases finite
  | zero | finite => rfl

private theorem isFinite_of_div {v w : UnpackedFloat}
    (finite : (UnpackedFloat.div .binary64 v w).isFinite) : v.isFinite := by
  cases v with
  | notANumber => cases finite
  | infinity => cases w <;> cases finite
  | zero | finite => rfl

instance : LawfulZero Float where
  zero_beq_zero := by decide
  one_beq_zero := by decide
  one_sub_one := by decide
  one_sub {z} zero := by
    obtain ⟨sign, zero⟩ := (beq_zero_iff z).1 zero
    have model : (1 - z : Float) =
        .ofModel (.pack (.sub .binary64 (unpacked 1) (unpacked z))) := rfl
    rw [zero] at model
    exact model.trans (by cases sign <;> decide)
  zero_sub {v z} left right := by
    obtain ⟨first, left⟩ := (beq_zero_iff v).1 left
    obtain ⟨second, right⟩ := (beq_zero_iff z).1 right
    refine (beq_zero_iff _).2 ?_
    rw [unpacked_sub, left, right]
    cases first <;> cases second <;> exact ⟨_, rfl⟩
  mul_zero {f z} finite zero := by
    obtain ⟨sign, zero⟩ := (beq_zero_iff z).1 zero
    refine (beq_zero_iff _).2 ?_
    rw [unpacked_mul, zero]
    obtain ⟨other, value⟩ | ⟨other, _, _, _, value⟩ := exists_of_isFinite f finite <;>
    · rw [value]
      exact ⟨_, stored_zero _⟩
  zero_div {z p} zero finite nonzero := by
    obtain ⟨sign, zero⟩ := (beq_zero_iff z).1 zero
    refine (beq_zero_iff _).2 ?_
    rw [unpacked_div, zero]
    obtain ⟨other, value⟩ | ⟨other, _, _, _, value⟩ := exists_of_isFinite p finite
    · exact absurd ((beq_zero_iff p).2 ⟨other, value⟩) (Bool.eq_false_iff.1 nonzero)
    · rw [value]
      exact ⟨_, stored_zero _⟩
  zero_le_zero := by decide
  abs_le {z t} zero nonnegative := by
    obtain ⟨sign, zero⟩ := (beq_zero_iff z).1 zero
    refine (le_iff _ _).2 ?_
    rw [unpacked_abs_eq_stored, zero, show (UnpackedFloat.zero sign).abs = .zero .positive from rfl,
      stored_zero]
    exact (le_iff 0 t).1 nonnegative
  zero_le {t} finite positive := by
    refine (le_iff _ _).2 ?_
    have above : ¬UnpackedFloat.le (unpacked t) (.zero .positive) = true :=
      fun le => positive ((le_iff t 0).2 le)
    change UnpackedFloat.le (.zero .positive) (unpacked t) = true
    obtain ⟨sign, value⟩ | ⟨sign, _, _, _, value⟩ := exists_of_isFinite t finite
    · rw [value]
      rfl
    · rw [value] at above ⊢
      cases sign with
      | positive => rfl
      | negative => exact absurd rfl above
  isFinite_of_sub finite := isFinite_of_sub (isFinite_of_stored finite)
  isFinite_of_mul finite := isFinite_of_mul (isFinite_of_stored finite)
  isFinite_of_div finite := isFinite_of_div (isFinite_of_stored finite)

end SimplexMethod
