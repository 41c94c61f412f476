import SimplexMethod.Scalar

/-!
# What double-precision numbers stand for

A double-precision number is a word with fields for a sign, an exponent and a mantissa. It stands
for a zero, for an infinite or an undefined number, or for a sign with an integer that is scaled by
a power of two. An operation works on what the words stand for and stores its result as a word
again. What is not finite is stored as something that is not finite, and comparisons look at what
the words stand for without storing anything.

## Main definitions

* `DoublePrecision.unpacked`: what a double-precision number stands for
* `DoublePrecision.stored`: what is left of the result of an operation when it has been stored

## Main results

* `DoublePrecision.isFinite_of_stored`: what is not finite stays so when it is stored
* `DoublePrecision.lt_iff`, `DoublePrecision.le_iff`, `DoublePrecision.beq_zero_iff`: comparisons as
  they are made of what the words stand for
-/

namespace SimplexMethod.DoublePrecision

open Scalar
open Float.Model (UnpackedFloat Format)
open Float.Model.UnpackedFloat

/-- The bits of a double-precision number. -/
def word (value : Float) : BitVec Format.binary64.numBits := value.toModel.toBits.toBitVec

/-- What a double-precision number stands for. -/
def unpacked (value : Float) : UnpackedFloat := unpack .binary64 (word value)

/-- What is left of the result of an operation when it has been stored. -/
def stored (value : UnpackedFloat) : UnpackedFloat := (Float.Model.pack value).unpack

section Stored

variable (sign : Sign)

theorem stored_zero : stored (.zero sign) = .zero sign := by cases sign <;> rfl

theorem stored_infinity : stored (.infinity sign) = .infinity sign := by cases sign <;> rfl

end Stored

/-- What is not finite stays so when it is stored. -/
theorem isFinite_of_stored {value : UnpackedFloat} (finite : (stored value).isFinite) :
    value.isFinite := by
  cases value with
  | zero | finite => rfl
  | notANumber => exact finite
  | infinity sign => rwa [stored_infinity] at finite

section Operations

variable (v w : Float)

theorem isFinite_eq : isFinite v = (unpacked v).isFinite := rfl

theorem unpacked_sub :
    unpacked (v - w) = stored (.sub .binary64 (unpacked v) (unpacked w)) := rfl

theorem unpacked_mul :
    unpacked (v * w) = stored (.mul .binary64 (unpacked v) (unpacked w)) := rfl

theorem unpacked_div :
    unpacked (v / w) = stored (.div .binary64 (unpacked v) (unpacked w)) := rfl

theorem unpacked_neg_eq_stored : unpacked (-v) = stored (unpacked v).neg := rfl

theorem unpacked_abs_eq_stored : unpacked (abs v) = stored (unpacked v).abs := rfl

theorem lt_iff : v < w ↔ UnpackedFloat.lt (unpacked v) (unpacked w) = true := by
  change decide (v.toModel < w.toModel) = true ↔ _
  rw [decide_eq_true_iff]
  rfl

theorem le_iff : v ≤ w ↔ UnpackedFloat.le (unpacked v) (unpacked w) = true := by
  change decide (v.toModel ≤ w.toModel) = true ↔ _
  rw [decide_eq_true_iff]
  rfl

theorem beq_zero_iff : v == 0 ↔ ∃ sign, unpacked v = .zero sign := by
  change UnpackedFloat.beq (unpacked v) (.zero .positive) = true ↔ _
  cases unpacked v with
  | zero sign => exact iff_of_true rfl ⟨sign, rfl⟩
  | notANumber => exact iff_of_false Bool.false_ne_true fun ⟨_, same⟩ => nomatch same
  | infinity sign | finite sign =>
    cases sign <;> exact iff_of_false Bool.false_ne_true fun ⟨_, same⟩ => nomatch same

/-- A finite number stands for a zero or for something else that is finite. -/
theorem exists_of_isFinite (finite : isFinite v) :
    (∃ sign, unpacked v = .zero sign) ∨
      ∃ sign mantissa exponent positive, unpacked v = .finite sign mantissa exponent positive := by
  rw [isFinite_eq] at finite
  cases value : unpacked v with
  | zero sign => exact .inl ⟨sign, rfl⟩
  | finite sign mantissa exponent positive => exact .inr ⟨sign, mantissa, exponent, positive, rfl⟩
  | notANumber | infinity =>
    rw [value] at finite
    cases finite

end Operations

end SimplexMethod.DoublePrecision
