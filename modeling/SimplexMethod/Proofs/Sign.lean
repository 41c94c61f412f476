import SimplexMethod.Proofs.DoublePrecision.Word
import SimplexMethod.Proofs.Tolerance

/-!
# Signs and magnitudes

A number and its negative have one magnitude, and taking the negative twice gives the number back.
These laws hold of rational numbers and, as a sign is changed without rounding, of double-precision
numbers too.

## Main definitions

* `LawfulSign`: the laws of signs and magnitudes

## Main results

* `instLawfulSignRat`, `instLawfulSignFloat`: both kinds of numbers have them
-/

namespace SimplexMethod

open Scalar

/-- The laws of signs and magnitudes. -/
class LawfulSign (α : Type) [Scalar α] : Prop where
  neg_neg (v : α) : - -v = v
  abs_neg (v : α) : abs (-v) = abs v
  isFinite_neg (v : α) : isFinite (-v) = isFinite v
  /-- A number or its negative is negative, unless it is undefined or zero. -/
  neg_lt_zero_iff {v : α} (finite : isFinite v) (nonzero : (v == 0) = false) : -v < 0 ↔ ¬v < 0
  /-- A number has no magnitude below itself. -/
  not_abs_le {v t : α} (above : t < v) : ¬abs v ≤ t

instance : LawfulSign Rat where
  neg_neg v := by simp
  abs_neg v := by simp
  isFinite_neg _ := rfl
  neg_lt_zero_iff {v} _ nonzero := by
    have : v ≠ 0 := by simpa using nonzero
    grind
  not_abs_le {v t} above := by
    have := le_abs_self v
    rw [scalar_abs]
    linarith

/-! ## Double-precision numbers -/

open DoublePrecision
open Float.Model (UnpackedFloat)

private theorem unpacked_neg_neg (value : UnpackedFloat) : value.neg.neg = value := by
  cases value with
  | notANumber => rfl
  | infinity sign | zero sign | finite sign => cases sign <;> rfl

private theorem unpacked_abs_neg (value : UnpackedFloat) : value.neg.abs = value.abs := by
  cases value <;> rfl

private theorem unpacked_isFinite_neg (value : UnpackedFloat) :
    value.neg.isFinite = value.isFinite := by
  cases value <;> rfl

/-- Numbers are compared by their exponents first and then by their mantissas. -/
private theorem compare_then_swap (e f : Int) (m n : Nat) :
    ((compare e f).then (compare m n)).swap = (compare f e).then (compare n m) := by
  rw [Ordering.swap_then, ← Std.OrientedOrd.eq_swap, ← Std.OrientedOrd.eq_swap]

private theorem unpacked_not_abs_le {t v : UnpackedFloat} (above : UnpackedFloat.lt t v = true) :
    ¬UnpackedFloat.le v.abs t = true := by
  revert above
  unfold UnpackedFloat.lt UnpackedFloat.le UnpackedFloat.compare UnpackedFloat.abs
  cases t with
  | notANumber => cases v <;> simp
  | infinity first =>
    cases first <;> cases v with
    | infinity second => cases second <;> decide
    | notANumber | zero | finite => simp
  | zero first =>
    cases v with
    | infinity second | finite second => cases second <;> simp
    | notANumber | zero => simp
  | finite first m e =>
    cases v with
    | notANumber => simp
    | infinity second | zero second => cases first <;> cases second <;> simp
    | finite second n f =>
      cases first <;> cases second <;> simp
      rw [← compare_then_swap e f m n]
      exact fun less => by rw [less, Ordering.swap_lt]

instance : LawfulSign Float where
  neg_neg v := by
    rw [← ofModel_pack_unpacked (- -v), unpacked_neg, unpacked_neg, unpacked_neg_neg,
      ofModel_pack_unpacked]
  abs_neg v := by
    rw [← ofModel_pack_unpacked (abs (-v)), unpacked_abs, unpacked_neg, unpacked_abs_neg,
      ← unpacked_abs, ofModel_pack_unpacked]
  isFinite_neg v := by
    rw [isFinite_eq, unpacked_neg, unpacked_isFinite_neg, isFinite_eq]
  neg_lt_zero_iff {v} finite nonzero := by
    rw [lt_iff, lt_iff, unpacked_neg]
    change UnpackedFloat.lt _ (.zero .positive) = true ↔
      ¬UnpackedFloat.lt _ (.zero .positive) = true
    obtain ⟨sign, value⟩ | ⟨sign, _, _, _, value⟩ := exists_of_isFinite v finite
    · exact absurd ((beq_zero_iff v).2 ⟨sign, value⟩) (Bool.eq_false_iff.1 nonzero)
    · rw [value]
      cases sign <;> simp [UnpackedFloat.lt, UnpackedFloat.compare, UnpackedFloat.neg]
  not_abs_le {v t} above := by
    rw [le_iff, unpacked_abs]
    exact unpacked_not_abs_le ((lt_iff t v).1 above)

end SimplexMethod
