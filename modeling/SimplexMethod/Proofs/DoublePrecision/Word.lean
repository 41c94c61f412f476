import Mathlib
import SimplexMethod.Proofs.DoublePrecision

/-!
# Words and what they stand for

A number that a word stands for is stored without a change, and its sign is a field of the word. So
the operations that touch the sign alone are exact, and a double-precision number is determined by
what it stands for. The facts about the fields of a word that this takes come with Mathlib as a
whole only, and not with a module of it that could be named.

## Main results

* `DoublePrecision.stored_unpack`: a number that a word stands for is stored without a change
* `DoublePrecision.unpacked_neg`, `DoublePrecision.unpacked_abs`: signs are changed exactly
* `DoublePrecision.ofModel_pack_unpacked`: a number is determined by what it stands for
-/

namespace SimplexMethod.DoublePrecision

open Scalar
open Float.Model (UnpackedFloat Format)
open Float.Model.UnpackedFloat

/-! ## The sign field of a word -/

section Fields

variable {format : Format} (sign : Sign) (exponent : BitVec format.exponentBits)
  (mantissa : BitVec format.mantissaBitsWithoutImplicit)

/-- The sign of a number is the sign field of its word. -/
theorem neg_unpack_packComponents :
    (unpack format (packComponents format sign exponent mantissa)).neg =
      unpack format (packComponents format (-sign) exponent mantissa) := by
  simp only [unpack, unpackMantissa_packComponents, unpackExponent_packComponents,
    unpackSign_packComponents, Sign.ofBitVec_toBitVec]
  split_ifs <;> rfl

theorem abs_unpack_packComponents :
    (unpack format (packComponents format sign exponent mantissa)).abs =
      unpack format (packComponents format .positive exponent mantissa) := by
  simp only [unpack, unpackMantissa_packComponents, unpackExponent_packComponents,
    unpackSign_packComponents, Sign.ofBitVec_toBitVec]
  split_ifs <;> rfl

end Fields

/-! ## Storing -/

/-- A number that some word stands for is stored without a change. The undefined number is the only
one that another word may be chosen for. -/
theorem stored_unpack (word : BitVec Format.binary64.numBits) :
    stored (unpack .binary64 word) = unpack .binary64 word := by
  change unpack .binary64 (pack .binary64 (unpack .binary64 word)) = unpack .binary64 word
  rw [pack_unpack]
  split_ifs with undefined
  · rw [isNaNBits, decide_eq_true_eq] at undefined
    rw [unpack_packedNaN, unpack, if_pos undefined.1, if_neg undefined.2]
  · rfl

variable (v : Float)

/-- The sign is changed exactly. -/
theorem unpacked_neg : unpacked (-v) = (unpacked v).neg := by
  rw [unpacked_neg_eq_stored, unpacked,
    ← packComponents_unpackSign_unpackExponent_unpackMantissa (word v), neg_unpack_packComponents,
    stored_unpack]

/-- The sign is dropped exactly. -/
theorem unpacked_abs : unpacked (abs v) = (unpacked v).abs := by
  rw [unpacked_abs_eq_stored, unpacked,
    ← packComponents_unpackSign_unpackExponent_unpackMantissa (word v), abs_unpack_packComponents,
    stored_unpack]

/-- Storing what a double-precision number stands for gives the number again. -/
theorem ofModel_pack_unpacked : Float.ofModel (.pack (unpacked v)) = v := by
  obtain ⟨⟨⟨bits⟩, valid⟩⟩ := v
  have same : pack .binary64 (unpack .binary64 bits) = bits := pack_unpack_of_valid valid
  exact congrArg Float.ofModel ((Float.Model.mk.injEq ..).mpr (congrArg UInt64.ofBitVec same))

end SimplexMethod.DoublePrecision
