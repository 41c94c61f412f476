import SimplexMethod.Proofs.Decimal.Shortest
import SimplexMethod.Proofs.DoublePrecision.Word

/-!
# The text of a double-precision number determines it

The sign of a number is the first character of its text or missing, and the rest is the text of its
magnitude. So a number is determined by its text, where all undefined numbers count as one. The text
of a finite number is made of digits, a point and a minus, and that of a magnitude has no minus.

## Main results

* `doubleText_injective`: different numbers have different texts
* `char_of_mem_doubleText`: the characters of a finite number
* `isNumberChar_of_mem_doubleText_abs`: the characters of a finite magnitude
-/

namespace SimplexMethod

namespace DoublePrecision

open Scalar
open Float.Model (UnpackedFloat Format)
open Float.Model.UnpackedFloat
open DoubleBits (ofPattern infinitePattern)

/-! ## The fields of a pattern -/

/-- The pattern of the magnitude of a number. -/
def magnitudePattern (v : Float) : Nat := v.toBits.toNat % 2 ^ 63

/-- Whether the sign field of a number is set. -/
def isNegativePattern (v : Float) : Bool := 2 ^ 63 ≤ v.toBits.toNat

variable {v w : Float}

theorem toNat_word (v : Float) : (word v).toNat = v.toBits.toNat := rfl

theorem toNat_unpackExponent (v : Float) :
    (unpackExponent (word v)).toNat = magnitudePattern v / 2 ^ 52 := by
  have bounded := (word v).isLt
  rw [unpackExponent_def, BitVec.extractLsb'_toNat, Nat.shiftRight_eq_div_pow, magnitudePattern,
    ← toNat_word]
  change (word v).toNat < 2 ^ 64 at bounded
  change (word v).toNat / 2 ^ 52 % 2 ^ 11 = _
  omega

theorem toNat_unpackMantissa (v : Float) :
    (unpackMantissa (word v)).toNat = magnitudePattern v % 2 ^ 52 := by
  rw [unpackMantissa_def, BitVec.extractLsb'_toNat, Nat.shiftRight_zero, magnitudePattern,
    ← toNat_word]
  change (word v).toNat % 2 ^ 52 = _
  omega

theorem toNat_unpackSign (v : Float) :
    (unpackSign (word v)).toNat = v.toBits.toNat / 2 ^ 63 := by
  have bounded := (word v).isLt
  rw [unpackSign_def, BitVec.extractLsb'_toNat, Nat.shiftRight_eq_div_pow, ← toNat_word]
  change (word v).toNat < 2 ^ 64 at bounded
  change (word v).toNat / 2 ^ 63 % 2 ^ 1 = _
  omega

/-- The exponent field is full from the infinite pattern on. -/
theorem unpackExponent_eq_iff : unpackExponent (word v) = -1#11 ↔
    infinitePattern ≤ magnitudePattern v := by
  have small : magnitudePattern v < 2 ^ 63 := Nat.mod_lt _ (by decide)
  rw [← BitVec.toNat_inj, toNat_unpackExponent, infinitePattern]
  change magnitudePattern v / 2 ^ 52 = 2047 ↔ _
  omega

/-- The pattern of a finite number comes before the infinite one. -/
theorem magnitudePattern_lt (finite : isFinite v) : magnitudePattern v < infinitePattern := by
  by_contra full
  rw [isFinite_eq, unpacked, unpack, if_pos (unpackExponent_eq_iff.2 (not_lt.1 full))] at finite
  split at finite <;> cases finite

/-- Behind the infinite pattern there are undefined numbers only. -/
theorem magnitudePattern_le (defined : v.isNaN = false) : magnitudePattern v ≤ infinitePattern := by
  by_contra beyond
  have undefined : (unpacked v).isNaN = true := by
    have full := unpackExponent_eq_iff.2 (not_le.1 beyond).le
    have mantissa : unpackMantissa (word v) ≠ 0#52 := by
      have small : magnitudePattern v < 2 ^ 63 := Nat.mod_lt _ (by decide)
      rw [infinitePattern] at beyond
      rw [Ne, ← BitVec.toNat_inj, toNat_unpackMantissa]
      change magnitudePattern v % 2 ^ 52 ≠ 0
      omega
    rw [unpacked, unpack, if_pos full, if_neg mantissa]
    rfl
  exact Bool.false_ne_true (defined.symm.trans undefined)

/-- Both fields of a pattern determine the number. -/
theorem eq_of_patterns (magnitude : magnitudePattern v = magnitudePattern w)
    (sign : isNegativePattern v = isNegativePattern w) : v = w := by
  have v_lt := v.toBits.toNat_lt
  have w_lt := w.toBits.toNat_lt
  rw [magnitudePattern, magnitudePattern] at magnitude
  rw [isNegativePattern, isNegativePattern, decide_eq_decide] at sign
  exact Float.toBits_inj.1 (UInt64.toNat_inj.1 (by omega))

/-- The magnitude of a finite number keeps the exponent and the mantissa of its word. -/
theorem word_abs (finite : isFinite v) : word (abs v) = packComponents .binary64 .positive
    (unpackExponent (word v)) (unpackMantissa (word v)) := by
  have stored : pack .binary64 (unpacked (abs v)) = word (abs v) :=
    pack_unpack_of_valid (abs v).toModel.valid
  have defined : isNaNBits (packComponents .binary64 .positive (unpackExponent (word v))
      (unpackMantissa (word v))) = false := by
    have small := not_le.2 (magnitudePattern_lt finite)
    rw [← unpackExponent_eq_iff] at small
    rw [isNaNBits, unpackExponent_packComponents, decide_eq_false_iff_not]
    exact fun full => small full.1
  rw [← stored, unpacked_abs, unpacked,
    ← packComponents_unpackSign_unpackExponent_unpackMantissa (word v), abs_unpack_packComponents,
    pack_unpack, packComponents_unpackSign_unpackExponent_unpackMantissa, defined]
  rfl

theorem isNegativePattern_abs (finite : isFinite v) : isNegativePattern (abs v) = false := by
  have sign := toNat_unpackSign (abs v)
  rw [word_abs finite, unpackSign_packComponents] at sign
  change 0 = _ at sign
  rw [isNegativePattern, decide_eq_false_iff_not]
  omega

/-! ## Texts -/

theorem ofPattern_toBits (v : Float) :
    ofPattern v.toBits.toNat = ofPattern (magnitudePattern v) := by
  have bounded := v.toBits.toNat_lt
  simp only [ofPattern, magnitudePattern, Nat.shiftRight_eq_div_pow, Nat.shiftLeft_eq,
    DoubleBits.mk.injEq]
  omega

/-- The text of a number is its sign, if that is a minus, and the text of its magnitude. -/
theorem doubleText_eq (defined : v.isNaN = false) : doubleText v =
    (if isNegativePattern v then "-" else "") ++
      magnitudeText (ofPattern (magnitudePattern v)) := by
  rw [doubleText, if_neg (Bool.eq_false_iff.1 defined), ← ofPattern_toBits]
  simp only [isNegativePattern, Nat.shiftLeft_eq, one_mul, decide_eq_true_eq]

/-- A magnitude is written with digits and a point, or with the letters of the infinite one. -/
theorem char_of_mem_magnitudeText (defined : v.isNaN = false) {char : Char}
    (member : char ∈ (magnitudeText (ofPattern (magnitudePattern v))).toList) :
    Decimal.isNumberChar char = true ∨ char ∈ ['i', 'n', 'f'] := by
  rcases (magnitudePattern_le defined).lt_or_eq with finite | infinite
  · exact .inl (isNumberChar_of_mem_magnitudeText finite member)
  · rw [infinite, magnitudeText_infinite] at member
    exact .inr member

/-- The text of a magnitude, the infinite one included, determines it. -/
theorem magnitudePattern_eq_of_text_eq (v_defined : v.isNaN = false) (w_defined : w.isNaN = false)
    (same : magnitudeText (ofPattern (magnitudePattern v)) =
      magnitudeText (ofPattern (magnitudePattern w))) :
    magnitudePattern v = magnitudePattern w := by
  have letter : 'i' ∈ (magnitudeText (ofPattern infinitePattern)).toList := by
    rw [magnitudeText_infinite]
    decide
  -- The infinite magnitude is the only one whose text has letters.
  have not_infinite {pattern : Nat} (finite : pattern < infinitePattern)
      (same : magnitudeText (ofPattern infinitePattern) = magnitudeText (ofPattern pattern)) :
      False := by
    rw [same] at letter
    exact Bool.false_ne_true (isNumberChar_of_mem_magnitudeText finite letter)
  rcases (magnitudePattern_le v_defined).lt_or_eq with v_finite | v_infinite <;>
    rcases (magnitudePattern_le w_defined).lt_or_eq with w_finite | w_infinite
  · exact eq_of_magnitudeText_eq v_finite w_finite same
  · rw [w_infinite] at same
    exact (not_infinite v_finite same.symm).elim
  · rw [v_infinite] at same
    exact (not_infinite w_finite same).elim
  · rw [v_infinite, w_infinite]

/-- A text starts with a minus exactly if the sign field is set. -/
theorem minus_mem_doubleText_iff (defined : v.isNaN = false) :
    '-' ∈ (doubleText v).toList ↔ isNegativePattern v = true := by
  have unsigned : '-' ∉ (magnitudeText (ofPattern (magnitudePattern v))).toList := by
    intro member
    rcases char_of_mem_magnitudeText defined member with number | letter
    · cases number
    · exact absurd letter (by decide)
  rw [doubleText_eq defined, String.toList_append, List.mem_append, or_iff_left unsigned]
  cases isNegativePattern v <;> decide

/-- No number that is defined is written with the letter of the undefined one. -/
theorem letter_notMem_doubleText (defined : v.isNaN = false) : 'N' ∉ (doubleText v).toList := by
  rw [doubleText_eq defined, String.toList_append, List.mem_append, not_or]
  constructor
  · cases isNegativePattern v <;> decide
  · intro member
    rcases char_of_mem_magnitudeText defined member with number | letter
    · cases number
    · exact absurd letter (by decide)

theorem doubleText_of_isNaN (undefined : v.isNaN = true) : doubleText v = "NaN" := by
  rw [doubleText, if_pos undefined]

end DoublePrecision

open DoublePrecision Scalar

variable {v w : Float}

/-- Different numbers have different texts. -/
theorem doubleText_injective : Function.Injective doubleText := by
  intro v w same
  have letter : 'N' ∈ ("NaN" : String).toList := by decide
  cases v_nan : v.isNaN <;> cases w_nan : w.isNaN
  · have sign : isNegativePattern v = isNegativePattern w := by
      rw [Bool.eq_iff_iff, ← minus_mem_doubleText_iff v_nan, ← minus_mem_doubleText_iff w_nan, same]
    rw [doubleText_eq v_nan, doubleText_eq w_nan, sign, String.append_right_inj] at same
    exact eq_of_patterns (magnitudePattern_eq_of_text_eq v_nan w_nan same) sign
  · rw [doubleText_of_isNaN w_nan] at same
    exact absurd (same ▸ letter) (letter_notMem_doubleText v_nan)
  · rw [doubleText_of_isNaN v_nan] at same
    exact absurd (same ▸ letter) (letter_notMem_doubleText w_nan)
  · rw [Float.isNaN_eq_decide_eq_nan, decide_eq_true_iff] at v_nan w_nan
    rw [v_nan, w_nan]

theorem isNaN_of_isFinite (finite : isFinite v) : v.isNaN = false := by
  rw [isFinite_eq] at finite
  change (unpacked v).isNaN = false
  cases value : unpacked v <;> rw [value] at finite <;> first | rfl | cases finite

/-- A finite number is written with digits, a point and a minus. -/
theorem char_of_mem_doubleText (finite : isFinite v) {char : Char}
    (member : char ∈ (doubleText v).toList) : Decimal.isNumberChar char = true ∨ char = '-' := by
  rw [doubleText_eq (isNaN_of_isFinite finite), String.toList_append] at member
  rcases List.mem_append.1 member with sign | magnitude
  · right
    split at sign
    · simpa using sign
    · simp at sign
  · exact .inl (isNumberChar_of_mem_magnitudeText (magnitudePattern_lt finite) magnitude)

theorem isFinite_abs (v : Float) : isFinite (abs v) = isFinite v := by
  rw [isFinite_eq, unpacked_abs, isFinite_eq]
  cases unpacked v <;> rfl

/-- A finite magnitude is written without a minus. -/
theorem isNumberChar_of_mem_doubleText_abs (finite : isFinite v) {char : Char}
    (member : char ∈ (doubleText (abs v)).toList) : Decimal.isNumberChar char = true := by
  have finite_abs : isFinite (abs v) := (isFinite_abs v).trans finite
  refine (char_of_mem_doubleText finite_abs member).resolve_right ?_
  rintro rfl
  have negative := (minus_mem_doubleText_iff (isNaN_of_isFinite finite_abs)).1 member
  rw [isNegativePattern_abs finite] at negative
  cases negative

/-! ## Numbers and their magnitudes -/

/-- A number that is not zero is negative exactly if its sign is a minus. -/
private theorem lt_zero_iff {sign : Float.Model.UnpackedFloat.Sign} {mantissa : Nat}
    {exponent : Int} {positive : 0 < mantissa}
    (value : unpacked v = .finite sign mantissa exponent positive) : v < 0 ↔ sign = .negative := by
  rw [lt_iff, value]
  change Float.Model.UnpackedFloat.lt _ (.zero .positive) = true ↔ _
  cases sign <;> simp [Float.Model.UnpackedFloat.lt, Float.Model.UnpackedFloat.compare]

/-- A finite number is known from its sign and its magnitude. -/
theorem eq_of_abs_eq (v_finite : isFinite v) (w_finite : isFinite w) (v_nonzero : (v == 0) = false)
    (w_nonzero : (w == 0) = false) (sign : v < 0 ↔ w < 0) (magnitude : abs v = abs w) : v = w := by
  have not_zero {v : Float} (finite : isFinite v) (nonzero : (v == 0) = false) :
      ∃ sign mantissa exponent positive,
        unpacked v = .finite sign mantissa exponent positive :=
    (exists_of_isFinite v finite).resolve_left fun zero =>
      Bool.false_ne_true (nonzero.symm.trans ((beq_zero_iff v).2 zero))
  obtain ⟨first, m, e, m_pos, v_value⟩ := not_zero v_finite v_nonzero
  obtain ⟨second, n, f, n_pos, w_value⟩ := not_zero w_finite w_nonzero
  have same := congrArg unpacked magnitude
  rw [unpacked_abs, unpacked_abs, v_value, w_value] at same
  obtain ⟨-, rfl, rfl⟩ := (Float.Model.UnpackedFloat.finite.injEq ..).mp same
  rw [lt_zero_iff v_value, lt_zero_iff w_value] at sign
  have : first = second := by cases first <;> cases second <;> simp_all
  rw [← ofModel_pack_unpacked v, ← ofModel_pack_unpacked w, v_value, w_value, this]

/-- Only one number counts as equal to one. -/
theorem eq_one_of_beq (one : v == 1) : v = 1 := by
  obtain ⟨-, -, same | ⟨-, zero⟩ | ⟨-, zero⟩⟩ := Float.beq_iff_ne_nan_and_eq.1 one
  · exact same
  · exact absurd zero (by decide)
  · exact absurd zero (by decide)

end SimplexMethod
