import Mathlib.Algebra.Order.Field.Rat
import Mathlib.Algebra.Order.Ring.Pow
import Mathlib.Tactic.Linarith
import Mathlib.Tactic.Ring
import SimplexMethod.Decimal.DoublePrecision
import SimplexMethod.Proofs.Decimal.Positional

/-!
# Reading the shortest decimal back

The reals that round to a double-precision number form an interval around it. The intervals of two
numbers do not overlap: the upper end of one is the lower end of the next, and only the number with
the even significand keeps this end for itself. So the shortest decimal in an interval stands for
one number only, and the text of a magnitude determines it.

## Main definitions

* `RoundingInterval.Contains`: the reals of an interval
* `DoubleBits.interval`: the reals that round to the number with a pattern

## Main results

* `DoubleBits.eq_of_contains`: different patterns have no real in common
* `DoubleBits.contains_read_magnitudeText`: the text of a magnitude is read as a real that rounds to
  it
* `eq_of_magnitudeText_eq`: the text of a magnitude determines it
-/

namespace SimplexMethod

namespace RoundingInterval

variable {interval : RoundingInterval} {exponent : Int} {digits : Nat}

/-- The lower end of an interval. -/
def lowerEnd (interval : RoundingInterval) : Rat := interval.lower * 2 ^ interval.scale

/-- The upper end of an interval. -/
def upperEnd (interval : RoundingInterval) : Rat := interval.upper * 2 ^ interval.scale

/-- The number lies in the interval, which has its two ends or is without them. -/
def Contains (interval : RoundingInterval) (x : Rat) : Prop :=
  if interval.closed then interval.lowerEnd ≤ x ∧ x ≤ interval.upperEnd
  else interval.lowerEnd < x ∧ x < interval.upperEnd

theorem Contains.lowerEnd_le {x : Rat} (inside : interval.Contains x) : interval.lowerEnd ≤ x := by
  unfold Contains at inside
  split at inside
  · exact inside.1
  · exact inside.1.le

theorem Contains.le_upperEnd {x : Rat} (inside : interval.Contains x) : x ≤ interval.upperEnd := by
  unfold Contains at inside
  split at inside
  · exact inside.2
  · exact inside.2.le

/-- An interval that contains one of its ends contains both. -/
theorem Contains.closed_of_eq {x : Rat} (inside : interval.Contains x)
    (ends : x = interval.lowerEnd ∨ x = interval.upperEnd) : interval.closed = true := by
  unfold Contains at inside
  split at inside
  · assumption
  · rcases ends with rfl | rfl
    · exact absurd inside.1 (lt_irrefl _)
    · exact absurd inside.2 (lt_irrefl _)

theorem lowerEnd_lt_upperEnd (less : interval.lower < interval.upper) :
    interval.lowerEnd < interval.upperEnd :=
  mul_lt_mul_of_pos_right (Nat.cast_lt.2 less) (zpow_pos two_pos _)

/-- A power is a power of the positive part of its exponent over one of the negative part. -/
private theorem pow_toNat_mul {base : Rat} (positive : 0 < base) (exponent : Int) :
    base ^ (-exponent).toNat * base ^ exponent = base ^ exponent.toNat := by
  rw [← zpow_natCast, ← zpow_natCast, ← zpow_add₀ positive.ne']
  congr 1
  have := Int.toNat_sub_toNat_neg exponent
  omega

/-- Both units measure the same: a unit of the interval is `2 ^ scale`, and a step of the grid is
`10 ^ exponent`. -/
private theorem binaryUnit_mul (interval : RoundingInterval) (exponent : Int) :
    (interval.binaryUnit exponent : Rat) * 10 ^ exponent =
      interval.decimalUnit exponent * 2 ^ interval.scale := by
  have ten := pow_toNat_mul (show (0 : Rat) < 10 by norm_num) exponent
  have two := pow_toNat_mul (show (0 : Rat) < 2 by norm_num) interval.scale
  unfold binaryUnit decimalUnit
  rw [Nat.shiftLeft_eq, Nat.shiftLeft_eq, Nat.pow_eq, Nat.pow_eq]
  push_cast
  rw [← ten, ← two]
  ring

/-- What is found in an interval by counting units lies in it. -/
theorem contains_of_holds (inside : interval.holds exponent digits = true) :
    interval.Contains (digits * 10 ^ exponent) := by
  have power_pos : (0 : Rat) < 10 ^ exponent := zpow_pos (by norm_num) _
  -- All sides of the comparisons are multiplied by the same positive number.
  obtain ⟨factor, factor_pos, step⟩ : ∃ factor : Rat, 0 < factor ∧
      interval.decimalUnit exponent = 10 ^ exponent * factor :=
    ⟨interval.decimalUnit exponent / 10 ^ exponent,
      div_pos (Nat.cast_pos.2 (interval.decimalUnit_pos exponent)) power_pos,
      (mul_div_cancel₀ _ power_pos.ne').symm⟩
  have unit : (interval.binaryUnit exponent : Rat) = 2 ^ interval.scale * factor := by
    have := binaryUnit_mul interval exponent
    rw [step] at this
    exact mul_right_cancel₀ power_pos.ne' (this.trans (by ring))
  rw [holds_iff] at inside
  unfold Contains lowerEnd upperEnd
  split at inside <;>
  · rename_i closed
    simp only [← Nat.cast_le (α := Rat), ← Nat.cast_lt (α := Rat), Nat.cast_mul, unit, step,
      ← mul_assoc, mul_le_mul_iff_left₀ factor_pos, mul_lt_mul_iff_left₀ factor_pos] at inside
    simpa [closed] using inside

/-- The shortest decimal of an interval around the value lies in the interval. -/
theorem contains_shortest (above : interval.lower < interval.value)
    (below : interval.value < interval.upper) : interval.Contains interval.shortest.value :=
  contains_of_holds (holds_shortest above below)

end RoundingInterval

/-! ## Neighbours -/

namespace DoubleBits

/-- The reals that round to the magnitude with a pattern. -/
def interval (pattern : Nat) : RoundingInterval := (ofPattern pattern).roundingInterval

/-- The pattern of the infinite magnitude, which comes after those of the finite ones. -/
def infinitePattern : Nat := 2047 * 2 ^ 52

variable {exponentField fraction pattern : Nat}

theorem ofPattern_eq (exponent_lt : exponentField < 2048) (fraction_lt : fraction < 2 ^ 52) :
    ofPattern (exponentField * 2 ^ 52 + fraction) = ⟨exponentField, fraction⟩ := by
  simp only [ofPattern, Nat.shiftRight_eq_div_pow, Nat.shiftLeft_eq, mk.injEq]
  omega

/-- A finite pattern has an exponent field and a fraction. -/
theorem exists_fields (finite : pattern < infinitePattern) :
    ∃ exponentField fraction, exponentField < 2047 ∧ fraction < 2 ^ 52 ∧
      pattern = exponentField * 2 ^ 52 + fraction := by
  rw [infinitePattern] at finite
  exact ⟨pattern / 2 ^ 52, pattern % 2 ^ 52, by omega, by omega, by omega⟩

theorem significand_pos (positive : 0 < pattern) (finite : pattern < infinitePattern) :
    0 < (ofPattern pattern).significand := by
  obtain ⟨exponentField, fraction, exponent_lt, fraction_lt, rfl⟩ := exists_fields finite
  rw [ofPattern_eq (by omega) fraction_lt, significand]
  dsimp only
  split
  · omega
  · simp

/-- With the same exponent field the next interval begins where the last one ends. -/
private theorem lowerEnd_next_fraction :
    (roundingInterval ⟨exponentField, fraction + 1⟩).lowerEnd =
      (roundingInterval ⟨exponentField, fraction⟩).upperEnd := by
  have ends : (roundingInterval ⟨exponentField, fraction + 1⟩).lower =
      (roundingInterval ⟨exponentField, fraction⟩).upper := by
    simp only [roundingInterval, significand, Nat.succ_ne_zero, false_and, if_false]
    split <;> omega
  rw [RoundingInterval.lowerEnd, RoundingInterval.upperEnd, ends]
  rfl

/-- At a power of two the unit doubles, and the lower end is half as far away as it would be
otherwise. -/
private theorem lowerEnd_next_exponent :
    (roundingInterval ⟨exponentField + 1, 0⟩).lowerEnd =
      (roundingInterval ⟨exponentField, 2 ^ 52 - 1⟩).upperEnd := by
  rw [RoundingInterval.lowerEnd, RoundingInterval.upperEnd]
  rcases Nat.eq_zero_or_pos exponentField with rfl | positive
  · -- Numbers without a leading bit have the same unit as the first ones with it.
    have ends : (roundingInterval ⟨0 + 1, 0⟩).lower =
        (roundingInterval ⟨0, 2 ^ 52 - 1⟩).upper := by
      simp [roundingInterval, significand]
    have scale : (roundingInterval ⟨0 + 1, 0⟩).scale =
        (roundingInterval ⟨0, 2 ^ 52 - 1⟩).scale := by
      simp [roundingInterval, DoubleBits.scale]
    rw [ends, scale]
  · have ends : (roundingInterval ⟨exponentField, 2 ^ 52 - 1⟩).upper =
        2 * (roundingInterval ⟨exponentField + 1, 0⟩).lower := by
      have later : 1 < exponentField + 1 := by omega
      simp only [roundingInterval, significand, positive.ne', Nat.succ_ne_zero, if_false, later,
        and_self, if_true, Nat.shiftLeft_eq]
      omega
    have scale : (roundingInterval ⟨exponentField + 1, 0⟩).scale =
        (roundingInterval ⟨exponentField, 2 ^ 52 - 1⟩).scale + 1 := by
      simp only [roundingInterval, DoubleBits.scale, positive.ne', Nat.succ_ne_zero, if_false]
      omega
    rw [ends, scale, zpow_add_one₀ two_ne_zero]
    push_cast
    ring

/-- The gap between two neighbours is divided between their intervals, and the number with the even
significand has the point where they meet. -/
theorem lowerEnd_succ (finite : pattern + 1 < infinitePattern) :
    (interval (pattern + 1)).lowerEnd = (interval pattern).upperEnd ∧
      ¬((interval pattern).closed = true ∧ (interval (pattern + 1)).closed = true) := by
  obtain ⟨exponentField, fraction, exponent_lt, fraction_lt, rfl⟩ :=
    exists_fields (Nat.lt_of_succ_lt finite)
  rw [infinitePattern] at finite
  have current := ofPattern_eq (by omega : exponentField < 2048) fraction_lt
  -- The next pattern has the same exponent field, unless the fraction is full.
  by_cases room : fraction + 1 < 2 ^ 52
  · have next := ofPattern_eq (by omega : exponentField < 2048) room
    rw [← Nat.add_assoc] at next
    rw [interval, interval, next, current]
    refine ⟨lowerEnd_next_fraction, ?_⟩
    simp only [roundingInterval, significand, decide_eq_true_eq]
    split <;> omega
  · obtain rfl : fraction = 2 ^ 52 - 1 := by omega
    have next := ofPattern_eq (by omega : exponentField + 1 < 2048) (by decide : 0 < 2 ^ 52)
    rw [show (exponentField + 1) * 2 ^ 52 + 0 = exponentField * 2 ^ 52 + (2 ^ 52 - 1) + 1 by omega]
      at next
    rw [interval, interval, next, current]
    refine ⟨lowerEnd_next_exponent, ?_⟩
    simp only [roundingInterval, significand, decide_eq_true_eq]
    split <;> simp

theorem lowerEnd_lt_upperEnd (positive : 0 < pattern) (finite : pattern < infinitePattern) :
    (interval pattern).lowerEnd < (interval pattern).upperEnd :=
  RoundingInterval.lowerEnd_lt_upperEnd <|
    (lower_lt_value (significand_pos positive finite)).trans (value_lt_upper _)

/-! ## Different numbers -/

/-- The interval of a later pattern begins where that of an earlier one ends, or behind it if there
are patterns in between. -/
theorem upperEnd_le_lowerEnd {first second : Nat} (less : first < second)
    (finite : second < infinitePattern) :
    (interval first).upperEnd ≤ (interval second).lowerEnd ∧
      (first + 1 < second → (interval first).upperEnd < (interval second).lowerEnd) := by
  induction second, less using Nat.le_induction with
  | base => exact ⟨(lowerEnd_succ finite).1.ge, fun apart => absurd apart (lt_irrefl _)⟩
  | succ second le ih =>
    have before := (ih (Nat.lt_of_succ_lt finite)).1
    have inside := lowerEnd_lt_upperEnd (Nat.zero_lt_of_lt le) (Nat.lt_of_succ_lt finite)
    have strict : (interval first).upperEnd < (interval (second + 1)).lowerEnd := by
      rw [(lowerEnd_succ finite).1]
      exact before.trans_lt inside
    exact ⟨strict.le, fun _ => strict⟩

/-- No real rounds to two different numbers. -/
theorem eq_of_contains {first second : Nat} {x : Rat} (first_finite : first < infinitePattern)
    (second_finite : second < infinitePattern) (inside : (interval first).Contains x)
    (inside' : (interval second).Contains x) : first = second := by
  -- Two different patterns can be taken in their order.
  have not_less {p q : Nat} (less : p < q) (finite : q < infinitePattern)
      (inside : (interval p).Contains x) (inside' : (interval q).Contains x) : False := by
    obtain ⟨le, strict⟩ := upperEnd_le_lowerEnd less finite
    have upper : x = (interval p).upperEnd :=
      le_antisymm inside.le_upperEnd (le.trans inside'.lowerEnd_le)
    have lower : x = (interval q).lowerEnd :=
      le_antisymm (upper.le.trans le) inside'.lowerEnd_le
    obtain rfl : q = p + 1 := by
      by_contra apart
      exact (strict (by omega)).ne (upper.symm.trans lower)
    exact (lowerEnd_succ finite).2
      ⟨inside.closed_of_eq (.inr upper), inside'.closed_of_eq (.inl lower)⟩
  rcases Nat.lt_trichotomy first second with less | same | less
  · exact (not_less less second_finite inside inside').elim
  · exact same
  · exact (not_less less first_finite inside' inside).elim

end DoubleBits

/-! ## Texts of magnitudes -/

section Magnitudes

open DoubleBits

variable {pattern : Nat}

theorem exponentField_ofPattern_ne (finite : pattern < infinitePattern) :
    (ofPattern pattern).exponentField ≠ 2047 := by
  obtain ⟨exponentField, fraction, exponent_lt, fraction_lt, rfl⟩ := exists_fields finite
  rw [ofPattern_eq (by omega) fraction_lt]
  exact exponent_lt.ne

/-- The text of a positive magnitude is that of the shortest decimal in its interval. -/
theorem magnitudeText_eq (positive : 0 < pattern) (finite : pattern < infinitePattern) :
    magnitudeText (ofPattern pattern) = (interval pattern).shortest.positional := by
  rw [magnitudeText, if_neg (exponentField_ofPattern_ne finite),
    if_neg (significand_pos positive finite).ne']
  rfl

theorem magnitudeText_zero : magnitudeText (ofPattern 0) = (Decimal.mk 0 0).positional := by
  decide +kernel

theorem magnitudeText_infinite : magnitudeText (ofPattern infinitePattern) = "inf" := by
  decide +kernel

/-- The text of a finite magnitude has digits, perhaps with a point. -/
theorem isNumberChar_of_mem_magnitudeText (finite : pattern < infinitePattern) {char : Char}
    (member : char ∈ (magnitudeText (ofPattern pattern)).toList) :
    Decimal.isNumberChar char = true := by
  rcases Nat.eq_zero_or_pos pattern with rfl | positive
  · rw [magnitudeText_zero] at member
    exact Decimal.isNumberChar_of_mem_positional member
  · rw [magnitudeText_eq positive finite] at member
    exact Decimal.isNumberChar_of_mem_positional member

/-- The text of a positive magnitude is read as a real that rounds to it. -/
theorem contains_read_magnitudeText (positive : 0 < pattern) (finite : pattern < infinitePattern) :
    (interval pattern).Contains (Decimal.read (magnitudeText (ofPattern pattern)).toList) := by
  rw [magnitudeText_eq positive finite, Decimal.read_positional]
  exact RoundingInterval.contains_shortest (lower_lt_value (significand_pos positive finite))
    (value_lt_upper _)

/-- Zero does not round to a positive magnitude. -/
theorem not_contains_zero (positive : 0 < pattern) (finite : pattern < infinitePattern) :
    ¬(interval pattern).Contains 0 := by
  intro inside
  have lower : 0 < (interval pattern).lower := by
    have := significand_pos positive finite
    simp only [interval, roundingInterval]
    split <;> omega
  refine inside.lowerEnd_le.not_gt (mul_pos (Nat.cast_pos.2 lower) (zpow_pos two_pos _))

/-- The text of a finite magnitude determines it. -/
theorem eq_of_magnitudeText_eq {first second : Nat} (first_finite : first < infinitePattern)
    (second_finite : second < infinitePattern)
    (same : magnitudeText (ofPattern first) = magnitudeText (ofPattern second)) :
    first = second := by
  have zero : Decimal.read (magnitudeText (ofPattern 0)).toList = 0 := by
    rw [magnitudeText_zero, Decimal.read_positional, Decimal.value]
    simp
  rcases Nat.eq_zero_or_pos first with rfl | first_pos
  · rcases Nat.eq_zero_or_pos second with rfl | second_pos
    · rfl
    · have inside := contains_read_magnitudeText second_pos second_finite
      rw [← same, zero] at inside
      exact absurd inside (not_contains_zero second_pos second_finite)
  · rcases Nat.eq_zero_or_pos second with rfl | second_pos
    · have inside := contains_read_magnitudeText first_pos first_finite
      rw [same, zero] at inside
      exact absurd inside (not_contains_zero first_pos first_finite)
    · have inside := contains_read_magnitudeText first_pos first_finite
      rw [same] at inside
      exact eq_of_contains first_finite second_finite inside
        (contains_read_magnitudeText second_pos second_finite)

end Magnitudes

end SimplexMethod
