import SimplexMethod.Decimal.Shortest
import SimplexMethod.Numeral

/-!
# Text of double-precision numbers

A double-precision number is written with the fewest digits that read back as the same number,
always positionally. The sign of a negative zero is kept; infinite and undefined numbers have
names of their own.
-/

namespace SimplexMethod

/-- The bits of a double-precision number, apart from its sign. -/
structure DoubleBits where
  exponentField : Nat
  fraction : Nat

namespace DoubleBits

/-- Split the pattern of a number into its fields. -/
def ofPattern (pattern : Nat) : DoubleBits where
  exponentField := (pattern >>> 52) % (1 <<< 11)
  fraction := pattern % (1 <<< 52)

/-- The whole number that a power of two scales: the leading bit is not stored, except that the
smallest exponent field has none. -/
def significand (bits : DoubleBits) : Nat :=
  if bits.exponentField = 0 then bits.fraction else (1 <<< 52) + bits.fraction

/-- The power of two that scales the significand. -/
def scale (bits : DoubleBits) : Int :=
  if bits.exponentField = 0 then -1074 else (bits.exponentField : Int) - 1075

/-- The reals that round to a positive number, in quarters of its last place. Halfway points go to
the even significand, and the gap below a power of two is half the gap above it. -/
def roundingInterval (bits : DoubleBits) : RoundingInterval where
  lower := 4 * bits.significand -
    (if bits.fraction = 0 ∧ 1 < bits.exponentField then 1 else 2)
  value := 4 * bits.significand
  upper := 4 * bits.significand + 2
  scale := bits.scale - 2
  closed := bits.significand % 2 = 0

theorem lower_lt_value {bits : DoubleBits} (positive : 0 < bits.significand) :
    bits.roundingInterval.lower < bits.roundingInterval.value := by
  simp only [roundingInterval]
  split <;> omega

theorem value_lt_upper (bits : DoubleBits) :
    bits.roundingInterval.value < bits.roundingInterval.upper := by
  simp [roundingInterval]

end DoubleBits

/-- The text of a number of this magnitude. -/
def magnitudeText (bits : DoubleBits) : String :=
  if bits.exponentField = 2047 then "inf"
  else if bits.significand = 0 then "0"
  else bits.roundingInterval.shortest.positional

/-- The text of a double-precision number. -/
def doubleText (value : Float) : String :=
  if value.isNaN then "NaN"
  else
    let pattern := value.toBits.toNat
    let sign := if 1 <<< 63 ≤ pattern then "-" else ""
    sign ++ magnitudeText (DoubleBits.ofPattern pattern)

example : doubleText (0.1 + 0.2) = "0.30000000000000004" := by decide +kernel
example : doubleText (-0.0) = "-0" := by decide +kernel

/-- Of two shortest decimals at the same distance the larger one is written. -/
example : doubleText 2.98023223876953125e-8 = "0.000000029802322387695313" := by decide +kernel

instance : Numeral Float := ⟨doubleText⟩

end SimplexMethod
