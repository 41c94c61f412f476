import SimplexMethod.Decimal.Positional

/-!
# The shortest decimal that reads back

A binary number of limited precision stands for all reals that round to it. Among the decimals in
this interval `RoundingInterval.shortest` picks one on the coarsest decimal grid that meets the
interval, and on that grid the point nearest to the number. All comparisons are between whole
numbers, so nothing is rounded on the way.

## Main definitions

* `RoundingInterval`: a number and the reals that round to it
* `RoundingInterval.shortest`: the decimal that stands for the number

## Main results

* `RoundingInterval.holds_shortest`: the decimal lies in the interval, so it reads back
* `RoundingInterval.not_holds_of_shortest_lt`: no coarser grid meets the interval
-/

namespace SimplexMethod

/-- A positive number together with the interval of reals that round to it, all counted in units
of `2 ^ scale`. -/
structure RoundingInterval where
  lower : Nat
  value : Nat
  upper : Nat
  scale : Int
  /-- Whether the two ends round to the number as well. -/
  closed : Bool

namespace RoundingInterval

/-- One unit of the interval, measured so that it compares with `decimalUnit`. -/
def binaryUnit (interval : RoundingInterval) (exponent : Int) : Nat :=
  Nat.pow 10 (-exponent).toNat <<< interval.scale.toNat

/-- The step `10 ^ exponent` of a decimal grid, measured so that it compares with `binaryUnit`. -/
def decimalUnit (interval : RoundingInterval) (exponent : Int) : Nat :=
  Nat.pow 10 exponent.toNat <<< (-interval.scale).toNat

/-- Whether `digits * 10 ^ exponent` lies in the interval. -/
def holds (interval : RoundingInterval) (exponent : Int) (digits : Nat) : Bool :=
  let point := digits * interval.decimalUnit exponent
  let lower := interval.lower * interval.binaryUnit exponent
  let upper := interval.upper * interval.binaryUnit exponent
  if interval.closed then lower ≤ point && point ≤ upper else lower < point && point < upper

theorem holds_iff {interval : RoundingInterval} {exponent : Int} {digits : Nat} :
    interval.holds exponent digits = true ↔
      if interval.closed then
        interval.lower * interval.binaryUnit exponent ≤ digits * interval.decimalUnit exponent ∧
          digits * interval.decimalUnit exponent ≤ interval.upper * interval.binaryUnit exponent
      else
        interval.lower * interval.binaryUnit exponent < digits * interval.decimalUnit exponent ∧
          digits * interval.decimalUnit exponent <
            interval.upper * interval.binaryUnit exponent := by
  unfold holds
  dsimp only
  split <;> simp only [Bool.and_eq_true, decide_eq_true_eq]

/-- The grid point in the interval nearest to the value, an exact tie going up. Only the two
neighbours of the value on the grid can be nearest. -/
def nearest? (interval : RoundingInterval) (exponent : Int) : Option Nat :=
  let step := interval.decimalUnit exponent
  let value := interval.value * interval.binaryUnit exponent
  let below := value / step
  -- The remainder is the distance to the lower neighbour, and the rest of the step to the upper.
  match interval.holds exponent below, interval.holds exponent (below + 1) with
  | true, true => some (if 2 * (value % step) < step then below else below + 1)
  | true, false => some below
  | false, true => some (below + 1)
  | false, false => none

/-- The exponent of a grid that contains the value itself. -/
def exactExponent (interval : RoundingInterval) : Int := min interval.scale 0

/-- An exponent whose power of ten exceeds the interval. The interval lies below a power of two,
whose logarithm to base ten is `0.30103` times its exponent, with an error far smaller than what
rounding up to the next whole number adds. -/
def topExponent (interval : RoundingInterval) : Int :=
  (interval.scale + (interval.upper.log2 + 1)) * 30103 / 100000 + 1

/-- The decimal on the coarsest grid that meets the interval, of the grids up to `height` above
the exact one. -/
def shortestBelow (interval : RoundingInterval) : Nat → Decimal
  | 0 =>
    let exponent := interval.exactExponent
    ⟨interval.value * interval.binaryUnit exponent / interval.decimalUnit exponent, exponent⟩
  | height + 1 =>
    let exponent := interval.exactExponent + (height + 1)
    match interval.nearest? exponent with
    | some digits => ⟨digits, exponent⟩
    | none => interval.shortestBelow height

/-- The shortest decimal in the interval, and the nearest to the value of the shortest ones. -/
def shortest (interval : RoundingInterval) : Decimal :=
  interval.shortestBelow (interval.topExponent - interval.exactExponent).toNat

theorem holds_of_nearest? {interval : RoundingInterval} {exponent : Int} {digits : Nat}
    (found : interval.nearest? exponent = some digits) : interval.holds exponent digits = true := by
  unfold nearest? at found
  dsimp only at found
  split at found
  · split at found <;> simp_all
  · simp_all
  · simp_all
  · simp at found

theorem decimalUnit_pos (interval : RoundingInterval) (exponent : Int) :
    0 < interval.decimalUnit exponent := by
  unfold decimalUnit
  rw [Nat.shiftLeft_eq]
  exact Nat.mul_pos (Nat.pow_pos (by decide)) (Nat.pow_pos (by decide))

theorem binaryUnit_pos (interval : RoundingInterval) (exponent : Int) :
    0 < interval.binaryUnit exponent := by
  unfold binaryUnit
  rw [Nat.shiftLeft_eq]
  exact Nat.mul_pos (Nat.pow_pos (by decide)) (Nat.pow_pos (by decide))

/-- If any point of a grid lies in an interval around the value, then so does a neighbour of the
value. -/
theorem holds_neighbour {interval : RoundingInterval} {exponent : Int} {digits : Nat}
    (above : interval.lower < interval.value) (below : interval.value < interval.upper)
    (inside : interval.holds exponent digits = true) :
    interval.holds exponent
        (interval.value * interval.binaryUnit exponent / interval.decimalUnit exponent) = true ∨
      interval.holds exponent
        (interval.value * interval.binaryUnit exponent / interval.decimalUnit exponent + 1) =
          true := by
  have unit_pos := interval.binaryUnit_pos exponent
  have lower_lt := Nat.mul_lt_mul_of_pos_right above unit_pos
  have lt_upper := Nat.mul_lt_mul_of_pos_right below unit_pos
  have step_pos := interval.decimalUnit_pos exponent
  simp only [holds_iff] at inside ⊢
  generalize interval.lower * interval.binaryUnit exponent = lower at *
  generalize interval.upper * interval.binaryUnit exponent = upper at *
  generalize interval.value * interval.binaryUnit exponent = value at *
  generalize interval.decimalUnit exponent = step at *
  have floor_le := Nat.div_mul_le_self value step
  have lt_next : value < (value / step + 1) * step := by
    rw [Nat.mul_comm]
    exact Nat.lt_mul_div_succ value step_pos
  rcases Nat.lt_or_ge (value / step) digits with beyond | within
  · have next_le : (value / step + 1) * step ≤ digits * step := Nat.mul_le_mul_right step beyond
    generalize (value / step + 1) * step = next at *
    generalize digits * step = point at *
    right
    cases closed : interval.closed <;>
      simp only [closed, if_true, if_false, Bool.false_eq_true] at inside ⊢ <;> omega
  · have le_floor := Nat.mul_le_mul_right step within
    generalize value / step * step = floor at *
    generalize digits * step = point at *
    left
    cases closed : interval.closed <;>
      simp only [closed, if_true, if_false, Bool.false_eq_true] at inside ⊢ <;> omega

/-- A grid without a nearest point has no point in an interval around the value. -/
theorem not_holds_of_nearest?_eq_none {interval : RoundingInterval} {exponent : Int}
    (above : interval.lower < interval.value) (below : interval.value < interval.upper)
    (missing : interval.nearest? exponent = none) (digits : Nat) :
    interval.holds exponent digits = false := by
  by_cases inside : interval.holds exponent digits = true
  · rcases holds_neighbour above below inside with found | found <;>
      · unfold nearest? at missing
        dsimp only at missing
        split at missing <;> simp_all
  · simpa using inside

/-- The value is a whole number of steps of its exact grid. -/
theorem decimalUnit_dvd_exact (interval : RoundingInterval) :
    interval.decimalUnit interval.exactExponent ∣
      interval.value * interval.binaryUnit interval.exactExponent := by
  unfold decimalUnit binaryUnit exactExponent
  rcases Int.le_total interval.scale 0 with small | large
  · rw [Int.min_eq_left small, Int.toNat_eq_zero.2 small, Nat.shiftLeft_eq, Nat.shiftLeft_eq]
    refine Nat.dvd_mul_left_of_dvd ?_ _
    simp only [Nat.pow_eq, Nat.pow_zero, Nat.one_mul, Nat.mul_one]
    exact ⟨5 ^ (-interval.scale).toNat, by rw [← Nat.mul_pow]⟩
  · have no_shift : (-interval.scale).toNat = 0 := Int.toNat_eq_zero.2 (by omega)
    simp [Int.min_eq_right large, no_shift]

/-- The shortest decimal of an interval around the value lies in the interval. -/
theorem holds_shortest {interval : RoundingInterval} (above : interval.lower < interval.value)
    (below : interval.value < interval.upper) :
    interval.holds interval.shortest.exponent interval.shortest.digits = true := by
  unfold shortest
  generalize (interval.topExponent - interval.exactExponent).toNat = height
  induction height with
  | zero =>
    have unit_pos := interval.binaryUnit_pos interval.exactExponent
    have lower_lt := Nat.mul_lt_mul_of_pos_right above unit_pos
    have lt_upper := Nat.mul_lt_mul_of_pos_right below unit_pos
    simp only [shortestBelow, holds_iff, Nat.div_mul_cancel interval.decimalUnit_dvd_exact]
    split <;> omega
  | succ height ih =>
    unfold shortestBelow
    dsimp only
    split
    · rename_i digits found
      exact holds_of_nearest? found
    · exact ih

/-- No coarser grid, up to the top exponent, meets an interval around the value: the digits of the
shortest decimal cannot be fewer. -/
theorem not_holds_of_shortest_lt {interval : RoundingInterval}
    (above : interval.lower < interval.value) (below : interval.value < interval.upper)
    {exponent : Int} (coarser : interval.shortest.exponent < exponent)
    (bounded : exponent ≤ max interval.topExponent interval.exactExponent) (digits : Nat) :
    interval.holds exponent digits = false := by
  unfold shortest at coarser
  have within : exponent ≤ interval.exactExponent +
      (interval.topExponent - interval.exactExponent).toNat := by omega
  generalize (interval.topExponent - interval.exactExponent).toNat = height at coarser within
  induction height with
  | zero =>
    simp only [shortestBelow] at coarser
    omega
  | succ height ih =>
    unfold shortestBelow at coarser
    dsimp only at coarser
    split at coarser
    · dsimp only at coarser
      omega
    · rename_i missing
      by_cases here : exponent = interval.exactExponent + (height + 1)
      · subst here
        exact not_holds_of_nearest?_eq_none above below missing digits
      · exact ih coarser (by omega)

end RoundingInterval

end SimplexMethod
