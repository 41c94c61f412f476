import Mathlib.Data.Prod.Lex
import SimplexMethod.Proofs.DoublePrecision
import SimplexMethod.Proofs.Tolerance

/-!
# The order of numbers

Rational numbers stand in one line. So do double-precision numbers, with the infinite ones at the
ends and both zeros at one point, except that an undefined number has no point in it and is
comparable to no number, not even to itself. A number that lies below another one is never
undefined, so that the numbers below a bound can be searched for the least of them.

## Main definitions

* `LawfulComparison`: the laws of comparisons
* `DoublePrecision.point?`: where in the line a double-precision number stands

## Main results

* `DoublePrecision.compare_eq`: double-precision numbers compare as their points do
* `instLawfulComparisonRat`, `instLawfulComparisonFloat`: both kinds of numbers have the laws
-/

namespace SimplexMethod

/-- The laws of comparisons. They leave room for numbers that are not comparable to themselves. -/
class LawfulComparison (α : Type) [Scalar α] : Prop where
  le_trans {u v w : α} (first : u ≤ v) (second : v ≤ w) : u ≤ w
  lt_iff_le_not_ge {v w : α} : v < w ↔ v ≤ w ∧ ¬w ≤ v
  /-- Numbers below a bound are comparable. -/
  le_or_ge {v w bound : α} (left : v < bound) (right : w < bound) : v ≤ w ∨ w ≤ v

namespace LawfulComparison

variable {α : Type} [Scalar α] [LawfulComparison α] {u v w bound : α}

theorem le_of_lt (less : v < w) : v ≤ w := (lt_iff_le_not_ge.1 less).1

theorem not_ge_of_lt (less : v < w) : ¬w ≤ v := (lt_iff_le_not_ge.1 less).2

theorem lt_of_lt_of_le (first : u < v) (second : v ≤ w) : u < w :=
  lt_iff_le_not_ge.2 ⟨le_trans (le_of_lt first) second,
    fun above => not_ge_of_lt first (le_trans second above)⟩

theorem lt_of_le_of_lt (first : u ≤ v) (second : v < w) : u < w :=
  lt_iff_le_not_ge.2 ⟨le_trans first (le_of_lt second),
    fun above => not_ge_of_lt second (le_trans above first)⟩

theorem le_self (below : v < bound) : v ≤ v := (le_or_ge below below).elim id id

theorem lt_of_not_ge (left : v < bound) (right : w < bound) (different : ¬w ≤ v) : v < w :=
  lt_iff_le_not_ge.2 ⟨(le_or_ge left right).resolve_right different, different⟩

end LawfulComparison

instance : LawfulComparison Rat where
  le_trans := le_trans
  lt_iff_le_not_ge := lt_iff_le_not_ge
  le_or_ge _ _ := le_total _ _

/-! ## Double-precision numbers -/

namespace DoublePrecision

open Float.Model (UnpackedFloat)

/-- Where in the line of all numbers a number stands. Between the infinite ones the sign comes
first, and among numbers of one sign the exponent comes before the mantissa. -/
def point? : UnpackedFloat → Option (Int ×ₗ Int ×ₗ Int)
  | .infinity .negative => some (toLex (-2, toLex (0, 0)))
  | .finite .negative mantissa exponent _ => some (toLex (-1, toLex (-exponent, -mantissa)))
  | .zero _ => some (toLex (0, toLex (0, 0)))
  | .finite .positive mantissa exponent _ => some (toLex (1, toLex (exponent, mantissa)))
  | .infinity .positive => some (toLex (2, toLex (0, 0)))
  | .notANumber => none

private theorem compare_neg_neg (a b : Int) : compare (-a) (-b) = (compare a b).swap := by
  rw [← Std.OrientedOrd.eq_swap]
  simp [compare, compareOfLessAndEq, @eq_comm _ a b]

private theorem compare_natCast (a b : Nat) : compare (a : Int) b = compare a b := by
  simp [compare, compareOfLessAndEq]

private theorem compare_toLex (sign sign' exponent exponent' mantissa mantissa' : Int) :
    compare (toLex (sign, toLex (exponent, mantissa)))
        (toLex (sign', toLex (exponent', mantissa'))) =
      (compare sign sign').then
        ((compare exponent exponent').then (compare mantissa mantissa')) := rfl

/-- Two numbers compare as their points do, and an undefined number has none. -/
theorem compare_eq (v w : UnpackedFloat) :
    v.compare w = (point? v).bind fun p => (point? w).map fun q => compare p q := by
  cases v with
  | notANumber => rfl
  | infinity first | zero first =>
    cases first <;> cases w with
    | notANumber | zero => rfl
    | infinity second | finite second => cases second <;> rfl
  | finite first m e =>
    cases first <;> cases w with
    | notANumber | zero => rfl
    | infinity second => cases second <;> rfl
    | finite second n f =>
      -- Only numbers of one sign need more than a look at their signs.
      cases second <;>
        dsimp only [UnpackedFloat.compare, point?, Option.bind_some, Option.map_some] <;>
        simp only [compare_toLex, compare_neg_neg, compare_natCast, Ordering.swap_then] <;>
        rfl

theorem le_iff_point? (v w : Float) :
    v ≤ w ↔ ∃ p ∈ point? (unpacked v), ∃ q ∈ point? (unpacked w), p ≤ q := by
  rw [le_iff, UnpackedFloat.le, compare_eq]
  cases point? (unpacked v) <;> cases point? (unpacked w) <;>
    simp [Ordering.isLE_iff_ne_gt, compare_le_iff_le]

theorem lt_iff_point? (v w : Float) :
    v < w ↔ ∃ p ∈ point? (unpacked v), ∃ q ∈ point? (unpacked w), p < q := by
  rw [lt_iff, UnpackedFloat.lt, compare_eq]
  cases point? (unpacked v) <;> cases point? (unpacked w) <;> simp [compare_lt_iff_lt]

end DoublePrecision

open DoublePrecision

instance : LawfulComparison Float where
  le_trans {u v w} first second := by
    obtain ⟨p, at_u, q, at_v, below⟩ := (le_iff_point? u v).1 first
    obtain ⟨q', at_v', r, at_w, below'⟩ := (le_iff_point? v w).1 second
    obtain rfl := Option.mem_unique at_v at_v'
    exact (le_iff_point? u w).2 ⟨p, at_u, r, at_w, below.trans below'⟩
  lt_iff_le_not_ge {v w} := by
    simp only [lt_iff_point?, le_iff_point?]
    cases point? (unpacked v) with
    | none => simp
    | some p =>
      cases point? (unpacked w) with
      | none => simp
      | some q => simpa using fun less : p < q => less.le
  le_or_ge {v w bound} left right := by
    obtain ⟨p, at_v, -⟩ := (lt_iff_point? v bound).1 left
    obtain ⟨q, at_w, -⟩ := (lt_iff_point? w bound).1 right
    simp only [le_iff_point?]
    exact (le_total p q).imp (⟨p, at_v, q, at_w, ·⟩) (⟨q, at_w, p, at_v, ·⟩)

end SimplexMethod
