import Mathlib.Algebra.BigOperators.Group.Finset.Defs
import SimplexMethod.Proofs.Row
import SimplexMethod.Problem

/-!
# Feasible points and optima of a problem

A point gives a value to every decision variable. It is feasible if no value is negative and every
constraint holds as it is written. Nothing here refers to the simplex method.

## Main definitions

* `LinearProgram.Feasible`: a non-negative point that satisfies all constraints
* `LinearProgram.value`: the objective at a point
* `LinearProgram.extent`: how far a point lies from the origin and from the bounds of the
  inequalities
* `Sense.IsAsGood`, `Sense.IsBetter`: comparisons of values in the sense of a problem
-/

namespace SimplexMethod

/-- The comparison that a relation stands for. -/
def Relation.Holds : Relation → Rat → Rat → Prop
  | atMost, left, right => left ≤ right
  | atLeast, left, right => right ≤ left
  | equal, left, right => left = right

/-- The constraint holds at a point. -/
def Constraint.Satisfied (constraint : Constraint Rat) (x : Nat → Rat) : Prop :=
  constraint.relation.Holds (Row.dot constraint.coefficients x) constraint.rhs

namespace LinearProgram

/-- The point is non-negative in all decision variables and satisfies every constraint. -/
structure Feasible (problem : LinearProgram Rat) (x : Nat → Rat) : Prop where
  nonneg : ∀ index < problem.numVariables, 0 ≤ x index
  satisfied : ∀ constraint ∈ problem.constraints, constraint.Satisfied x

/-- The objective at a point. -/
def value (problem : LinearProgram Rat) (x : Nat → Rat) : Rat := Row.dot problem.objective x

/-- The sum of the decision values and of the distances between the two sides of all constraints
that are not equations. -/
def extent (problem : LinearProgram Rat) (x : Nat → Rat) : Rat :=
  ∑ index ∈ Finset.range problem.numVariables, x index +
    ((problem.constraints.filter fun constraint => constraint.relation ≠ .equal).map
      fun constraint => |Row.dot constraint.coefficients x - constraint.rhs|).sum

end LinearProgram

/-- The first value is at least as good as the second one. -/
def Sense.IsAsGood : Sense → Rat → Rat → Prop
  | minimize, first, second => first ≤ second
  | maximize, first, second => second ≤ first

/-- The first value is better than the second one. -/
def Sense.IsBetter : Sense → Rat → Rat → Prop
  | minimize, first, second => first < second
  | maximize, first, second => second < first

/-- The first value is at least as good as the second one, up to a margin. -/
def Sense.IsAsGoodUpTo (margin : Rat) : Sense → Rat → Rat → Prop
  | minimize, first, second => first - margin ≤ second
  | maximize, first, second => second ≤ first + margin

/-! ## Normalized constraints -/

theorem Row.dot_neg (row : Row Rat) (x : Nat → Rat) : Row.dot (row.map (- ·)) x = -row.dot x := by
  simp only [dot, List.length_map, ← Finset.sum_neg_distrib]
  apply Finset.sum_congr rfl
  intro j _
  simp only [cell, List.getD_eq_getElem?_getD, List.getElem?_map]
  cases row[j]? <;> simp

namespace Constraint

variable {constraint : Constraint Rat} {x : Nat → Rat}

theorem satisfied_negated : constraint.negated.Satisfied x ↔ constraint.Satisfied x := by
  unfold Satisfied negated
  rw [Row.dot_neg]
  cases constraint.relation <;> simp [Relation.Holds, Relation.flipped]

/-- A change of both signs leaves the distance between the two sides. -/
theorem abs_negated : |Row.dot constraint.negated.coefficients x - constraint.negated.rhs| =
    |Row.dot constraint.coefficients x - constraint.rhs| := by
  rw [negated, Row.dot_neg, ← abs_neg]
  congr 1
  ring

theorem satisfied_normalized : constraint.normalized.Satisfied x ↔ constraint.Satisfied x := by
  unfold normalized
  split
  · exact satisfied_negated
  · rfl

theorem abs_normalized : |Row.dot constraint.normalized.coefficients x -
    constraint.normalized.rhs| = |Row.dot constraint.coefficients x - constraint.rhs| := by
  unfold normalized
  split
  · exact abs_negated
  · rfl

/-- Normalizing makes no equation and takes none away. -/
theorem relation_normalized_eq_equal_iff :
    constraint.normalized.relation = .equal ↔ constraint.relation = .equal := by
  unfold normalized
  split
  · cases relation : constraint.relation <;> simp [negated, relation, Relation.flipped]
  · rfl

theorem rhs_normalized_nonneg (constraint : Constraint Rat) : 0 ≤ constraint.normalized.rhs := by
  unfold normalized
  split
  · rename_i negative
    exact neg_nonneg.2 negative.le
  · rename_i nonnegative
    exact not_lt.1 nonnegative

theorem length_normalized {α : Type} [Scalar α] (constraint : Constraint α) :
    constraint.normalized.coefficients.length = constraint.coefficients.length := by
  unfold normalized
  split <;> simp [negated]

end Constraint

end SimplexMethod
