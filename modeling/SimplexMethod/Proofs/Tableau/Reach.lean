import SimplexMethod.Proofs.Tableau.Canonical

/-!
# What pivots and new objectives keep

However pivots and new objectives follow each other, the constraint rows keep their solutions, and
on these the objective row expresses the objective that came last. This needs a first tableau that
is canonical, because a new objective is cleared in the basic columns only.

## Main definitions

* `Tableau.Reaches`: pivots and new objectives lead from one tableau to another
* `Tableau.SatisfiedBy`: values of the columns satisfy the constraint rows
* `Tableau.Expresses`: a tableau says the same as a first one and an objective

## Main results

* `Tableau.Reaches.expresses`: every tableau that is reached says the same as the first one and the
  objective that came last
-/

namespace SimplexMethod

namespace Tableau

/-- Pivots and new objectives lead from `first` to a tableau, and the objective that came last has
the given costs. The pivots may be made on any cells and with any tolerances that are not
negative. -/
inductive Reaches {α : Type} [Scalar α] (first : Tableau α) : Tableau α → List α → Prop
  | refl : first.Reaches first []
  | pivot {tableau next : Tableau α} {costs : List α} (row col : Nat) (tolerance : α)
      (reached : first.Reaches tableau costs) (nonnegative : 0 ≤ tolerance)
      (made : tableau.pivot row col tolerance = .ok next) : first.Reaches next costs
  | install {tableau : Tableau α} {costs : List α} (new : List α)
      (reached : first.Reaches tableau costs) (fits : new.length ≤ tableau.numColumns) :
      first.Reaches (tableau.withObjective new) new

/-- The left-hand side of a row at values of the columns. -/
def lhs (tableau : Tableau Rat) (row : Nat) (v : Nat → Rat) : Rat :=
  ∑ col ∈ Finset.range tableau.numColumns, tableau.cell row col * v col

/-- The values of the columns satisfy every constraint row as an equation. -/
def SatisfiedBy (tableau : Tableau Rat) (v : Nat → Rat) : Prop :=
  ∀ row ∈ tableau.constraintIndices, tableau.lhs row v = tableau.cell row tableau.rhsIndex

/-- The tableau has the columns and the solutions of `first`, and for these solutions its objective
row is the equation that gives the objective `costs * v` in terms of all columns. -/
structure Expresses (tableau first : Tableau Rat) (costs : List Rat) : Prop where
  columns_eq : tableau.columns = first.columns
  satisfiedBy_iff (v : Nat → Rat) : tableau.SatisfiedBy v ↔ first.SatisfiedBy v
  lhs_zero_add_dot (v : Nat → Rat) (satisfied : tableau.SatisfiedBy v) :
    tableau.lhs 0 v + Row.dot costs v = tableau.objectiveValue

/-! ## Equations and linear forms -/

section Equations

variable {tableau : Tableau Rat}

/-- An equation is a linear form with `-1` in the place of the right-hand side. -/
theorem dot_update_rhsIndex (row : Nat) (v : Nat → Rat) :
    tableau.dot row (Function.update v tableau.rhsIndex (-1)) =
      tableau.lhs row v - tableau.cell row tableau.rhsIndex := by
  have columns : ∑ col ∈ Finset.range tableau.numColumns,
      tableau.cell row col * Function.update v tableau.rhsIndex (-1) col = tableau.lhs row v := by
    apply Finset.sum_congr rfl
    intro col member
    have different : col ≠ tableau.rhsIndex := (Finset.mem_range.1 member).ne
    rw [Function.update_of_ne different]
  rw [dot, Finset.sum_range_succ, columns, ← rhsIndex, Function.update_self, mul_neg_one,
    sub_eq_add_neg]

theorem solves_update_rhsIndex {v : Nat → Rat} :
    tableau.Solves (Function.update v tableau.rhsIndex (-1)) ↔ tableau.SatisfiedBy v := by
  apply forall₂_congr
  intro row _
  rw [dot_update_rhsIndex, sub_eq_zero]

theorem SameSystem.satisfiedBy_iff {first second : Tableau Rat} (same : first.SameSystem second)
    (v : Nat → Rat) : first.SatisfiedBy v ↔ second.SatisfiedBy v := by
  have width : first.rhsIndex = second.rhsIndex := same.numColumns_eq
  rw [← solves_update_rhsIndex, ← solves_update_rhsIndex, width]
  exact same.solves_iff _

theorem Prices.lhs_zero_add_dot {costs : List Rat} (prices : tableau.Prices costs)
    (fits : costs.length ≤ tableau.numColumns) {v : Nat → Rat}
    (satisfied : tableau.SatisfiedBy v) :
    tableau.lhs 0 v + Row.dot costs v = tableau.objectiveValue := by
  have balance := prices _ (solves_update_rhsIndex.2 satisfied)
  -- The costs belong to columns, so they do not see the place of the right-hand side.
  have same : Row.dot costs (Function.update v tableau.rhsIndex (-1)) = Row.dot costs v :=
    Row.dot_congr fun col inside => by
      have different : col ≠ tableau.rhsIndex := (inside.trans_le fits).ne
      rw [Function.update_of_ne different]
  rw [dot_update_rhsIndex, same] at balance
  rw [Tableau.objectiveValue_eq]
  linarith

end Equations

/-! ## Tableaux that are reached -/

namespace Reaches

section Shape

variable {α : Type} [Scalar α] {first tableau : Tableau α} {costs : List α}

theorem columns_eq (reached : first.Reaches tableau costs) : tableau.columns = first.columns := by
  induction reached with
  | refl => rfl
  | pivot row col tolerance _ _ made ih =>
    obtain ⟨-, _, _, -, rfl⟩ := pivot_eq_ok_iff_isUsablePivot.1 made
    exact ih
  | install _ _ _ ih => exact ih

theorem numConstraints_eq (reached : first.Reaches tableau costs) :
    tableau.numConstraints = first.numConstraints := by
  induction reached with
  | refl => rfl
  | pivot row col tolerance _ _ made ih =>
    obtain ⟨-, _, _, -, rfl⟩ := pivot_eq_ok_iff_isUsablePivot.1 made
    rwa [numConstraints_pivoted]
  | install _ _ _ ih => exact ih

end Shape

variable {first tableau : Tableau Rat} {costs : List Rat}

/-- What every pivot and every new objective keeps. -/
theorem invariant (reached : first.Reaches tableau costs) (canonical : first.IsCanonical)
    (empty : ∀ col, first.cell 0 col = 0) :
    tableau.SameSystem first ∧ tableau.IsCanonical ∧ tableau.Prices costs ∧
      costs.length ≤ tableau.numColumns := by
  induction reached with
  | refl =>
    refine ⟨.refl _, canonical, fun v _ => ?_, Nat.zero_le _⟩
    simp [dot, empty, Row.dot]
  | pivot row col tolerance _ nonnegative made ih =>
    obtain ⟨same, canonical, prices, fits⟩ := ih
    have exchange := exchange_of_pivot nonnegative made
    exact ⟨exchange.sameSystem.trans same, exchange.isCanonical canonical, exchange.prices prices,
      fits.trans_eq exchange.numColumns_eq.symm⟩
  | install new _ fits ih =>
    obtain ⟨same, canonical, -, -⟩ := ih
    exact ⟨(sameSystem_withObjective _ new).trans same, isCanonical_withObjective canonical,
      prices_withObjective canonical (fits.trans (Nat.le_succ _)), fits⟩

/-- From a canonical tableau with an empty objective row, pivots and new objectives lead to tableaux
that say the same as it and the objective that came last. -/
theorem expresses (reached : first.Reaches tableau costs) (canonical : first.IsCanonical)
    (empty : ∀ col, first.cell 0 col = 0) : tableau.Expresses first costs := by
  obtain ⟨same, -, prices, fits⟩ := reached.invariant canonical empty
  exact ⟨same.columns_eq, same.satisfiedBy_iff,
    fun _ satisfied => prices.lhs_zero_add_dot fits satisfied⟩

end Reaches

end Tableau

end SimplexMethod
