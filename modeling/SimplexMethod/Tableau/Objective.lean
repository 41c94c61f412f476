import SimplexMethod.Tableau

/-!
# Objectives of a tableau

A new objective enters a tableau as its costs with their signs changed. Its row is then cleared in
every basic column, so that it expresses the objective by the other columns alone.
-/

namespace SimplexMethod

variable {α : Type} [Scalar α]

/-- The costs with their signs changed, filled up with zeros to a row of `width` cells. -/
def negatedCosts (costs : List α) (width : Nat) : Row α :=
  (costs.map (- ·) ++ List.replicate (width - costs.length) 0).take width

@[simp] theorem length_negatedCosts (costs : List α) (width : Nat) :
    (negatedCosts costs width).length = width := by
  simp [negatedCosts]
  omega

/-- The row `objective` cleared in each basic column, one constraint row after the other. -/
def pricedOut (objective : Row α) (basicRows : List (Nat × Row α)) : Row α :=
  basicRows.foldl (fun row basic => Row.clear basic.2 basic.1 row) objective

@[simp] theorem length_pricedOut (objective : Row α) (basicRows : List (Nat × Row α)) :
    (pricedOut objective basicRows).length = objective.length := by
  induction basicRows generalizing objective with
  | nil => rfl
  | cons basic basicRows ih => exact (ih _).trans (by simp)

namespace Tableau

/-- The same constraints with the objective `costs * x`, to be made large. Columns without a cost
have cost zero. -/
def withObjective (tableau : Tableau α) (costs : List α) : Tableau α where
  columns := tableau.columns
  rows :=
    pricedOut (negatedCosts costs (tableau.numColumns + 1)) tableau.basicRows ::
      tableau.constraintRows
  basis := tableau.basis
  length_rows := by
    have := tableau.length_rows
    simp [constraintRows]
    omega
  length_of_mem_rows := by
    intro cells member
    rcases List.mem_cons.1 member with rfl | old
    · simp [numColumns]
    · exact tableau.length_of_mem_rows cells (List.mem_of_mem_tail old)
  lt_of_mem_basis := tableau.lt_of_mem_basis

end Tableau

end SimplexMethod
