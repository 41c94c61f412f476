import Mathlib.Algebra.BigOperators.Group.List.Basic
import SimplexMethod.Proofs.Tableau.Paths

/-!
# New objective rows in closed form

A new objective row is cleared in one basic column after the other, and each time the multiple is
read from the row as it is by then. If the basic columns form an identity in the constraint rows, no
row disturbs what is read for a later one, so the multiples are the costs of the basic columns.
Whatever the objective row was before does not matter.

## Main definitions

* `Tableau.HasUnitRows`: the basic columns form an identity in the constraint rows

## Main results

* `Tableau.cell_zero_withObjective`: the cells of a new objective row
* `Tableau.withObjective_prices_out`: what a new objective changes, and what it does not depend on
-/

namespace SimplexMethod

namespace Tableau

/-- In the constraint rows each basic column reads one in its own row and zero in the others. Of the
objective row nothing is said. -/
def HasUnitRows (tableau : Tableau Rat) : Prop :=
  ∀ row ∈ tableau.constraintIndices, ∀ i ∈ tableau.constraintIndices,
    tableau.cell i (tableau.basicColumn row) = if i = row then 1 else 0

instance (tableau : Tableau Rat) : Decidable tableau.HasUnitRows :=
  inferInstanceAs (Decidable (∀ row ∈ tableau.constraintIndices, _))

variable {tableau : Tableau Rat} {costs : List Rat}

/-- So it is in every tableau that pivots lead to from an identity. -/
theorem IsCanonical.hasUnitRows (canonical : tableau.IsCanonical) : tableau.HasUnitRows :=
  fun row row_mem i _ => canonical row row_mem i

namespace HasUnitRows

/-- Every constraint row can be used to clear its basic column. -/
private theorem usable (units : tableau.HasUnitRows) :
    ∀ basic ∈ tableau.basicRows, basic.2.length = tableau.numColumns + 1 ∧
      basic.1 < tableau.numColumns + 1 ∧ basic.2.cell basic.1 = 1 := by
  intro basic member
  obtain ⟨row, row_mem, rfl⟩ := mem_basicRows.1 member
  have one := units row row_mem row row_mem
  rw [if_pos rfl] at one
  exact ⟨tableau.length_row (lt_numRows_of_mem row_mem), Nat.lt_succ_of_lt (basicColumn_lt row_mem),
    one⟩

/-- No constraint row has anything in the basic column of another one. -/
private theorem pairwise_basicRows (units : tableau.HasUnitRows) :
    tableau.basicRows.Pairwise fun earlier later => earlier.2.cell later.1 = 0 := by
  rw [basicRows_eq, List.pairwise_map]
  refine List.Pairwise.imp_of_mem (fun {row other} row_mem other_mem different => ?_)
    (List.nodup_range' ..)
  have cell := units other (mem_range'_iff.1 other_mem) row (mem_range'_iff.1 row_mem)
  rwa [if_neg different] at cell

end HasUnitRows

/-- A sum over the basic rows is one over the constraint rows. -/
private theorem sum_basicRows (value : Nat × Row Rat → Rat) :
    (tableau.basicRows.map value).sum = ∑ row ∈ tableau.constraintIndices,
      value (tableau.basicColumn row, tableau.rows.getD row []) := by
  have indices : (List.range' 1 tableau.numConstraints).toFinset = tableau.constraintIndices := by
    ext row
    rw [List.mem_toFinset, mem_range'_iff]
  rw [basicRows_eq, List.map_map, ← indices, List.sum_toFinset _ (List.nodup_range' ..)]
  rfl

/-- A cell of a new objective row is what the basic columns cost in its column, less the cost of the
column itself. -/
theorem cell_zero_withObjective (units : tableau.HasUnitRows) {col : Nat}
    (inside : col ≤ tableau.numColumns) :
    (tableau.withObjective costs).cell 0 col =
      ∑ row ∈ tableau.constraintIndices,
        Row.cell costs (tableau.basicColumn row) * tableau.cell row col - Row.cell costs col := by
  let negated : Row Rat := negatedCosts costs (tableau.numColumns + 1)
  have start {j : Nat} (j_le : j ≤ tableau.numColumns) : negated.cell j = -Row.cell costs j :=
    Row.cell_negatedCosts (Nat.lt_succ_of_le j_le)
  have cleared : Row.cell (pricedOut negated tableau.basicRows) col = negated.cell col -
      (tableau.basicRows.map fun basic => negated.cell basic.1 * basic.2.cell col).sum :=
    Row.cell_pricedOut (by simpa [negated] using units.usable) units.pairwise_basicRows col
  rw [sum_basicRows, start inside] at cleared
  -- The multiples are read off the costs as they come in, with the opposite sign.
  have multiples : ∑ row ∈ tableau.constraintIndices,
      negated.cell (tableau.basicColumn row) * Row.cell (tableau.rows.getD row []) col =
      -∑ row ∈ tableau.constraintIndices,
        Row.cell costs (tableau.basicColumn row) * tableau.cell row col := by
    rw [← Finset.sum_neg_distrib]
    apply Finset.sum_congr rfl
    intro row row_mem
    rw [start (basicColumn_lt row_mem).le, neg_mul, cell]
  change Row.cell (pricedOut _ _) col = _
  rw [cleared, multiples]
  ring

/-- A new objective row depends on the columns, the basis and the constraint rows only. -/
theorem withObjective_congr {α : Type} [Scalar α] {first second : Tableau α}
    (columns : first.columns = second.columns) (basis : first.basis = second.basis)
    (rows : first.constraintRows = second.constraintRows) (costs : List α) :
    first.withObjective costs = second.withObjective costs := by
  apply Tableau.ext
  · exact columns
  · simp only [withObjective, basicRows, numColumns, columns, basis, rows]
  · exact basis

/-- If the basic columns form an identity in the constraint rows, a new objective leaves these rows
and the basis alone, and each cell of its row is given by the costs of the basic columns, with zero
for columns without a cost: so the value of the objective is the cost of the basic solution, and all
basic columns read zero. The row that it takes the place of does not matter. -/
theorem withObjective_prices_out (units : tableau.HasUnitRows)
    (fits : costs.length ≤ tableau.numColumns) :
    let installed := tableau.withObjective costs
    let cost := fun col => costs.getD col 0
    (∀ col < tableau.numColumns, installed.cell 0 col =
      ∑ row ∈ tableau.constraintIndices,
        cost (tableau.basicColumn row) * tableau.cell row col - cost col) ∧
    installed.objectiveValue =
      ∑ row ∈ tableau.constraintIndices,
        cost (tableau.basicColumn row) * tableau.cell row tableau.rhsIndex ∧
    (∀ col ∈ tableau.basis, installed.cell 0 col = 0) ∧
    installed.columns = tableau.columns ∧ installed.constraintRows = tableau.constraintRows ∧
    installed.basis = tableau.basis ∧
    ∀ other : Tableau Rat, other.columns = tableau.columns → other.basis = tableau.basis →
      other.constraintRows = tableau.constraintRows → other.withObjective costs = installed := by
  intro installed cost
  have closed {col : Nat} (inside : col ≤ tableau.numColumns) : installed.cell 0 col =
      ∑ row ∈ tableau.constraintIndices,
        cost (tableau.basicColumn row) * tableau.cell row col - cost col :=
    cell_zero_withObjective units inside
  refine ⟨fun col col_lt => closed col_lt.le, ?_, fun col basic => ?_, rfl, rfl, rfl,
    fun other columns basis rows => withObjective_congr columns basis rows costs⟩
  · -- The right-hand side is a column beyond all costs.
    have free : cost tableau.rhsIndex = 0 := Row.cell_of_length_le fits
    have inside : tableau.rhsIndex ≤ tableau.numColumns := le_rfl
    have value := closed inside
    rw [free, sub_zero] at value
    rw [objectiveValue_eq, ← value]
    rfl
  · obtain ⟨row, row_mem, rfl⟩ := mem_basis_iff.1 basic
    rw [closed (basicColumn_lt row_mem).le, Finset.sum_eq_single_of_mem row row_mem]
    · rw [units row row_mem row row_mem, if_pos rfl, mul_one, sub_self]
    · intro other other_mem different
      rw [units row row_mem other other_mem, if_neg different, mul_zero]

/-- A variable that is basic in the first row gets a cost, and the objective row becomes the row of
this variable. -/
theorem withObjective_prices_out_crossedProblem :
    let tableau := crossedProblem.standardTableau.pivoted 1 0 (by decide +kernel)
      (by decide +kernel)
    tableau.basis = [0, 3] ∧ tableau.HasUnitRows ∧ [(-1 : Rat)].length ≤ tableau.numColumns ∧
      (tableau.withObjective [-1]).cell 0 0 = 0 ∧ (tableau.withObjective [-1]).cell 0 1 = -1 ∧
      (tableau.withObjective [-1]).objectiveValue = -4 := by
  intro tableau
  have canonical : tableau.IsCanonical :=
    (exchange_pivoted _ Nat.one_pos _ _ (by decide +kernel)).isCanonical
      crossedProblem.isCanonical_standardTableau
  have units : tableau.HasUnitRows := canonical.hasUnitRows
  have fits : [(-1 : Rat)].length ≤ tableau.numColumns := by decide +kernel
  obtain ⟨cells, value, basic, -⟩ := withObjective_prices_out units fits
  refine ⟨by decide +kernel, units, fits, basic 0 (by decide +kernel), ?_, ?_⟩
  · rw [cells 1 (by decide +kernel)]
    decide +kernel
  · rw [value]
    decide +kernel

end Tableau

end SimplexMethod
