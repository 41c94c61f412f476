import Mathlib.Algebra.BigOperators.Intervals
import Mathlib.Algebra.BigOperators.Ring.Finset
import Mathlib.Algebra.Field.Rat
import Mathlib.Tactic.FieldSimp
import Mathlib.Tactic.Ring
import SimplexMethod.Row
import SimplexMethod.Tableau.Objective

/-!
# Rows and their cells

Both row operations write the cell of the pivot column outright, and have a formula for every other
cell. In exact arithmetic the cells that are written are those that the formula would give, so it
holds of all cells. As linear forms the rows are divided by the pivot cell and diminished by a
multiple of the pivot row.

## Main definitions

* `Row.dot`: a row as a linear form

## Main results

* `Row.cell_normalize_of_ne`, `Row.cell_clear_of_ne`: cells outside of the pivot column
* `Row.cell_normalize`, `Row.cell_clear`: in exact arithmetic one formula for all cells
* `Row.cell_pricedOut`: the cells of a row that has been cleared in all basic columns
* `Row.dot_clear`: a cleared row as a linear form
-/

namespace SimplexMethod

namespace Row

/-! ## Cells -/

section Cells

variable {α : Type} [Scalar α] {row pivotRow : Row α} {col j : Nat}

theorem cell_set (inside : col < row.length) (value : α) (j : Nat) :
    Row.cell (row.set col value) j = if j = col then value else row.cell j := by
  simp only [cell, List.getD_eq_getElem?_getD, List.getElem?_set]
  grind

theorem cell_normalize_self (inside : col < row.length) : (row.normalize col).cell col = 1 := by
  rw [normalize, cell_set (by simpa using inside), if_pos rfl]

theorem cell_normalize_of_ne (inside : j < row.length) (other : j ≠ col) :
    (row.normalize col).cell j = row.cell j / row.cell col := by
  simp [normalize, cell, inside, Ne.symm other]

private theorem cell_subtractMultiple (factor : α) (inside : j < row.length)
    (pivot_inside : j < pivotRow.length) :
    (subtractMultiple factor row pivotRow).cell j = row.cell j - factor * pivotRow.cell j := by
  induction row generalizing pivotRow j with
  | nil => cases inside
  | cons value row ih =>
    cases pivotRow with
    | nil => cases pivot_inside
    | cons pivot pivotRow =>
      cases j with
      | zero => rfl
      | succ j => exact ih (Nat.lt_of_succ_lt_succ inside) (Nat.lt_of_succ_lt_succ pivot_inside)

/-- A row with a zero in the column is left alone, and any other row gives up a multiple of the
pivot row. -/
theorem cell_clear_of_ne (same : pivotRow.length = row.length) (inside : j < row.length)
    (other : j ≠ col) : (clear pivotRow col row).cell j =
      if row.cell col == 0 then row.cell j else row.cell j - row.cell col * pivotRow.cell j := by
  unfold clear
  split
  · rfl
  · rw [← cell_subtractMultiple _ inside (same ▸ inside)]
    simp [cell, Ne.symm other]

end Cells

/-! ## Cells in exact arithmetic -/

variable {row pivotRow : Row Rat} {col : Nat}

theorem cell_of_length_le (outside : row.length ≤ col) : row.cell col = 0 := by
  simp [cell, outside]

/-- Every cell of a normalized row is divided by the pivot cell, that cell included. -/
theorem cell_normalize (inside : col < row.length) (nonzero : row.cell col ≠ 0) (j : Nat) :
    (row.normalize col).cell j = row.cell j / row.cell col := by
  rw [normalize, cell_set (by simpa using inside)]
  split
  · subst j
    exact (div_self nonzero).symm
  · simp only [cell, List.getD_eq_getElem?_getD, List.getElem?_map]
    cases row[j]? <;> simp

/-- A cleared row is less the multiple of the pivot row also where it is left alone and where the
zero is written. -/
theorem cell_clear (same : pivotRow.length = row.length) (inside : col < row.length)
    (one : pivotRow.cell col = 1) (j : Nat) :
    (clear pivotRow col row).cell j = row.cell j - row.cell col * pivotRow.cell j := by
  by_cases present : j < row.length
  · by_cases own : j = col
    · subst j
      rw [one, mul_one, sub_self, clear]
      split
      · rename_i zero
        exact beq_iff_eq.1 zero
      · rw [cell_set (by simpa using inside), if_pos rfl]
    · rw [cell_clear_of_ne same present own]
      split
      · rename_i zero
        rw [beq_iff_eq.1 zero, zero_mul, sub_zero]
      · rfl
  · have outside : row.length ≤ j := not_lt.1 present
    have cleared : (clear pivotRow col row).length ≤ j := by rwa [length_clear]
    have pivot_outside : pivotRow.length ≤ j := by rwa [same]
    rw [cell_of_length_le cleared, cell_of_length_le outside, cell_of_length_le pivot_outside,
      mul_zero, sub_zero]

/-- The first row of a new objective has the costs with their signs changed. -/
theorem cell_negatedCosts {costs : List Rat} {width j : Nat} (inside : j < width) :
    Row.cell (negatedCosts costs width) j = -Row.cell costs j := by
  simp only [cell, negatedCosts, List.getD_eq_getElem?_getD, List.getElem?_take_of_lt inside]
  by_cases costed : j < costs.length
  · simp [List.getElem?_append_left, costed]
  · have room : j - costs.length < width - costs.length := by omega
    simp [List.getElem?_append_right, not_lt.1 costed, room]

/-- If no row has anything in the basic columns of later ones, clearing a row with all of them takes
off the multiples that its own cells ask for, each of them as it was at the start. -/
theorem cell_pricedOut {basicRows : List (Nat × Row Rat)} {objective : Row Rat}
    (usable : ∀ basic ∈ basicRows, basic.2.length = objective.length ∧
      basic.1 < objective.length ∧ basic.2.cell basic.1 = 1)
    (independent : basicRows.Pairwise fun earlier later => earlier.2.cell later.1 = 0) (j : Nat) :
    (pricedOut objective basicRows).cell j = objective.cell j -
      (basicRows.map fun basic => objective.cell basic.1 * basic.2.cell j).sum := by
  induction basicRows generalizing objective with
  | nil => simp [pricedOut]
  | cons basic basicRows ih =>
    obtain ⟨same, inside, one⟩ := usable basic List.mem_cons_self
    obtain ⟨apart, independent⟩ := List.pairwise_cons.1 independent
    have cleared := cell_clear same inside one
    -- The cells that later rows ask for are those of the row before it was cleared.
    have kept : (basicRows.map fun later =>
          (clear basic.2 basic.1 objective).cell later.1 * later.2.cell j) =
        basicRows.map fun later => objective.cell later.1 * later.2.cell j := by
      apply List.map_congr_left
      intro later member
      rw [cleared, apart later member, mul_zero, sub_zero]
    calc (pricedOut objective (basic :: basicRows)).cell j
        = (clear basic.2 basic.1 objective).cell j -
            (basicRows.map fun later => objective.cell later.1 * later.2.cell j).sum := by
          rw [← kept]
          exact ih (fun other member => by simpa using usable other (List.mem_cons_of_mem _ member))
            independent
      _ = objective.cell j - ((basic :: basicRows).map fun other =>
            objective.cell other.1 * other.2.cell j).sum := by
          rw [cleared, List.map_cons, List.sum_cons, sub_sub]

/-! ## Linear forms -/

/-- The value of a row as a linear form. -/
def dot (row : Row Rat) (v : Nat → Rat) : Rat := ∑ j ∈ Finset.range row.length, row.cell j * v j

/-- Cells outside of the row add nothing. -/
theorem dot_eq_sum {width : Nat} (fits : row.length ≤ width) (v : Nat → Rat) :
    row.dot v = ∑ j ∈ Finset.range width, row.cell j * v j := by
  apply Finset.sum_subset (Finset.range_subset_range.2 fits)
  intro j _ outside
  rw [cell_of_length_le (by simpa using outside), zero_mul]

/-- Only the values in the columns of the row count. -/
theorem dot_congr {x y : Nat → Rat} (agree : ∀ j < row.length, x j = y j) :
    row.dot x = row.dot y :=
  Finset.sum_congr rfl fun j member => by rw [agree j (Finset.mem_range.1 member)]

theorem dot_clear (same : pivotRow.length = row.length) (inside : col < row.length)
    (one : pivotRow.cell col = 1) (v : Nat → Rat) :
    (clear pivotRow col row).dot v = row.dot v - row.cell col * pivotRow.dot v := by
  simp only [dot, length_clear, cell_clear same inside one, same, Finset.mul_sum,
    ← Finset.sum_sub_distrib]
  exact Finset.sum_congr rfl fun j _ => by ring

/-- The first row of a new objective is the linear form of its costs with the sign changed. -/
theorem dot_negatedCosts {costs : List Rat} {width : Nat} (fits : costs.length ≤ width)
    (v : Nat → Rat) : Row.dot (negatedCosts costs width) v = -Row.dot costs v := by
  rw [dot_eq_sum fits, dot, length_negatedCosts, ← Finset.sum_neg_distrib]
  apply Finset.sum_congr rfl
  intro j member
  rw [cell_negatedCosts (Finset.mem_range.1 member), neg_mul]

end Row

end SimplexMethod
