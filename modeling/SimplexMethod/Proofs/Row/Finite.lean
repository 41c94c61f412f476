import Mathlib.Data.List.GetD
import SimplexMethod.Proofs.Row
import SimplexMethod.Proofs.Zero

/-!
# Zeros and finite cells of rows

Clearing a column writes a zero in it outright. In any other column it takes off a multiple of the
cell of the pivot row, so a zero stays zero there if the pivot row has one too and the multiple is
not one of something infinite or undefined. Cells that are not finite do not become so by clearing,
so it is the cleared row that decides. All this holds under rounding as well as in exact arithmetic.

## Main definitions

* `Row.IsFinite`: all cells are finite

## Main results

* `Row.cell_clear_beq_zero`, `Row.cell_clear_eq_one`: what clearing leaves as it is
* `Row.isFinite_of_normalize`, `Row.isFinite_of_clear`: what is finite was so before
* `Row.cell_pricedOut_beq_zero`: a row that has been cleared in all basic columns
-/

namespace SimplexMethod

namespace Row

variable {α : Type} [Scalar α]

/-- All cells of the row are finite. -/
def IsFinite (row : Row α) : Prop := ∀ value ∈ row, Scalar.isFinite value

instance (row : Row α) : Decidable row.IsFinite := inferInstanceAs (Decidable (∀ _ ∈ row, _))

variable {row pivotRow : Row α} {col j : Nat}

theorem isFinite_iff_cell : row.IsFinite ↔ ∀ j < row.length, Scalar.isFinite (row.cell j) := by
  rw [IsFinite, List.forall_mem_iff_getElem]
  apply forall₂_congr
  intro j inside
  rw [cell, List.getD_eq_getElem _ _ inside]

variable [LawfulZero α]

/-- A column that has been cleared reads zero. -/
theorem cell_clear_self_beq_zero (inside : col < row.length) :
    (clear pivotRow col row).cell col == 0 := by
  unfold clear
  split
  · assumption
  · simpa [cell, inside] using LawfulZero.zero_beq_zero

/-- Where the pivot row has a zero, a one is not changed. -/
theorem cell_clear_eq_one (same : pivotRow.length = row.length) (finite : row.IsFinite)
    (col_lt : col < row.length) (inside : j < row.length) (other : j ≠ col)
    (zero : pivotRow.cell j == 0) (one : row.cell j = 1) : (clear pivotRow col row).cell j = 1 := by
  rw [cell_clear_of_ne same inside other]
  split
  · exact one
  · rw [one]
    exact LawfulZero.one_sub (LawfulZero.mul_zero (isFinite_iff_cell.1 finite col col_lt) zero)

/-- Where the pivot row has a zero, a zero stays zero. -/
theorem cell_clear_beq_zero (same : pivotRow.length = row.length) (finite : row.IsFinite)
    (col_lt : col < row.length) (inside : j < row.length) (zero : pivotRow.cell j == 0)
    (old : row.cell j == 0) : (clear pivotRow col row).cell j == 0 := by
  by_cases own : j = col
  · subst j
    exact cell_clear_self_beq_zero col_lt
  · rw [cell_clear_of_ne same inside own]
    split
    · exact old
    · exact LawfulZero.zero_sub old
        (LawfulZero.mul_zero (isFinite_iff_cell.1 finite col col_lt) zero)

/-- A row that is finite when it has been divided was so before. -/
theorem isFinite_of_normalize (pivot : Scalar.isFinite (row.cell col))
    (finite : (row.normalize col).IsFinite) : row.IsFinite := by
  rw [isFinite_iff_cell, length_normalize] at finite
  refine isFinite_iff_cell.2 fun j inside => ?_
  by_cases own : j = col
  · exact own ▸ pivot
  · have value := finite j inside
    rw [cell_normalize_of_ne inside own] at value
    exact LawfulZero.isFinite_of_div value

/-- A row that is finite when a column has been cleared was so before. The cell of the column itself
is overwritten, but it was a factor of what another cell gave up. -/
theorem isFinite_of_clear {other : Nat} (same : pivotRow.length = row.length)
    (other_lt : other < row.length) (different : other ≠ col)
    (finite : (clear pivotRow col row).IsFinite) : row.IsFinite := by
  by_cases zero : row.cell col == 0
  · rwa [clear, if_pos zero] at finite
  · rw [isFinite_iff_cell, length_clear] at finite
    have taken {j : Nat} (inside : j < row.length) (away : j ≠ col) :
        Scalar.isFinite (row.cell j) ∧ Scalar.isFinite (row.cell col * pivotRow.cell j) := by
      have value := finite j inside
      rw [cell_clear_of_ne same inside away, if_neg zero] at value
      exact LawfulZero.isFinite_of_sub value
    refine isFinite_iff_cell.2 fun j inside => ?_
    by_cases own : j = col
    · exact own ▸ LawfulZero.isFinite_of_mul (taken other_lt different).2
    · exact (taken inside own).1

/-! ## Clearing in several columns -/

/-- A row that is finite when several columns have been cleared was so before. -/
theorem isFinite_of_pricedOut {basicRows : List (Nat × Row α)} {objective : Row α}
    (usable : ∀ basic ∈ basicRows,
      basic.2.length = objective.length ∧ basic.1 + 1 < objective.length)
    (finite : (pricedOut objective basicRows).IsFinite) : objective.IsFinite := by
  induction basicRows generalizing objective with
  | nil => exact finite
  | cons basic basicRows ih =>
    obtain ⟨same, inside⟩ := usable basic List.mem_cons_self
    have cleared : (clear basic.2 basic.1 objective).IsFinite :=
      ih (fun other member => by simpa using usable other (List.mem_cons_of_mem _ member)) finite
    -- The last cell belongs to the right-hand side, so it is not overwritten.
    have last_lt : objective.length - 1 < objective.length := by omega
    exact isFinite_of_clear same last_lt (by omega) cleared

/-- A column that is cleared once stays clear if all other rows have a zero in it. -/
theorem cell_pricedOut_beq_zero {basicRows : List (Nat × Row α)} {objective : Row α}
    {col : Nat} (inside : col < objective.length)
    (usable : ∀ basic ∈ basicRows, basic.2.length = objective.length ∧
      basic.1 + 1 < objective.length ∧ (basic.1 ≠ col → basic.2.cell col == 0))
    (finite : (pricedOut objective basicRows).IsFinite)
    (cleared : objective.cell col == 0 ∨ ∃ basic ∈ basicRows, basic.1 = col) :
    (pricedOut objective basicRows).cell col == 0 := by
  induction basicRows generalizing objective with
  | nil => exact cleared.resolve_right (by simp)
  | cons basic basicRows ih =>
    have start := isFinite_of_pricedOut
      (fun other member => (usable other member).imp_right And.left) finite
    obtain ⟨same, basic_lt, zero⟩ := usable basic List.mem_cons_self
    have basic_inside := Nat.lt_of_succ_lt basic_lt
    refine ih (by rwa [length_clear]) (fun other member => ?_) finite ?_
    · rw [length_clear]
      exact usable other (List.mem_cons_of_mem _ member)
    -- This row clears the column, or it has a zero in it and the column is cleared later.
    by_cases own : basic.1 = col
    · left
      rw [← own]
      exact cell_clear_self_beq_zero basic_inside
    · refine cleared.imp (cell_clear_beq_zero same start basic_inside inside (zero own)) ?_
      rintro ⟨other, member, rfl⟩
      exact ⟨other, (List.mem_cons.1 member).resolve_left fun h => own (h ▸ rfl), rfl⟩

end Row

end SimplexMethod
