import SimplexMethod.Scalar

/-!
# Rows of cells

Pivoting changes a tableau row by row. The pivot row is divided by its cell in the pivot column,
and every other row gives up the multiple of it that clears this column. Both operations then write
the cell of the pivot column outright, so that it holds one or zero whatever the rounding.

## Main definitions

* `Row.cell`: a cell, zero outside of the row
* `Row.normalize`: the row with a one in the given column
* `Row.clear`: the row with a zero in the given column
-/

namespace SimplexMethod

/-- The cells of a row from left to right. -/
abbrev Row (α : Type) := List α

/-- A place where a list of rows holds no cell. -/
structure MissingCell where
  row : Nat
  col : Nat

namespace Row

variable {α : Type} [Scalar α]

/-- The cell in a column, and zero outside of the row. -/
def cell (row : Row α) (col : Nat) : α := row.getD col 0

/-- The row divided by its cell in `col`, which then reads one. -/
def normalize (row : Row α) (col : Nat) : Row α :=
  (row.map fun value => value / row.cell col).set col 1

/-- The row less `factor` times another one. Cells that only one of the rows has are not touched. -/
def subtractMultiple (factor : α) : Row α → Row α → Row α
  | value :: row, pivot :: pivotRow =>
    (value - factor * pivot) :: subtractMultiple factor row pivotRow
  | row, _ => row

/-- The row less the multiple of `pivotRow` that clears the column `col`, which then reads zero.
A row with zero in this column is left alone. -/
def clear (pivotRow : Row α) (col : Nat) (row : Row α) : Row α :=
  if row.cell col == 0 then row
  else (subtractMultiple (row.cell col) row pivotRow).set col 0

@[simp] theorem length_normalize (row : Row α) (col : Nat) :
    (row.normalize col).length = row.length := by
  simp [normalize]

@[simp] theorem length_subtractMultiple (factor : α) (row pivotRow : Row α) :
    (subtractMultiple factor row pivotRow).length = row.length := by
  induction row generalizing pivotRow with
  | nil => cases pivotRow <;> rfl
  | cons value row ih => cases pivotRow <;> simp [subtractMultiple, ih]

@[simp] theorem length_clear (pivotRow : Row α) (col : Nat) (row : Row α) :
    (clear pivotRow col row).length = row.length := by
  unfold clear
  split <;> simp

end Row

end SimplexMethod
