import SimplexMethod.Elimination
import SimplexMethod.Tableau

/-!
# Pivots of a tableau

A pivot exchanges the basic column of a constraint row for another column. It is made on a cell of
a constraint row and a column, other than the right-hand side, that is not zero to tolerance; on any
other cell it is refused.
-/

namespace SimplexMethod

/-- Why a pivot is refused. -/
inductive PivotError (α : Type) where
  | outOfBounds (row col rows cols : Nat)
  | degenerate (pivot : DegeneratePivot α)

/-- The report of a refused pivot. -/
def PivotError.message {α : Type} [Numeral α] : PivotError α → String
  | outOfBounds row col rows cols =>
    s!"pivot cell ({row}, {col}) is outside of a tableau with {rows} rows and {cols} columns"
  | degenerate pivot => "degenerate pivot: " ++ pivot.message

namespace Tableau

variable {α : Type} [Scalar α]

/-- The tableau in which column `col` is basic in `row`. -/
def pivoted (tableau : Tableau α) (row col : Nat) (row_lt : row < tableau.numRows)
    (col_lt : col < tableau.numColumns) : Tableau α where
  columns := tableau.columns
  rows := pivotedRows tableau.rows row col
  basis := tableau.basis.set (row - 1) col
  length_rows := by simp [tableau.length_rows]
  length_of_mem_rows := length_of_mem_pivotedRows row_lt tableau.length_of_mem_rows
  lt_of_mem_basis := by
    intro basic member
    rcases List.mem_or_eq_of_mem_set member with old | rfl
    · exact tableau.lt_of_mem_basis basic old
    · exact col_lt

/-- Make column `col` basic in `row`. -/
def pivot (tableau : Tableau α) (row col : Nat) (tolerance : α) :
    Except (PivotError α) (Tableau α) :=
  if inside : 0 < row ∧ row < tableau.numRows ∧ col < tableau.numColumns then
    if isUsablePivot (tableau.cell row col) tolerance then
      .ok (tableau.pivoted row col inside.2.1 inside.2.2)
    else .error (.degenerate ⟨row, col, tableau.cell row col⟩)
  else .error (.outOfBounds row col tableau.numRows (tableau.numColumns + 1))

end Tableau

end SimplexMethod
