import SimplexMethod.Column
import SimplexMethod.Row
import SimplexMethod.Tolerance

/-!
# The simplex tableau

Row zero of a tableau is the objective row and the other rows are constraints; the last cell of a
row is its right-hand side. Row zero holds the reduced costs with their signs changed, so that its
right-hand side is the value of the objective. The basis lists, for each constraint row, the column
that is basic there. The shape of a tableau is part of its type.

## Main definitions

* `Tableau`: columns, rows and basis of fitting sizes
* `Tableau.cell?`, `Tableau.cell`: a cell, if there is one, or zero outside
* `Tableau.basicColumn?`, `Tableau.basicRow?`: the basis read in both directions
* `Tableau.basicRows`: the constraint rows, each with its basic column
* `Tableau.basicSolution`: the values of the columns when those outside of the basis are zero
-/

namespace SimplexMethod

/-- A tableau: a row of cells for the objective and for each constraint. -/
structure Tableau (α : Type) where
  columns : List Column
  rows : List (Row α)
  basis : List Nat
  length_rows : rows.length = basis.length + 1
  length_of_mem_rows : ∀ cells ∈ rows, cells.length = columns.length + 1
  lt_of_mem_basis : ∀ col ∈ basis, col < columns.length

namespace Tableau

variable {α : Type}

/-- The number of rows, with the objective row. -/
def numRows (tableau : Tableau α) : Nat := tableau.rows.length

/-- The number of constraint rows. -/
def numConstraints (tableau : Tableau α) : Nat := tableau.basis.length

/-- The number of columns, without the right-hand side. -/
def numColumns (tableau : Tableau α) : Nat := tableau.columns.length

/-- The index of the right-hand side. -/
def rhsIndex (tableau : Tableau α) : Nat := tableau.numColumns

/-- The objective row with its right-hand side. -/
def objectiveRow (tableau : Tableau α) : Row α := tableau.rows.headD []

/-- The rows after the objective row. -/
def constraintRows (tableau : Tableau α) : List (Row α) := tableau.rows.tail

/-- The constraint rows, each with the column that is basic in it. -/
def basicRows (tableau : Tableau α) : List (Nat × Row α) :=
  tableau.basis.zip tableau.constraintRows

/-- The cells of the objective row that belong to columns. -/
def objectiveCells (tableau : Tableau α) : List α :=
  tableau.objectiveRow.take tableau.numColumns

/-- The cell at a place, if the tableau has one there. -/
def cell? (tableau : Tableau α) (row col : Nat) : Option α := tableau.rows[row]?.bind (·[col]?)

/-- The name of a column, if there is one. -/
def columnName? (tableau : Tableau α) (col : Nat) : Option String :=
  tableau.columns[col]?.map Column.name

/-- The name of a column, and nothing outside of the tableau. -/
def columnName (tableau : Tableau α) (col : Nat) : String := (tableau.columnName? col).getD ""

/-- The column that is basic in a constraint row. -/
def basicColumn? (tableau : Tableau α) : Nat → Option Nat
  | 0 => none
  | row + 1 => tableau.basis[row]?

/-- The first constraint row in which a column is basic. -/
def basicRow? (tableau : Tableau α) (col : Nat) : Option Nat :=
  (tableau.basis.findIdx? (· == col)).map (· + 1)

/-- Whether a column is basic. -/
def isBasic (tableau : Tableau α) (col : Nat) : Bool := tableau.basis.contains col

/-- A column as it appears in the catalogue of a tableau. -/
structure CatalogueEntry where
  index : Nat
  column : Column
  basic : Bool

/-- All columns in their order. -/
def catalogue (tableau : Tableau α) : List CatalogueEntry :=
  tableau.columns.zipIdx.map fun entry => ⟨entry.2, entry.1, tableau.isBasic entry.2⟩

variable [Scalar α]

/-- The cell at a place, and zero outside of the tableau. -/
def cell (tableau : Tableau α) (row col : Nat) : α := (tableau.rows.getD row []).cell col

/-- What a unit of each column adds to the objective; none is positive at an optimum. -/
def reducedCosts (tableau : Tableau α) : List α := tableau.objectiveCells.map (- ·)

/-- The right-hand side of a row of the tableau. -/
def rhsOf (tableau : Tableau α) (cells : Row α) : α := cells.cell tableau.rhsIndex

/-- The right-hand side of every row, the objective row first. -/
def rhsColumn (tableau : Tableau α) : List α := tableau.rows.map tableau.rhsOf

/-- The value of the objective. -/
def objectiveValue (tableau : Tableau α) : α := tableau.rhsOf tableau.objectiveRow

/-- The cell of an identity: one in its own row, and zero in every other row. -/
def identityCell (own : Bool) : α := if own then 1 else 0

/-- Whether each basic column reads one in its own row and zero in all others, to tolerance. -/
def basisIsIdentity (tableau : Tableau α) (tolerance : α) : Bool :=
  (tableau.basis.zipIdx 1).all fun basic =>
    tableau.rows.zipIdx.all fun entry =>
      isZero (entry.1.cell basic.1 - identityCell (entry.2 == basic.2)) tolerance

/-- Whether no constraint has a negative right-hand side, to tolerance. -/
def isPrimalFeasible (tableau : Tableau α) (tolerance : α) : Bool :=
  tableau.constraintRows.all fun cells => !isNegative (tableau.rhsOf cells) tolerance

/-- The values of the first `count` columns: the right-hand side of its row for a basic column,
and zero for every other one. -/
def basicSolution (tableau : Tableau α) (count : Nat) (tolerance : α) : List α :=
  tableau.basicRows.foldl
    (fun values basic => values.set basic.1 (clean (tableau.rhsOf basic.2) tolerance))
    (List.replicate count 0)

end Tableau

end SimplexMethod
