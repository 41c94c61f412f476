import SimplexMethod.Numeral
import SimplexMethod.Row
import SimplexMethod.Tolerance

/-!
# Elimination

One step of Gauss-Jordan elimination makes a column basic in a row: the column reads one there and
zero in every other row, and the list of basic columns names it. `eliminate` takes any list of rows
and checks what it reads; `pivotedRows` is the change of the rows alone.
-/

namespace SimplexMethod

/-- A cell that a pivot cannot divide by. -/
structure DegeneratePivot (α : Type) where
  row : Nat
  col : Nat
  value : α

/-- The report of a cell that a pivot cannot divide by. -/
def DegeneratePivot.message {α : Type} [Numeral α] (pivot : DegeneratePivot α) : String :=
  s!"pivot element at row {pivot.row}, column {pivot.col} is {Numeral.text pivot.value}, " ++
    "which is numerically zero"

/-- Why an elimination step is refused. -/
inductive EliminationError (α : Type) where
  | degenerate (pivot : DegeneratePivot α)
  | missingCell (place : MissingCell)
  /-- No basic column is recorded for the row. -/
  | missingBasicColumn (row : Nat)

variable {α : Type} [Scalar α]

/-- Whether a pivot may divide by `value`. -/
def isUsablePivot (value tolerance : α) : Bool :=
  !isZero value tolerance && Scalar.isFinite value

/-- All rows after an elimination step at `(row, col)`. -/
def pivotedRows (rows : List (Row α)) (row col : Nat) : List (Row α) :=
  let pivotRow := (rows.getD row []).normalize col
  -- What clearing makes of the pivot row itself is overwritten.
  (rows.map (Row.clear pivotRow col)).set row pivotRow

/-- One elimination step at `(row, col)`. Row zero is the objective row, and `basis` lists the
basic columns of the rows after it. The pivot cell is judged before the other rows are looked at,
and nothing changes unless the whole step can be made. -/
def eliminate (rows : List (Row α)) (basis : List Nat) (row col : Nat) (tolerance : α) :
    Except (EliminationError α) (List (Row α) × List Nat) :=
  match rows[row]?.bind (·[col]?) with
  | none => .error (.missingCell ⟨row, col⟩)
  | some value =>
    if isUsablePivot value tolerance then
      match rows.findIdx? (·.length ≤ col) with
      | some short => .error (.missingCell ⟨short, col⟩)
      | none =>
        if 0 < row ∧ row ≤ basis.length then
          .ok (pivotedRows rows row col, basis.set (row - 1) col)
        else .error (.missingBasicColumn row)
    else .error (.degenerate ⟨row, col, value⟩)

@[simp] theorem length_pivotedRows (rows : List (Row α)) (row col : Nat) :
    (pivotedRows rows row col).length = rows.length := by
  simp [pivotedRows]

/-- Elimination keeps the length that all rows have in common. -/
theorem length_of_mem_pivotedRows {rows : List (Row α)} {row col width : Nat}
    (in_range : row < rows.length) (rectangular : ∀ cells ∈ rows, cells.length = width) :
    ∀ cells ∈ pivotedRows rows row col, cells.length = width := by
  intro cells member
  rcases List.mem_or_eq_of_mem_set member with old | rfl
  · obtain ⟨before, before_mem, rfl⟩ := List.mem_map.1 old
    simpa using rectangular before before_mem
  · simpa [List.getD_eq_getElem?_getD, in_range] using rectangular _ (List.getElem_mem in_range)

end SimplexMethod
