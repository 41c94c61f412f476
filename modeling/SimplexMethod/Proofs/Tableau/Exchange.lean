import Mathlib.Algebra.BigOperators.Field
import Mathlib.Data.List.GetD
import Mathlib.Order.Interval.Finset.Nat
import SimplexMethod.Proofs.Row
import SimplexMethod.Proofs.Tolerance
import SimplexMethod.Tableau.Pivot

/-!
# Exchanges of basic columns

A pivot that is made exchanges the basic column of one row. In exact arithmetic all cells of the new
tableau follow one formula, and everything else about pivots is derived from this formula.

## Main definitions

* `Tableau.constraintIndices`, `Tableau.basicColumn`: the constraint rows and their basic columns
* `Tableau.dot`: a row of a tableau as a linear form in the columns and the right-hand side
* `Tableau.Exchange`: one tableau comes from another by an exchange

## Main results

* `Tableau.pivot_eq_ok_iff_isUsablePivot`: when a pivot is made, and which tableau it leads to
* `Tableau.exchange_of_pivot`: in exact arithmetic a pivot that is made is an exchange
-/

namespace SimplexMethod

attribute [ext] Tableau

namespace Tableau

/-! ## Rows and basic columns -/

section Indices

variable {α : Type} (tableau : Tableau α)

/-- The indices of the constraint rows. -/
def constraintIndices : Finset Nat := Finset.Icc 1 tableau.numConstraints

/-- The column that is basic in a constraint row. -/
def basicColumn (row : Nat) : Nat := (tableau.basicColumn? row).getD 0

@[simp] theorem mem_constraintIndices {row : Nat} :
    row ∈ tableau.constraintIndices ↔ 1 ≤ row ∧ row ≤ tableau.numConstraints := by
  simp [constraintIndices]

theorem numRows_eq : tableau.numRows = tableau.numConstraints + 1 := tableau.length_rows

variable {tableau}

theorem mem_constraintIndices_iff_lt_numRows {row : Nat} :
    row ∈ tableau.constraintIndices ↔ 0 < row ∧ row < tableau.numRows := by
  rw [mem_constraintIndices, numRows_eq, Nat.lt_succ_iff]
  rfl

theorem lt_numRows_of_mem {row : Nat} (member : row ∈ tableau.constraintIndices) :
    row < tableau.numRows :=
  (mem_constraintIndices_iff_lt_numRows.1 member).2

theorem basicColumn?_eq {row : Nat} (member : row ∈ tableau.constraintIndices) :
    tableau.basicColumn? row = some (tableau.basicColumn row) := by
  obtain ⟨positive, bounded⟩ := tableau.mem_constraintIndices.1 member
  obtain ⟨index, rfl⟩ := Nat.exists_eq_add_of_le' positive
  have inside : index < tableau.basis.length := bounded
  simp [basicColumn, basicColumn?, inside]

theorem basicColumn?_eq_some_iff {row col : Nat} : tableau.basicColumn? row = some col ↔
    row ∈ tableau.constraintIndices ∧ tableau.basicColumn row = col := by
  refine ⟨fun basic => ?_, fun ⟨member, column⟩ => column ▸ basicColumn?_eq member⟩
  refine ⟨?_, by rw [basicColumn, basic]; rfl⟩
  cases row with
  | zero => cases basic
  | succ index =>
    have inside : index < tableau.numConstraints := (List.getElem?_eq_some_iff.1 basic).1
    exact tableau.mem_constraintIndices.2 ⟨Nat.succ_pos _, inside⟩

theorem basicColumn_mem_basis {row : Nat} (member : row ∈ tableau.constraintIndices) :
    tableau.basicColumn row ∈ tableau.basis := by
  obtain ⟨positive, -⟩ := tableau.mem_constraintIndices.1 member
  obtain ⟨index, rfl⟩ := Nat.exists_eq_add_of_le' positive
  exact List.mem_of_getElem? (basicColumn?_eq member)

theorem basicColumn_lt {row : Nat} (member : row ∈ tableau.constraintIndices) :
    tableau.basicColumn row < tableau.numColumns :=
  tableau.lt_of_mem_basis _ (basicColumn_mem_basis member)

/-- The basis lists the basic columns of the constraint rows. -/
theorem mem_basis_iff {col : Nat} :
    col ∈ tableau.basis ↔ ∃ row ∈ tableau.constraintIndices, tableau.basicColumn row = col := by
  constructor
  · intro member
    obtain ⟨index, inside, rfl⟩ := List.getElem_of_mem member
    refine ⟨index + 1, tableau.mem_constraintIndices.2 ⟨by omega, inside⟩, ?_⟩
    simp [basicColumn, basicColumn?, inside]
  · rintro ⟨row, member, rfl⟩
    exact basicColumn_mem_basis member

/-- No column is listed twice if no two rows have the same basic column. -/
theorem nodup_basis_of_injOn
    (injective : Set.InjOn tableau.basicColumn tableau.constraintIndices) :
    tableau.basis.Nodup := by
  apply List.pairwise_iff_getElem.2
  intro i j i_lt j_lt less same
  have column {index : Nat} (inside : index < tableau.basis.length) :
      index + 1 ∈ tableau.constraintIndices ∧
        tableau.basicColumn (index + 1) = tableau.basis[index] :=
    ⟨tableau.mem_constraintIndices.2 ⟨by omega, inside⟩,
      by simp [basicColumn, basicColumn?, inside]⟩
  obtain ⟨i_mem, i_column⟩ := column i_lt
  obtain ⟨j_mem, j_column⟩ := column j_lt
  have := injective i_mem j_mem (i_column.trans (same.trans j_column.symm))
  omega

theorem mem_range'_iff {row : Nat} :
    row ∈ List.range' 1 tableau.numConstraints ↔ row ∈ tableau.constraintIndices := by
  rw [List.mem_range'_1, mem_constraintIndices]
  omega

theorem mem_constraintRows {cells : Row α} :
    cells ∈ tableau.constraintRows ↔
      ∃ row ∈ tableau.constraintIndices, tableau.rows.getD row [] = cells := by
  have lengths := tableau.length_rows
  have count : tableau.numConstraints = tableau.basis.length := rfl
  constructor
  · intro member
    obtain ⟨index, inside, rfl⟩ := List.getElem_of_mem member
    rw [constraintRows, List.length_tail] at inside
    refine ⟨index + 1, tableau.mem_constraintIndices.2 ⟨by omega, by omega⟩, ?_⟩
    rw [List.getD_eq_getElem _ _ (by omega)]
    simp [constraintRows]
  · rintro ⟨row, row_mem, rfl⟩
    obtain ⟨positive, bounded⟩ := tableau.mem_constraintIndices.1 row_mem
    obtain ⟨index, rfl⟩ := Nat.exists_eq_add_of_le' positive
    rw [List.getD_eq_getElem _ _ (by omega), constraintRows, List.mem_iff_getElem]
    exact ⟨index, by rw [List.length_tail]; omega, by rw [List.getElem_tail]⟩

/-- The constraint rows in their order, each with its basic column. -/
theorem basicRows_eq (tableau : Tableau α) :
    tableau.basicRows = (List.range' 1 tableau.numConstraints).map fun row =>
      (tableau.basicColumn row, tableau.rows.getD row []) := by
  have lengths := tableau.length_rows
  have count : tableau.numConstraints = tableau.basis.length := rfl
  refine List.ext_getElem ?_ fun index left right => ?_
  · simp only [basicRows, constraintRows, List.length_zip, List.length_tail, List.length_map,
      List.length_range']
    omega
  · simp only [List.length_map, List.length_range'] at right
    have in_basis : index < tableau.basis.length := right
    have in_rows : index + 1 < tableau.rows.length := by omega
    simp [basicRows, constraintRows, Nat.add_comm 1 index, basicColumn, basicColumn?, in_basis,
      in_rows]

theorem mem_basicRows {basic : Nat × Row α} :
    basic ∈ tableau.basicRows ↔ ∃ row ∈ tableau.constraintIndices,
      (tableau.basicColumn row, tableau.rows.getD row []) = basic := by
  rw [basicRows_eq, List.mem_map]
  simp only [mem_range'_iff]

/-- The constraint rows in their order, each with its basic column and its index. -/
theorem zipIdx_basicRows (tableau : Tableau α) :
    tableau.basicRows.zipIdx 1 = (List.range' 1 tableau.numConstraints).map fun row =>
      ((tableau.basicColumn row, tableau.rows.getD row []), row) := by
  rw [basicRows_eq]
  refine List.ext_getElem (by simp) fun index left right => ?_
  simp

theorem length_row (tableau : Tableau α) {row : Nat} (inside : row < tableau.numRows) :
    (tableau.rows.getD row []).length = tableau.numColumns + 1 := by
  rw [List.getD_eq_getElem _ _ inside]
  exact tableau.length_of_mem_rows _ (List.getElem_mem inside)

theorem cell_of_numRows_le [Scalar α] (tableau : Tableau α) {row : Nat}
    (outside : tableau.numRows ≤ row) (col : Nat) : tableau.cell row col = 0 := by
  rw [cell, List.getD_eq_default _ _ outside]
  rfl

theorem objectiveRow_eq (tableau : Tableau α) :
    tableau.objectiveRow = tableau.rows.getD 0 [] := by
  rw [objectiveRow]
  cases tableau.rows <;> rfl

theorem getElem?_objectiveCells [Scalar α] (tableau : Tableau α) {col : Nat}
    (inside : col < tableau.numColumns) :
    tableau.objectiveCells[col]? = some (tableau.cell 0 col) := by
  have first : 0 < tableau.numRows := tableau.numRows_eq ▸ Nat.succ_pos _
  have length := tableau.length_row first
  have present : col < (tableau.rows.getD 0 []).length := by omega
  rw [objectiveCells, List.getElem?_take_of_lt inside, objectiveRow_eq,
    List.getElem?_eq_getElem present, cell, Row.cell, List.getD_eq_getElem _ _ present]

end Indices

/-! ## Pivots on any kind of numbers -/

section Pivots

variable {α : Type} [Scalar α] {row col i : Nat}

theorem getD_pivotedRows_self {rows : List (Row α)} (row_lt : row < rows.length) :
    (pivotedRows rows row col).getD row [] = (rows.getD row []).normalize col := by
  simp [pivotedRows, row_lt]

theorem getD_pivotedRows_of_ne {rows : List (Row α)} (present : i < rows.length)
    (other : i ≠ row) : (pivotedRows rows row col).getD i [] =
      Row.clear ((rows.getD row []).normalize col) col (rows.getD i []) := by
  simp [pivotedRows, present, Ne.symm other]

variable {tableau after : Tableau α} {tolerance : α}

/-- A pivot that is made is made inside of the tableau on a cell that can be divided by. -/
theorem pivot_eq_ok_iff_isUsablePivot : tableau.pivot row col tolerance = .ok after ↔
    ∃ (_ : 0 < row) (row_lt : row < tableau.numRows) (col_lt : col < tableau.numColumns),
      isUsablePivot (tableau.cell row col) tolerance = true ∧
        after = tableau.pivoted row col row_lt col_lt := by
  unfold pivot
  constructor
  · intro made
    split at made
    · rename_i inside
      split at made
      · rename_i usable
        exact ⟨inside.1, inside.2.1, inside.2.2, usable, (Except.ok.inj made).symm⟩
      · cases made
    · cases made
  · rintro ⟨positive, row_lt, col_lt, usable, rfl⟩
    rw [dif_pos ⟨positive, row_lt, col_lt⟩, if_pos usable]

section Pivoted

variable (row_lt : row < tableau.numRows) (col_lt : col < tableau.numColumns)

theorem numConstraints_pivoted :
    (tableau.pivoted row col row_lt col_lt).numConstraints = tableau.numConstraints := by
  simp [numConstraints, pivoted]

theorem constraintIndices_pivoted : (tableau.pivoted row col row_lt col_lt).constraintIndices =
    tableau.constraintIndices := by
  rw [constraintIndices, constraintIndices, numConstraints_pivoted]

theorem basicColumn_pivoted (positive : 0 < row) (i : Nat) :
    (tableau.pivoted row col row_lt col_lt).basicColumn i =
      if i = row then col else tableau.basicColumn i := by
  have := tableau.numRows_eq
  obtain ⟨index, rfl⟩ := Nat.exists_eq_add_of_le' positive
  have inside : index < tableau.basis.length := by
    have : tableau.numConstraints = tableau.basis.length := rfl
    omega
  cases i with
  | zero => simp [basicColumn, basicColumn?]
  | succ i =>
    by_cases same : i = index
    · subst i
      simp [basicColumn, basicColumn?, pivoted, inside]
    · simp [basicColumn, basicColumn?, pivoted, same, Ne.symm same]

end Pivoted

end Pivots

/-! ## Linear forms -/

/-- A row of a tableau as a linear form in its columns and its right-hand side. -/
def dot (tableau : Tableau Rat) (row : Nat) (v : Nat → Rat) : Rat :=
  ∑ col ∈ Finset.range (tableau.numColumns + 1), tableau.cell row col * v col

theorem dot_neg (tableau : Tableau Rat) (row : Nat) (v : Nat → Rat) :
    tableau.dot row (fun j => -v j) = -tableau.dot row v := by
  simp [dot]

theorem dot_sub (tableau : Tableau Rat) (row : Nat) (v w : Nat → Rat) :
    tableau.dot row (fun j => v j - w j) = tableau.dot row v - tableau.dot row w := by
  simp [dot, mul_sub]

theorem dot_mul (tableau : Tableau Rat) (row : Nat) (factor : Rat) (v : Nat → Rat) :
    tableau.dot row (fun j => factor * v j) = factor * tableau.dot row v := by
  simp [dot, Finset.mul_sum, mul_left_comm]

/-- The value of the objective stands in the objective row, in the column of right-hand sides. -/
theorem objectiveValue_eq (tableau : Tableau Rat) :
    tableau.objectiveValue = tableau.cell 0 tableau.rhsIndex := by
  rw [objectiveValue, objectiveRow_eq]
  rfl

theorem dot_eq_row_dot (tableau : Tableau Rat) {row : Nat} (inside : row < tableau.numRows)
    (v : Nat → Rat) : tableau.dot row v = Row.dot (tableau.rows.getD row []) v :=
  (Row.dot_eq_sum (tableau.length_row inside).le v).symm

/-! ## Exchanges -/

theorem isUsablePivot_iff {value tolerance : Rat} :
    isUsablePivot value tolerance = true ↔ tolerance < |value| := by
  simp [isUsablePivot, Scalar.isFinite, isZero]

/-- The tableau `after` is `before` with column `col` made basic in a constraint row. -/
structure Exchange (before : Tableau Rat) (row col : Nat) (after : Tableau Rat) : Prop where
  row_mem : row ∈ before.constraintIndices
  col_lt : col < before.numColumns
  nonzero : before.cell row col ≠ 0
  columns_eq : after.columns = before.columns
  numConstraints_eq : after.numConstraints = before.numConstraints
  basicColumn_eq (i : Nat) : after.basicColumn i = if i = row then col else before.basicColumn i
  cell_eq (i j : Nat) : after.cell i j =
    if i = row then before.cell row j / before.cell row col
    else before.cell i j - before.cell i col * (before.cell row j / before.cell row col)

private theorem cell_pivotedRows {rows : List (Row Rat)} {row col width : Nat}
    (row_lt : row < rows.length) (rectangular : ∀ cells ∈ rows, cells.length = width)
    (col_lt : col < width) (nonzero : (rows.getD row []).cell col ≠ 0) (i j : Nat) :
    ((pivotedRows rows row col).getD i []).cell j =
      if i = row then (rows.getD row []).cell j / (rows.getD row []).cell col
      else (rows.getD i []).cell j -
        (rows.getD i []).cell col * ((rows.getD row []).cell j / (rows.getD row []).cell col) := by
  have length_eq {index : Nat} (inside : index < rows.length) :
      (rows.getD index []).length = width := by
    rw [List.getD_eq_getElem _ _ inside]
    exact rectangular _ (List.getElem_mem inside)
  have inside : col < (rows.getD row []).length := by rwa [length_eq row_lt]
  have normalized := fun j => Row.cell_normalize inside nonzero j
  split
  · subst i
    rw [← normalized, getD_pivotedRows_self row_lt]
  · rename_i other
    -- Rows outside of the list are empty before and after, and the formula holds for them too.
    by_cases present : i < rows.length
    · rw [getD_pivotedRows_of_ne present other, Row.cell_clear, normalized]
      · rw [Row.length_normalize, length_eq row_lt, length_eq present]
      · rwa [length_eq present]
      · rw [normalized, div_self nonzero]
    · have absent : rows.getD i [] = [] := List.getD_eq_default _ _ (not_lt.1 present)
      have missing : (pivotedRows rows row col).getD i [] = [] :=
        List.getD_eq_default _ _ (by simpa using present)
      rw [absent, missing]
      simp [Row.cell]

theorem exchange_pivoted (tableau : Tableau Rat) {row col : Nat}
    (positive : 0 < row) (row_lt : row < tableau.numRows) (col_lt : col < tableau.numColumns)
    (nonzero : tableau.cell row col ≠ 0) :
    tableau.Exchange row col (tableau.pivoted row col row_lt col_lt) where
  row_mem := by
    rw [mem_constraintIndices]
    have := tableau.numRows_eq
    omega
  col_lt := col_lt
  nonzero := nonzero
  columns_eq := rfl
  numConstraints_eq := numConstraints_pivoted row_lt col_lt
  basicColumn_eq := basicColumn_pivoted row_lt col_lt positive
  cell_eq := cell_pivotedRows row_lt tableau.length_of_mem_rows (Nat.lt_succ_of_lt col_lt) nonzero

/-- Exactly the cells of constraint rows and columns that are not zero to tolerance can be
pivoted on. -/
theorem pivot_eq_ok_iff {tableau after : Tableau Rat} {row col : Nat} {tolerance : Rat} :
    tableau.pivot row col tolerance = .ok after ↔
      ∃ (_ : 0 < row) (row_lt : row < tableau.numRows) (col_lt : col < tableau.numColumns),
        tolerance < |tableau.cell row col| ∧ after = tableau.pivoted row col row_lt col_lt := by
  simp only [pivot_eq_ok_iff_isUsablePivot, isUsablePivot_iff]

theorem exchange_of_pivot {tableau after : Tableau Rat} {row col : Nat} {tolerance : Rat}
    (nonnegative : 0 ≤ tolerance) (made : tableau.pivot row col tolerance = .ok after) :
    tableau.Exchange row col after := by
  obtain ⟨positive, row_lt, col_lt, large, rfl⟩ := pivot_eq_ok_iff.1 made
  exact tableau.exchange_pivoted positive row_lt col_lt
    (abs_pos.1 (nonnegative.trans_lt large))

namespace Exchange

variable {before after : Tableau Rat} {row col : Nat}

theorem numColumns_eq (exchange : before.Exchange row col after) :
    after.numColumns = before.numColumns := congrArg List.length exchange.columns_eq

theorem constraintIndices_eq (exchange : before.Exchange row col after) :
    after.constraintIndices = before.constraintIndices := by
  rw [constraintIndices, constraintIndices, exchange.numConstraints_eq]

/-- As linear forms the rows follow the formula of the cells. -/
theorem dot_eq (exchange : before.Exchange row col after) (i : Nat) (v : Nat → Rat) :
    after.dot i v =
      if i = row then before.dot row v / before.cell row col
      else before.dot i v - before.cell i col * (before.dot row v / before.cell row col) := by
  simp only [dot, exchange.numColumns_eq, exchange.cell_eq]
  -- Both cases are sums of what the formula says of each cell.
  split
  · rw [Finset.sum_div]
    exact Finset.sum_congr rfl fun j _ => by ring
  · rw [Finset.sum_div, Finset.mul_sum, ← Finset.sum_sub_distrib]
    exact Finset.sum_congr rfl fun j _ => by ring

end Exchange

end Tableau

end SimplexMethod
