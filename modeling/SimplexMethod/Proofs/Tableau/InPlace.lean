import SimplexMethod.Proofs.Tableau.Paths

/-!
# Pivots in place

The rows of a tableau can also be changed where they are: first the pivot row is divided, then the
rows above it and the rows below it are cleared, each with the pivot row as it is by then, and at
last the basis is written. A failure would leave the changes behind that were made before it. All
tests come before the first change, so a refused pivot changes nothing, and a pivot that is made
ends with the rows and the basis of the new tableau.

## Main definitions

* `Workspace`: rows and basis while they are changed
* `Workspace.exchange`, `Workspace.pivot`: a pivot as a sequence of changes

## Main results

* `Tableau.pivot_inPlace`: the changes of a pivot amount to the pivot of the tableau
* `Tableau.pivot_all_or_nothing`: when a pivot is refused, and all cells of a pivot that is made
-/

namespace SimplexMethod

/-- The rows and the basis of a tableau while they are changed. -/
structure Workspace (α : Type) where
  rows : List (Row α)
  basis : List Nat

namespace Workspace

/-- The indices of all rows but one, those above it first. -/
def otherRows (numRows row : Nat) : List Nat :=
  List.range row ++ List.range' (row + 1) (numRows - (row + 1))

theorem mem_otherRows_iff {numRows row i : Nat} (row_lt : row < numRows) :
    i ∈ otherRows numRows row ↔ i < numRows ∧ i ≠ row := by
  simp only [otherRows, List.mem_append, List.mem_range, List.mem_range'_1]
  omega

theorem nodup_otherRows (numRows row : Nat) : (otherRows numRows row).Nodup := by
  refine List.nodup_append.2 ⟨List.nodup_range, List.nodup_range' .., fun above above_mem below
    below_mem same => ?_⟩
  rw [List.mem_range] at above_mem
  rw [List.mem_range'_1] at below_mem
  omega

variable {α : Type} [Scalar α]

/-- Changes that are made one after the other. A failure keeps those made before it. -/
abbrev Changing (α β : Type) := EStateM (PivotError α) (Workspace α) β

/-- Change one row. -/
def changeRow (row : Nat) (change : Row α → Row α) : Changing α Unit :=
  modify fun work => { work with rows := work.rows.modify row change }

/-- Clear the column `col` in the given rows, one after the other, with the row `row` as it is when
its turn comes. -/
def clearRows (row col : Nat) : List Nat → Changing α Unit
  | [] => pure ()
  | other :: others => do
    let pivotRow := (← get).rows.getD row []
    changeRow other (Row.clear pivotRow col)
    clearRows row col others

/-- All changes that make column `col` basic in `row`. -/
def exchange (row col : Nat) : Changing α Unit := do
  changeRow row (Row.normalize · col)
  clearRows row col (otherRows (← get).rows.length row)
  modify fun work => { work with basis := work.basis.set (row - 1) col }

/-- Make column `col` basic in `row`, in a tableau with `numColumns` columns, if the place and its
value allow it. -/
def pivot (numColumns row col : Nat) (tolerance : α) : Changing α Unit := do
  let start ← get
  let numRows := start.rows.length
  if row = 0 ∨ numRows ≤ row ∨ numColumns ≤ col then
    throw (.outOfBounds row col numRows (numColumns + 1))
  else
    let value := (start.rows.getD row []).cell col
    if isUsablePivot value tolerance then exchange row col
    else throw (.degenerate ⟨row, col, value⟩)

/-- Clearing rows one after the other clears each of them, since the row that it is done with is not
among them. -/
theorem clearRows_eq {row col : Nat} {others : List Nat} (distinct : others.Nodup)
    (apart : row ∉ others) (work : Workspace α) :
    clearRows row col others work = .ok () { work with
      rows := work.rows.mapIdx fun i cells =>
        if i ∈ others then Row.clear (work.rows.getD row []) col cells else cells } := by
  induction others generalizing work with
  | nil =>
    have rows : work.rows.mapIdx (fun _ cells => cells) = work.rows :=
      List.ext_getElem? fun i => by simp
    simp [clearRows, pure, EStateM.pure, rows]
  | cons other others ih =>
    obtain ⟨fresh, distinct⟩ := List.nodup_cons.1 distinct
    obtain ⟨different, apart⟩ := not_or.1 (mt List.mem_cons.2 apart)
    let pivotRow := work.rows.getD row []
    let cleared := work.rows.modify other (Row.clear pivotRow col)
    have kept : cleared.getD row [] = pivotRow := by
      simp [cleared, pivotRow, List.getD_eq_getElem?_getD, Ne.symm different]
    have rows : (cleared.mapIdx fun i cells =>
          if i ∈ others then Row.clear pivotRow col cells else cells) =
        work.rows.mapIdx fun i cells =>
          if i ∈ other :: others then Row.clear pivotRow col cells else cells := by
      refine List.ext_getElem? fun i => ?_
      simp only [cleared, List.getElem?_mapIdx, List.getElem?_modify]
      by_cases own : other = i
      · subst i
        simp [fresh, Function.comp_def]
      · simp [own, Ne.symm own]
    calc clearRows row col (other :: others) work
        = clearRows row col others { work with rows := cleared } := rfl
      _ = _ := by rw [ih distinct apart, kept, rows]

end Workspace

namespace Tableau

section Scalar

variable {α : Type} [Scalar α] {tableau : Tableau α} {row col : Nat} {tolerance : α}

/-- The rows and the basis of a tableau, to be changed. -/
def workspace (tableau : Tableau α) : Workspace α := ⟨tableau.rows, tableau.basis⟩

/-- When the pivot row has been divided and all others have been cleared, the rows are those of the
new tableau. -/
private theorem mapIdx_modify_eq_pivotedRows {rows : List (Row α)} (row_lt : row < rows.length) :
    let divided := rows.modify row (Row.normalize · col)
    (divided.mapIdx fun i cells =>
      if i ∈ Workspace.otherRows divided.length row then Row.clear (divided.getD row []) col cells
      else cells) = pivotedRows rows row col := by
  intro divided
  have pivotRow : divided.getD row [] = (rows.getD row []).normalize col := by
    simp [divided, row_lt]
  have length : divided.length = rows.length := List.length_modify ..
  refine List.ext_getElem (by simp [length]) fun i i_lt _ => ?_
  rw [List.length_mapIdx, length] at i_lt
  simp only [List.getElem_mapIdx, length, Workspace.mem_otherRows_iff row_lt, pivotRow, pivotedRows,
    List.getElem_set, divided, List.getElem_modify]
  by_cases own : row = i
  · subst i
    simp [row_lt]
  · simp [own, Ne.symm own, i_lt]

/-- The changes of a pivot end with the rows and the basis of the new tableau. -/
theorem exchange_inPlace (row_lt : row < tableau.numRows) (col_lt : col < tableau.numColumns) :
    Workspace.exchange row col tableau.workspace =
      .ok () (tableau.pivoted row col row_lt col_lt).workspace := by
  let divided := tableau.rows.modify row (Row.normalize · col)
  have inside : row < divided.length := by
    rwa [List.length_modify]
  have apart : row ∉ Workspace.otherRows divided.length row :=
    fun member => ((Workspace.mem_otherRows_iff inside).1 member).2 rfl
  have cleared : Workspace.clearRows row col (Workspace.otherRows divided.length row)
      ⟨divided, tableau.basis⟩ = .ok () ⟨pivotedRows tableau.rows row col, tableau.basis⟩ := by
    rw [Workspace.clearRows_eq (Workspace.nodup_otherRows _ _) apart]
    exact congrArg (fun rows => EStateM.Result.ok () (Workspace.mk rows tableau.basis))
      (mapIdx_modify_eq_pivotedRows row_lt)
  -- The basis is written when all rows are as they should be.
  let write : Workspace.Changing α Unit :=
    modify fun work => { work with basis := work.basis.set (row - 1) col }
  calc Workspace.exchange row col tableau.workspace
      = EStateM.bind (Workspace.clearRows row col (Workspace.otherRows divided.length row))
          (fun _ => write) ⟨divided, tableau.basis⟩ := rfl
    _ = write ⟨pivotedRows tableau.rows row col, tableau.basis⟩ := by rw [EStateM.bind, cleared]
    _ = .ok () (tableau.pivoted row col row_lt col_lt).workspace := rfl

/-- A pivot in place ends with the new rows and the new basis, or with the old ones. -/
theorem pivot_inPlace (tableau : Tableau α) (row col : Nat) (tolerance : α) :
    Workspace.pivot tableau.numColumns row col tolerance tableau.workspace =
      match tableau.pivot row col tolerance with
      | .ok after => .ok () after.workspace
      | .error error => .error error tableau.workspace := by
  -- The tests look at the tableau as it is before the first change.
  have tests : Workspace.pivot tableau.numColumns row col tolerance tableau.workspace =
      (if row = 0 ∨ tableau.numRows ≤ row ∨ tableau.numColumns ≤ col then
        throw (.outOfBounds row col tableau.numRows (tableau.numColumns + 1))
      else if isUsablePivot (tableau.cell row col) tolerance then Workspace.exchange row col
      else throw (.degenerate ⟨row, col, tableau.cell row col⟩) :
        Workspace.Changing α Unit) tableau.workspace := rfl
  by_cases inside : 0 < row ∧ row < tableau.numRows ∧ col < tableau.numColumns
  · have bounded : ¬(row = 0 ∨ tableau.numRows ≤ row ∨ tableau.numColumns ≤ col) := by omega
    rw [tests, if_neg bounded, pivot, dif_pos inside]
    by_cases usable : isUsablePivot (tableau.cell row col) tolerance = true
    · rw [if_pos usable, if_pos usable]
      exact exchange_inPlace inside.2.1 inside.2.2
    · rw [if_neg usable, if_neg usable]
      rfl
  · have outside : row = 0 ∨ tableau.numRows ≤ row ∨ tableau.numColumns ≤ col := by omega
    rw [tests, if_pos outside, pivot, dif_neg inside]
    rfl

/-- A pivot is out of bounds exactly outside of the constraint rows and the columns. -/
theorem pivot_eq_outOfBounds_iff : tableau.pivot row col tolerance =
    .error (.outOfBounds row col tableau.numRows (tableau.numColumns + 1)) ↔
      row = 0 ∨ tableau.numConstraints < row ∨ tableau.numColumns ≤ col := by
  have count := tableau.numRows_eq
  rw [pivot]
  split
  · split <;> simp <;> omega
  · simp
    omega

/-- A pivot is degenerate exactly at a cell of a constraint row and a column that cannot be divided
by. -/
theorem pivot_eq_degenerate_iff : tableau.pivot row col tolerance =
    .error (.degenerate ⟨row, col, tableau.cell row col⟩) ↔
      (0 < row ∧ row ≤ tableau.numConstraints ∧ col < tableau.numColumns) ∧
        (isZero (tableau.cell row col) tolerance = true ∨
          Scalar.isFinite (tableau.cell row col) = false) := by
  have count := tableau.numRows_eq
  have unusable : isUsablePivot (tableau.cell row col) tolerance = false ↔
      isZero (tableau.cell row col) tolerance = true ∨
        Scalar.isFinite (tableau.cell row col) = false := by
    rw [isUsablePivot, Bool.and_eq_false_iff, Bool.not_eq_false']
  rw [← unusable, pivot, Nat.le_iff_lt_add_one, ← count]
  split
  · rename_i inside
    split <;> simp_all
  · rename_i outside
    simp [outside]

/-- A pivot is made exactly at the cells of constraint rows and columns that can be divided by. -/
theorem exists_pivot_eq_ok_iff : (∃ after, tableau.pivot row col tolerance = .ok after) ↔
    (0 < row ∧ row ≤ tableau.numConstraints ∧ col < tableau.numColumns) ∧
      isZero (tableau.cell row col) tolerance = false ∧
        Scalar.isFinite (tableau.cell row col) = true := by
  have count := tableau.numRows_eq
  simp only [pivot_eq_ok_iff_isUsablePivot, isUsablePivot, Bool.and_eq_true, Bool.not_eq_true',
    Nat.le_iff_lt_add_one, ← count]
  constructor
  · rintro ⟨after, positive, row_lt, col_lt, usable, -⟩
    exact ⟨⟨positive, row_lt, col_lt⟩, usable⟩
  · rintro ⟨⟨positive, row_lt, col_lt⟩, usable⟩
    exact ⟨_, positive, row_lt, col_lt, usable, rfl⟩

end Scalar

/-- A pivot does everything or nothing. It is refused outside of the constraint rows and the
columns, and otherwise at a cell that is zero to tolerance or not finite; made in place, it then
leaves the rows and the basis as they were. A pivot that is made changes the basis in its own row
only, and in exact arithmetic all cells, also those of the objective row and the right-hand sides,
follow the formula of the textbook. -/
theorem pivot_all_or_nothing (row col : Nat) :
    (∀ {α : Type} [Scalar α] (tableau : Tableau α) (tolerance : α),
      let pivot := tableau.pivot row col tolerance
      let value := tableau.cell row col
      let inside := 0 < row ∧ row ≤ tableau.numConstraints ∧ col < tableau.numColumns
      let usable := isZero value tolerance = false ∧ Scalar.isFinite value = true
      (Workspace.pivot tableau.numColumns row col tolerance tableau.workspace =
        match pivot with
        | .ok after => .ok () after.workspace
        | .error error => .error error tableau.workspace) ∧
      (pivot = .error (.outOfBounds row col tableau.numRows (tableau.numColumns + 1)) ↔
        row = 0 ∨ tableau.numConstraints < row ∨ tableau.numColumns ≤ col) ∧
      (pivot = .error (.degenerate ⟨row, col, value⟩) ↔
        inside ∧ (isZero value tolerance = true ∨ Scalar.isFinite value = false)) ∧
      ((∃ after, pivot = .ok after) ↔ inside ∧ usable) ∧
      ∀ after, pivot = .ok after → after.columns = tableau.columns ∧
        after.basis = tableau.basis.set (row - 1) col) ∧
    ∀ (tableau after : Tableau Rat) (tolerance : Rat), 0 ≤ tolerance →
      tableau.pivot row col tolerance = .ok after →
        ∀ i ≤ tableau.numConstraints, ∀ j ≤ tableau.numColumns, after.cell i j =
          if i = row then tableau.cell row j / tableau.cell row col
          else tableau.cell i j -
            tableau.cell i col * tableau.cell row j / tableau.cell row col := by
  constructor
  · intro α _ tableau tolerance
    refine ⟨pivot_inPlace tableau row col tolerance, pivot_eq_outOfBounds_iff,
      pivot_eq_degenerate_iff, exists_pivot_eq_ok_iff, fun after made => ?_⟩
    obtain ⟨-, _, _, -, rfl⟩ := pivot_eq_ok_iff_isUsablePivot.1 made
    exact ⟨rfl, rfl⟩
  · intro tableau after tolerance nonnegative made i _ j _
    rw [(exchange_of_pivot nonnegative made).cell_eq, mul_div_assoc]

/-- The cell of the second variable in the second row is divided by, and the objective row and the
right-hand sides follow. -/
theorem pivot_all_or_nothing_crossedProblem :
    let tableau := crossedProblem.standardTableau.withObjective [3, 2]
    ∃ after, (0 : Rat) ≤ 1 / 2 ∧ tableau.pivot 2 1 (1 / 2) = .ok after ∧
      after.basis = [2, 1] ∧ after.cell 0 0 = -7 / 3 ∧ after.objectiveValue = 4 ∧
      after.cell 1 after.rhsIndex = 2 := by
  intro tableau
  let after := tableau.pivoted 2 1 (by decide +kernel) (by decide +kernel)
  have made : tableau.pivot 2 1 (1 / 2) = .ok after :=
    pivot_eq_ok_iff.2 ⟨by decide, by decide +kernel, by decide +kernel, by decide +kernel, rfl⟩
  have nonnegative : (0 : Rat) ≤ 1 / 2 := by decide +kernel
  obtain ⟨all, cells⟩ := pivot_all_or_nothing 2 1
  obtain ⟨-, -, -, -, changed⟩ := all tableau (1 / 2)
  have formula := cells tableau after (1 / 2) nonnegative made
  refine ⟨after, nonnegative, made, ?_, ?_, ?_, ?_⟩
  · rw [(changed after made).2]
    decide +kernel
  · rw [formula 0 (by decide) 0 (by decide +kernel)]
    decide +kernel
  · rw [objectiveValue_eq, formula 0 (by decide) _ (by decide +kernel)]
    decide +kernel
  · rw [formula 1 (by decide +kernel) _ (by decide +kernel)]
    decide +kernel

end Tableau

end SimplexMethod
