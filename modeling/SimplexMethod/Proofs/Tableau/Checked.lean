import SimplexMethod.Proofs.DriveOut
import SimplexMethod.RatioTest
import SimplexMethod.Tableau.Objective

/-!
# Tableaux whose reads are checked

A tableau reads zero outside of its rows and gives an empty name to a column that it does not have.
Here the same operations ask for every cell, name and basic column that they use, and fail at the
first one that is missing. They never do: inside of the tableau they give what the operations
without checks give.

## Main definitions

* `Missing`: what a tableau was asked for and does not have
* `Tableau.checkedLeavingRow`, `Tableau.checkedPivot`, `Tableau.checkedWithObjective`,
  `Tableau.checkedDriveOut`: the operations of a step with all checks

## Main results

* `Tableau.eliminate_eq`: elimination finds all cells that a pivot needs
* `Tableau.checkedLeavingRow_eq`, `Tableau.checkedPivot_eq`, `Tableau.checkedWithObjective_eq`,
  `Tableau.checkedDriveOut_eq`: no check fails
-/

namespace SimplexMethod

/-- What a tableau was asked for and does not have. -/
inductive Missing where
  | cell (place : MissingCell)
  | column (col : Nat)
  | basicColumn (row : Nat)

/-- What has been found, and otherwise what is missing. -/
def orMissing {β : Type} (missing : Missing) : Option β → Except Missing β
  | some found => .ok found
  | none => .error missing

section Reads

variable {β γ : Type}

@[simp] theorem ok_bind (found : β) (rest : β → Except Missing γ) :
    (Except.ok found >>= rest) = rest found := rfl

@[simp] theorem pure_eq_ok (found : β) : (pure found : Except Missing β) = .ok found := rfl

/-! ## Loops that do not fail -/

variable {list : List β}

theorem mapM_eq_ok {f : β → Except Missing γ} {g : β → γ} (found : ∀ x ∈ list, f x = .ok (g x)) :
    list.mapM f = .ok (list.map g) := by
  induction list with
  | nil => rfl
  | cons x rest ih =>
    obtain ⟨head, tail⟩ := List.forall_mem_cons.1 found
    simp [List.mapM_cons, head, ih tail]

theorem findM?_eq_ok {p : β → Except Missing Bool} {q : β → Bool}
    (found : ∀ x ∈ list, p x = .ok (q x)) : list.findM? p = .ok (list.find? q) := by
  induction list with
  | nil => rfl
  | cons x rest ih =>
    obtain ⟨head, tail⟩ := List.forall_mem_cons.1 found
    rw [List.findM?, head, ok_bind, List.find?_cons]
    cases q x with
    | true => rfl
    | false => exact ih tail

end Reads

namespace Tableau

variable {α : Type} [Scalar α]

/-! ## Reads -/

/-- The cell at a place that the tableau must have. -/
def checkedCell (tableau : Tableau α) (row col : Nat) : Except Missing α :=
  orMissing (.cell ⟨row, col⟩) (tableau.cell? row col)

/-- The name of a column that the tableau must have. -/
def checkedName (tableau : Tableau α) (col : Nat) : Except Missing String :=
  orMissing (.column col) (tableau.columnName? col)

/-- The basic column of a row that must have one. -/
def checkedBasicColumn (tableau : Tableau α) (row : Nat) : Except Missing Nat :=
  orMissing (.basicColumn row) (tableau.basicColumn? row)

/-- The value of the objective, from a cell that the tableau must have. -/
def checkedObjectiveValue (tableau : Tableau α) : Except Missing α :=
  tableau.checkedCell 0 tableau.rhsIndex

/-- The first `count` cells of the objective row, all of which must belong to columns. -/
def checkedObjectiveCells (tableau : Tableau α) (count : Nat) : Except Missing (List α) :=
  if tableau.numColumns < count then .error (.column tableau.numColumns)
  else (List.range count).mapM (tableau.checkedCell 0)

variable {tableau : Tableau α} {row col : Nat} {tolerance : α}

theorem cell?_eq (row_lt : row < tableau.numRows) (inside : col ≤ tableau.numColumns) :
    tableau.cell? row col = some (tableau.cell row col) := by
  have length := tableau.length_row row_lt
  rw [List.getD_eq_getElem _ _ row_lt] at length
  have col_lt : col < tableau.rows[row].length := by omega
  rw [cell?, cell, Row.cell, List.getElem?_eq_getElem row_lt, List.getD_eq_getElem _ _ row_lt,
    List.getD_eq_getElem _ _ col_lt, Option.bind_some, List.getElem?_eq_getElem col_lt]

theorem checkedCell_eq (row_lt : row < tableau.numRows) (inside : col ≤ tableau.numColumns) :
    tableau.checkedCell row col = .ok (tableau.cell row col) := by
  rw [checkedCell, cell?_eq row_lt inside, orMissing]

omit [Scalar α] in
theorem checkedName_eq (inside : col < tableau.numColumns) :
    tableau.checkedName col = .ok (tableau.columnName col) := by
  simp [checkedName, columnName, columnName?, orMissing, List.getElem?_eq_getElem inside]

omit [Scalar α] in
theorem checkedBasicColumn_eq (row_mem : row ∈ tableau.constraintIndices) :
    tableau.checkedBasicColumn row = .ok (tableau.basicColumn row) := by
  rw [checkedBasicColumn, basicColumn?_eq row_mem, orMissing]

omit [Scalar α] in
theorem numRows_pos : 0 < tableau.numRows := by
  rw [numRows_eq]
  omega

theorem checkedObjectiveValue_eq :
    tableau.checkedObjectiveValue = .ok tableau.objectiveValue := by
  have inside : tableau.rhsIndex ≤ tableau.numColumns := le_rfl
  rw [checkedObjectiveValue, checkedCell_eq numRows_pos inside, objectiveValue, objectiveRow_eq]
  rfl

theorem checkedObjectiveCells_eq {count : Nat} (inside : count ≤ tableau.numColumns) :
    tableau.checkedObjectiveCells count = .ok (tableau.objectiveCells.take count) := by
  rw [checkedObjectiveCells, if_neg (not_lt.2 inside), mapM_eq_ok fun col member =>
    checkedCell_eq numRows_pos ((List.mem_range.1 member).le.trans inside)]
  refine congrArg Except.ok (List.ext_getElem? fun col => ?_)
  by_cases less : col < count
  · rw [List.getElem?_take_of_lt less, getElem?_objectiveCells _ (less.trans_le inside)]
    simp [less]
  · simp [less]

/-! ## The ratio test -/

/-- What a row says of the column `col`. The right-hand side is read only if the row limits it. -/
def checkedLimit (tableau : Tableau α) (col : Nat) (tolerance : α) (row : Nat) :
    Except Missing (Option (LimitingRow α)) := do
  let entry ← tableau.checkedCell row col
  if isPositive entry tolerance then
    let rhs ← tableau.checkedCell row tableau.rhsIndex
    let basic ← tableau.checkedBasicColumn row
    return some ⟨row, rhs / entry, basic⟩
  else return none

/-- The leaving row, with a check of every read. -/
def checkedLeavingRow (tableau : Tableau α) (col : Nat) (tolerance : α) :
    Except Missing (Option Nat) := do
  let limits ←
    (List.range' 1 tableau.numConstraints).mapM (tableau.checkedLimit col tolerance)
  return ((limits.filterMap id).foldl (keepTightest tolerance) none).map LimitingRow.row

/-- What a row says of a column that the tableau has. -/
private def limit (tableau : Tableau α) (col : Nat) (tolerance : α) (row : Nat) :
    Option (LimitingRow α) :=
  if isPositive (tableau.cell row col) tolerance then
    some ⟨row, tableau.cell row tableau.rhsIndex / tableau.cell row col, tableau.basicColumn row⟩
  else none

private theorem checkedLimit_eq (row_mem : row ∈ tableau.constraintIndices)
    (inside : col ≤ tableau.numColumns) :
    tableau.checkedLimit col tolerance row = .ok (tableau.limit col tolerance row) := by
  have row_lt := lt_numRows_of_mem row_mem
  have rhs_le : tableau.rhsIndex ≤ tableau.numColumns := le_rfl
  simp only [checkedLimit, limit, checkedCell_eq row_lt inside, checkedCell_eq row_lt rhs_le,
    checkedBasicColumn_eq row_mem, ok_bind, pure_eq_ok]
  split <;> rfl

theorem checkedLeavingRow_eq (inside : col ≤ tableau.numColumns) :
    tableau.checkedLeavingRow col tolerance = .ok (tableau.leavingRow col tolerance) := by
  have limits : tableau.limitingRows col tolerance =
      (List.range' 1 tableau.numConstraints).filterMap (tableau.limit col tolerance) := by
    rw [limitingRows, zipIdx_basicRows, List.filterMap_map]
    rfl
  have visits : (List.range' 1 tableau.numConstraints).mapM (tableau.checkedLimit col tolerance) =
      .ok ((List.range' 1 tableau.numConstraints).map (tableau.limit col tolerance)) :=
    mapM_eq_ok fun row member => checkedLimit_eq (mem_range'_iff.1 member) inside
  rw [leavingRow, limits, checkedLeavingRow, visits, ok_bind, List.filterMap_map]
  rfl

/-! ## Pivots -/

/-- Inside of a tableau elimination finds all the cells that it needs, so only the pivot cell itself
is ever refused. -/
theorem eliminate_eq (positive : 0 < row) (row_lt : row < tableau.numRows)
    (col_lt : col < tableau.numColumns) :
    eliminate tableau.rows tableau.basis row col tolerance =
      if isUsablePivot (tableau.cell row col) tolerance then
        .ok (pivotedRows tableau.rows row col, tableau.basis.set (row - 1) col)
      else .error (.degenerate ⟨row, col, tableau.cell row col⟩) := by
  have found : tableau.rows[row]?.bind (·[col]?) = some (tableau.cell row col) :=
    cell?_eq row_lt col_lt.le
  have wide : tableau.rows.findIdx? (·.length ≤ col) = none := by
    rw [List.findIdx?_eq_none_iff]
    intro cells member
    rw [tableau.length_of_mem_rows cells member, decide_eq_false_iff_not]
    exact not_le.2 (Nat.lt_succ_of_lt col_lt)
  have recorded : row ≤ tableau.basis.length := by
    rw [numRows, tableau.length_rows] at row_lt
    omega
  have inside : 0 < row ∧ row ≤ tableau.basis.length := ⟨positive, recorded⟩
  simp only [eliminate, found, wide, if_pos inside]

/-- A pivot with a check of every read and write of the elimination. -/
def checkedPivot (tableau : Tableau α) (row col : Nat) (tolerance : α) :
    Except Missing (Except (PivotError α) (Tableau α)) :=
  if 0 < row ∧ row < tableau.numRows ∧ col < tableau.numColumns then
    match eliminate tableau.rows tableau.basis row col tolerance with
    | .ok _ => .ok (tableau.pivot row col tolerance)
    | .error (.degenerate pivot) => .ok (.error (.degenerate pivot))
    | .error (.missingCell place) => .error (.cell place)
    | .error (.missingBasicColumn row) => .error (.basicColumn row)
  else .ok (.error (.outOfBounds row col tableau.numRows (tableau.numColumns + 1)))

theorem checkedPivot_eq :
    tableau.checkedPivot row col tolerance = .ok (tableau.pivot row col tolerance) := by
  unfold checkedPivot pivot
  by_cases inside : 0 < row ∧ row < tableau.numRows ∧ col < tableau.numColumns
  · rw [if_pos inside, dif_pos inside, eliminate_eq inside.1 inside.2.1 inside.2.2]
    cases isUsablePivot (tableau.cell row col) tolerance <;> rfl
  · rw [if_neg inside, dif_neg inside]

/-! ## Objectives -/

/-- The cells that clearing the basic column of a row begins with: that of the objective row, and
that of the row itself. -/
def checkedClearing (tableau : Tableau α) (row : Nat) : Except Missing (α × α) := do
  let basic ← tableau.checkedBasicColumn row
  let factor ← tableau.checkedCell 0 basic
  let unit ← tableau.checkedCell row basic
  return (factor, unit)

/-- A new objective, with a check of the rows and of the cells in the basic columns. The new row has
the width of the old one. -/
def checkedWithObjective (tableau : Tableau α) (costs : List α) : Except Missing (Tableau α) := do
  let _ ← (List.range' 1 tableau.numConstraints).mapM tableau.checkedClearing
  return tableau.withObjective costs

theorem checkedWithObjective_eq (costs : List α) :
    tableau.checkedWithObjective costs = .ok (tableau.withObjective costs) := by
  have visit {row : Nat} (row_mem : row ∈ tableau.constraintIndices) : tableau.checkedClearing row =
      .ok (tableau.cell 0 (tableau.basicColumn row),
        tableau.cell row (tableau.basicColumn row)) := by
    have inside := (basicColumn_lt row_mem).le
    simp only [checkedClearing, checkedBasicColumn_eq row_mem, checkedCell_eq numRows_pos inside,
      checkedCell_eq (lt_numRows_of_mem row_mem) inside, ok_bind, pure_eq_ok]
  rw [checkedWithObjective, mapM_eq_ok fun row member => visit (mem_range'_iff.1 member)]
  rfl

/-! ## Driving out -/

/-- The replacement of a basic column, with a check of every read. -/
def checkedReplacement (tableau : Tableau α) (firstArtificial : Nat) (tolerance : α) (row : Nat) :
    Except Missing (Option Nat) :=
  (List.range firstArtificial).findM? fun col => do
    return !isZero (← tableau.checkedCell row col) tolerance

theorem checkedReplacement_eq {firstArtificial : Nat} (row_lt : row < tableau.numRows)
    (bounded : firstArtificial ≤ tableau.numColumns) :
    tableau.checkedReplacement firstArtificial tolerance row =
      .ok (tableau.replacement? firstArtificial tolerance row) := by
  refine findM?_eq_ok fun col member => ?_
  rw [checkedCell_eq row_lt ((List.mem_range.1 member).le.trans bounded), ok_bind, pure_eq_ok]

/-- Visits to the given rows, with a check of every read. -/
def checkedDriveOutRows (firstArtificial : Nat) (tolerance : α) :
    List Nat → Tableau α → Except Missing (DrivenOut α)
  | [], tableau => .ok ⟨tableau, [], none⟩
  | row :: rows, tableau =>
    match tableau.basicArtificial? firstArtificial row with
    | none => checkedDriveOutRows firstArtificial tolerance rows tableau
    | some artificial => do
      match ← tableau.checkedReplacement firstArtificial tolerance row with
      | none =>
        let rest ← checkedDriveOutRows firstArtificial tolerance rows tableau
        return { rest with events := .redundant row :: rest.events }
      | some col =>
        let event :=
          .drivenOut (← tableau.checkedName artificial) row (← tableau.checkedName col)
        match ← tableau.checkedPivot row col tolerance with
        | .error error => return ⟨tableau, [event], some error⟩
        | .ok next =>
          let rest ← checkedDriveOutRows firstArtificial tolerance rows next
          return { rest with events := event :: rest.events }

/-- Visits to all constraint rows. -/
def checkedDriveOut (tableau : Tableau α) (firstArtificial : Nat) (tolerance : α) :
    Except Missing (DrivenOut α) :=
  checkedDriveOutRows firstArtificial tolerance (List.range' 1 tableau.numConstraints) tableau

private theorem checkedDriveOutRows_eq {firstArtificial : Nat} {rows : List Nat}
    (bounded : firstArtificial ≤ tableau.numColumns) :
    checkedDriveOutRows firstArtificial tolerance rows tableau =
      .ok (driveOutRows firstArtificial tolerance rows tableau) := by
  induction rows generalizing tableau with
  | nil => rfl
  | cons row rows ih =>
    cases basic : tableau.basicArtificial? firstArtificial row with
    | none =>
      simp only [checkedDriveOutRows, driveOutRows, basic]
      exact ih bounded
    | some artificial =>
      obtain ⟨row_mem, rfl, -⟩ := basicArtificial?_eq_some_iff.1 basic
      have visited : tableau.checkedReplacement firstArtificial tolerance row =
          .ok (tableau.replacement? firstArtificial tolerance row) :=
        checkedReplacement_eq (lt_numRows_of_mem row_mem) bounded
      simp only [checkedDriveOutRows, driveOutRows, basic, visited, ok_bind]
      cases found : tableau.replacement? firstArtificial tolerance row with
      | none => simp only [ih bounded, ok_bind, pure_eq_ok]
      | some col =>
        have col_lt := (replacement?_eq_some found).1.trans_le bounded
        simp only [checkedName_eq (basicColumn_lt row_mem), checkedName_eq col_lt, checkedPivot_eq,
          ok_bind, pure_eq_ok]
        cases made : tableau.pivot row col tolerance with
        | error error => rfl
        | ok next =>
          have kept : firstArtificial ≤ next.numColumns := by
            obtain ⟨-, _, _, -, rfl⟩ := pivot_eq_ok_iff_isUsablePivot.1 made
            exact bounded
          simp only [ih kept, ok_bind]

theorem checkedDriveOut_eq {firstArtificial : Nat}
    (bounded : firstArtificial ≤ tableau.numColumns) :
    tableau.checkedDriveOut firstArtificial tolerance =
      .ok (tableau.driveOut firstArtificial tolerance) :=
  checkedDriveOutRows_eq bounded

/-! ## Basic solutions -/

/-- The basic column of a row and its right-hand side. -/
def checkedBasicValue (tableau : Tableau α) (row : Nat) : Except Missing (Nat × α) := do
  let basic ← tableau.checkedBasicColumn row
  let rhs ← tableau.checkedCell row tableau.rhsIndex
  return (basic, rhs)

/-- The basic solution, with a check of every read. -/
def checkedBasicSolution (tableau : Tableau α) (count : Nat) (tolerance : α) :
    Except Missing (List α) := do
  let basics ← (List.range' 1 tableau.numConstraints).mapM tableau.checkedBasicValue
  return basics.foldl (fun values basic => values.set basic.1 (clean basic.2 tolerance))
    (List.replicate count 0)

theorem checkedBasicSolution_eq {count : Nat} :
    tableau.checkedBasicSolution count tolerance = .ok (tableau.basicSolution count tolerance) := by
  have visit {row : Nat} (row_mem : row ∈ tableau.constraintIndices) :
      tableau.checkedBasicValue row =
        .ok (tableau.basicColumn row, tableau.cell row tableau.rhsIndex) := by
    have inside : tableau.rhsIndex ≤ tableau.numColumns := le_rfl
    simp only [checkedBasicValue, checkedBasicColumn_eq row_mem,
      checkedCell_eq (lt_numRows_of_mem row_mem) inside, ok_bind, pure_eq_ok]
  rw [checkedBasicSolution, mapM_eq_ok fun row member => visit (mem_range'_iff.1 member), ok_bind,
    basicSolution, basicRows_eq, List.foldl_map, List.foldl_map]
  rfl

end Tableau

end SimplexMethod
