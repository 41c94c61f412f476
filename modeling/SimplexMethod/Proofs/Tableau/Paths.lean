import SimplexMethod.Proofs.StandardForm.Layout
import SimplexMethod.Proofs.Tableau.Identity
import SimplexMethod.Proofs.Tableau.Reach
import SimplexMethod.Proofs.Tableau.SameBasis

/-!
# Paths of pivots

In exact arithmetic it does not matter on which path of pivots a basis is reached: the tableau is
determined by its basis, except for the order of the constraint rows. In particular a pivot is
undone by the pivot that brings the old basic column back.

## Main definitions

* `Tableau.PivotPath`: pivots lead from one tableau to another

## Main results

* `Tableau.rows_eq_of_basis_eq`: two paths from one tableau to the same basis lead to the same rows
-/

namespace SimplexMethod

namespace Tableau

/-- Pivots on any cells, with any tolerances that are not negative, lead from `first` to a
tableau. -/
inductive PivotPath {α : Type} [Scalar α] (first : Tableau α) : Tableau α → Prop
  | refl : first.PivotPath first
  | pivot {tableau next : Tableau α} (row col : Nat) (tolerance : α)
      (path : first.PivotPath tableau) (nonnegative : 0 ≤ tolerance)
      (made : tableau.pivot row col tolerance = .ok next) : first.PivotPath next

theorem Reaches.path {α : Type} [Scalar α] {start tableau next : Tableau α} {costs : List α}
    (reached : start.Reaches tableau costs) (path : tableau.PivotPath next) :
    start.Reaches next costs := by
  induction path with
  | refl => exact reached
  | pivot row col tolerance _ nonnegative made ih =>
    exact .pivot row col tolerance ih nonnegative made

/-! ## Rows and their cells -/

section Rows

variable {first second : Tableau Rat}

/-- Rows with the same cells are the same. -/
theorem row_eq_of_cell_eq (width : first.numColumns = second.numColumns) {row other : Nat}
    (row_lt : row < first.numRows) (other_lt : other < second.numRows)
    (cells : ∀ col ≤ first.numColumns, first.cell row col = second.cell other col) :
    first.rows.getD row [] = second.rows.getD other [] := by
  refine List.ext_getElem ?_ fun col inside inside' => ?_
  · rw [first.length_row row_lt, second.length_row other_lt, width]
  · have bounded : col ≤ first.numColumns := by
      rw [first.length_row row_lt] at inside
      exact Nat.lt_succ_iff.1 inside
    have same := cells col bounded
    rwa [cell, cell, Row.cell, Row.cell, List.getD_eq_getElem _ _ inside,
      List.getD_eq_getElem _ _ inside'] at same

/-- Tableaux with the same columns, rows and basis are the same. -/
theorem eq_of_row_eq (columns : first.columns = second.columns)
    (basis : first.basis = second.basis)
    (rows : ∀ row < first.numRows, first.rows.getD row [] = second.rows.getD row []) :
    first = second := by
  have length : first.rows.length = second.rows.length := by
    rw [first.length_rows, second.length_rows, basis]
  refine Tableau.ext columns (List.ext_getElem length fun row inside inside' => ?_) basis
  rw [← List.getD_eq_getElem _ [] inside, ← List.getD_eq_getElem _ [] inside']
  exact rows row inside

theorem getElem?_rows {row : Nat} (inside : row < first.numRows) :
    first.rows[row]? = some (first.rows.getD row []) := by
  rw [List.getElem?_eq_getElem inside, List.getD_eq_getElem _ _ inside]

end Rows

/-! ## Tableaux that are reached from one standard form -/

section Reached

variable {start first second : Tableau Rat} {costs : List Rat}

/-- Two tableaux that are reached with the same objective and have the same basis agree in the
objective row and in the row of each basic column. -/
private theorem Reaches.row_eq (reached : start.Reaches first costs)
    (reached' : start.Reaches second costs) (canonical : start.IsCanonical)
    (empty : ∀ col, start.cell 0 col = 0) (basis : ∀ col, col ∈ first.basis ↔ col ∈ second.basis) :
    first.rows.getD 0 [] = second.rows.getD 0 [] ∧
      ∀ row ∈ first.constraintIndices, ∀ other ∈ second.constraintIndices,
        second.basicColumn other = first.basicColumn row →
          first.rows.getD row [] = second.rows.getD other [] := by
  obtain ⟨system, first_canonical, prices, fits⟩ := reached.invariant canonical empty
  obtain ⟨system', second_canonical, prices', -⟩ := reached'.invariant canonical empty
  have same := system.trans system'.symm
  constructor
  · refine row_eq_of_cell_eq same.numColumns_eq (by rw [numRows_eq]; omega)
      (by rw [numRows_eq]; omega) fun col inside => ?_
    exact cell_zero_eq_of_basis_eq same first_canonical second_canonical prices prices' fits basis
      inside
  · intro row row_mem other other_mem column
    refine row_eq_of_cell_eq same.numColumns_eq (lt_numRows_of_mem row_mem)
      (lt_numRows_of_mem other_mem) fun col inside => ?_
    exact cell_eq_of_basis_eq same first_canonical second_canonical basis row_mem other_mem column
      inside

/-- Two tableaux that are reached with the same objective are the same if their bases are the same
row by row. -/
private theorem Reaches.eq_of_basis_eq (reached : start.Reaches first costs)
    (reached' : start.Reaches second costs) (canonical : start.IsCanonical)
    (empty : ∀ col, start.cell 0 col = 0) (basis : first.basis = second.basis) :
    first = second := by
  obtain ⟨top, rows⟩ := reached.row_eq reached' canonical empty fun col => by rw [basis]
  have columns : first.columns = second.columns := reached.columns_eq.trans reached'.columns_eq.symm
  refine eq_of_row_eq columns basis fun row row_lt => ?_
  rcases Nat.eq_zero_or_pos row with rfl | positive
  · exact top
  · have count : first.constraintIndices = second.constraintIndices := by
      rw [constraintIndices, constraintIndices, numConstraints, numConstraints, basis]
    have row_mem := mem_constraintIndices_iff_lt_numRows.2 ⟨positive, row_lt⟩
    refine rows row row_mem row (count ▸ row_mem) ?_
    rw [basicColumn, basicColumn, basicColumn?.eq_def, basicColumn?.eq_def, basis]

end Reached

/-- The pivot that brings a basic column back can always be made. -/
private theorem exists_back {before next : Tableau Rat} (canonical : before.IsCanonical)
    {row col : Nat} {tolerance : Rat} (nonnegative : 0 ≤ tolerance)
    (made : before.pivot row col tolerance = .ok next) :
    ∃ back, next.pivot row (before.basicColumn row) 0 = .ok back := by
  have exchange := exchange_of_pivot nonnegative made
  have row_mem := exchange.row_mem
  have reciprocal : next.cell row (before.basicColumn row) = 1 / before.cell row col := by
    rw [exchange.cell_eq, if_pos rfl, canonical row row_mem, if_pos rfl]
  obtain ⟨positive, row_lt⟩ := mem_constraintIndices_iff_lt_numRows.1
    (exchange.constraintIndices_eq ▸ row_mem)
  refine ⟨_, pivot_eq_ok_iff.2 ⟨positive, row_lt,
    (basicColumn_lt row_mem).trans_eq exchange.numColumns_eq.symm, ?_, rfl⟩⟩
  rw [reciprocal]
  exact abs_pos.2 (one_div_ne_zero exchange.nonzero)

/-- It makes the basis what it was. -/
private theorem basis_back {before next back : Tableau Rat} {row col : Nat}
    {tolerance tolerance' : Rat} (made : before.pivot row col tolerance = .ok next)
    (returned : next.pivot row (before.basicColumn row) tolerance' = .ok back) :
    back.basis = before.basis := by
  obtain ⟨positive, row_lt, _, -, rfl⟩ := pivot_eq_ok_iff.1 made
  obtain ⟨_, _, _, -, rfl⟩ := pivot_eq_ok_iff.1 returned
  obtain ⟨index, rfl⟩ := Nat.exists_eq_add_of_le' positive
  have inside : index < before.basis.length := by
    have := before.length_rows
    have : before.numRows = before.rows.length := rfl
    omega
  simp [pivoted, basicColumn, basicColumn?, inside]

/-- In exact arithmetic a tableau is determined by its basis. On whatever paths of pivots two
tableaux with the same basic columns are reached, they have the same objective row, and each basic
column the same row, though not always in the same place. So a pivot is undone by the pivot that
brings the old basic column back. -/
theorem rows_eq_of_basis_eq {problem : LinearProgram Rat} {form : StandardForm Rat}
    (built : StandardForm.build problem = .ok form) {tableau : Tableau Rat} {costs : List Rat}
    (reached : form.tableau.Reaches tableau costs) :
    (∀ first second, tableau.PivotPath first → tableau.PivotPath second →
      (∀ col, col ∈ first.basis ↔ col ∈ second.basis) →
        first.objectiveRow = second.objectiveRow ∧
        first.objectiveValue = second.objectiveValue ∧
        ∀ col ∈ first.basis, ∃ row other cells,
          first.basicRow? col = some row ∧ second.basicRow? col = some other ∧
            first.rows[row]? = some cells ∧ second.rows[other]? = some cells) ∧
    ∀ row col old tolerance next, 0 ≤ tolerance → tableau.basicColumn? row = some old →
      tableau.pivot row col tolerance = .ok next →
        next.pivot row old 0 = .ok tableau ∧
        ∀ tolerance' back, 0 ≤ tolerance' → next.pivot row old tolerance' = .ok back →
          back = tableau := by
  obtain ⟨-, rfl⟩ := StandardForm.build_eq_ok_iff.1 built
  have canonical : problem.standardTableau.IsCanonical := problem.isCanonical_standardTableau
  have empty : ∀ col, problem.standardTableau.cell 0 col = 0 :=
    LinearProgram.cell_zero_standardTableau
  constructor
  · intro first second path path' basis
    have reached_first := reached.path path
    have reached_second := reached.path path'
    obtain ⟨top, rows⟩ := reached_first.row_eq reached_second canonical empty basis
    obtain ⟨same, first_canonical, -⟩ := reached_first.invariant canonical empty
    obtain ⟨same', second_canonical, -⟩ := reached_second.invariant canonical empty
    have objective : first.objectiveRow = second.objectiveRow := by
      rwa [objectiveRow_eq, objectiveRow_eq]
    have width : first.rhsIndex = second.rhsIndex := (same.trans same'.symm).numColumns_eq
    refine ⟨objective, ?_, fun col member => ?_⟩
    · rw [objectiveValue, objectiveValue, rhsOf, rhsOf, objective, width]
    · obtain ⟨row, row_mem, column⟩ := mem_basis_iff.1 member
      obtain ⟨other, other_mem, column'⟩ := mem_basis_iff.1 ((basis col).1 member)
      have found := (basicColumn?_eq_some_iff_basicRow? first_canonical.nodup_basis).1
        (basicColumn?_eq_some_iff.2 ⟨row_mem, column⟩)
      have found' := (basicColumn?_eq_some_iff_basicRow? second_canonical.nodup_basis).1
        (basicColumn?_eq_some_iff.2 ⟨other_mem, column'⟩)
      refine ⟨row, other, first.rows.getD row [], found, found',
        getElem?_rows (lt_numRows_of_mem row_mem), ?_⟩
      rw [getElem?_rows (lt_numRows_of_mem other_mem),
        rows row row_mem other other_mem (column'.trans column.symm)]
  · intro row col old tolerance next nonnegative basic made
    obtain ⟨-, rfl⟩ := basicColumn?_eq_some_iff.1 basic
    have restores : ∀ tolerance' back, 0 ≤ tolerance' →
        next.pivot row (tableau.basicColumn row) tolerance' = .ok back → back = tableau := by
      intro tolerance' back nonnegative' returned
      have reached_back : problem.standardTableau.Reaches back costs :=
        .pivot _ _ _ (.pivot _ _ _ reached nonnegative made) nonnegative' returned
      exact reached_back.eq_of_basis_eq reached canonical empty (basis_back made returned)
    obtain ⟨back, returned⟩ := exists_back (reached.invariant canonical empty).2.1 nonnegative made
    exact ⟨returned.trans (congrArg _ (restores 0 back le_rfl returned)), restores⟩

/-- A problem in which each variable can become basic in either row. -/
def crossedProblem : LinearProgram Rat where
  sense := .maximize
  objective := [3, 2]
  constraints := [⟨[1, 1], .atMost, 4⟩, ⟨[1, 3], .atMost, 6⟩]

/-- Two paths that give the variables to different rows, and a pivot that is undone. -/
theorem rows_eq_of_basis_eq_crossedProblem :
    StandardForm.build crossedProblem = .ok (.ofProblem crossedProblem) ∧
      ∃ tableau first second next,
        crossedProblem.standardTableau.Reaches tableau [3, 2] ∧
        tableau.PivotPath first ∧ first.basis = [0, 1] ∧
        tableau.PivotPath second ∧ second.basis = [1, 0] ∧
        first.objectiveRow = second.objectiveRow ∧
        tableau.pivot 1 0 0 = .ok next ∧ next.pivot 1 2 0 = .ok tableau := by
  have built : StandardForm.build crossedProblem = .ok (.ofProblem crossedProblem) :=
    StandardForm.build_eq_ok_iff.2 ⟨by decide +kernel, rfl⟩
  have reached : crossedProblem.standardTableau.Reaches
      (crossedProblem.standardTableau.withObjective [3, 2]) [3, 2] :=
    .install [3, 2] .refl (by decide +kernel)
  let tableau := crossedProblem.standardTableau.withObjective [3, 2]
  let upper := tableau.pivoted 1 0 (by decide +kernel) (by decide +kernel)
  let lower := tableau.pivoted 2 0 (by decide +kernel) (by decide +kernel)
  let first := upper.pivoted 2 1 (by decide +kernel) (by decide +kernel)
  let second := lower.pivoted 1 1 (by decide +kernel) (by decide +kernel)
  have made : tableau.pivot 1 0 0 = .ok upper :=
    pivot_eq_ok_iff.2 ⟨by decide, by decide +kernel, by decide +kernel, by decide +kernel, rfl⟩
  have made' : tableau.pivot 2 0 0 = .ok lower :=
    pivot_eq_ok_iff.2 ⟨by decide, by decide +kernel, by decide +kernel, by decide +kernel, rfl⟩
  have path : tableau.PivotPath first := .pivot 2 1 0 (.pivot 1 0 0 .refl le_rfl made) le_rfl
    (pivot_eq_ok_iff.2 ⟨by decide, by decide +kernel, by decide +kernel, by decide +kernel, rfl⟩)
  have path' : tableau.PivotPath second := .pivot 1 1 0 (.pivot 2 0 0 .refl le_rfl made') le_rfl
    (pivot_eq_ok_iff.2 ⟨by decide, by decide +kernel, by decide +kernel, by decide +kernel, rfl⟩)
  have basis : first.basis = [0, 1] := by decide +kernel
  have basis' : second.basis = [1, 0] := by decide +kernel
  obtain ⟨determined, undone⟩ := rows_eq_of_basis_eq built reached
  have rows := determined first second path path' fun col => by simp [basis, basis', or_comm]
  have back := undone 1 0 2 0 upper le_rfl (by decide +kernel) made
  exact ⟨built, tableau, first, second, upper, reached, path, basis, path', basis', rows.1, made,
    back.1⟩

end Tableau

end SimplexMethod
