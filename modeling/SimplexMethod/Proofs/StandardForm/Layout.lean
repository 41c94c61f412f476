import SimplexMethod.Proofs.Feasible
import SimplexMethod.Proofs.Tableau.Canonical
import SimplexMethod.StandardForm

/-!
# The columns of a standard form

No column appears twice, the decision variables come first and the artificial columns last. So each
basic column of the first tableau belongs to its own row alone, and the first tableau is canonical.

## Main results

* `LinearProgram.nodup_standardColumns`: no column appears twice
* `LinearProgram.isArtificial_iff`: the artificial columns are those from the first one on
* `LinearProgram.cell_standardTableau_of_entry`: the cells of a column that belongs to a row
* `LinearProgram.cell_basicColumn_standardTableau`: the basic columns of the first tableau form an
  identity, whatever the numbers are
* `LinearProgram.isCanonical_standardTableau`: the first tableau is canonical
-/

namespace SimplexMethod

/-- Exactly the problems without defects have a standard form. -/
theorem StandardForm.build_eq_ok_iff {α : Type} [Scalar α] {problem : LinearProgram α}
    {form : StandardForm α} :
    build problem = .ok form ↔ problem.defect? = none ∧ form = ofProblem problem := by
  unfold build
  cases problem.defect? <;> simp [eq_comm]

namespace Relation

variable {relation : Relation} {column : Column} {row : Nat}

/-- The column of an inequality is a slack or surplus with the number of its row. -/
theorem eq_of_inequalityColumn? (picked : relation.inequalityColumn? row = some column) :
    column = .slack row ∨ column = .surplus row := by
  cases relation <;> simp_all [inequalityColumn?]

theorem eq_of_artificialColumn? (picked : relation.artificialColumn? row = some column) :
    column = .artificial row := by
  cases relation <;> simp_all [artificialColumn?]

end Relation

namespace Constraint

variable {α : Type} [Scalar α] {constraint : Constraint α} {row number : Nat} {relation : Relation}
  {column : Column}

/-- A row has a zero in the slack or surplus column of any other row. -/
theorem entry_inequalityColumn (different : number ≠ row)
    (picked : column ∈ relation.inequalityColumn? number) : constraint.entry row column = 0 := by
  obtain rfl | rfl := Relation.eq_of_inequalityColumn? picked <;> exact if_neg different

/-- A row has a zero in the artificial column of any other row. -/
theorem entry_artificialColumn (different : number ≠ row)
    (picked : column ∈ relation.artificialColumn? number) : constraint.entry row column = 0 := by
  obtain rfl := Relation.eq_of_artificialColumn? picked
  exact if_neg different

end Constraint

namespace LinearProgram

section Columns

variable {α : Type} [Scalar α] (problem : LinearProgram α)

/-- The rows are numbered from one, and no number appears twice. -/
theorem pairwise_normalizedRows :
    problem.normalizedRows.Pairwise fun first second => first.2 ≠ second.2 := by
  have numbers : (problem.normalizedRows.map Prod.snd).Nodup := by
    rw [normalizedRows, List.zipIdx_map_snd]
    exact List.nodup_range'
  exact List.pairwise_map.1 numbers

/-- Columns picked for the rows are distinct if each tells the number of its row. -/
private theorem nodup_filterMap_normalizedRows
    {pick : Constraint α × Nat → Option Column} (owner : Column → Nat)
    (own : ∀ entry, ∀ column ∈ pick entry, owner column = entry.2) :
    (problem.normalizedRows.filterMap pick).Nodup := by
  refine List.pairwise_filterMap.2 (problem.pairwise_normalizedRows.imp ?_)
  rintro first second different column column_mem other other_mem rfl
  exact different ((own first _ column_mem).symm.trans (own second _ other_mem))

/-- The number of the row that a column belongs to. -/
private def owner : Column → Nat
  | .decision _ => 0
  | .slack row | .surplus row | .artificial row => row

theorem mem_inequalityColumns {column : Column} (member : column ∈ problem.inequalityColumns) :
    ∃ row, column = .slack row ∨ column = .surplus row := by
  obtain ⟨entry, -, picked⟩ := List.mem_filterMap.1 member
  exact ⟨entry.2, Relation.eq_of_inequalityColumn? picked⟩

theorem mem_artificialColumns {column : Column} (member : column ∈ problem.artificialColumns) :
    ∃ row, column = .artificial row := by
  obtain ⟨entry, -, picked⟩ := List.mem_filterMap.1 member
  exact ⟨entry.2, Relation.eq_of_artificialColumn? picked⟩

theorem nodup_standardColumns : problem.standardColumns.Nodup := by
  have decisions : problem.decisionColumns.Nodup :=
    List.nodup_range.map fun _ _ same => Column.decision.inj same
  have inequalities : problem.inequalityColumns.Nodup := by
    apply problem.nodup_filterMap_normalizedRows owner
    intro entry column picked
    obtain rfl | rfl := Relation.eq_of_inequalityColumn? picked <;> rfl
  have artificials : problem.artificialColumns.Nodup := by
    apply problem.nodup_filterMap_normalizedRows owner
    intro entry column picked
    obtain rfl := Relation.eq_of_artificialColumn? picked
    rfl
  -- Columns of different kinds are different.
  refine List.nodup_append.2 ⟨List.nodup_append.2 ⟨decisions, inequalities, ?_⟩, artificials, ?_⟩
  · rintro _ decision _ inequality rfl
    obtain ⟨index, -, rfl⟩ := List.mem_map.1 decision
    obtain ⟨row, same⟩ := problem.mem_inequalityColumns inequality
    simp at same
  · rintro _ early _ artificial rfl
    obtain ⟨row, rfl⟩ := problem.mem_artificialColumns artificial
    rcases List.mem_append.1 early with decision | inequality
    · obtain ⟨index, -, same⟩ := List.mem_map.1 decision
      cases same
    · obtain ⟨other, same⟩ := problem.mem_inequalityColumns inequality
      simp at same

/-- The columns that are not artificial come first. -/
theorem length_early_columns : (problem.decisionColumns ++ problem.inequalityColumns).length =
    (StandardForm.ofProblem problem).firstArtificial := by
  simp [decisionColumns, StandardForm.ofProblem]

theorem numVariables_le_firstArtificial :
    problem.numVariables ≤ (StandardForm.ofProblem problem).firstArtificial :=
  Nat.le_add_right _ _

theorem firstArtificial_le :
    (StandardForm.ofProblem problem).firstArtificial ≤ problem.standardColumns.length := by
  rw [standardColumns, List.length_append, length_early_columns]
  exact Nat.le_add_right _ _

theorem standardColumns_decision {index : Nat} (inside : index < problem.numVariables) :
    problem.standardColumns[index]? = some (.decision index) := by
  simp [standardColumns, decisionColumns, inside, Nat.lt_add_right]

/-- A column is artificial exactly if it stands behind the others. -/
theorem isArtificial_iff {index : Nat} (inside : index < problem.standardColumns.length) :
    problem.standardColumns[index].isArtificial = true ↔
      (StandardForm.ofProblem problem).firstArtificial ≤ index := by
  rw [← length_early_columns]
  -- The list is split where the artificial columns begin.
  by_cases early : index < (problem.decisionColumns ++ problem.inequalityColumns).length
  · have column : problem.standardColumns[index] =
        (problem.decisionColumns ++ problem.inequalityColumns)[index] :=
      List.getElem_append_left early
    have member := List.getElem_mem early
    rw [← column] at member
    refine iff_of_false (fun artificial => ?_) (not_le.2 early)
    rcases List.mem_append.1 member with decision | inequality
    · obtain ⟨_, -, same⟩ := List.mem_map.1 decision
      rw [← same] at artificial
      cases artificial
    · obtain ⟨row, same | same⟩ := problem.mem_inequalityColumns inequality <;>
      · rw [same] at artificial
        cases artificial
  · have late := not_lt.1 early
    have member : problem.standardColumns[index] ∈ problem.artificialColumns := by
      simp only [standardColumns]
      rw [List.getElem_append_right late]
      exact List.getElem_mem _
    refine iff_of_true ?_ late
    obtain ⟨row, same⟩ := problem.mem_artificialColumns member
    rw [same]
    rfl

end Columns

/-- The objective of the standard form has one coefficient per decision variable. -/
theorem length_costs {α : Type} [Scalar α] (problem : LinearProgram α) :
    (StandardForm.ofProblem problem).costs.length = problem.numVariables := by
  cases sense : problem.sense <;> simp [StandardForm.ofProblem, sense, numVariables]

/-- The objective of the standard form is that of the problem, with the opposite sign if it is to be
made small. -/
theorem dot_costs (problem : LinearProgram Rat) (x : Nat → Rat) :
    Row.dot (StandardForm.ofProblem problem).costs x =
      if (StandardForm.ofProblem problem).negated then -problem.value x else problem.value x := by
  cases sense : problem.sense with
  | minimize => simp [StandardForm.ofProblem, sense, Row.dot_neg, value]
  | maximize => simp [StandardForm.ofProblem, sense, value]

/-! ## The first tableau -/

section Tableau

variable {α : Type} [Scalar α] {problem : LinearProgram α}

theorem numConstraints_standardTableau :
    problem.standardTableau.numConstraints = problem.normalizedRows.length := by
  simp [Tableau.numConstraints, standardTableau]

/-- The constraint rows are the normalized constraints in their order. -/
theorem exists_normalizedRow {row : Nat}
    (member : row ∈ problem.standardTableau.constraintIndices) :
    ∃ constraint, (constraint, row) ∈ problem.normalizedRows := by
  obtain ⟨positive, bounded⟩ := (Tableau.mem_constraintIndices _).1 member
  rw [numConstraints_standardTableau] at bounded
  simp only [normalizedRows, List.length_zipIdx] at bounded
  refine ⟨(problem.constraints.map Constraint.normalized)[row - 1], ?_⟩
  rw [normalizedRows, List.mk_mem_zipIdx_iff_le_and_getElem?_sub]
  exact ⟨positive, List.getElem?_eq_getElem (by omega)⟩

section Rows

variable {constraint : Constraint α} {row : Nat}
  (member : (constraint, row) ∈ problem.normalizedRows)
include member

theorem normalizedRow_mem : row ∈ problem.standardTableau.constraintIndices := by
  have bounds := List.mem_zipIdx member
  rw [Tableau.mem_constraintIndices, numConstraints_standardTableau, normalizedRows,
    List.length_zipIdx]
  omega

theorem row_standardTableau : problem.standardTableau.rows.getD row [] =
    constraint.cells row problem.standardColumns := by
  obtain ⟨positive, at_row⟩ := List.mk_mem_zipIdx_iff_le_and_getElem?_sub.1 member
  obtain ⟨index, rfl⟩ := Nat.exists_eq_add_of_le' positive
  rw [Nat.add_sub_cancel] at at_row
  simp [standardTableau, normalizedRows, List.getElem?_zipIdx, at_row, Nat.add_comm 1 index]

theorem basicColumn_standardTableau : problem.standardTableau.basicColumn row =
    problem.standardColumns.idxOf (constraint.relation.basicColumn row) := by
  obtain ⟨positive, at_row⟩ := List.mk_mem_zipIdx_iff_le_and_getElem?_sub.1 member
  obtain ⟨index, rfl⟩ := Nat.exists_eq_add_of_le' positive
  rw [Nat.add_sub_cancel] at at_row
  simp [Tableau.basicColumn, Tableau.basicColumn?, standardTableau, normalizedRows,
    List.getElem?_zipIdx, at_row, Nat.add_comm 1 index]

theorem cell_standardTableau {col : Nat} (inside : col < problem.standardColumns.length) :
    problem.standardTableau.cell row col = constraint.entry row problem.standardColumns[col] := by
  rw [Tableau.cell, row_standardTableau member]
  simp [Constraint.cells, Row.cell, List.getElem?_append_left, inside]

theorem cell_rhsIndex_standardTableau :
    problem.standardTableau.cell row problem.standardTableau.rhsIndex = constraint.rhs := by
  rw [Tableau.cell, row_standardTableau member]
  simp [Constraint.cells, Row.cell, Tableau.rhsIndex, Tableau.numColumns, standardTableau]

end Rows

theorem cell_zero_standardTableau (col : Nat) : problem.standardTableau.cell 0 col = 0 := by
  have empty : problem.standardTableau.rows.getD 0 [] =
      List.replicate (problem.standardColumns.length + 1) 0 := rfl
  rw [Tableau.cell, empty, Row.cell, List.getD_eq_getElem?_getD, List.getElem?_replicate]
  split <;> rfl

/-- A column that is zero in all rows but one has a single cell in the first tableau. -/
theorem cell_standardTableau_of_entry {column : Column} {row col : Nat} {value : α}
    (entry : ∀ (constraint : Constraint α) (i : Nat),
      constraint.entry i column = if row = i then value else 0)
    (row_mem : row ∈ problem.standardTableau.constraintIndices)
    (found : problem.standardColumns[col]? = some column) (i : Nat) :
    problem.standardTableau.cell i col = if i = row then value else 0 := by
  obtain ⟨inside, rfl⟩ := List.getElem?_eq_some_iff.1 found
  have bounds := (Tableau.mem_constraintIndices _).1 row_mem
  -- The objective row is zero, and rows outside of the tableau are zero.
  rcases Nat.eq_zero_or_pos i with rfl | positive
  · rw [cell_zero_standardTableau, if_neg (by omega)]
  · by_cases present : i ∈ problem.standardTableau.constraintIndices
    · obtain ⟨constraint, member⟩ := exists_normalizedRow present
      rw [cell_standardTableau member inside, entry]
      simp only [eq_comm]
    · have outside : problem.standardTableau.numRows ≤ i := by
        rw [Tableau.mem_constraintIndices] at present
        rw [Tableau.numRows_eq]
        omega
      rw [Tableau.cell_of_numRows_le _ outside, if_neg]
      rintro rfl
      exact present row_mem

/-- The first tableau has an identity in its basic columns. -/
theorem cell_basicColumn_standardTableau {row : Nat}
    (row_mem : row ∈ problem.standardTableau.constraintIndices) (i : Nat) :
    problem.standardTableau.cell i (problem.standardTableau.basicColumn row) =
      if i = row then 1 else 0 := by
  obtain ⟨constraint, member⟩ := exists_normalizedRow row_mem
  rw [basicColumn_standardTableau member]
  refine cell_standardTableau_of_entry (fun other i => ?_) row_mem
    (List.getElem?_idxOf (basicColumn_mem_standardColumns member)) i
  -- A basic column is the slack or the artificial column of its row.
  cases constraint.relation <;> rfl

end Tableau

theorem isCanonical_standardTableau (problem : LinearProgram Rat) :
    problem.standardTableau.IsCanonical :=
  fun _ row_mem => cell_basicColumn_standardTableau row_mem

end LinearProgram

end SimplexMethod
