import SimplexMethod.Proofs.StandardForm.Points

/-!
# The extent of a point

When a point is extended to all columns, the slack and surplus columns take the distances between
the two sides of the inequalities, and the artificial columns are zero. So the values of all columns
add up to the extent of the point. If the objective row has a small error in every column, this sum
is what multiplies it.

## Main results

* `LinearProgram.sum_extend`: the values of the columns add up to the extent
-/

namespace SimplexMethod

namespace LinearProgram

variable {problem : LinearProgram Rat}

private theorem sum_columnValue_decisionColumns (x : Nat → Rat) :
    (problem.decisionColumns.map (problem.columnValue x)).sum =
      ∑ index ∈ Finset.range problem.numVariables, x index := by
  rw [decisionColumns, List.map_map, ← List.sum_toFinset _ List.nodup_range, List.toFinset_range]
  rfl

/-- The slack and surplus columns take the distances of the inequalities, in their order. -/
private theorem map_columnValue_inequalityColumns (x : Nat → Rat) :
    problem.inequalityColumns.map (problem.columnValue x) =
      (problem.constraints.filter fun constraint => constraint.relation ≠ .equal).map
        fun constraint => |Row.dot constraint.coefficients x - constraint.rhs| := by
  -- The value depends on the constraint alone, so the numbers of the rows can be forgotten.
  let distance? : Constraint Rat → Option Rat := fun constraint =>
    if constraint.relation = .equal then none
    else some |Row.dot constraint.coefficients x - constraint.rhs|
  have picked : ∀ entry ∈ problem.normalizedRows,
      (entry.1.relation.inequalityColumn? entry.2).map (problem.columnValue x) =
        distance? entry.1 := by
    rintro ⟨constraint, row⟩ member
    obtain ⟨source, -, rfl, listed⟩ := exists_of_mem_normalizedRows member
    have distance : problem.slackness x row =
        |Row.dot source.normalized.coefficients x - source.normalized.rhs| := by
      rw [Constraint.abs_normalized, slackness, listed]
      rfl
    cases relation : source.normalized.relation <;>
      simp [distance?, relation, Relation.inequalityColumn?, columnValue, distance]
  have normalized : distance? ∘ Constraint.normalized = distance? := by
    funext constraint
    simp only [distance?, Function.comp_apply, Constraint.relation_normalized_eq_equal_iff,
      Constraint.abs_normalized]
  calc problem.inequalityColumns.map (problem.columnValue x)
      = problem.normalizedRows.filterMap (distance? ∘ Prod.fst) := by
        rw [inequalityColumns, List.map_filterMap]
        exact List.filterMap_congr picked
    _ = problem.constraints.filterMap distance? := by
        rw [← List.filterMap_map, normalizedRows, List.zipIdx_map_fst, List.filterMap_map,
          normalized]
    _ = _ := by
        rw [← List.filterMap_eq_map, List.filterMap_filter]
        apply List.filterMap_congr
        intro constraint _
        by_cases equation : constraint.relation = .equal <;> simp [distance?, equation]

/-- The values of the columns that are not artificial add up to the extent of the point. -/
theorem sum_extend (x : Nat → Rat) :
    ∑ col ∈ Finset.range (StandardForm.ofProblem problem).firstArtificial, problem.extend x col =
      problem.extent x := by
  have value (col : Fin (problem.decisionColumns ++ problem.inequalityColumns).length) :
      problem.extend x col =
        problem.columnValue x (problem.decisionColumns ++ problem.inequalityColumns)[col] := by
    simp only [extend, standardColumns]
    rw [List.getElem?_append_left col.isLt, List.getElem?_eq_getElem col.isLt]
    rfl
  rw [← problem.length_early_columns, Finset.sum_range]
  calc _ = ((problem.decisionColumns ++ problem.inequalityColumns).map
          (problem.columnValue x)).sum := by
        rw [← Fin.sum_univ_fun_getElem]
        exact Finset.sum_congr rfl fun col _ => value col
    _ = problem.extent x := by
        rw [List.map_append, List.sum_append, sum_columnValue_decisionColumns,
          map_columnValue_inequalityColumns, extent]

end LinearProgram

end SimplexMethod
