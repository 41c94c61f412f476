import SimplexMethod.Proofs.Run.PhaseOne
import SimplexMethod.Proofs.StandardForm.Extent

/-!
# What the objective row says about feasible points

A feasible point, extended to all columns, is a solution without negative values, and its artificial
columns are zero. The objective row is an equation for it. If no cell of this row that belongs to
another column lies below `-margin`, the objective of the phase is at most the value that the
tableau shows, and the margin once for every unit of the extent of the point.

## Main results

* `Run.IsSound.dot_phaseCosts_le`: this bound in either phase
* `Run.IsSound.objectiveValue_add_nonneg`: in the first phase it bounds the artificial variables
* `Run.IsSound.dot_costs_le`: in the second phase it bounds the objective of the problem
-/

namespace SimplexMethod

namespace Run.IsSound

variable {problem : LinearProgram Rat} {run : Run Rat} {phase : Phase} {x : Nat → Rat}

theorem dot_phaseCosts_le (sound : run.IsSound problem) (state : run.state = .iterating phase)
    (margin : Rat) (priced : ∀ col < run.form.firstArtificial, -margin ≤ run.tableau.cell 0 col)
    (feasible : problem.Feasible x) :
    Row.dot (run.form.phaseCosts phase) (problem.extend x) ≤
      run.tableau.objectiveValue + margin * problem.extent x := by
  have width : run.tableau.numColumns = problem.standardColumns.length := sound.numColumns_eq
  have solves : run.tableau.Solves (problem.extend x) :=
    (sound.sameSystem.solves_iff _).2 (LinearProgram.solves_extend sound.arity feasible.satisfied)
  have balance := sound.prices phase state _ solves
  have last : problem.extend x run.tableau.numColumns = -1 :=
    width ▸ LinearProgram.extend_rhsIndex x
  -- The cells of artificial columns do not count, because these columns are zero.
  have artificials : ∑ col ∈ Finset.range run.form.firstArtificial,
      run.tableau.cell 0 col * problem.extend x col =
        ∑ col ∈ Finset.range run.tableau.numColumns,
          run.tableau.cell 0 col * problem.extend x col := by
    apply Finset.sum_subset (Finset.range_subset_range.2 sound.firstArtificial_le)
    intro col member late
    rw [Finset.mem_range, not_lt, sound.form_eq] at late
    rw [LinearProgram.extend_artificial x (width ▸ Finset.mem_range.1 member) late, mul_zero]
  have terms : -margin * problem.extent x ≤ ∑ col ∈ Finset.range run.form.firstArtificial,
      run.tableau.cell 0 col * problem.extend x col := by
    rw [← LinearProgram.sum_extend, ← sound.form_eq, Finset.mul_sum]
    apply Finset.sum_le_sum
    intro col member
    have early := Finset.mem_range.1 member
    have inside := early.trans_le (sound.firstArtificial_le.trans width.le)
    exact mul_le_mul_of_nonneg_right (priced col early)
      (LinearProgram.extend_nonneg feasible inside)
  rw [Tableau.dot, Finset.sum_range_succ, last, ← artificials] at balance
  rw [Tableau.objectiveValue_eq, Tableau.rhsIndex]
  linarith

/-- The artificial variables of a feasible point are zero, so the value of the objective of the
first phase falls below zero by no more than the margin allows. -/
theorem objectiveValue_add_nonneg (sound : run.IsSound problem)
    (state : run.state = .iterating .one) (margin : Rat)
    (priced : ∀ col < run.form.firstArtificial, -margin ≤ run.tableau.cell 0 col)
    (feasible : problem.Feasible x) :
    0 ≤ run.tableau.objectiveValue + margin * problem.extent x := by
  have free : Row.dot (run.form.phaseCosts .one) (problem.extend x) = 0 := by
    apply Finset.sum_eq_zero
    intro col member
    have inside : col < run.tableau.numColumns :=
      (Finset.mem_range.1 member).trans_le (sound.length_phaseCosts_le .one)
    rw [sound.cell_phaseOneCosts inside]
    split
    · rename_i late
      rw [sound.form_eq] at late
      rw [LinearProgram.extend_artificial x (sound.numColumns_eq ▸ inside) late, mul_zero]
    · exact zero_mul _
  rw [← free]
  exact sound.dot_phaseCosts_le state margin priced feasible

/-- The objective of the problem at a feasible point exceeds the value that the tableau shows by no
more than the margin allows. -/
theorem dot_costs_le (sound : run.IsSound problem) (state : run.state = .iterating .two)
    (margin : Rat) (priced : ∀ col < run.form.firstArtificial, -margin ≤ run.tableau.cell 0 col)
    (feasible : problem.Feasible x) :
    Row.dot run.form.costs x ≤ run.tableau.objectiveValue + margin * problem.extent x := by
  have same : Row.dot (run.form.phaseCosts .two) (problem.extend x) =
      Row.dot run.form.costs x := by
    rw [sound.form_eq]
    exact LinearProgram.dot_extend problem.length_costs.le x
  rw [← same]
  exact sound.dot_phaseCosts_le state margin priced feasible

end Run.IsSound

end SimplexMethod
