import SimplexMethod.Proofs.Reading
import SimplexMethod.Proofs.Run.Margin
import SimplexMethod.Proofs.Run.PhaseTwo

/-!
# Optima

When the second phase ends, the basic solution is a feasible point, because the artificial columns
are zero. No feasible point is better: the objective row is an equation that every feasible point
satisfies, and none of its cells that a feasible point can see is negative.

## Main results

* `Run.IsSound.feasible_basicPoint`: the basic solution is feasible
* `Run.IsSound.objectiveValue_eq_dot`: the value of the objective is that of the basic solution
* `optimal_basicPoint`: no feasible point has a larger value than the last basic solution
* `solve_optimal`: the values and the objective of an optimum are right
-/

namespace SimplexMethod

namespace LinearProgram

variable {problem : LinearProgram Rat}

/-- Only the values of the decision variables count. -/
theorem Feasible.congr {x y : Nat → Rat} (feasible : problem.Feasible x)
    (arity : problem.HasArity) (agree : ∀ index < problem.numVariables, x index = y index) :
    problem.Feasible y := by
  refine ⟨fun index inside => agree index inside ▸ feasible.nonneg index inside,
    fun constraint member => ?_⟩
  have same : Row.dot constraint.coefficients x = Row.dot constraint.coefficients y :=
    Row.dot_congr fun index inside => agree index (arity constraint member ▸ inside)
  rw [Constraint.Satisfied, ← same]
  exact feasible.satisfied constraint member

/-- A point is at least as good as another one if the standard form finds it so. -/
theorem isAsGood_of_dot_costs_le {x y : Nat → Rat}
    (less : Row.dot (StandardForm.ofProblem problem).costs y ≤
      Row.dot (StandardForm.ofProblem problem).costs x) :
    problem.sense.IsAsGood (problem.value x) (problem.value y) := by
  rw [dot_costs, dot_costs] at less
  cases sense : problem.sense with
  | minimize => simpa [StandardForm.ofProblem, sense, Sense.IsAsGood] using less
  | maximize => simpa [StandardForm.ofProblem, sense, Sense.IsAsGood] using less

end LinearProgram

namespace Tableau

theorem basicPoint_nonneg {tableau : Tableau Rat} (feasible : tableau.IsFeasible) (col : Nat) :
    0 ≤ tableau.basicPoint col := by
  apply Finset.sum_nonneg
  intro row row_mem
  split
  · exact feasible row row_mem
  · rfl

theorem ArtificialsAtZero.basicPoint_eq_zero {tableau : Tableau Rat} {firstArtificial col : Nat}
    (zero : tableau.ArtificialsAtZero firstArtificial) (late : firstArtificial ≤ col) :
    tableau.basicPoint col = 0 := by
  apply Finset.sum_eq_zero
  intro row row_mem
  split
  · rename_i own
    exact zero row row_mem (own ▸ late)
  · rfl

end Tableau

namespace Run.IsSound

variable {problem : LinearProgram Rat} {run : Run Rat}

/-- A basic solution without negative values in which the artificial columns are zero is a feasible
point. -/
theorem feasible_basicPoint (sound : run.IsSound problem) (feasible : run.tableau.IsFeasible)
    (zero : run.tableau.ArtificialsAtZero run.form.firstArtificial) :
    problem.Feasible run.tableau.basicPoint := by
  -- The basic solution with `-1` in the place of the right-hand side.
  let v : Nat → Rat := fun j => -run.tableau.ray run.tableau.rhsIndex j
  have value {col : Nat} (inside : col < run.tableau.numColumns) :
      v col = run.tableau.basicPoint col := by
    have different : col ≠ run.tableau.rhsIndex := inside.ne
    simp only [v, Tableau.ray_rhsIndex different, neg_neg]
  have solves : run.tableau.Solves v := fun row row_mem => by
    rw [Tableau.dot_neg, Tableau.solves_ray_rhsIndex sound.canonical row row_mem, neg_zero]
  have point : v run.tableau.rhsIndex = -1 :=
    congrArg (-·) (Tableau.ray_self Tableau.isNonbasic_rhsIndex)
  have feasible_v : problem.Feasible v := by
    refine sound.feasible_of_solves solves point (fun col inside => ?_) fun col inside late => ?_
    · rw [value inside]
      exact Tableau.basicPoint_nonneg feasible col
    · rw [value inside]
      exact zero.basicPoint_eq_zero late
  have decisions : problem.numVariables ≤ run.tableau.numColumns := by
    rw [sound.numColumns_eq]
    exact problem.numVariables_le_firstArtificial.trans problem.firstArtificial_le
  exact feasible_v.congr sound.arity fun index inside => value (inside.trans_le decisions)

/-- In the second phase the value of the objective is that of the basic solution. -/
theorem objectiveValue_eq_dot (sound : run.IsSound problem) (state : run.state = .iterating .two) :
    run.tableau.objectiveValue = Row.dot run.form.costs run.tableau.basicPoint := by
  have fits : run.form.costs.length ≤ run.tableau.numColumns := sound.length_phaseCosts_le .two
  have opposite : Row.dot run.form.costs (run.tableau.ray run.tableau.rhsIndex) =
      -Row.dot run.form.costs run.tableau.basicPoint := by
    rw [Row.dot_congr fun j inside => Tableau.ray_rhsIndex (inside.trans_le fits).ne]
    simp [Row.dot]
  have value := (sound.prices .two state).objectiveValue_eq sound.canonical
  change _ = -Row.dot run.form.costs _ at value
  rw [value, opposite, neg_neg]

end Run.IsSound

/-! ## The end of a run -/

/-- The point that a separated run ends with is feasible, has the value of the objective, and no
feasible point has a larger one. -/
theorem optimal_basicPoint {problem : LinearProgram Rat} {config : Config Rat}
    {run : Run Rat} (created : Run.create problem config = .ok run)
    (separated : run.StepsSeparated) {k : Nat} (state : (run.after k).state = .iterating .two)
    (priced : (run.after k).enteringColumn .two = none) :
    problem.Feasible (run.after k).tableau.basicPoint ∧
      (run.after k).tableau.objectiveValue =
        Row.dot (StandardForm.ofProblem problem).costs (run.after k).tableau.basicPoint ∧
      ∀ y, problem.Feasible y → Row.dot (StandardForm.ofProblem problem).costs y ≤
        (run.after k).tableau.objectiveValue := by
  have start := Run.isSound_of_create created
  have sound := Run.isSound_after start k
  have form_eq : run.form = (run.after k).form := (run.after_form k).symm
  have feasible := separated.isFeasible_after created k
  have idle := Run.hasIdleArtificials_after created separated state
  rw [form_eq] at idle
  have eligible : ∀ col < (run.after k).form.firstArtificial,
      0 ≤ (run.after k).tableau.cell 0 col :=
    fun col early => separated.nonneg_of_enteringColumn_eq_none start state priced early
  rw [← sound.form_eq]
  refine ⟨sound.feasible_basicPoint feasible idle.atZero, sound.objectiveValue_eq_dot state,
    fun y feasible_y => ?_⟩
  have bound := sound.dot_costs_le state 0 (by simpa using eligible) feasible_y
  rwa [zero_mul, add_zero] at bound

/-- In exact arithmetic, let every number that the run compares with its tolerance, and every number
that it rounds to zero when an optimum is read off, be zero or of a magnitude above the tolerance.
If the run ends with an optimum, the values are those of the decision variables, none of them is
negative, they satisfy every constraint as it is written, the objective is theirs, and no feasible
point has a better one. -/
theorem solve_optimal {problem : LinearProgram Rat} {config : Config Rat} {run : Run Rat}
    {solution : Solution Rat} (created : Run.create problem config = .ok run)
    (steps_separated : run.StepsSeparated) (reading_separated : run.ReadingSeparated)
    (solved : solve problem config = .ok solution) (optimal : solution.status = .optimal) :
    let x : Nat → Rat := fun index => (solution.values.value? index).getD 0
    solution.values.entries.map Prod.fst = List.range problem.numVariables ∧
      problem.Feasible x ∧ solution.objective = some (problem.value x) ∧
      ∀ y, problem.Feasible y → problem.sense.IsAsGood (problem.value x) (problem.value y) := by
  intro x
  obtain ⟨steps, status, finished, rfl⟩ := exists_after_of_solve created solved
  obtain rfl : status = .optimal := by cases status <;> first | rfl | cases optimal
  obtain ⟨k, -, last, state, priced⟩ := Run.exists_ending created finished
  obtain ⟨feasible, objective, best⟩ := optimal_basicPoint created steps_separated state priced
  have start := Run.isSound_of_create created
  -- The last step changes nothing but the state, so the optimum is read off the priced tableau.
  have tableau_eq : (run.after steps).tableau = (run.after k).tableau := by rw [last]
  have numDecision : run.form.numDecision = problem.numVariables := by rw [start.form_eq]; rfl
  have values : ∀ index < problem.numVariables,
      x index = (run.after k).tableau.basicPoint index := fun index inside => by
    have read := reading_separated.value?_optimum finished
      (Run.isSound_after start steps).canonical (numDecision ▸ inside)
    rw [← tableau_eq]
    exact congrArg (·.getD 0) read
  have value_eq : problem.value x = problem.value (run.after k).tableau.basicPoint :=
    Row.dot_congr values
  refine ⟨?_, feasible.congr start.arity fun index inside => (values index inside).symm, ?_,
    fun y feasible_y => ?_⟩
  · change (Assignment.ofValues _).entries.map Prod.fst = _
    rw [Assignment.map_fst_ofValues, Tableau.length_basicSolution, Run.after_form, numDecision]
  · refine (reading_separated.objective_optimum finished).trans (congrArg some ?_)
    rw [tableau_eq, objective, LinearProgram.dot_costs, value_eq, start.form_eq]
    split <;> simp
  · rw [value_eq]
    exact LinearProgram.isAsGood_of_dot_costs_le (objective ▸ best y feasible_y)

/-- A run through both phases with a redundant row, whose artificial column stays in the basis. -/
theorem solve_redundantProblem :
    (redundantRun .dantzig).StepsSeparated ∧ (redundantRun .dantzig).ReadingSeparated ∧
      ∃ solution, solve redundantProblem (thousandth .dantzig) = .ok solution ∧
        solution.status = .optimal ∧
        ∀ y, redundantProblem.Feasible y →
          redundantProblem.value (fun index => (solution.values.value? index).getD 0) ≤
            redundantProblem.value y := by
  have created := create_redundantRun .dantzig
  have finished := state_redundantRun .dantzig
  have steps_separated := stepsSeparated_redundantRun .dantzig
  have reading_separated : (redundantRun .dantzig).ReadingSeparated :=
    Run.readingSeparated_of_finished finished (by decide +kernel) (by decide +kernel)
  have solved := solve_eq_of_finished created finished
  exact ⟨steps_separated, reading_separated, _, solved, rfl,
    (solve_optimal created steps_separated reading_separated solved rfl).2.2.2⟩

end SimplexMethod
