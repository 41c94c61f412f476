import Mathlib.Algebra.Order.Ring.Abs
import SimplexMethod.Proofs.Optimality

/-!
# The objective and the values of an optimum

The objective of an optimum is read off the objective row and the values of the decision variables
off the rows of the basic columns. Before they are rounded, the objective is that of the values.
Rounding moves each of these numbers by at most the tolerance, so the objective that is reported and
the one that the reported values have are close to each other, and equal if nothing is rounded.

## Main results

* `Row.abs_dot_sub_dot_le`: how much a linear form changes when its arguments are moved
* `Run.IsSound.abs_objective_sub_value_le`: the distance for the state in which a run ends
* `solve_readings_agree`: the distance for a solution
-/

namespace SimplexMethod

namespace Row

variable {x y : Nat → Rat} {margin : Rat}

theorem dot_cons (value : Rat) (row : Row Rat) (x : Nat → Rat) :
    Row.dot (value :: row) x = value * x 0 + row.dot fun j => x (j + 1) := by
  rw [dot, List.length_cons, Finset.sum_range_succ', add_comm]
  rfl

/-- If no argument is moved by more than a margin, a linear form changes by at most the margin for
every unit of its cells. -/
theorem abs_dot_sub_dot_le {row : Row Rat} (close : ∀ j < row.length, |x j - y j| ≤ margin) :
    |row.dot x - row.dot y| ≤ margin * (row.map fun value => |value|).sum := by
  induction row generalizing x y with
  | nil => simp [dot]
  | cons value row ih =>
    have first : |value * x 0 - value * y 0| ≤ margin * |value| := by
      rw [← mul_sub, abs_mul, mul_comm]
      exact mul_le_mul_of_nonneg_right (close 0 (by simp)) (abs_nonneg value)
    have rest := ih (x := fun j => x (j + 1)) (y := fun j => y (j + 1))
      fun j inside => close (j + 1) (Nat.succ_lt_succ inside)
    rw [dot_cons, dot_cons, add_sub_add_comm, List.map_cons, List.sum_cons, mul_add]
    exact (abs_add_le _ _).trans (add_le_add first rest)

end Row

namespace Run.IsSound

variable {problem : LinearProgram Rat} {run : Run Rat}

/-- The value of the objective, in the sense of the problem, is that of the basic solution. -/
theorem signed_objectiveValue_eq (sound : run.IsSound problem)
    (state : run.state = .iterating .two) :
    (if run.form.negated then -run.tableau.objectiveValue else run.tableau.objectiveValue) =
      problem.value run.tableau.basicPoint := by
  rw [sound.objectiveValue_eq_dot state, sound.form_eq, LinearProgram.dot_costs]
  split <;> simp

/-- The objective of an optimum differs from that of its values by at most the tolerance, once for
the objective itself and once for every unit of the costs. -/
theorem abs_objective_sub_value_le (sound : run.IsSound problem)
    (state : run.state = .iterating .two) : ∃ objective, run.optimum.objective = some objective ∧
      |objective - problem.value fun index => (run.optimum.values.value? index).getD 0| ≤
        run.config.tolerance * (1 + (problem.objective.map fun cost => |cost|).sum) := by
  have nonnegative := sound.tolerance_pos.le
  refine ⟨_, rfl, ?_⟩
  have objective := abs_clean_sub_le nonnegative
    (if run.form.negated then -run.tableau.objectiveValue else run.tableau.objectiveValue)
  have values : |problem.value run.tableau.basicPoint -
      problem.value fun index => (run.optimum.values.value? index).getD 0| ≤
        run.config.tolerance * (problem.objective.map fun cost => |cost|).sum := by
    apply Row.abs_dot_sub_dot_le
    intro index inside
    rw [Run.value?_optimum sound.canonical (sound.numDecision_eq ▸ inside), Option.getD_some,
      abs_sub_comm]
    exact abs_clean_sub_le nonnegative _
  rw [sound.signed_objectiveValue_eq state] at objective ⊢
  -- The basic solution before rounding stands between the two numbers.
  rw [mul_add, mul_one]
  exact (abs_sub_le _ _ _).trans (add_le_add objective values)

end Run.IsSound

variable {problem : LinearProgram Rat} {config : Config Rat} {run : Run Rat}

/-- In exact arithmetic, whatever the tolerance is, an optimum has a value for every decision
variable and no other values, and its objective differs from that of these values by at most the
tolerance times one more than the sum of the magnitudes of the costs. Both are equal if neither the
right-hand side of a basic decision variable nor the objective is rounded to zero without being
zero. -/
theorem solve_readings_agree {solution : Solution Rat}
    (created : Run.create problem config = .ok run) (solved : solve problem config = .ok solution)
    (optimal : solution.status = .optimal) :
    let x : Nat → Rat := fun index => (solution.values.value? index).getD 0
    solution.values.entries.map Prod.fst = List.range problem.numVariables ∧
      ∃ objective, solution.objective = some objective ∧
        |objective - problem.value x| ≤
          config.tolerance * (1 + (problem.objective.map fun cost => |cost|).sum) ∧
        (run.ReadingSeparated → objective = problem.value x) := by
  intro x
  obtain ⟨steps, finished, rfl⟩ := exists_optimum_of_solve created solved optimal
  obtain ⟨k, -, last, state, -⟩ := Run.exists_ending created finished
  have start := Run.isSound_of_create created
  have sound := Run.isSound_after start k
  -- The last step changes nothing but the state, which no reading depends on.
  have read : (run.after steps).optimum = (run.after k).optimum := by rw [last]; rfl
  obtain ⟨objective, shown, close⟩ := sound.abs_objective_sub_value_le state
  rw [run.after_config, Run.config_of_create created, ← read] at close
  rw [← read] at shown
  refine ⟨?_, objective, shown, close, fun separated => ?_⟩
  · change (Assignment.ofValues _).entries.map Prod.fst = _
    rw [Assignment.map_fst_ofValues, Tableau.length_basicSolution, Run.after_form,
      start.numDecision_eq]
  · have tableau_eq : (run.after steps).tableau = (run.after k).tableau := by rw [last]
    have values : problem.value x = problem.value (run.after k).tableau.basicPoint := by
      apply Row.dot_congr
      intro index inside
      rw [← tableau_eq]
      exact congrArg (·.getD 0) (separated.value?_optimum finished
        (Run.isSound_after start steps).canonical (inside.trans_eq start.numDecision_eq.symm))
    rw [values, ← sound.signed_objectiveValue_eq state, run.after_form, ← tableau_eq]
    exact Option.some_inj.1 (shown.symm.trans (separated.objective_optimum finished))

/-- A problem whose first variable is so small that it is rounded to zero. -/
def fadingProblem : LinearProgram Rat where
  sense := .minimize
  objective := [1, -2]
  constraints := [⟨[1, 0], .equal, 1 / 2000⟩, ⟨[0, 1], .atMost, 1⟩]

/-- The objective of the first problem is `1 / 2000 - 2`, while its values are rounded to `0` and
`1`. Nothing is rounded in the second problem, whose values have the objective that is reported. -/
theorem solve_readings_agree_fadingProblem :
    (∃ solution, solve fadingProblem (thousandth .dantzig) = .ok solution ∧
      solution.status = .optimal ∧ solution.objective = some (1 / 2000 - 2) ∧
      solution.values.values = [0, 1] ∧
      |1 / 2000 - 2 - fadingProblem.value fun index => (solution.values.value? index).getD 0| ≤
        1 / 1000 * (1 + 3)) ∧
    (redundantRun .bland).ReadingSeparated ∧
      ∃ solution, solve redundantProblem (thousandth .bland) = .ok solution ∧
        solution.status = .optimal ∧ solution.objective =
          some (redundantProblem.value fun index => (solution.values.value? index).getD 0) := by
  have created : Run.create fadingProblem (thousandth .dantzig) =
      .ok (.initial fadingProblem (thousandth .dantzig)) :=
    Run.create_eq_ok_initial (by decide +kernel) (by decide +kernel)
  have finished : ((Run.initial fadingProblem (thousandth .dantzig)).after 5).state =
      .finished .optimal := by decide +kernel
  have solved := solve_eq_of_finished created finished
  have created' := create_redundantRun .bland
  have finished' := state_redundantRun .bland
  have solved' := solve_eq_of_finished created' finished'
  have separated : (redundantRun .bland).ReadingSeparated :=
    Run.readingSeparated_of_finished finished' (by decide +kernel) (by decide +kernel)
  refine ⟨⟨_, solved, rfl, by decide +kernel, by decide +kernel, ?_⟩, separated,
    _, solved', rfl, ?_⟩
  · obtain ⟨-, objective, shown, close, -⟩ := solve_readings_agree created solved rfl
    obtain rfl : 1 / 2000 - 2 = objective := Option.some.inj (Eq.trans (by decide +kernel) shown)
    refine close.trans_eq ?_
    norm_num [fadingProblem, thousandth]
  · obtain ⟨-, objective, shown, -, same⟩ := solve_readings_agree created' solved' rfl
    rw [← same separated]
    exact shown

end SimplexMethod
