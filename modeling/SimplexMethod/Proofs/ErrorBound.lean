import SimplexMethod.Proofs.Run.Comparisons
import SimplexMethod.Proofs.Run.Margin

/-!
# How wrong an optimum can be

The second phase ends when no eligible cell of the objective row lies below `-tolerance`. So a
better point can be overlooked, but only one whose objective exceeds the value of the tableau by at
most the tolerance for every unit of its extent. Rounding the objective to zero costs the tolerance
once more. Nothing is assumed about the pivots before, nor about the basic solution.

## Main results

* `Run.IsSound.isAsGoodUpTo_optimum`: the bound for the state in which a run ends
* `solve_optimal_upTo`: the bound for the objective of a solution
-/

namespace SimplexMethod

variable {problem : LinearProgram Rat} {config : Config Rat} {run : Run Rat}

/-- The objective of an optimum is as good as that of every feasible point, up to the tolerance
times one more than the extent of the point. -/
theorem Run.IsSound.isAsGoodUpTo_optimum (sound : run.IsSound problem)
    (ends : run.EndsWith .optimal) : ∃ objective, run.optimum.objective = some objective ∧
      ∀ x, problem.Feasible x → problem.sense.IsAsGoodUpTo
        (run.config.tolerance * (1 + problem.extent x)) objective (problem.value x) := by
  obtain ⟨state, priced⟩ := ends
  refine ⟨_, rfl, fun x feasible => ?_⟩
  have cells : ∀ col < run.form.firstArtificial, -run.config.tolerance ≤ run.tableau.cell 0 col :=
    fun col early => sound.enteringColumn_eq_none priced early
  have bound := sound.dot_costs_le state run.config.tolerance cells feasible
  have rounded (value : Rat) : -run.config.tolerance ≤ clean value run.config.tolerance - value ∧
      clean value run.config.tolerance - value ≤ run.config.tolerance :=
    abs_le.1 (abs_clean_sub_le sound.tolerance_pos.le value)
  rw [sound.form_eq, LinearProgram.dot_costs] at bound
  rw [sound.form_eq]
  cases sense : problem.sense with
  | maximize =>
    obtain ⟨below, -⟩ := rounded run.tableau.objectiveValue
    have kept : (StandardForm.ofProblem problem).negated = false := by
      simp [StandardForm.ofProblem, sense]
    simp only [kept, Bool.false_eq_true, if_false, Sense.IsAsGoodUpTo] at bound ⊢
    linarith
  | minimize =>
    -- Both the bound and the objective that is read off change their signs.
    obtain ⟨-, above⟩ := rounded (-run.tableau.objectiveValue)
    have changed : (StandardForm.ofProblem problem).negated = true := by
      simp [StandardForm.ofProblem, sense]
    simp only [changed, if_true, Sense.IsAsGoodUpTo] at bound ⊢
    linarith

/-- In exact arithmetic, whatever the tolerance is, the objective of an optimum is as good as that
of every feasible point, up to the tolerance times one more than the extent of the point. -/
theorem solve_optimal_upTo {solution : Solution Rat}
    (created : Run.create problem config = .ok run) (solved : solve problem config = .ok solution)
    (optimal : solution.status = .optimal) :
    ∃ objective, solution.objective = some objective ∧
      ∀ x, problem.Feasible x → problem.sense.IsAsGoodUpTo
        (config.tolerance * (1 + problem.extent x)) objective (problem.value x) := by
  obtain ⟨k, ends, read⟩ := exists_ending_of_solve created solved
  rw [optimal] at ends read
  have sound := Run.isSound_after (Run.isSound_of_create created) k
  obtain ⟨objective, shown, bound⟩ := sound.isAsGoodUpTo_optimum ends
  rw [run.after_config, Run.config_of_create created] at bound
  exact ⟨objective, read ▸ shown, bound⟩

/-- A problem whose objective is so flat that the second phase ends at once. -/
def flatObjective : LinearProgram Rat where
  sense := .minimize
  objective := [-1 / 2000]
  constraints := [⟨[1], .atLeast, 1⟩, ⟨[1], .atMost, 10 ^ 6⟩]

/-- The run ends at the lower end of the interval and rounds the objective to zero. The value `-500`
at the upper end is better, and within the bound. -/
theorem solve_flatObjective :
    (∃ solution, solve flatObjective (thousandth .bland) = .ok solution ∧
      solution.status = .optimal ∧ solution.objective = some 0 ∧
      ∀ x, flatObjective.Feasible x →
        0 - 1 / 1000 * (1 + flatObjective.extent x) ≤ flatObjective.value x) ∧
    flatObjective.Feasible (fun _ => 10 ^ 6) ∧ flatObjective.value (fun _ => 10 ^ 6) = -500 := by
  have created : Run.create flatObjective (thousandth .bland) =
      .ok (.initial flatObjective (thousandth .bland)) :=
    Run.create_eq_ok_initial (by decide +kernel) (by decide +kernel)
  have finished : ((Run.initial flatObjective (thousandth .bland)).after 4).state =
      .finished .optimal := by decide +kernel
  have solved := solve_eq_of_finished created finished
  refine ⟨⟨_, solved, rfl, by decide +kernel, ?_⟩, ⟨fun _ _ => by norm_num, ?_⟩, ?_⟩
  · obtain ⟨objective, shown, bound⟩ := solve_optimal_upTo created solved rfl
    obtain rfl : 0 = objective := Option.some.inj (Eq.trans (by decide +kernel) shown)
    exact bound
  · intro constraint member
    simp only [flatObjective, List.mem_cons, List.not_mem_nil, or_false] at member
    rcases member with rfl | rfl <;>
      norm_num [Constraint.Satisfied, Relation.Holds, Row.dot, Row.cell]
  · norm_num [LinearProgram.value, flatObjective, Row.dot, Row.cell]

end SimplexMethod
