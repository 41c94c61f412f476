import SimplexMethod.Proofs.Run.Comparisons
import SimplexMethod.Proofs.Run.Margin

/-!
# Problems found infeasible

The first phase ends with a value below `-tolerance` and with no cell of the objective row below
`-tolerance`. At a feasible point the artificial variables are zero, so the cells have to make up
for the value, and they can do so only at a point whose extent exceeds one. If the tolerance has
changed no comparison, no cell is negative and there is no feasible point at all.

## Main results

* `Run.IsSound.one_lt_extent`: how far feasible points lie out when the run ends
* `Run.StepsSeparated.not_feasible`: a separated run ends rightly
* `solve_infeasible`: what a problem without a solution is like
-/

namespace SimplexMethod

variable {problem : LinearProgram Rat} {config : Config Rat} {run : Run Rat}

namespace Run

/-- The value of the objective is below the tolerance once, and every unit of extent makes up for it
by the tolerance at most. -/
theorem IsSound.one_lt_extent (sound : run.IsSound problem) (ends : run.EndsWith .infeasible)
    {x : Nat → Rat} (feasible : problem.Feasible x) : 1 < problem.extent x := by
  obtain ⟨state, priced, negative⟩ := ends
  rw [isNegative_iff] at negative
  have cells : ∀ col < run.form.firstArtificial, -run.config.tolerance ≤ run.tableau.cell 0 col :=
    fun col early => sound.enteringColumn_eq_none priced
      (early.trans_le (sound.firstArtificial_le_numEligible .one))
  have bound := sound.objectiveValue_add_nonneg state run.config.tolerance cells feasible
  have scaled : run.config.tolerance * 1 < run.config.tolerance * problem.extent x := by linarith
  exact lt_of_mul_lt_mul_left scaled sound.tolerance_pos.le

/-- Without a negative cell the objective row is an equation that no feasible point satisfies. -/
theorem StepsSeparated.not_feasible (separated : run.StepsSeparated) (sound : run.IsSound problem)
    {k : Nat} (ends : (run.after k).EndsWith .infeasible) (x : Nat → Rat) :
    ¬problem.Feasible x := by
  intro feasible
  have current := isSound_after sound k
  obtain ⟨state, priced, negative⟩ := ends
  rw [isNegative_iff] at negative
  have cells : ∀ col < (run.after k).form.firstArtificial,
      -0 ≤ (run.after k).tableau.cell 0 col := by
    intro col early
    rw [neg_zero]
    exact separated.nonneg_of_enteringColumn_eq_none sound state priced
      (early.trans_le (current.firstArtificial_le_numEligible .one))
  have bound := current.objectiveValue_add_nonneg state 0 cells feasible
  have positive := current.tolerance_pos
  linarith

end Run

/-- In exact arithmetic, if the run of a problem finds it infeasible, then whatever the tolerance
is, every feasible point has an extent above one. If moreover every number that the run compares
with its tolerance is zero or of a magnitude above it, there is no feasible point. -/
theorem solve_infeasible {solution : Solution Rat}
    (created : Run.create problem config = .ok run) (solved : solve problem config = .ok solution)
    (infeasible : solution.status = .infeasible) :
    (∀ x, problem.Feasible x → 1 < problem.extent x) ∧
      (run.StepsSeparated → ∀ x, ¬problem.Feasible x) := by
  obtain ⟨k, ends, -⟩ := exists_ending_of_solve created solved
  rw [infeasible] at ends
  have sound := Run.isSound_of_create created
  exact ⟨fun x feasible => (Run.isSound_after sound k).one_lt_extent ends feasible,
    fun separated => separated.not_feasible sound ends⟩

/-- An equation with a coefficient within the usual tolerance, which the first phase gives up on. -/
def faintEquation : LinearProgram Rat where
  sense := .maximize
  objective := [1]
  constraints := [⟨[5 / 10 ^ 10], .equal, 1⟩]

/-- Three constraints that no point satisfies, of which the first phase satisfies two by two
pivots. -/
def crossedBounds : LinearProgram Rat where
  sense := .maximize
  objective := [1, 2]
  constraints := [⟨[1, 1], .atMost, 3⟩, ⟨[-1, 1], .equal, -1⟩, ⟨[1, 3], .atLeast, 8⟩]

/-- The equation has a feasible point far out, although its run ends infeasible. The run of the
three constraints is separated, and they have none. -/
theorem solve_faintEquation_crossedBounds :
    ((∃ solution, solve faintEquation billionth = .ok solution ∧ solution.status = .infeasible) ∧
      faintEquation.Feasible (fun _ => 2 * 10 ^ 9) ∧ 1 < faintEquation.extent fun _ => 2 * 10 ^ 9) ∧
    (Run.initial crossedBounds (thousandth .dantzig)).StepsSeparated ∧
      ∀ x, ¬crossedBounds.Feasible x := by
  have faint : Run.create faintEquation billionth = .ok (.initial faintEquation billionth) :=
    Run.create_eq_ok_initial (by decide +kernel) (by decide +kernel)
  have crossed : Run.create crossedBounds (thousandth .dantzig) =
      .ok (.initial crossedBounds (thousandth .dantzig)) :=
    Run.create_eq_ok_initial (by decide +kernel) (by decide +kernel)
  have faint_finished :
      ((Run.initial faintEquation billionth).after 2).state = .finished .infeasible := by
    decide +kernel
  have crossed_finished : ((Run.initial crossedBounds (thousandth .dantzig)).after 4).state =
      .finished .infeasible := by decide +kernel
  have separated : (Run.initial crossedBounds (thousandth .dantzig)).StepsSeparated :=
    Run.stepsSeparated_of_finished crossed_finished (by decide +kernel)
  have far : faintEquation.Feasible fun _ => 2 * 10 ^ 9 := by
    refine ⟨fun _ _ => by norm_num, fun constraint member => ?_⟩
    obtain rfl := List.mem_singleton.1 member
    norm_num [Constraint.Satisfied, Relation.Holds, Row.dot, Row.cell]
  have solved := solve_eq_of_finished faint faint_finished
  exact ⟨⟨⟨_, solved, rfl⟩, far, (solve_infeasible faint solved rfl).1 _ far⟩, separated,
    (solve_infeasible crossed (solve_eq_of_finished crossed crossed_finished) rfl).2 separated⟩

end SimplexMethod
