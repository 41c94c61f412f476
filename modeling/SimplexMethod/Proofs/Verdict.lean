import Mathlib.Order.Bounds.Basic
import SimplexMethod.Proofs.Infeasibility
import SimplexMethod.Proofs.Problem.Rearrangement
import SimplexMethod.Proofs.Unboundedness

/-!
# Answers that do not depend on the way to them

What a separated run ends with is a statement about the values of the objective at feasible points:
that one of them is the greatest, that they have no bound, or that there are none. At most one of
these holds, and there is at most one greatest value. So two separated runs of a problem agree,
whatever their rules are, and so do the runs of a problem and of a rearrangement of it.

## Main definitions

* `Status.Describes`: what a status says about the values at feasible points

## Main results

* `Status.Describes.unique`: no two statuses describe the same values
* `Run.StepsSeparated.describes`: a separated run ends with a status that is right
* `solve_rearrangement`: the answers to a problem and to a rearrangement of it
-/

namespace SimplexMethod

/-- What a status says about the values of an objective that is to be made large. A run that has
been cut off says nothing. -/
def Status.Describes (values : Set Rat) : Status → Prop
  | .optimal => ∃ best, IsGreatest values best
  | .unbounded => ¬BddAbove values
  | .infeasible => values = ∅
  | .capReached => True

/-- No two statuses describe the same values. -/
theorem Status.Describes.unique {values : Set Rat} {first second : Status}
    (left : first.Describes values) (right : second.Describes values)
    (left_proper : first ≠ .capReached) (right_proper : second ≠ .capReached) :
    first = second := by
  -- A greatest value is a bound, and where there are no values every number is one.
  have bounded : Status.Describes values .optimal → BddAbove values :=
    fun ⟨best, greatest⟩ => ⟨best, greatest.2⟩
  have nonempty : Status.Describes values .optimal → values ≠ ∅ :=
    fun ⟨best, greatest⟩ => greatest.nonempty.ne_empty
  have unbounded : ¬BddAbove values → values ≠ ∅ := fun unbounded empty =>
    unbounded (empty ▸ bddAbove_empty)
  cases first with
  | capReached => exact absurd rfl left_proper
  | optimal =>
    cases second with
    | optimal => rfl
    | unbounded => exact absurd (bounded left) right
    | infeasible => exact absurd right (nonempty left)
    | capReached => exact absurd rfl right_proper
  | unbounded =>
    cases second with
    | optimal => exact absurd (bounded right) left
    | unbounded => rfl
    | infeasible => exact absurd right (unbounded left)
    | capReached => exact absurd rfl right_proper
  | infeasible =>
    cases second with
    | optimal => exact absurd left (nonempty right)
    | unbounded => exact absurd left (unbounded right)
    | infeasible => rfl
    | capReached => exact absurd rfl right_proper

variable {problem : LinearProgram Rat} {config : Config Rat} {run : Run Rat}

namespace Run.StepsSeparated

/-- A separated run that ends with an optimum has the greatest value in its tableau. -/
theorem isGreatest_objectiveValue (separated : run.StepsSeparated)
    (created : Run.create problem config = .ok run) {k : Nat}
    (ends : (run.after k).EndsWith .optimal) :
    IsGreatest problem.feasibleValues (run.after k).tableau.objectiveValue := by
  obtain ⟨state, priced⟩ := ends
  obtain ⟨feasible, objective, best⟩ := optimal_basicPoint created separated state priced
  refine ⟨⟨_, feasible, objective.symm⟩, ?_⟩
  rintro _ ⟨y, feasible_y, rfl⟩
  exact best y feasible_y

/-- A separated run ends with a status that is right. -/
theorem describes (separated : run.StepsSeparated)
    (created : Run.create problem config = .ok run) {k : Nat} {status : Status}
    (ends : (run.after k).EndsWith status) : status.Describes problem.feasibleValues := by
  cases status with
  | optimal => exact ⟨_, separated.isGreatest_objectiveValue created ends⟩
  | unbounded =>
    rintro ⟨bound, above⟩
    obtain ⟨x, feasible, beyond⟩ := separated.exists_lt_dot_costs created ends bound
    exact (above ⟨x, feasible, rfl⟩).not_gt beyond
  | infeasible =>
    refine Set.eq_empty_of_forall_notMem ?_
    rintro _ ⟨x, feasible, -⟩
    exact separated.not_feasible (isSound_of_create created) ends x feasible
  | capReached => trivial

/-- The objective of an optimum is the greatest value, with the sign of the problem and rounded to
zero. -/
theorem objective_eq (separated : run.StepsSeparated)
    (created : Run.create problem config = .ok run) {solution : Solution Rat}
    (solved : solve problem config = .ok solution) (optimal : solution.status = .optimal)
    {best : Rat} (greatest : IsGreatest problem.feasibleValues best) :
    let value := if (StandardForm.ofProblem problem).negated then -best else best
    solution.objective = some (clean value config.tolerance) ∧
      (run.ReadingSeparated → solution.objective = some value) := by
  obtain ⟨steps, finished, rfl⟩ := exists_optimum_of_solve created solved optimal
  obtain ⟨k, -, last, ends⟩ := Run.exists_ending created finished
  have value_eq : (run.after steps).tableau.objectiveValue = best := by
    rw [last]
    exact (separated.isGreatest_objectiveValue created ends).unique greatest
  have form_eq := (isSound_of_create created).form_eq
  constructor
  · change some (clean _ _) = _
    rw [after_form, after_config, value_eq, form_eq, config_of_create created]
  · intro reading_separated
    refine (reading_separated.objective_optimum finished).trans ?_
    rw [value_eq, form_eq]

end Run.StepsSeparated

/-- In exact arithmetic, let a problem and a rearrangement of it be solved under any rules, caps and
tolerances, so that every number that one of the runs compares with its tolerance is zero or of a
magnitude above it. If none of them is cut off, both end with the same status. If that is an
optimum, both have the same objective, provided that the tolerances are equal or that the numbers
which are rounded when the optima are read off are zero or of a magnitude above the tolerance as
well. -/
theorem solve_rearrangement {first second : LinearProgram Rat}
    {order : Equiv.Perm (Fin first.numVariables)} {config config' : Config Rat}
    (rearranged : first.IsRearrangement second order) (wellFormed : first.defect? = none)
    (usable : config.fault? = none) (usable' : config'.fault? = none)
    (separated : (Run.initial first config).StepsSeparated)
    (separated' : (Run.initial second config').StepsSeparated) :
    Run.create first config = .ok (.initial first config) ∧
    Run.create second config' = .ok (.initial second config') ∧
    ∃ solution solution', solve first config = .ok solution ∧
      solve second config' = .ok solution' ∧
      (solution.status ≠ .capReached → solution'.status ≠ .capReached →
        solution.status = solution'.status ∧
        (solution.status = .optimal →
          config.tolerance = config'.tolerance ∨
            (Run.initial first config).ReadingSeparated ∧
              (Run.initial second config').ReadingSeparated →
          solution.objective = solution'.objective)) := by
  have sound := LinearProgram.defect?_eq_none_iff.1 wellFormed
  have created : Run.create first config = .ok (.initial first config) :=
    Run.create_eq_ok_initial usable wellFormed
  have created' : Run.create second config' = .ok (.initial second config') :=
    Run.create_eq_ok_initial usable'
      (LinearProgram.defect?_eq_none_iff.2 (rearranged.isWellFormed sound))
  obtain ⟨solution, solved⟩ := exists_solve_eq_ok created
  obtain ⟨solution', solved'⟩ := exists_solve_eq_ok created'
  refine ⟨created, created', solution, solution', solved, solved', fun proper proper' => ?_⟩
  obtain ⟨k, ends, -⟩ := exists_ending_of_solve created solved
  obtain ⟨k', ends', -⟩ := exists_ending_of_solve created' solved'
  have values_eq := rearranged.feasibleValues_eq sound
  have describes := separated.describes created ends
  have describes' := separated'.describes created' ends'
  rw [values_eq] at describes'
  have status_eq := describes.unique describes' proper proper'
  refine ⟨status_eq, fun optimal rounding => ?_⟩
  -- There is only one greatest value, and both objectives are read off it.
  rw [optimal] at describes
  obtain ⟨best, greatest⟩ := describes
  obtain ⟨rounded, exact_⟩ := separated.objective_eq created solved optimal greatest
  obtain ⟨rounded', exact_'⟩ :=
    separated'.objective_eq created' solved' (status_eq ▸ optimal) (values_eq ▸ greatest)
  rw [rearranged.negated_eq] at rounded' exact_'
  rcases rounding with same | ⟨reading, reading'⟩
  · rw [rounded, rounded', same]
  · rw [exact_ reading, exact_' reading']

/-- The problem with two rows that say the same, with its variables and its constraints in the
opposite order. -/
def reversedProblem : LinearProgram Rat where
  sense := .minimize
  objective := [-2, 1]
  constraints := [⟨[-1, 1], .atLeast, -1⟩, ⟨[2, 2], .equal, 4⟩, ⟨[1, 1], .equal, 2⟩]

/-- A configuration with a smaller tolerance and the other rule. -/
def millionth : Config Rat where
  tolerance := 1 / 10 ^ 6
  rule := .bland

/-- Both runs go through both phases, under different rules and with different tolerances. -/
theorem solve_reversedProblem :
    redundantProblem.IsRearrangement reversedProblem Fin.revPerm ∧
    ∃ solution solution', solve redundantProblem (thousandth .dantzig) = .ok solution ∧
      solve reversedProblem millionth = .ok solution' ∧ solution.status = .optimal ∧
      solution'.status = .optimal ∧ solution.objective = solution'.objective := by
  have reversed : reversedProblem.constraints = (redundantProblem.constraints.map
      (Constraint.reorder (Fin.revPerm : Equiv.Perm (Fin 2)))).reverse := rfl
  have rearranged : redundantProblem.IsRearrangement reversedProblem Fin.revPerm :=
    ⟨rfl, rfl, reversed ▸ List.reverse_perm _⟩
  have created := create_redundantRun .dantzig
  have finished := state_redundantRun .dantzig
  have reading : (redundantRun .dantzig).ReadingSeparated :=
    Run.readingSeparated_of_finished finished (by decide +kernel) (by decide +kernel)
  have created' : Run.create reversedProblem millionth = .ok (.initial reversedProblem millionth) :=
    Run.create_eq_ok_initial (by decide +kernel) (by decide +kernel)
  have finished' : ((Run.initial reversedProblem millionth).after 5).state =
      .finished .optimal := by decide +kernel
  have separated' : (Run.initial reversedProblem millionth).StepsSeparated :=
    Run.stepsSeparated_of_finished finished' (by decide +kernel)
  have reading' : (Run.initial reversedProblem millionth).ReadingSeparated :=
    Run.readingSeparated_of_finished finished' (by decide +kernel) (by decide +kernel)
  obtain ⟨-, -, solution, solution', solved, solved', agree⟩ := solve_rearrangement rearranged
    (by decide +kernel) (by decide +kernel) (by decide +kernel)
    (stepsSeparated_redundantRun .dantzig) separated'
  have optimal : solution.status = .optimal := by
    rw [solve_eq_of_finished created finished] at solved
    rw [← Except.ok.inj solved]
    rfl
  have optimal' : solution'.status = .optimal := by
    rw [solve_eq_of_finished created' finished'] at solved'
    rw [← Except.ok.inj solved']
    rfl
  have same := (agree (by simp [optimal]) (by simp [optimal'])).2 optimal (.inr ⟨reading, reading'⟩)
  exact ⟨rearranged, solution, solution', solved, solved', optimal, optimal', same⟩

end SimplexMethod
