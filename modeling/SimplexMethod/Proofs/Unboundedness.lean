import Mathlib.Algebra.Order.Archimedean.Basic
import SimplexMethod.Proofs.Optimality

/-!
# Problems found unbounded

A separated run ends unbounded in the second phase only, with a column that improves the objective
and that no row limits. Its ray has no negative component, and it leaves all artificial columns at
zero. So every point on the ray from the basic solution is feasible, and the objective grows along
the ray without bound.

## Main definitions

* `Tableau.pointOnRay`: the basic solution moved along the ray of a column

## Main results

* `Run.IsSound.phase_of_unlimited`: in the first phase some row limits the entering column
* `Run.IsSound.feasible_pointOnRay`: points on the ray of an unlimited column are feasible
* `Run.StepsSeparated.exists_lt_dot_costs`: points with an arbitrarily large objective
* `solve_unbounded`: what a problem that is found unbounded is like
-/

namespace SimplexMethod

namespace Tableau

variable {tableau : Tableau Rat} {col firstArtificial : Nat}

/-- The basic solution moved along the ray of a column, with `-1` in the place of the right-hand
side. -/
def pointOnRay (tableau : Tableau Rat) (col : Nat) (distance : Rat) : Nat → Rat := fun j =>
  distance * tableau.ray col j - tableau.ray tableau.rhsIndex j

theorem dot_pointOnRay (row : Nat) (distance : Rat) :
    tableau.dot row (tableau.pointOnRay col distance) =
      distance * tableau.dot row (tableau.ray col) -
        tableau.dot row (tableau.ray tableau.rhsIndex) := by
  rw [← dot_mul, ← dot_sub]
  rfl

theorem solves_pointOnRay (canonical : tableau.IsCanonical) (inside : col < tableau.numColumns)
    (distance : Rat) : tableau.Solves (tableau.pointOnRay col distance) := by
  intro row row_mem
  rw [dot_pointOnRay, solves_ray canonical inside.le row row_mem,
    solves_ray_rhsIndex canonical row row_mem, mul_zero, sub_zero]

/-- Along a ray the objective grows by what the objective row has in the column, with the opposite
sign. -/
theorem Prices.dot_pointOnRay {costs : List Rat} (prices : tableau.Prices costs)
    (canonical : tableau.IsCanonical) (inside : col < tableau.numColumns) (distance : Rat) :
    Row.dot costs (tableau.pointOnRay col distance) =
      tableau.objectiveValue - distance * tableau.cell 0 col := by
  have last : tableau.rhsIndex ≤ tableau.numColumns := le_rfl
  have balance := prices _ (solves_pointOnRay canonical inside distance)
  rw [Tableau.dot_pointOnRay, dot_zero_ray canonical inside.le, dot_zero_ray canonical last,
    ← Tableau.objectiveValue_eq] at balance
  linarith

/-- A column that improves the objective takes it beyond every bound. -/
theorem Prices.exists_lt_dot_pointOnRay {costs : List Rat} (prices : tableau.Prices costs)
    (canonical : tableau.IsCanonical) (inside : col < tableau.numColumns)
    (improves : tableau.cell 0 col < 0) (bound : Rat) :
    ∃ distance, 0 ≤ distance ∧ bound < Row.dot costs (tableau.pointOnRay col distance) := by
  -- The distance has to make up for the gap between the bound and the value of the tableau.
  obtain ⟨distance, far⟩ :=
    exists_nat_gt ((bound - tableau.objectiveValue) / -tableau.cell 0 col)
  rw [div_lt_iff₀ (neg_pos.2 improves)] at far
  refine ⟨distance, distance.cast_nonneg, ?_⟩
  rw [prices.dot_pointOnRay canonical inside]
  linarith

theorem pointOnRay_rhsIndex (inside : col < tableau.numColumns) (distance : Rat) :
    tableau.pointOnRay col distance tableau.rhsIndex = -1 := by
  have different : tableau.rhsIndex ≠ col := inside.ne'
  rw [pointOnRay, ray_of_isNonbasic different isNonbasic_rhsIndex, ray_self isNonbasic_rhsIndex,
    mul_zero, zero_sub]

theorem pointOnRay_of_lt {j : Nat} (inside : j < tableau.numColumns) (distance : Rat) :
    tableau.pointOnRay col distance j = distance * tableau.ray col j + tableau.basicPoint j := by
  have different : j ≠ tableau.rhsIndex := inside.ne
  rw [pointOnRay, ray_rhsIndex different, sub_neg_eq_add]

/-- If no row limits a column, its ray has no negative component. -/
theorem ray_nonneg (canonical : tableau.IsCanonical) (nonbasic : tableau.IsNonbasic col)
    (unlimited : ∀ row ∈ tableau.constraintIndices, tableau.cell row col ≤ 0) (j : Nat) :
    0 ≤ tableau.ray col j := by
  rcases tableau.isNonbasic_or_basic j with outside | ⟨row, row_mem, rfl⟩
  · by_cases own : j = col
    · rw [own, ray_self nonbasic]
      exact zero_le_one
    · rw [ray_of_isNonbasic own outside]
  · rw [ray_basicColumn canonical nonbasic row_mem]
    exact neg_nonneg.2 (unlimited row row_mem)

/-- A ray leaves idle artificial columns alone. -/
theorem HasIdleArtificials.ray_eq_zero (idle : tableau.HasIdleArtificials firstArtificial)
    (canonical : tableau.IsCanonical) (nonbasic : tableau.IsNonbasic col)
    (early : col < firstArtificial) {j : Nat} (late : firstArtificial ≤ j) :
    tableau.ray col j = 0 := by
  rcases tableau.isNonbasic_or_basic j with outside | ⟨row, row_mem, rfl⟩
  · exact ray_of_isNonbasic (early.trans_le late).ne' outside
  · rw [ray_basicColumn canonical nonbasic row_mem, idle.settled row row_mem late col early,
      neg_zero]

end Tableau

variable {problem : LinearProgram Rat} {config : Config Rat} {run : Run Rat}

namespace Run

/-- In the first phase the cells of an entering column in the artificial rows have a positive sum,
so a column without positive cells enters in the second phase. -/
theorem IsSound.phase_of_unlimited (sound : run.IsSound problem) {phase : Phase} {col : Nat}
    (state : run.state = .iterating phase) (enters : run.enteringColumn phase = some col)
    (unlimited : ∀ row ∈ run.tableau.constraintIndices, run.tableau.cell row col ≤ 0) :
    phase = .two := by
  cases phase with
  | two => rfl
  | one =>
    have positive := sound.tolerance_pos.trans (sound.lt_sum_of_enters state enters)
    refine absurd (Finset.sum_nonpos fun row row_mem => ?_) positive.not_ge
    exact unlimited row (Tableau.mem_artificialRows.1 row_mem).1

/-- Points on the ray of a column that no row limits are feasible. -/
theorem IsSound.feasible_pointOnRay (sound : run.IsSound problem)
    (feasible : run.tableau.IsFeasible)
    (idle : run.tableau.HasIdleArtificials run.form.firstArtificial) {col : Nat}
    (early : col < run.form.firstArtificial) (nonbasic : run.tableau.IsNonbasic col)
    (unlimited : ∀ row ∈ run.tableau.constraintIndices, run.tableau.cell row col ≤ 0)
    {distance : Rat} (forward : 0 ≤ distance) :
    problem.Feasible (run.tableau.pointOnRay col distance) := by
  have inside : col < run.tableau.numColumns := early.trans_le sound.firstArtificial_le
  refine sound.feasible_of_solves (Tableau.solves_pointOnRay sound.canonical inside distance)
    (Tableau.pointOnRay_rhsIndex inside distance) (fun j j_lt => ?_) fun j j_lt late => ?_
  · rw [Tableau.pointOnRay_of_lt j_lt]
    exact add_nonneg (mul_nonneg forward (Tableau.ray_nonneg sound.canonical nonbasic unlimited j))
      (Tableau.basicPoint_nonneg feasible j)
  · rw [Tableau.pointOnRay_of_lt j_lt, idle.ray_eq_zero sound.canonical nonbasic early late,
      idle.atZero.basicPoint_eq_zero late, mul_zero, add_zero]

namespace StepsSeparated

variable {phase : Phase} {k col : Nat}

/-- A column that no row limits to tolerance has no positive cell. -/
theorem cell_nonpos_of_unlimited (separated : run.StepsSeparated)
    (state : (run.after k).state = .iterating phase)
    (enters : (run.after k).enteringColumn phase = some col)
    (below : (run.after k).pivots < (run.after k).cap)
    (unlimited : (run.after k).tableau.leavingRow col (run.after k).config.tolerance = none) :
    ∀ row ∈ (run.after k).tableau.constraintIndices, (run.after k).tableau.cell row col ≤ 0 := by
  intro row row_mem
  have small := Tableau.leavingRow_eq_none_iff_cell_le.1 unlimited row row_mem
  rw [after_config] at small
  rw [after_cap] at below
  exact (separated.cell_of_enters state enters below row_mem).nonpos small

/-- A separated run that ends unbounded ends in a state whose ray takes the objective beyond every
bound. -/
theorem exists_lt_dot_costs (separated : run.StepsSeparated)
    (created : Run.create problem config = .ok run)
    (ends : (run.after k).EndsWith .unbounded) (bound : Rat) :
    ∃ x, problem.Feasible x ∧ bound < Row.dot (StandardForm.ofProblem problem).costs x := by
  have start := isSound_of_create created
  have sound := isSound_after start k
  obtain ⟨phase, col, state, enters, below, unlimited⟩ := ends
  have nonpos := separated.cell_nonpos_of_unlimited state enters below unlimited
  obtain rfl := sound.phase_of_unlimited state enters nonpos
  obtain ⟨early, negative⟩ := sound.enteringColumn_eq_some enters
  have improves : (run.after k).tableau.cell 0 col < 0 := by
    have := sound.tolerance_pos
    linarith
  have nonbasic := Tableau.isNonbasic_iff.2 (sound.canonical.notMem_basis improves.ne)
  have feasible := separated.isFeasible_after created k
  have idle := hasIdleArtificials_after created separated state
  rw [← run.after_form k] at idle
  obtain ⟨distance, forward, far⟩ := (sound.prices .two state).exists_lt_dot_pointOnRay
    sound.canonical (early.trans_le sound.firstArtificial_le) improves bound
  rw [← sound.form_eq]
  exact ⟨_, sound.feasible_pointOnRay feasible idle early nonbasic nonpos forward, far⟩

end StepsSeparated

end Run

/-- In exact arithmetic, let every number that the run compares with its tolerance be zero or of a
magnitude above it. If the run finds the problem unbounded, the problem has feasible points, and for
every bound there is one whose objective is better. -/
theorem solve_unbounded {solution : Solution Rat}
    (created : Run.create problem config = .ok run) (separated : run.StepsSeparated)
    (solved : solve problem config = .ok solution) (unbounded : solution.status = .unbounded) :
    (∃ x, problem.Feasible x) ∧
      ∀ bound, ∃ x, problem.Feasible x ∧ problem.sense.IsBetter (problem.value x) bound := by
  obtain ⟨k, ends, -⟩ := exists_ending_of_solve created solved
  rw [unbounded] at ends
  have beyond := separated.exists_lt_dot_costs created ends
  constructor
  · obtain ⟨x, feasible, -⟩ := beyond 0
    exact ⟨x, feasible⟩
  · intro bound
    cases sense : problem.sense with
    | maximize =>
      obtain ⟨x, feasible, large⟩ := beyond bound
      rw [LinearProgram.dot_costs] at large
      exact ⟨x, feasible, by simpa [StandardForm.ofProblem, sense, Sense.IsBetter] using large⟩
    | minimize =>
      -- The standard form makes the objective with the opposite sign large.
      obtain ⟨x, feasible, large⟩ := beyond (-bound)
      rw [LinearProgram.dot_costs] at large
      exact ⟨x, feasible, by simpa [StandardForm.ofProblem, sense, Sense.IsBetter] using large⟩

/-- A line that is given by two equations, one of them redundant, and cut off at one end. -/
def halfLine : LinearProgram Rat where
  sense := .minimize
  objective := [1, -2]
  constraints := [⟨[1, -1], .equal, 1⟩, ⟨[2, -2], .equal, 2⟩, ⟨[1, 1], .atLeast, 3⟩]

/-- A run through both phases, in which the artificial column of the redundant row stays in the
basis. -/
theorem solve_halfLine :
    (Run.initial halfLine (thousandth .dantzig)).StepsSeparated ∧
      (∃ solution, solve halfLine (thousandth .dantzig) = .ok solution ∧
        solution.status = .unbounded) ∧
      ∀ bound, ∃ x, halfLine.Feasible x ∧ halfLine.value x < bound := by
  have created : Run.create halfLine (thousandth .dantzig) =
      .ok (.initial halfLine (thousandth .dantzig)) :=
    Run.create_eq_ok_initial (by decide +kernel) (by decide +kernel)
  have finished : ((Run.initial halfLine (thousandth .dantzig)).after 5).state =
      .finished .unbounded := by decide +kernel
  have separated : (Run.initial halfLine (thousandth .dantzig)).StepsSeparated :=
    Run.stepsSeparated_of_finished finished (by decide +kernel)
  have solved := solve_eq_of_finished created finished
  exact ⟨separated, ⟨_, solved, rfl⟩, (solve_unbounded created separated solved rfl).2⟩

end SimplexMethod
