import SimplexMethod.Proofs.DriveOut
import SimplexMethod.Proofs.Pricing
import SimplexMethod.Proofs.RatioTest
import SimplexMethod.Proofs.Run.Length
import SimplexMethod.Proofs.StandardForm.Points

/-!
# Runs in exact arithmetic

The tableau of a run on rational numbers stays canonical and keeps the solutions of the standard
form, and while a phase lasts its objective row expresses the objective of the phase. No step fails.

## Main definitions

* `Run.IsSound`: what holds of every run of a problem

## Main results

* `Run.isSound_after`: it holds after any number of steps
* `Run.IsSound.failure_eq_none`: no step fails
* `exists_solve_eq_ok`: every problem that has a run has a solution
-/

namespace SimplexMethod

/-- The objective of a phase. -/
def StandardForm.phaseCosts {α : Type} [Scalar α] (form : StandardForm α) : Phase → List α
  | .one => form.phaseOneCosts
  | .two => form.costs

/-- The costs of a phase belong to columns. -/
theorem StandardForm.length_phaseCosts_le {α : Type} [Scalar α] (problem : LinearProgram α)
    (phase : Phase) : ((ofProblem problem).phaseCosts phase).length ≤
      problem.standardTableau.numColumns := by
  cases phase with
  | one => simp [phaseCosts, phaseOneCosts, ofProblem, Tableau.numColumns]
  | two =>
    rw [phaseCosts, problem.length_costs]
    exact problem.numVariables_le_firstArtificial.trans problem.firstArtificial_le

variable {problem : LinearProgram Rat} {config : Config Rat} {run next : Run Rat}

namespace Run

/-- The run solves the problem in exact arithmetic: its tableau is canonical, equivalent to the
first one, and priced for the phase that the run is in. -/
structure IsSound (problem : LinearProgram Rat) (run : Run Rat) : Prop where
  form_eq : run.form = .ofProblem problem
  tolerance_pos : 0 < run.config.tolerance
  arity : problem.HasArity
  sameSystem : run.tableau.SameSystem problem.standardTableau
  canonical : run.tableau.IsCanonical
  prices (phase : Phase) (state : run.state = .iterating phase) :
    run.tableau.Prices (run.form.phaseCosts phase)

/-! ## The first state -/

theorem tolerance_pos_of_fault? (usable : config.fault? = none) : 0 < config.tolerance :=
  not_le.1 (Config.tolerance_of_fault? usable).2

theorem hasArity_of_defect? (wellFormed : problem.defect? = none) : problem.HasArity :=
  fun constraint member =>
    ((LinearProgram.defect?_eq_none_iff.1 wellFormed).constraint constraint member).length_eq

theorem isSound_of_create (created : Run.create problem config = .ok run) :
    run.IsSound problem := by
  obtain ⟨usable, wellFormed, rfl⟩ := create_eq_ok_iff.1 created
  exact {
    form_eq := rfl
    tolerance_pos := tolerance_pos_of_fault? usable
    arity := hasArity_of_defect? wellFormed
    sameSystem := .refl _
    canonical := problem.isCanonical_standardTableau
    prices := fun _ state => by cases state }

/-! ## One step -/

namespace IsSound

theorem numColumns_eq (sound : run.IsSound problem) :
    run.tableau.numColumns = problem.standardColumns.length := sound.sameSystem.numColumns_eq

theorem numDecision_eq (sound : run.IsSound problem) :
    run.form.numDecision = problem.numVariables := by
  rw [sound.form_eq]
  rfl

theorem firstArtificial_le (sound : run.IsSound problem) :
    run.form.firstArtificial ≤ run.tableau.numColumns := by
  rw [sound.form_eq, sound.numColumns_eq]
  exact problem.firstArtificial_le

theorem length_phaseCosts_le (sound : run.IsSound problem) (phase : Phase) :
    (run.form.phaseCosts phase).length ≤ run.tableau.numColumns := by
  rw [sound.form_eq, sound.numColumns_eq]
  exact StandardForm.length_phaseCosts_le problem phase

theorem numEligible_le (sound : run.IsSound problem) (phase : Phase) :
    run.numEligible phase ≤ run.tableau.numColumns := by
  cases phase with
  | one => rfl
  | two => exact sound.firstArtificial_le

/-- A non-negative solution in which all artificial columns are zero is a feasible point. -/
theorem feasible_of_solves (sound : run.IsSound problem) {v : Nat → Rat}
    (solves : run.tableau.Solves v) (point : v run.tableau.rhsIndex = -1)
    (nonneg : ∀ col < run.tableau.numColumns, 0 ≤ v col)
    (zero : ∀ col < run.tableau.numColumns, run.form.firstArtificial ≤ col → v col = 0) :
    problem.Feasible v := by
  rw [sound.numColumns_eq] at nonneg zero
  rw [sound.form_eq] at zero
  rw [Tableau.rhsIndex, sound.numColumns_eq] at point
  exact LinearProgram.feasible_of_solves sound.arity ((sound.sameSystem.solves_iff v).1 solves)
    point nonneg zero

/-- Only artificial columns are ever kept from entering. -/
theorem firstArtificial_le_numEligible (sound : run.IsSound problem) (phase : Phase) :
    run.form.firstArtificial ≤ run.numEligible phase := by
  cases phase with
  | one => exact sound.firstArtificial_le
  | two => rfl

/-- The eligible cells of the objective row. -/
theorem eligible_getElem? (sound : run.IsSound problem) {phase : Phase} {col : Nat}
    (eligible : col < run.numEligible phase) :
    (run.tableau.objectiveCells.take (run.numEligible phase))[col]? =
      some (run.tableau.cell 0 col) := by
  rw [List.getElem?_take_of_lt eligible]
  exact run.tableau.getElem?_objectiveCells (eligible.trans_le (sound.numEligible_le phase))

/-- An entering column is eligible, and its cell in the objective row is negative. -/
theorem enteringColumn_eq_some (sound : run.IsSound problem) {phase : Phase} {col : Nat}
    (enters : run.enteringColumn phase = some col) :
    col < run.numEligible phase ∧ run.tableau.cell 0 col < -run.config.tolerance := by
  obtain ⟨value, at_col, negative⟩ := PivotRule.isNegative_of_enteringColumn_eq_some enters
  have eligible : col < run.numEligible phase := by
    have present := (List.getElem?_eq_some_iff.1 at_col).1
    rw [List.length_take] at present
    omega
  rw [sound.eligible_getElem? eligible, Option.some_inj] at at_col
  exact ⟨eligible, at_col ▸ (isNegative_iff _ _).1 negative⟩

/-- The row that leaves has a positive cell in the entering column. -/
theorem cell_pos_of_leavingRow (sound : run.IsSound problem) {row col : Nat}
    (leaves : run.tableau.leavingRow col run.config.tolerance = some row) :
    0 < run.tableau.cell row col :=
  sound.tolerance_pos.trans ((isPositive_iff _ _).1 (Tableau.isPositive_of_leavingRow leaves).2)

/-- When no column enters, no eligible cell of the objective row is negative. -/
theorem enteringColumn_eq_none (sound : run.IsSound problem) {phase : Phase}
    (priced : run.enteringColumn phase = none) {col : Nat}
    (eligible : col < run.numEligible phase) :
    -run.config.tolerance ≤ run.tableau.cell 0 col := by
  have member := List.mem_of_getElem? (sound.eligible_getElem? eligible)
  have := PivotRule.not_isNegative_of_enteringColumn_eq_none priced member
  rwa [← not_lt, ← isNegative_iff, Bool.not_eq_true]

/-- The pivot that the ratio test asks for is made. -/
theorem exists_pivot (sound : run.IsSound problem) {phase : Phase} {row col : Nat}
    (enters : run.enteringColumn phase = some col)
    (leaves : run.tableau.leavingRow col run.config.tolerance = some row) :
    ∃ next, run.tableau.pivot row col run.config.tolerance = .ok next := by
  obtain ⟨row_mem, positive⟩ := Tableau.isPositive_of_leavingRow leaves
  rw [isPositive_iff] at positive
  rw [Tableau.mem_constraintIndices] at row_mem
  -- The cell is above the tolerance, and row and column are inside of the tableau.
  have row_lt : row < run.tableau.numRows := by
    rw [Tableau.numRows_eq]
    omega
  have col_lt := (sound.enteringColumn_eq_some enters).1.trans_le (sound.numEligible_le phase)
  exact ⟨_, Tableau.pivot_eq_ok_iff.2
    ⟨row_mem.1, row_lt, col_lt, positive.trans_le (le_abs_self _), rfl⟩⟩

/-- Driving out keeps the system, the identity of the basic columns and the objective. -/
theorem driveOut (sound : run.IsSound problem) {costs : List Rat}
    (prices : run.tableau.Prices costs) :
    let driven := (run.tableau.driveOut run.form.firstArtificial run.config.tolerance).tableau
    driven.SameSystem problem.standardTableau ∧ driven.IsCanonical ∧ driven.Prices costs := by
  refine Tableau.driveOutRows_induction
    (P := fun reached => reached.SameSystem problem.standardTableau ∧ reached.IsCanonical ∧
      reached.Prices costs)
    (fun before after row col ⟨same, canonical, prices⟩ _ _ _ made => ?_)
    ⟨sound.sameSystem, sound.canonical, prices⟩
  have exchange := Tableau.exchange_of_pivot sound.tolerance_pos.le made
  exact ⟨exchange.sameSystem.trans same, exchange.isCanonical canonical, exchange.prices prices⟩

/-- No step of a run in exact arithmetic fails. -/
theorem failure_eq_none (sound : run.IsSound problem) : run.step.failure = none := by
  have move := run.move_step
  generalize run.step.run = next at move
  cases failure : run.step.failure with
  | none => rfl
  | some error =>
    rw [failure] at move
    -- Only two moves fail, and the pivots that they refuse would be made.
    cases move with
    | refusePivot phase row col error state enters leaves refused =>
      obtain ⟨next, made⟩ := sound.exists_pivot enters leaves
      rw [made] at refused
      cases refused
    | refuseDriveOut error state priced accepted fails =>
      rw [Tableau.failure_driveOut sound.tolerance_pos.le sound.firstArtificial_le] at fails
      cases fails

/-- A new objective leaves a sound run, in the phase of the objective. -/
private theorem enter (sound : run.IsSound problem) {tableau : Tableau Rat}
    (same : tableau.SameSystem problem.standardTableau) (canonical : tableau.IsCanonical)
    (phase : Phase) : IsSound problem { run with
      tableau := tableau.withObjective (run.form.phaseCosts phase)
      state := .iterating phase } where
  form_eq := sound.form_eq
  tolerance_pos := sound.tolerance_pos
  arity := sound.arity
  sameSystem := (tableau.sameSystem_withObjective _).trans same
  canonical := Tableau.isCanonical_withObjective canonical
  prices other state := by
    obtain rfl : phase = other := RunState.iterating.inj state
    refine Tableau.prices_withObjective canonical ((sound.length_phaseCosts_le phase).trans ?_)
    rw [sound.numColumns_eq]
    exact (same.numColumns_eq.ge).trans (Nat.le_succ _)

/-- A run that is finished without a change of its tableau stays sound. -/
private theorem finish (sound : run.IsSound problem) (status : Status) :
    IsSound problem { run with state := .finished status } where
  form_eq := sound.form_eq
  tolerance_pos := sound.tolerance_pos
  arity := sound.arity
  sameSystem := sound.sameSystem
  canonical := sound.canonical
  prices := fun _ state => by cases state

/-- Every step of a sound run leads to a sound run. -/
theorem step (sound : run.IsSound problem) : run.step.run.IsSound problem := by
  have move := run.move_step
  rw [sound.failure_eq_none] at move
  generalize run.step.run = next at move
  -- A move installs an objective, ends the run or makes an exchange, and each of these keeps the
  -- invariant.
  cases move with
  | stay status state => exact sound
  | enterPhaseOne state needed => exact sound.enter sound.sameSystem sound.canonical .one
  | enterPhaseTwo state unneeded => exact sound.enter sound.sameSystem sound.canonical .two
  | reachCap phase col state enters reached => exact sound.finish _
  | findUnbounded phase col state enters below unlimited => exact sound.finish _
  | findOptimum state priced => exact sound.finish _
  | findInfeasible state priced negative => exact sound.finish _
  | driveOut state priced accepted succeeds =>
    obtain ⟨same, canonical, -⟩ := sound.driveOut (sound.prices .one state)
    exact sound.enter same canonical .two
  | pivot phase row col next state enters below leaves made =>
    have exchange := Tableau.exchange_of_pivot sound.tolerance_pos.le made
    exact {
      form_eq := sound.form_eq
      tolerance_pos := sound.tolerance_pos
      arity := sound.arity
      sameSystem := exchange.sameSystem.trans sound.sameSystem
      canonical := exchange.isCanonical sound.canonical
      prices := fun other state => exchange.prices (sound.prices other state) }

end IsSound

/-! ## Many steps -/

theorem isSound_after (sound : run.IsSound problem) (steps : Nat) :
    (run.after steps).IsSound problem := by
  induction steps with
  | zero => exact sound
  | succ steps ih =>
    rw [after_succ]
    exact ih.step

/-- Between two states of a run lies a move that does not fail. -/
theorem IsSound.move (sound : run.IsSound problem) (steps : Nat) :
    (run.after steps).Move (run.after (steps + 1)) none := by
  have move := run.move_after steps
  rwa [(isSound_after sound steps).failure_eq_none] at move

/-- A run ends in one step, for a reason that goes with its status. -/
theorem exists_ending (created : Run.create problem config = .ok run) {steps : Nat}
    {status : Status} (finished : (run.after steps).state = .finished status) :
    ∃ k < steps, run.after steps = { run.after k with state := .finished status } ∧
      (run.after k).EndsWith status := by
  have unfinished : run.state.status? = none := by
    obtain ⟨-, -, rfl⟩ := create_eq_ok_iff.1 created
    rfl
  obtain ⟨k, less, before, last⟩ := exists_finishing_step unfinished finished
  have move := (isSound_of_create created).move k
  rw [last] at move
  exact ⟨k, less, move.endsWith before finished⟩

/-- A sound run that is taken to its end has a solution. -/
private theorem exists_outcome_finishFrom (sound : run.IsSound problem) (detail : Detail)
    (journal : Array (Event Rat)) :
    ∃ solution, (run.finishFrom detail journal).outcome = .ok solution := by
  fun_induction finishFrom detail journal run with
  | case1 journal run status finished => exact ⟨_, rfl⟩
  | case2 journal run unfinished next journal' error fails =>
    rw [show next.failure = none from sound.failure_eq_none] at fails
    cases fails
  | case3 journal run unfinished next journal' succeeds ih => exact ih sound.step

end Run

/-- In exact arithmetic every problem that has a run has a solution. -/
theorem exists_solve_eq_ok (created : Run.create problem config = .ok run) :
    ∃ solution, solve problem config = .ok solution := by
  obtain ⟨solution, outcome⟩ := Run.exists_outcome_finishFrom (Run.isSound_of_create created)
    .nothing (run.creationEvents.filter Detail.nothing.keeps).toArray
  refine ⟨solution, ?_⟩
  rw [solve, solveWithJournal, created]
  dsimp only
  rw [outcome]

/-- The solution of a problem is read off the state in which its run is finished. -/
theorem solve_eq_of_finished (created : Run.create problem config = .ok run) {steps : Nat}
    {status : Status} (finished : (run.after steps).state = .finished status) :
    solve problem config = .ok ((run.after steps).solutionFor status) := by
  have sound := Run.isSound_of_create created
  obtain ⟨k, ends⟩ := Run.endsAfter_of_finished
    (fun j _ => (Run.isSound_after sound j).failure_eq_none) finished
  exact solve_eq_ok_iff.2 ⟨run, created, k, _, ends⟩

/-- A solution is read off the state before the last step, in which the reason for its status has
been found. -/
theorem exists_ending_of_solve (created : Run.create problem config = .ok run)
    {solution : Solution Rat} (solved : solve problem config = .ok solution) :
    ∃ k, (run.after k).EndsWith solution.status ∧
      solution = (run.after k).solutionFor solution.status := by
  obtain ⟨steps, status, finished, rfl⟩ := exists_after_of_solve created solved
  obtain ⟨k, -, last, ends⟩ := Run.exists_ending created finished
  have status_eq : ((run.after steps).solutionFor status).status = status := by
    cases status <;> rfl
  rw [status_eq]
  -- The last step changes nothing but the state, which no solution depends on.
  exact ⟨k, ends, by rw [last]; cases status <;> rfl⟩

end SimplexMethod
