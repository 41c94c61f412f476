import SimplexMethod.Proofs.RatioTest
import SimplexMethod.Proofs.Run.Columns
import SimplexMethod.Proofs.Tableau.Checked

/-!
# Steps whose reads are checked

Here a step asks for every cell, name and basic column that it uses, and fails at the first one that
is missing. No step of a run fails in this way: as the columns that are not artificial are columns
of the tableau, everything that a step asks for is there.

## Main definitions

* `Run.checkedStep`: a step with a check of every read
* `Run.checkedSolutionFor`: the solution of a finished run with a check of every read

## Main results

* `Run.checkedStep_eq`, `Run.checkedSolutionFor_eq`: no check fails
-/

namespace SimplexMethod

namespace Run

variable {α : Type} [Scalar α]

/-! ## Steps -/

/-- The first phase begins. -/
def checkedEnterPhaseOne (run : Run α) : Except Missing (Transition α) := do
  let tableau ← run.tableau.checkedWithObjective run.form.phaseOneCosts
  let value ← tableau.checkedObjectiveValue
  return ⟨{ run with tableau, state := .iterating .one }, [.phaseOne (-value)], none⟩

/-- The second phase begins. -/
def checkedEnterPhaseTwo (run : Run α) : Except Missing (Transition α) := do
  let tableau ← run.tableau.checkedWithObjective run.form.costs
  let value ← tableau.checkedObjectiveValue
  return ⟨{ run with tableau, state := .iterating .two }, [.phaseTwo run.pivots value], none⟩

/-- The first phase ends. -/
def checkedFinishPhaseOne (run : Run α) : Except Missing (Transition α) := do
  let objective ← run.tableau.checkedObjectiveValue
  if isNegative objective run.config.tolerance then
    return run.stop .infeasible (.infeasible run.pivots (-objective))
  else
    let driven ← run.tableau.checkedDriveOut run.form.firstArtificial run.config.tolerance
    let next := { run with tableau := driven.tableau }
    match driven.failure with
    | some error => return ⟨next, driven.events, some error⟩
    | none =>
      let entered ← next.checkedEnterPhaseTwo
      return { entered with events := driven.events ++ entered.events }

/-- A phase ends in which no column can enter the basis any more. -/
def checkedFinishPhase (run : Run α) : Phase → Except Missing (Transition α)
  | .one => run.checkedFinishPhaseOne
  | .two => do
    let value ← run.tableau.checkedObjectiveValue
    return run.stop .optimal (.optimum run.pivots value)

/-- The column that enters the basis next. -/
def checkedEnteringColumn (run : Run α) (phase : Phase) : Except Missing (Option Nat) := do
  let cells ← run.tableau.checkedObjectiveCells (run.numEligible phase)
  return run.config.rule.enteringColumn cells run.config.tolerance

/-- A counted pivot. -/
def checkedPivotAt (run : Run α) (row col : Nat) : Except Missing (Transition α) := do
  let name ← run.tableau.checkedName col
  let value ← run.tableau.checkedCell row col
  let event := .pivot (run.pivots + 1) row col name value
  match ← run.tableau.checkedPivot row col run.config.tolerance with
  | .error error => return ⟨run, [event], some error⟩
  | .ok tableau =>
    return ⟨{ run with tableau, pivots := run.pivots + 1 }, [event, .tableau tableau], none⟩

/-- A pivot of a phase, or the end of the phase. -/
def checkedIterate (run : Run α) (phase : Phase) : Except Missing (Transition α) := do
  match ← run.checkedEnteringColumn phase with
  | none => run.checkedFinishPhase phase
  | some col =>
    if run.cap ≤ run.pivots then
      let value ← run.tableau.checkedObjectiveValue
      return run.stop .capReached (.capReached run.cap phase value)
    else
      match ← run.tableau.checkedLeavingRow col run.config.tolerance with
      | none =>
        let name ← run.tableau.checkedName col
        return run.stop .unbounded (.unbounded name run.pivots)
      | some row => run.checkedPivotAt row col

/-- A step with a check of every read. -/
def checkedStep (run : Run α) : Except Missing (Transition α) :=
  match run.state with
  | .initialized =>
    if run.form.hasArtificials then run.checkedEnterPhaseOne else run.checkedEnterPhaseTwo
  | .iterating phase => run.checkedIterate phase
  | .finished _ => .ok ⟨run, [], none⟩

variable {run : Run α}

private theorem checkedEnterPhaseTwo_eq : run.checkedEnterPhaseTwo = .ok run.enterPhaseTwo := by
  simp only [checkedEnterPhaseTwo, Tableau.checkedWithObjective_eq,
    Tableau.checkedObjectiveValue_eq, ok_bind, pure_eq_ok, enterPhaseTwo]

private theorem checkedEnterPhaseOne_eq : run.checkedEnterPhaseOne = .ok run.enterPhaseOne := by
  simp only [checkedEnterPhaseOne, Tableau.checkedWithObjective_eq,
    Tableau.checkedObjectiveValue_eq, ok_bind, pure_eq_ok, enterPhaseOne]

section Inside

variable (bounded : run.form.firstArtificial ≤ run.tableau.numColumns)
include bounded

private theorem checkedFinishPhase_eq (phase : Phase) :
    run.checkedFinishPhase phase = .ok (run.finishPhase phase) := by
  cases phase with
  | two => simp only [checkedFinishPhase, Tableau.checkedObjectiveValue_eq, ok_bind, pure_eq_ok,
      finishPhase]
  | one =>
    simp only [checkedFinishPhase, checkedFinishPhaseOne, Tableau.checkedObjectiveValue_eq,
      Tableau.checkedDriveOut_eq bounded, checkedEnterPhaseTwo_eq, ok_bind, pure_eq_ok, finishPhase,
      finishPhaseOne]
    split
    · rfl
    · cases (run.tableau.driveOut run.form.firstArtificial run.config.tolerance).failure <;> rfl

private theorem checkedEnteringColumn_eq (phase : Phase) :
    run.checkedEnteringColumn phase = .ok (run.enteringColumn phase) := by
  have eligible : run.numEligible phase ≤ run.tableau.numColumns := by
    cases phase with
    | one => exact le_rfl
    | two => exact bounded
  simp only [checkedEnteringColumn, Tableau.checkedObjectiveCells_eq eligible, ok_bind, pure_eq_ok,
    enteringColumn]

omit bounded in
private theorem checkedPivotAt_eq {row col : Nat} (row_lt : row < run.tableau.numRows)
    (col_lt : col < run.tableau.numColumns) :
    run.checkedPivotAt row col = .ok (run.pivotAt row col) := by
  simp only [checkedPivotAt, Tableau.checkedName_eq col_lt, Tableau.checkedCell_eq row_lt col_lt.le,
    Tableau.checkedPivot_eq, ok_bind, pure_eq_ok, pivotAt]
  cases run.tableau.pivot row col run.config.tolerance <;> rfl

private theorem checkedIterate_eq (phase : Phase) :
    run.checkedIterate phase = .ok (run.iterate phase) := by
  simp only [checkedIterate, checkedEnteringColumn_eq bounded, ok_bind, iterate]
  cases enters : run.enteringColumn phase with
  | none => exact checkedFinishPhase_eq bounded phase
  | some col =>
    have col_lt := (lt_of_enteringColumn enters).2
    simp only [Tableau.checkedObjectiveValue_eq, Tableau.checkedLeavingRow_eq col_lt.le,
      Tableau.checkedName_eq col_lt, ok_bind, pure_eq_ok]
    split
    · rfl
    · cases leaves : run.tableau.leavingRow col run.config.tolerance with
      | none => rfl
      | some row =>
        have row_mem := (Tableau.isPositive_of_leavingRow leaves).1
        exact checkedPivotAt_eq (Tableau.lt_numRows_of_mem row_mem) col_lt

/-- A step asks for nothing that is missing. -/
theorem checkedStep_eq : run.checkedStep = .ok run.step := by
  unfold checkedStep step
  cases run.state with
  | initialized =>
    simp only [start, checkedEnterPhaseOne_eq, checkedEnterPhaseTwo_eq]
    split <;> rfl
  | iterating phase => exact checkedIterate_eq bounded phase
  | finished status => rfl

end Inside

/-! ## Solutions -/

/-- The solution of a run that has finished with a status, with a check of every read. -/
def checkedSolutionFor (run : Run α) : Status → Except Missing (Solution α)
  | .optimal => do
    let tolerance := run.config.tolerance
    let values ← run.tableau.checkedBasicSolution run.form.numDecision tolerance
    let value ← run.tableau.checkedObjectiveValue
    let objective := if run.form.negated then -value else value
    return .optimum (.ofValues values) (clean objective tolerance) run.pivots
  | status => return .withoutValues status run.pivots

theorem checkedSolutionFor_eq (status : Status) :
    run.checkedSolutionFor status = .ok (run.solutionFor status) := by
  cases status with
  | optimal =>
    simp only [checkedSolutionFor, Tableau.checkedBasicSolution_eq,
      Tableau.checkedObjectiveValue_eq, ok_bind, pure_eq_ok, solutionFor, optimum]
  | unbounded | infeasible | capReached => rfl

end Run

end SimplexMethod
