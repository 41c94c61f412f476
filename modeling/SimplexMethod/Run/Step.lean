import SimplexMethod.DriveOut
import SimplexMethod.RatioTest
import SimplexMethod.Run
import SimplexMethod.Tableau.Objective

/-!
# Steps of a run

A step lets the objective of a phase enter the tableau, makes one pivot, or ends a phase. The first
phase ends the run if the artificial variables cannot be brought to zero; otherwise artificial
columns are driven out of the basis and the second phase begins. Artificial columns may enter the
basis in the first phase only.
-/

namespace SimplexMethod

/-- What a step leads to: the run after it, what was done, and the pivot that failed. -/
structure Transition (α : Type) where
  run : Run α
  events : List (Event α)
  failure : Option (PivotError α)

namespace Run

variable {α : Type} [Scalar α]

/-- End the run. -/
def stop (run : Run α) (status : Status) (event : Event α) : Transition α :=
  ⟨{ run with state := .finished status }, [event], none⟩

/-- Begin the first phase. -/
def enterPhaseOne (run : Run α) : Transition α :=
  let tableau := run.tableau.withObjective run.form.phaseOneCosts
  ⟨{ run with tableau, state := .iterating .one }, [.phaseOne (-tableau.objectiveValue)], none⟩

/-- Begin the second phase. -/
def enterPhaseTwo (run : Run α) : Transition α :=
  let tableau := run.tableau.withObjective run.form.costs
  ⟨{ run with tableau, state := .iterating .two },
    [.phaseTwo run.pivots tableau.objectiveValue], none⟩

/-- Begin the first phase that the problem needs. -/
def start (run : Run α) : Transition α :=
  if run.form.hasArtificials then run.enterPhaseOne else run.enterPhaseTwo

/-- End the first phase: stop if the artificial variables are not zero, and otherwise drive their
columns out of the basis and begin the second phase. -/
def finishPhaseOne (run : Run α) : Transition α :=
  let tolerance := run.config.tolerance
  -- The objective of the first phase is minus the sum of the artificial variables.
  let objective := run.tableau.objectiveValue
  if isNegative objective tolerance then
    run.stop .infeasible (.infeasible run.pivots (-objective))
  else
    let driven := run.tableau.driveOut run.form.firstArtificial tolerance
    let next := { run with tableau := driven.tableau }
    match driven.failure with
    | some error => ⟨next, driven.events, some error⟩
    | none =>
      let entered := next.enterPhaseTwo
      { entered with events := driven.events ++ entered.events }

/-- End a phase in which no column can enter the basis any more. -/
def finishPhase (run : Run α) : Phase → Transition α
  | .one => run.finishPhaseOne
  | .two => run.stop .optimal (.optimum run.pivots run.tableau.objectiveValue)

/-- The number of columns that may enter the basis, which come first. -/
def numEligible (run : Run α) : Phase → Nat
  | .one => run.tableau.numColumns
  | .two => run.form.firstArtificial

/-- The column that enters the basis next. -/
def enteringColumn (run : Run α) (phase : Phase) : Option Nat :=
  run.config.rule.enteringColumn (run.tableau.objectiveCells.take (run.numEligible phase))
    run.config.tolerance

/-- Make one counted pivot. -/
def pivotAt (run : Run α) (row col : Nat) : Transition α :=
  let event :=
    .pivot (run.pivots + 1) row col (run.tableau.columnName col) (run.tableau.cell row col)
  match run.tableau.pivot row col run.config.tolerance with
  | .error error => ⟨run, [event], some error⟩
  | .ok tableau =>
    ⟨{ run with tableau, pivots := run.pivots + 1 }, [event, .tableau tableau], none⟩

/-- Make a pivot of a phase, or end the phase. The cap is looked at once a column is known to enter,
and before a row is known to leave. -/
def iterate (run : Run α) (phase : Phase) : Transition α :=
  match run.enteringColumn phase with
  | none => run.finishPhase phase
  | some col =>
    if run.cap ≤ run.pivots then
      run.stop .capReached (.capReached run.cap phase run.tableau.objectiveValue)
    else
      match run.tableau.leavingRow col run.config.tolerance with
      | none => run.stop .unbounded (.unbounded (run.tableau.columnName col) run.pivots)
      | some row => run.pivotAt row col

/-- Make one step. A finished run stays as it is. -/
def step (run : Run α) : Transition α :=
  match run.state with
  | .initialized => run.start
  | .iterating phase => run.iterate phase
  | .finished _ => ⟨run, [], none⟩

/-- At most `limit` steps, up to the one that finishes the run or fails. -/
def trace (run : Run α) : Nat → List (Transition α)
  | 0 => []
  | limit + 1 =>
    if run.state.isFinished then []
    else
      let next := run.step
      next :: if next.failure.isSome then [] else next.run.trace limit

end Run

end SimplexMethod
