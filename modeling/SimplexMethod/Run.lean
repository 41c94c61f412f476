import SimplexMethod.Event
import SimplexMethod.SolveError
import SimplexMethod.StandardForm

/-!
# Runs of the simplex method

A run takes a problem through its phases. It starts with the tableau of the standard form, pivots in
the first phase if there are artificial columns, pivots in the second phase, and finishes with a
status. An optimum is read off the last tableau.

## Main definitions

* `RunState`, `Run`: where a run stands
* `Run.create`: the run of a problem before its first step
* `Run.solution?`: the solution of a finished run
-/

namespace SimplexMethod

/-- Where a run stands. -/
inductive RunState where
  /-- No objective has entered the tableau. -/
  | initialized
  | iterating (phase : Phase)
  | finished (status : Status)
deriving DecidableEq

namespace RunState

/-- The status of a finished run. -/
def status? : RunState → Option Status
  | finished status => some status
  | _ => none

theorem status?_eq_some_iff {state : RunState} {status : Status} :
    state.status? = some status ↔ state = finished status := by
  cases state <;> simp [status?]

/-- Whether the run is over. -/
def isFinished (state : RunState) : Bool := state.status?.isSome

/-- The name of a state in one word. -/
def name : RunState → String
  | initialized => "Initialized"
  | iterating phase => "Iterating" ++ phase.name
  | finished status => status.name

end RunState

/-- A problem on its way through the simplex method. -/
structure Run (α : Type) where
  config : Config α
  /-- The standard form that the run started from. -/
  form : StandardForm α
  tableau : Tableau α
  state : RunState
  /-- The pivots made so far, without those that drive artificial columns out. -/
  pivots : Nat

namespace Run

variable {α : Type} [Scalar α]

/-- The run of a problem before its first step. The configuration is looked at before the
problem. -/
def create (problem : LinearProgram α) (config : Config α) : Except (SolveError α) (Run α) :=
  match config.fault? with
  | some fault => .error (.invalidConfig fault)
  | none =>
    match StandardForm.build problem with
    | .error defect => .error (.malformed defect)
    | .ok form => .ok ⟨config, form, form.tableau, .initialized, 0⟩

/-- The number of pivots that the run may make. -/
def cap (run : Run α) : Nat := run.config.pivotCap run.form.tableau

/-- The optimum that the tableau shows, in the sense of the problem. -/
def optimum (run : Run α) : Solution α :=
  let tolerance := run.config.tolerance
  let value := run.tableau.objectiveValue
  let objective := if run.form.negated then -value else value
  .optimum (.ofValues (run.tableau.basicSolution run.form.numDecision tolerance))
    (clean objective tolerance) run.pivots

/-- The solution of a run that has finished with a status. -/
def solutionFor (run : Run α) : Status → Solution α
  | .optimal => run.optimum
  | status => .withoutValues status run.pivots

/-- The solution of a finished run. -/
def solution? (run : Run α) : Option (Solution α) := run.state.status?.map run.solutionFor

end Run

/-- The report of a standard form. -/
def StandardForm.event {α : Type} [Scalar α] (form : StandardForm α) : Event α :=
  .standardForm form.tableau.numConstraints form.numDecision
    (form.firstArtificial - form.numDecision) form.numArtificial

/-- The reports of a run before its first step. -/
def Run.creationEvents {α : Type} [Scalar α] (run : Run α) : List (Event α) :=
  [run.form.event,
    .created run.form.tableau.numRows (run.form.tableau.numColumns + 1) run.form.numArtificial
      run.config.rule run.cap]

end SimplexMethod
