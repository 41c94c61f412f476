import SimplexMethod.Run.Finish

/-!
# Solving a problem

A solve creates the run of a problem, takes it to its end and gives its solution.
-/

namespace SimplexMethod

/-- What a solve gives: the events that were kept, and the solution or the failure. -/
structure SolveResult (α : Type) where
  journal : Array (Event α)
  outcome : Except (SolveError α) (Solution α)

variable {α : Type} [Scalar α]

/-- Solve a problem and keep the events of the given detail. A solve that fails before its run is
created has no events. -/
def solveWithJournal (detail : Detail) (problem : LinearProgram α) (config : Config α) :
    SolveResult α :=
  match Run.create problem config with
  | .error error => ⟨#[], .error error⟩
  | .ok run =>
    let ending := run.finishFrom detail (run.creationEvents.filter detail.keeps).toArray
    match ending.outcome with
    | .error error => ⟨ending.journal, .error (.pivot error)⟩
    | .ok solution =>
      let event : Event α := .solved problem.name solution.status solution.pivots
      ⟨ending.journal ++ [event].filter detail.keeps, .ok solution⟩

/-- Solve a problem. -/
def solve (problem : LinearProgram α) (config : Config α) : Except (SolveError α) (Solution α) :=
  (solveWithJournal .nothing problem config).outcome

/-- One pivot finds the optimum `12` of `max 3 x1 + 2 x2` subject to `x1 + x2 <= 4` and
`x1 + 3 x2 <= 6`. -/
example :
    (solve (α := Rat) ⟨"", .maximize, [3, 2], [⟨[1, 1], .atMost, 4⟩, ⟨[1, 3], .atMost, 6⟩]⟩
      { tolerance := 1 / 1000 }).toOption.map
        (fun solution => (solution.objective, solution.pivots)) = some (some 12, 1) := by
  decide +kernel

end SimplexMethod
