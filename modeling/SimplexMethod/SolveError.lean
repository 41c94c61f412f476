import SimplexMethod.Config
import SimplexMethod.Problem.Defect
import SimplexMethod.Tableau.Pivot

/-!
# Failures of a solve

A solve fails on an unusable configuration, on a malformed problem, and on a pivot that is refused.
That a problem has no optimum is not a failure.
-/

namespace SimplexMethod

/-- Why a solve gives no solution. -/
inductive SolveError (α : Type) where
  | malformed (defect : Defect α)
  | invalidConfig (fault : ConfigFault α)
  | pivot (error : PivotError α)

/-- The report of a failure. -/
def SolveError.message {α : Type} [Numeral α] : SolveError α → String
  | malformed defect => "malformed input: " ++ defect.message
  | invalidConfig fault => "invalid solver configuration: " ++ fault.message
  | pivot error => error.message

end SimplexMethod
