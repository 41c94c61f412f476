import SimplexMethod.Scalar
import SimplexMethod.Tolerance
import SimplexMethod.Numeral
import SimplexMethod.Decimal.Positional
import SimplexMethod.Decimal.Shortest
import SimplexMethod.Decimal.DoublePrecision
import SimplexMethod.Column
import SimplexMethod.Problem
import SimplexMethod.Problem.Defect
import SimplexMethod.LpFile
import SimplexMethod.Row
import SimplexMethod.Elimination
import SimplexMethod.Tableau
import SimplexMethod.Tableau.Pivot
import SimplexMethod.Tableau.Objective
import SimplexMethod.Tableau.Text
import SimplexMethod.StandardForm
import SimplexMethod.Pricing
import SimplexMethod.RatioTest
import SimplexMethod.Config
import SimplexMethod.Assignment
import SimplexMethod.Solution
import SimplexMethod.Report
import SimplexMethod.SolveError
import SimplexMethod.Event
import SimplexMethod.DriveOut
import SimplexMethod.Run
import SimplexMethod.Run.Step
import SimplexMethod.Run.Finish
import SimplexMethod.Solve
import SimplexMethod.Proofs.Tolerance
import SimplexMethod.Proofs.DoublePrecision
import SimplexMethod.Proofs.DoublePrecision.Word
import SimplexMethod.Proofs.Zero
import SimplexMethod.Proofs.Sign
import SimplexMethod.Proofs.Row
import SimplexMethod.Proofs.Row.Finite
import SimplexMethod.Proofs.Pricing
import SimplexMethod.Proofs.Tableau.Exchange
import SimplexMethod.Proofs.Tableau.Canonical
import SimplexMethod.Proofs.Tableau.Ray
import SimplexMethod.Proofs.Tableau.SameBasis
import SimplexMethod.Proofs.RatioTest
import SimplexMethod.Proofs.DriveOut
import SimplexMethod.Proofs.Feasible
import SimplexMethod.Proofs.StandardForm.Layout
import SimplexMethod.Proofs.StandardForm.Points
import SimplexMethod.Proofs.Problem.WellFormed
import SimplexMethod.Proofs.Run.Creation
import SimplexMethod.Proofs.Run.Moves
import SimplexMethod.Proofs.Run.Columns
import SimplexMethod.Proofs.Run.Length
import SimplexMethod.Proofs.Run.Truncation
import SimplexMethod.Proofs.Run.Sound
import SimplexMethod.Proofs.Run.Comparisons
import SimplexMethod.Proofs.Run.PhaseOne
import SimplexMethod.Proofs.Run.Feasibility
import SimplexMethod.Proofs.Run.PhaseTwo
import SimplexMethod.Proofs.Run.Artificials
import SimplexMethod.Proofs.Reading
import SimplexMethod.Proofs.Optimality
import SimplexMethod.Proofs.Bland
import SimplexMethod.Proofs.Run.Phases
import SimplexMethod.Proofs.Termination
import SimplexMethod.Proofs.StandardForm.Extent
import SimplexMethod.Proofs.Infeasibility
import SimplexMethod.Proofs.Unboundedness
import SimplexMethod.Proofs.ErrorBound
import SimplexMethod.Proofs.Run.Reach
import SimplexMethod.Proofs.Tableau.Identity
import SimplexMethod.Proofs.Tableau.Paths
import SimplexMethod.Proofs.Run.Identity
import SimplexMethod.Proofs.Problem.Rearrangement
import SimplexMethod.Proofs.Verdict
import SimplexMethod.Proofs.Tableau.Checked
import SimplexMethod.Proofs.Run.Checked
import SimplexMethod.Proofs.Failure
import SimplexMethod.Proofs.Problem.Respelling
import SimplexMethod.Proofs.Respelling
import SimplexMethod.Proofs.Decimal.Positional
import SimplexMethod.Proofs.Decimal.Shortest
import SimplexMethod.Proofs.Decimal.DoublePrecision
import SimplexMethod.Proofs.LpFile.Expression
import SimplexMethod.Proofs.LpFile
import SimplexMethod.Proofs.StandardForm.Allocation
import SimplexMethod.Proofs.StandardForm.Names
import SimplexMethod.Proofs.StandardForm.Completion
import SimplexMethod.Proofs.Progress
import SimplexMethod.Proofs.RatioTest.Ties
import SimplexMethod.Proofs.Redundancy
import SimplexMethod.Proofs.Tableau.InPlace
import SimplexMethod.Proofs.Tableau.Objective
import SimplexMethod.Proofs.Agreement
import SimplexMethod.Proofs.LpFile.Comment
import SimplexMethod.Proofs.Announcement
import SimplexMethod.Proofs.Report
import SimplexMethod.Proofs.Tableau.Replay
import SimplexMethod.Proofs.Journal
import SimplexMethod.Proofs.Problem.ReadingOrder
import SimplexMethod.Proofs.Comparison
import SimplexMethod.Proofs.Pricing.Choice
