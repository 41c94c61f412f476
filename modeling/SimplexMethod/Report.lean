import SimplexMethod.Column
import SimplexMethod.Numeral
import SimplexMethod.Solution

/-!
# Reports

A solution is reported as lines of text: its status, the number of pivots, the objective if there is
one, and the values of the variables if there are any. A report can be put into a bounded room,
which keeps as much of it as fits.
-/

namespace SimplexMethod

/-- The words for a status. -/
def Status.text : Status → String
  | optimal => "Optimal"
  | unbounded => "Unbounded"
  | infeasible => "Infeasible"
  | capReached => "Iteration limit exceeded"

namespace Solution

variable {α : Type} [Numeral α]

/-- The line of the objective, if there is one. -/
def objectiveLine (solution : Solution α) : String :=
  match solution.objective with
  | some objective => "Objective: " ++ Numeral.text objective ++ "\n"
  | none => ""

/-- The line of a variable. -/
def valueLine (entry : Nat × α) : String :=
  "  " ++ (Column.decision entry.1).name ++ " = " ++ Numeral.text entry.2 ++ "\n"

/-- The section of the variables, if any has a value. -/
def valueSection (solution : Solution α) : String :=
  if solution.values.isEmpty then ""
  else "\nVariables\n" ++ String.join (solution.values.entries.map valueLine)

/-- The report of a solution. -/
def report (solution : Solution α) : String :=
  "Status: " ++ solution.status.text ++ "\n" ++
    "Iterations: " ++ toString solution.pivots ++ "\n" ++
    solution.objectiveLine ++ solution.valueSection

end Solution

/-- What a bounded room holds of a text. -/
structure Written where
  bytes : ByteArray
  /-- Whether the whole text found room. -/
  complete : Bool

/-- Put a text into a room of `capacity` bytes. -/
def Written.ofText (text : String) (capacity : Nat) : Written where
  bytes := text.toUTF8.extract 0 (min capacity text.utf8ByteSize)
  complete := decide (text.utf8ByteSize ≤ capacity)

end SimplexMethod
