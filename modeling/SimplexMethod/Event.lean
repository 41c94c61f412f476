import SimplexMethod.Pricing
import SimplexMethod.Solution
import SimplexMethod.Tableau.Text

/-!
# Events of a run

A run tells what it does as a list of events. Events are data; their text is made when it is asked
for. An event belongs to the outline of the run or to its details.
-/

namespace SimplexMethod

/-- The two phases of a run. -/
inductive Phase where
  /-- Drives the artificial variables to zero. -/
  | one
  /-- Improves the objective of the problem. -/
  | two
deriving DecidableEq

/-- The name of a phase. -/
def Phase.name : Phase → String
  | one => "One"
  | two => "Two"

/-- How closely an event looks at a run. -/
inductive Level where
  | debug
  | trace
deriving DecidableEq

/-- The name of a level. -/
def Level.name : Level → String
  | debug => "DEBUG"
  | trace => "TRACE"

/-- Something that happened in a run. Columns appear by their names. -/
inductive Event (α : Type) where
  | standardForm (constraints decisions inequalities artificials : Nat)
  | created (rows columns artificials : Nat) (rule : PivotRule) (cap : Nat)
  | phaseOne (infeasibility : α)
  | phaseTwo (pivots : Nat) (objective : α)
  | capReached (cap : Nat) (phase : Phase) (objective : α)
  | unbounded (column : String) (pivots : Nat)
  /-- The pivot with the given number, on a cell with the given value. -/
  | pivot (number row col : Nat) (column : String) (value : α)
  | tableau (after : Tableau α)
  | infeasible (pivots : Nat) (artificialSum : α)
  | drivenOut (artificial : String) (row : Nat) (replacement : String)
  | redundant (row : Nat)
  | optimum (pivots : Nat) (objective : α)
  | solved (problem : String) (status : Status) (pivots : Nat)

namespace Event

variable {α : Type}

/-- Single pivots are details. -/
def level : Event α → Level
  | pivot .. | tableau .. | drivenOut .. | redundant .. => .trace
  | _ => .debug

/-- The text of an event. -/
def text [Numeral α] : Event α → String
  | standardForm constraints decisions inequalities artificials =>
    s!"standard form: {constraints} constraints, {decisions} decision, " ++
      s!"{inequalities} slack/surplus, {artificials} artificial columns"
  | created rows columns artificials rule cap =>
    s!"initialized simplex run: rows: {rows}, columns: {columns}, artificial: {artificials}, " ++
      s!"rule: {rule.name}, max iterations: {cap}"
  | phaseOne infeasibility => "phase 1: infeasibility " ++ Numeral.text infeasibility
  | phaseTwo pivots objective =>
    s!"phase 2 after {pivots} iterations: obj.: {Numeral.text objective}"
  | capReached cap phase objective =>
    s!"iteration limit {cap} reached in {phase.name}, obj.: {Numeral.text objective}"
  | unbounded column pivots => s!"unbounded along column {column} after {pivots} iterations"
  | pivot number row col column value =>
    s!"iteration {number}: pivot at row {row}, column {col} ({column} enters), " ++
      s!"value {Numeral.text value}"
  | tableau after => "tableau:\n" ++ after.text
  | infeasible pivots artificialSum =>
    s!"infeasible after {pivots} iterations: artificial sum {Numeral.text artificialSum}"
  | drivenOut artificial row replacement =>
    s!"driving {artificial} out of row {row} with {replacement}"
  | redundant row => s!"row {row} is redundant"
  | optimum pivots objective =>
    s!"found optimum in {pivots} iterations, obj.: {Numeral.text objective}"
  | solved problem status pivots => s!"solved {problem}: {status.name} after {pivots} iterations"

end Event

/-- Which events are kept: none, the outline of the run, or all of them. -/
inductive Detail where
  | nothing
  | outline
  | everything
deriving DecidableEq

/-- Whether an event is kept. -/
def Detail.keeps {α : Type} : Detail → Event α → Bool
  | nothing, _ => false
  | outline, event => decide (event.level = .debug)
  | everything, _ => true

end SimplexMethod
