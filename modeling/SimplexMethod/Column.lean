/-!
# Columns

A tableau has one column per decision variable, one slack or surplus column per inequality, and one
artificial column per row that starts without a basic variable of its own. A column knows what it
belongs to, and its name is read off that.
-/

namespace SimplexMethod

/-- The role of a column. -/
inductive ColumnKind where
  | decision
  | slack
  | surplus
  | artificial
deriving DecidableEq

/-- A column of a tableau. Decision variables are counted from zero and constraint rows from one,
because row zero holds the objective. -/
inductive Column where
  | decision (index : Nat)
  /-- Takes up what a `<=` row leaves below its right-hand side. -/
  | slack (row : Nat)
  /-- Takes off what a `>=` row has above its right-hand side. -/
  | surplus (row : Nat)
  /-- Gives a row without a slack its first basic variable. -/
  | artificial (row : Nat)
deriving DecidableEq

namespace Column

/-- The role of a column. -/
def kind : Column → ColumnKind
  | decision _ => .decision
  | slack _ => .slack
  | surplus _ => .surplus
  | artificial _ => .artificial

/-- Whether a column is artificial. -/
def isArtificial (column : Column) : Bool := column.kind = .artificial

/-- The name of a column: a letter for its role and a number counted from one. -/
def name : Column → String
  | decision index => "x" ++ toString (index + 1)
  | slack row => "s" ++ toString row
  | surplus row => "e" ++ toString row
  | artificial row => "a" ++ toString row

end Column

end SimplexMethod
