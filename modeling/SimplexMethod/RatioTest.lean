import SimplexMethod.Tableau

/-!
# The ratio test

When a column enters the basis, every row with a positive cell in it limits how far the column can
grow, namely to the ratio of the right-hand side and the cell. A row with the least ratio leaves the
basis. Ratios within tolerance of each other count as equal, and of equal ratios the row whose
basic column comes first is taken.
-/

namespace SimplexMethod

variable {α : Type}

/-- A row that limits an entering column. -/
structure LimitingRow (α : Type) where
  row : Nat
  ratio : α
  basic : Nat

variable [Scalar α]

/-- Whether a row is taken instead of the best row so far. -/
def LimitingRow.beats (challenger best : LimitingRow α) (tolerance : α) : Bool :=
  if isZero (challenger.ratio - best.ratio) tolerance then
    decide (challenger.basic < best.basic)
  else decide (challenger.ratio < best.ratio)

/-- The best row so far, after one more has been seen. -/
def keepTightest (tolerance : α) (best : Option (LimitingRow α)) (challenger : LimitingRow α) :
    Option (LimitingRow α) :=
  match best with
  | some tightest =>
    if challenger.beats tightest tolerance then some challenger else some tightest
  | none => some challenger

namespace Tableau

/-- The rows that limit a column, in their order. -/
def limitingRows (tableau : Tableau α) (col : Nat) (tolerance : α) : List (LimitingRow α) :=
  (tableau.basicRows.zipIdx 1).filterMap fun entry =>
    let cells := entry.1.2
    if isPositive (cells.cell col) tolerance then
      some ⟨entry.2, tableau.rhsOf cells / cells.cell col, entry.1.1⟩
    else none

/-- The row that leaves the basis when column `col` enters, and none if no row limits it. -/
def leavingRow (tableau : Tableau α) (col : Nat) (tolerance : α) : Option Nat :=
  ((tableau.limitingRows col tolerance).foldl (keepTightest tolerance) none).map
    LimitingRow.row

/-- The leaving row for a column of which every constraint row has a cell. -/
def leavingRow? (tableau : Tableau α) (col : Nat) (tolerance : α) :
    Except MissingCell (Option Nat) :=
  match tableau.constraintRows.findIdx? (·.length ≤ col) with
  | some short => .error ⟨short + 1, col⟩
  | none => .ok (tableau.leavingRow col tolerance)

end Tableau

end SimplexMethod
