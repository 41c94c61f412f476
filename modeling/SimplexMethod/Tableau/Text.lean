import SimplexMethod.Numeral
import SimplexMethod.Tableau

/-!
# Text of a tableau

A tableau is written as lines of fields between tabs: a heading with the names of the columns, and
one line per row, which starts with the name of its basic column.
-/

namespace SimplexMethod.Tableau

variable {α : Type}

/-- A line of fields between tabs. -/
def tabbedLine (fields : List String) : String := "\t".intercalate fields ++ "\n"

/-- The first field of a row: its basic column, or the objective. -/
def rowLabel (tableau : Tableau α) (row : Nat) : String :=
  match tableau.basicColumn? row with
  | some col => tableau.columnName col
  | none => "z"

/-- The text of a tableau. -/
def text [Numeral α] (tableau : Tableau α) : String :=
  tabbedLine ("basis" :: (tableau.columns.map Column.name ++ ["rhs"])) ++
    String.join (tableau.rows.zipIdx.map fun entry =>
      tabbedLine (tableau.rowLabel entry.2 :: entry.1.map Numeral.text))

end SimplexMethod.Tableau
