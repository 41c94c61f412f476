import SimplexMethod.Column
import SimplexMethod.Numeral
import SimplexMethod.Problem

/-!
# The .lp file format

A problem is written in sections: a comment with its name, the objective, the constraints if there
are any, and the lower bounds of the decision variables. A problem is written whether or not it is
well formed.
-/

namespace SimplexMethod

variable {α : Type} [Scalar α] [Numeral α]

/-- What precedes a term: a sign between two terms, and only a minus before the first one. -/
def signText (first negative : Bool) : String :=
  match first, negative with
  | true, true => "-"
  | true, false => ""
  | false, true => " - "
  | false, false => " + "

/-- A term with its sign. A magnitude of one is not written. -/
def termText (first : Bool) (coefficient : α) (index : Nat) : String :=
  let magnitude := Scalar.abs coefficient
  signText first (decide (coefficient < 0)) ++
    (if magnitude == 1 then "" else Numeral.text magnitude ++ " ") ++ (Column.decision index).name

/-- The terms that are not zero, with the index of their variable. -/
def nonzeroTerms (coefficients : List α) : List (α × Nat) :=
  coefficients.zipIdx.filter fun term => !(term.1 == 0)

/-- A linear expression; one without terms is written as zero. -/
def expressionText (coefficients : List α) : String :=
  match nonzeroTerms coefficients with
  | [] => "0"
  | (coefficient, index) :: rest =>
    termText true coefficient index ++
      String.join (rest.map fun term => termText false term.1 term.2)

/-- A constraint, its right-hand side last. -/
def Constraint.lpText (constraint : Constraint α) : String :=
  expressionText constraint.coefficients ++ " " ++ constraint.relation.text ++ " " ++
    Numeral.text constraint.rhs

/-- The heading of the objective. -/
def Sense.heading : Sense → String
  | minimize => "Minimize"
  | maximize => "Maximize"

namespace LinearProgram

/-- The lines of the constraints, numbered from zero. Without constraints a blank line stands in
their place. -/
def constraintSection (problem : LinearProgram α) : String :=
  if problem.constraints.isEmpty then "\n"
  else
    "\n\nSubject To\n" ++
      String.join (problem.constraints.zipIdx.map fun entry =>
        "  c" ++ toString entry.2 ++ ": " ++ entry.1.lpText ++ "\n")

/-- The lines of the bounds, one for each decision variable. -/
def boundSection (problem : LinearProgram α) : String :=
  "\nBounds\n" ++
    String.join ((List.range problem.numVariables).map fun index =>
      "  0 <= " ++ (Column.decision index).name ++ "\n")

/-- The .lp text of a problem. -/
def lpText (problem : LinearProgram α) : String :=
  "\\ " ++ problem.name ++ "\n\n" ++ problem.sense.heading ++ "\n  obj: " ++
    expressionText problem.objective ++ problem.constraintSection ++ problem.boundSection ++
    "\nEnd\n"

end LinearProgram

end SimplexMethod
