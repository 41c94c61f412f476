import SimplexMethod.Numeral
import SimplexMethod.Problem

/-!
# Malformed problems

A problem can be solved if it has an objective, every row has one coefficient per decision
variable, and every number is finite. `LinearProgram.defect?` reports the first place, in reading
order, where this fails.
-/

namespace SimplexMethod

/-- Why a problem cannot be solved. Constraints and coefficients are counted from zero. -/
inductive Defect (α : Type) where
  | emptyObjective
  | objectiveNotFinite (index : Nat) (value : α)
  | arity (constraint expected found : Nat)
  | coefficientNotFinite (constraint index : Nat) (value : α)
  | rhsNotFinite (constraint : Nat) (value : α)

variable {α : Type}

/-- The report of a defect. -/
def Defect.message [Numeral α] : Defect α → String
  | emptyObjective => "the objective has no coefficients"
  | objectiveNotFinite index value =>
    s!"objective coefficient {index} is not finite ({Numeral.text value})"
  | arity constraint expected found =>
    s!"constraint {constraint} has {found} coefficients, expected {expected}"
  | coefficientNotFinite constraint index value =>
    s!"coefficient {index} of constraint {constraint} is not finite ({Numeral.text value})"
  | rhsNotFinite constraint value =>
    s!"right-hand side of constraint {constraint} is not finite ({Numeral.text value})"

variable [Scalar α]

/-- The first number that is not finite, with its place. -/
def firstNotFinite? (values : List α) : Option (α × Nat) :=
  values.zipIdx.find? fun entry => !Scalar.isFinite entry.1

/-- The first defect of the constraint with number `index` in a problem of `width` decision
variables: its length is looked at before its coefficients, and its right-hand side last. -/
def Constraint.defect? (constraint : Constraint α) (width index : Nat) : Option (Defect α) :=
  if constraint.coefficients.length ≠ width then
    some (.arity index width constraint.coefficients.length)
  else
    match firstNotFinite? constraint.coefficients with
    | some (value, place) => some (.coefficientNotFinite index place value)
    | none =>
      if Scalar.isFinite constraint.rhs then none else some (.rhsNotFinite index constraint.rhs)

namespace LinearProgram

/-- The first defect of a problem: the objective is looked at before the constraints, and these in
their order. -/
def defect? (problem : LinearProgram α) : Option (Defect α) :=
  if problem.objective.isEmpty then some .emptyObjective
  else
    match firstNotFinite? problem.objective with
    | some (value, index) => some (.objectiveNotFinite index value)
    | none =>
      problem.constraints.zipIdx.findSome? fun entry =>
        entry.1.defect? problem.numVariables entry.2

/-- Accept a problem without defects. -/
def validate (problem : LinearProgram α) : Except (Defect α) Unit :=
  match problem.defect? with
  | some defect => .error defect
  | none => .ok ()

end LinearProgram

end SimplexMethod
