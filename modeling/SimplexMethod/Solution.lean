import SimplexMethod.Assignment

/-!
# Solutions

A run that ends without an error has a solution: an optimum with its values, or the finding that
there is none.
-/

namespace SimplexMethod

/-- How a run ended. -/
inductive Status where
  | optimal
  /-- The objective grows beyond every bound. -/
  | unbounded
  /-- No point satisfies all constraints. -/
  | infeasible
  /-- The run has made all pivots it may make. -/
  | capReached
deriving DecidableEq

/-- The name of a status in one word. -/
def Status.name : Status → String
  | optimal => "Optimal"
  | unbounded => "Unbounded"
  | infeasible => "Infeasible"
  | capReached => "IterationLimitExceeded"

/-- The result of a run. -/
structure Solution (α : Type) where
  status : Status
  /-- The values of the decision variables of an optimum. -/
  values : Assignment α
  /-- The objective of an optimum, in the sense of the problem. -/
  objective : Option α
  pivots : Nat

namespace Solution

variable {α : Type}

/-- An optimum. -/
def optimum (values : Assignment α) (objective : α) (pivots : Nat) : Solution α :=
  ⟨.optimal, values, some objective, pivots⟩

/-- A result without values. -/
def withoutValues (status : Status) (pivots : Nat) : Solution α := ⟨status, .empty, none, pivots⟩

/-- Whether the result is an optimum. -/
def isOptimal (solution : Solution α) : Bool := decide (solution.status = .optimal)

/-- Equality up to the equality of numbers, by which an undefined number differs from itself. -/
instance [BEq α] : BEq (Solution α) where
  beq left right :=
    decide (left.status = right.status) && left.values == right.values &&
      left.objective == right.objective && left.pivots == right.pivots

end Solution

end SimplexMethod
