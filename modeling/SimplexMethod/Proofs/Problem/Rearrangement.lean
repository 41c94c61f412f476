import Mathlib.Algebra.BigOperators.Fin
import SimplexMethod.Proofs.Problem.WellFormed
import SimplexMethod.Proofs.StandardForm.Layout

/-!
# Problems with their variables and constraints in another order

A rearrangement of a problem lists the same variables and the same constraints in another order. Its
feasible points are those of the problem with their coordinates in the new order, and they have the
same values.

## Main definitions

* `LinearProgram.IsRearrangement`: one problem is a rearrangement of another one
* `LinearProgram.feasibleValues`: the values at feasible points of the objective that is to be made
  large

## Main results

* `LinearProgram.IsRearrangement.isWellFormed`: a rearrangement of a well-formed problem is well
  formed
* `LinearProgram.IsRearrangement.feasibleValues_eq`: a rearrangement has the same values
-/

namespace SimplexMethod

section Orders

variable {α : Type} [Scalar α] {width : Nat}

/-- The cells of a row in another order. -/
def Row.reorder (order : Equiv.Perm (Fin width)) (row : Row α) : Row α :=
  List.ofFn fun index => row.cell (order index)

/-- The constraint with its variables in another order. -/
def Constraint.reorder (order : Equiv.Perm (Fin width)) (constraint : Constraint α) :
    Constraint α :=
  { constraint with coefficients := Row.reorder order constraint.coefficients }

/-- The second problem has the variables of the first one in the given order, and its constraints in
any order. -/
structure LinearProgram.IsRearrangement (first second : LinearProgram α)
    (order : Equiv.Perm (Fin first.numVariables)) : Prop where
  sense_eq : second.sense = first.sense
  objective_eq : second.objective = Row.reorder order first.objective
  constraints_perm : second.constraints.Perm (first.constraints.map (Constraint.reorder order))

end Orders

variable {width : Nat} {order : Equiv.Perm (Fin width)}

/-- The point with its coordinates in another order. -/
def reorderPoint (order : Equiv.Perm (Fin width)) (x : Nat → Rat) (index : Nat) : Rat :=
  if inside : index < width then x (order ⟨index, inside⟩) else x index

theorem reorderPoint_val (x : Nat → Rat) (index : Fin width) :
    reorderPoint order x index = x (order index) := by
  simp [reorderPoint]

/-- Every point comes from one in the old order. -/
theorem reorderPoint_reorderPoint_symm (x : Nat → Rat) :
    reorderPoint order (reorderPoint order.symm x) = x := by
  funext index
  by_cases inside : index < width <;> simp [reorderPoint, inside]

namespace Row

@[simp] theorem length_reorder (row : Row Rat) : (row.reorder order).length = width :=
  List.length_ofFn

theorem cell_reorder (row : Row Rat) (index : Fin width) :
    (row.reorder order).cell index = row.cell (order index) := by
  simp [reorder, cell]

/-- A linear form does not notice a new order of the variables. -/
theorem dot_reorder {row : Row Rat} (length_eq : row.length = width) (x : Nat → Rat) :
    (row.reorder order).dot (reorderPoint order x) = row.dot x := by
  rw [dot_eq_sum (length_reorder row).le, dot_eq_sum length_eq.le, Finset.sum_range,
    Finset.sum_range]
  simp only [cell_reorder, reorderPoint_val]
  exact Equiv.sum_comp order fun index => row.cell index * x index

end Row

theorem Constraint.satisfied_reorder {constraint : Constraint Rat}
    (length_eq : constraint.coefficients.length = width) (x : Nat → Rat) :
    (constraint.reorder order).Satisfied (reorderPoint order x) ↔ constraint.Satisfied x := by
  rw [Satisfied, Satisfied, ← Row.dot_reorder length_eq x]
  rfl

namespace LinearProgram

/-- The values at feasible points of the objective of the standard form, which is always to be made
large. -/
def feasibleValues (problem : LinearProgram Rat) : Set Rat :=
  {value | ∃ x, problem.Feasible x ∧ Row.dot (StandardForm.ofProblem problem).costs x = value}

namespace IsRearrangement

variable {first second : LinearProgram Rat} {order : Equiv.Perm (Fin first.numVariables)}

theorem numVariables_eq (rearranged : first.IsRearrangement second order) :
    second.numVariables = first.numVariables := by
  rw [numVariables, rearranged.objective_eq, Row.length_reorder]

theorem mem_constraints_iff (rearranged : first.IsRearrangement second order)
    {constraint : Constraint Rat} : constraint ∈ second.constraints ↔
      ∃ source ∈ first.constraints, source.reorder order = constraint := by
  rw [rearranged.constraints_perm.mem_iff, List.mem_map]

theorem isWellFormed (rearranged : first.IsRearrangement second order)
    (wellFormed : first.IsWellFormed) : second.IsWellFormed where
  objective_ne_nil := by
    have nonempty : 0 < first.numVariables := List.length_pos_iff.2 wellFormed.objective_ne_nil
    rw [← rearranged.numVariables_eq] at nonempty
    exact List.length_pos_iff.1 nonempty
  objective_finite _ _ := rfl
  constraint constraint member := by
    obtain ⟨source, source_mem, rfl⟩ := rearranged.mem_constraints_iff.1 member
    exact ⟨(Row.length_reorder _).trans rearranged.numVariables_eq.symm, fun _ _ => rfl, rfl⟩

theorem value_eq (rearranged : first.IsRearrangement second order) (x : Nat → Rat) :
    second.value (reorderPoint order x) = first.value x := by
  rw [value, rearranged.objective_eq]
  exact Row.dot_reorder rfl x

theorem negated_eq (rearranged : first.IsRearrangement second order) :
    (StandardForm.ofProblem second).negated = (StandardForm.ofProblem first).negated := by
  rw [StandardForm.ofProblem, rearranged.sense_eq]
  rfl

theorem dot_costs_eq (rearranged : first.IsRearrangement second order) (x : Nat → Rat) :
    Row.dot (StandardForm.ofProblem second).costs (reorderPoint order x) =
      Row.dot (StandardForm.ofProblem first).costs x := by
  rw [dot_costs, dot_costs, rearranged.value_eq, rearranged.negated_eq]

/-- A point is feasible exactly if it is so in the new order. -/
theorem feasible_iff (rearranged : first.IsRearrangement second order)
    (wellFormed : first.IsWellFormed) (x : Nat → Rat) :
    second.Feasible (reorderPoint order x) ↔ first.Feasible x := by
  have satisfied_iff {source : Constraint Rat} (member : source ∈ first.constraints) :
      (source.reorder order).Satisfied (reorderPoint order x) ↔ source.Satisfied x :=
    Constraint.satisfied_reorder (wellFormed.constraint source member).length_eq x
  have nonneg_iff : (∀ index < second.numVariables, 0 ≤ reorderPoint order x index) ↔
      ∀ index < first.numVariables, 0 ≤ x index := by
    rw [rearranged.numVariables_eq]
    constructor
    · intro nonneg index inside
      have := nonneg (order.symm ⟨index, inside⟩) (Fin.is_lt _)
      rwa [reorderPoint_val, Equiv.apply_symm_apply] at this
    · intro nonneg index inside
      rw [reorderPoint, dif_pos inside]
      exact nonneg _ (Fin.is_lt _)
  constructor
  · intro feasible
    refine ⟨nonneg_iff.1 feasible.nonneg, fun source member => (satisfied_iff member).1 ?_⟩
    exact feasible.satisfied _ (rearranged.mem_constraints_iff.2 ⟨source, member, rfl⟩)
  · intro feasible
    refine ⟨nonneg_iff.2 feasible.nonneg, fun constraint member => ?_⟩
    obtain ⟨source, source_mem, rfl⟩ := rearranged.mem_constraints_iff.1 member
    exact (satisfied_iff source_mem).2 (feasible.satisfied source source_mem)

/-- The feasible points of a rearrangement have the same values. -/
theorem feasibleValues_eq (rearranged : first.IsRearrangement second order)
    (wellFormed : first.IsWellFormed) : second.feasibleValues = first.feasibleValues := by
  ext value
  constructor
  · rintro ⟨x, feasible, rfl⟩
    have back : reorderPoint order (reorderPoint order.symm x) = x :=
      reorderPoint_reorderPoint_symm x
    rw [← back] at feasible ⊢
    exact ⟨_, (rearranged.feasible_iff wellFormed _).1 feasible, (rearranged.dot_costs_eq _).symm⟩
  · rintro ⟨x, feasible, rfl⟩
    exact ⟨_, (rearranged.feasible_iff wellFormed x).2 feasible, rearranged.dot_costs_eq x⟩

end IsRearrangement

end LinearProgram

end SimplexMethod
