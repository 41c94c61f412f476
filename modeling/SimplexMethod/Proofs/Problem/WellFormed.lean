import SimplexMethod.Problem.Defect

/-!
# Well-formed problems

A problem is well formed if it has an objective, every row has one coefficient per decision
variable, and every number is finite. These are the problems without a defect. Nothing here depends
on the kind of numbers.

## Main definitions

* `Constraint.IsWellFormed`, `LinearProgram.IsWellFormed`

## Main results

* `LinearProgram.defect?_eq_none_iff`: the problems without a defect are the well-formed ones
-/

namespace SimplexMethod

variable {α : Type} [Scalar α]

/-- The constraint has as many coefficients as there are decision variables, and all of its numbers
are finite. -/
structure Constraint.IsWellFormed (constraint : Constraint α) (width : Nat) : Prop where
  length_eq : constraint.coefficients.length = width
  coefficients_finite : ∀ value ∈ constraint.coefficients, Scalar.isFinite value = true
  rhs_finite : Scalar.isFinite constraint.rhs = true

/-- The problem has an objective, all of its constraints fit it, and all numbers are finite. -/
structure LinearProgram.IsWellFormed (problem : LinearProgram α) : Prop where
  objective_ne_nil : problem.objective ≠ []
  objective_finite : ∀ value ∈ problem.objective, Scalar.isFinite value = true
  constraint : ∀ constraint ∈ problem.constraints,
    constraint.IsWellFormed problem.numVariables

/-- Numbering the entries of a list does not change what holds of all of them. -/
private theorem forall_mem_zipIdx {β : Type} {values : List β} (P : β → Prop) :
    (∀ entry ∈ values.zipIdx, P entry.1) ↔ ∀ value ∈ values, P value := by
  constructor
  · intro holds value member
    obtain ⟨index, inside, rfl⟩ := List.getElem_of_mem member
    exact holds (values[index], index)
      (List.mem_zipIdx_iff_getElem?.2 (List.getElem?_eq_getElem inside))
  · intro holds entry member
    exact holds entry.1 (List.mem_of_getElem? (List.mem_zipIdx_iff_getElem?.1 member))

theorem firstNotFinite?_eq_none_iff {values : List α} :
    firstNotFinite? values = none ↔ ∀ value ∈ values, Scalar.isFinite value = true := by
  simp only [firstNotFinite?, List.find?_eq_none, Bool.not_eq_true, Bool.not_eq_false']
  exact forall_mem_zipIdx (Scalar.isFinite · = true)

theorem Constraint.defect?_eq_none_iff {constraint : Constraint α} {width index : Nat} :
    constraint.defect? width index = none ↔ constraint.IsWellFormed width := by
  unfold Constraint.defect?
  constructor
  · intro sound
    split at sound
    · cases sound
    · rename_i same
      split at sound
      · cases sound
      · rename_i coefficients
        split at sound
        · rename_i rhs
          exact ⟨Decidable.not_not.1 same, firstNotFinite?_eq_none_iff.1 coefficients, rhs⟩
        · cases sound
  · rintro ⟨length_eq, coefficients_finite, rhs_finite⟩
    rw [if_neg (Decidable.not_not.2 length_eq), firstNotFinite?_eq_none_iff.2 coefficients_finite]
    exact if_pos rhs_finite

/-- Exactly the well-formed problems have no defect. -/
theorem LinearProgram.defect?_eq_none_iff {problem : LinearProgram α} :
    problem.defect? = none ↔ problem.IsWellFormed := by
  have constraints_iff : (problem.constraints.zipIdx.findSome? fun entry =>
      entry.1.defect? problem.numVariables entry.2) = none ↔
        ∀ constraint ∈ problem.constraints, constraint.IsWellFormed problem.numVariables := by
    simp only [List.findSome?_eq_none_iff, Constraint.defect?_eq_none_iff]
    exact forall_mem_zipIdx (Constraint.IsWellFormed · problem.numVariables)
  unfold LinearProgram.defect?
  constructor
  · intro sound
    split at sound
    · cases sound
    · rename_i nonempty
      split at sound
      · cases sound
      · rename_i objective
        exact ⟨fun empty => nonempty (by rw [empty]; rfl),
          firstNotFinite?_eq_none_iff.1 objective, constraints_iff.1 sound⟩
  · rintro ⟨objective_ne_nil, objective_finite, constraint⟩
    rw [if_neg (by simpa using objective_ne_nil), firstNotFinite?_eq_none_iff.2 objective_finite]
    exact constraints_iff.2 constraint

theorem LinearProgram.validate_eq_error_iff {problem : LinearProgram α} {defect : Defect α} :
    problem.validate = .error defect ↔ problem.defect? = some defect := by
  unfold LinearProgram.validate
  cases problem.defect? <;> simp

theorem LinearProgram.validate_eq_ok_iff {problem : LinearProgram α} :
    problem.validate = .ok () ↔ problem.defect? = none := by
  unfold LinearProgram.validate
  cases problem.defect? <;> simp

end SimplexMethod
