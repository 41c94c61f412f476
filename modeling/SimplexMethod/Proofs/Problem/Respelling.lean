import SimplexMethod.Proofs.Problem.WellFormed
import SimplexMethod.Proofs.Sign
import SimplexMethod.Proofs.Tableau.Exchange
import SimplexMethod.StandardForm

/-!
# Other spellings of a problem

The signs of both sides of a constraint can be changed together with its relation, and the signs of
the objective together with its sense. If no right-hand side is zero where this is done, the
standard form is the same, except for the note that the objective has changed its sign. This needs
exact changes of signs and nothing else of the numbers.

## Main definitions

* `LinearProgram.IsRespelling`: one problem is another spelling of another one
* `StandardForm.withNegated`: the standard form with another note on the sign of the objective

## Main results

* `LinearProgram.IsRespelling.isWellFormed`: a spelling of a well-formed problem is well formed
* `LinearProgram.IsRespelling.ofProblem_eq`: both spellings have one standard form
-/

namespace SimplexMethod

variable {α : Type}

/-- The other sense. -/
def Sense.opposite : Sense → Sense
  | minimize => maximize
  | maximize => minimize

/-- The standard form with another note on the sign of its objective. -/
def StandardForm.withNegated (form : StandardForm α) (negated : Bool) : StandardForm α :=
  { form with negated }

variable [Scalar α]

/-- The second constraint is the first one, or the first one with the signs of both sides changed if
its right-hand side is not zero. -/
def Constraint.IsRespelling (first second : Constraint α) : Prop :=
  second = first ∨ (first.rhs == 0) = false ∧ second = first.negated

/-- The second problem has the constraints of the first one, some of them with changed signs, and
its objective; if it is `swapped`, the signs of the objective and the sense are changed as well. -/
structure LinearProgram.IsRespelling (first second : LinearProgram α) (swapped : Bool) : Prop where
  constraints : List.Forall₂ Constraint.IsRespelling first.constraints second.constraints
  sense_eq : second.sense = if swapped then first.sense.opposite else first.sense
  objective_eq : second.objective = if swapped then first.objective.map (- ·) else first.objective

variable [LawfulSign α]

/-- Changing all signs twice gives the numbers back. -/
theorem map_neg_map_neg (values : List α) : (values.map (- ·)).map (- ·) = values := by
  rw [List.map_map]
  exact (List.map_congr_left fun value _ => LawfulSign.neg_neg value).trans values.map_id

theorem isFinite_of_mem_map_neg {values : List α}
    (finite : ∀ value ∈ values, Scalar.isFinite value = true) :
    ∀ value ∈ values.map (- ·), Scalar.isFinite value = true := by
  intro value member
  obtain ⟨old, old_mem, rfl⟩ := List.mem_map.1 member
  rw [LawfulSign.isFinite_neg]
  exact finite old old_mem

/-! ## Constraints -/

namespace Constraint

theorem negated_negated (constraint : Constraint α) : constraint.negated.negated = constraint := by
  simp only [negated, map_neg_map_neg, Relation.flipped_flipped, LawfulSign.neg_neg]

variable {first second : Constraint α} {width : Nat}

theorem IsRespelling.isWellFormed (respelled : first.IsRespelling second)
    (wellFormed : first.IsWellFormed width) : second.IsWellFormed width := by
  rcases respelled with rfl | ⟨-, rfl⟩
  · exact wellFormed
  · refine ⟨?_, isFinite_of_mem_map_neg wellFormed.coefficients_finite, ?_⟩
    · exact (List.length_map _).trans wellFormed.length_eq
    · exact (LawfulSign.isFinite_neg _).trans wellFormed.rhs_finite

/-- Of a constraint and its negation one has a negative right-hand side, and only its signs are
changed. -/
theorem IsRespelling.normalized_eq (respelled : first.IsRespelling second)
    (finite : Scalar.isFinite first.rhs = true) : second.normalized = first.normalized := by
  rcases respelled with rfl | ⟨nonzero, rfl⟩
  · rfl
  · have opposite : first.negated.rhs < 0 ↔ ¬first.rhs < 0 :=
      LawfulSign.neg_lt_zero_iff finite nonzero
    by_cases negative : first.rhs < 0
    · rw [normalized, if_neg (not_not_intro negative ∘ opposite.1), normalized, if_pos negative]
    · rw [normalized, if_pos (opposite.2 negative), negated_negated, normalized, if_neg negative]

end Constraint

/-! ## Problems -/

namespace LinearProgram.IsRespelling

variable {first second : LinearProgram α} {swapped : Bool}

omit [LawfulSign α] in
theorem numVariables_eq (respelled : first.IsRespelling second swapped) :
    second.numVariables = first.numVariables := by
  rw [numVariables, numVariables, respelled.objective_eq]
  cases swapped <;> simp

theorem isWellFormed (respelled : first.IsRespelling second swapped)
    (wellFormed : first.IsWellFormed) : second.IsWellFormed := by
  have length := respelled.numVariables_eq
  refine ⟨?_, ?_, fun constraint member => ?_⟩
  · refine List.ne_nil_of_length_pos ?_
    have := List.length_pos_of_ne_nil wellFormed.objective_ne_nil
    rw [numVariables, numVariables] at length
    omega
  · rw [respelled.objective_eq]
    cases swapped with
    | false => exact wellFormed.objective_finite
    | true => exact isFinite_of_mem_map_neg wellFormed.objective_finite
  · rw [length]
    obtain ⟨index, inside, rfl⟩ := List.getElem_of_mem member
    have inside' : index < first.constraints.length :=
      inside.trans_eq respelled.constraints.length_eq.symm
    exact (respelled.constraints.get inside' inside).isWellFormed
      (wellFormed.constraint _ (List.getElem_mem inside'))

theorem normalizedRows_eq (respelled : first.IsRespelling second swapped)
    (wellFormed : first.IsWellFormed) : second.normalizedRows = first.normalizedRows := by
  have normalized : second.constraints.map Constraint.normalized =
      first.constraints.map Constraint.normalized := by
    refine List.ext_getElem (by simpa using respelled.constraints.length_eq.symm) ?_
    intro index inside inside'
    rw [List.length_map] at inside inside'
    rw [List.getElem_map, List.getElem_map]
    exact (respelled.constraints.get inside' inside).normalized_eq
      (wellFormed.constraint _ (List.getElem_mem inside')).rhs_finite
  rw [normalizedRows, normalizedRows, normalized]

theorem standardTableau_eq (respelled : first.IsRespelling second swapped)
    (wellFormed : first.IsWellFormed) : second.standardTableau = first.standardTableau := by
  have rows := respelled.normalizedRows_eq wellFormed
  have columns : second.standardColumns = first.standardColumns := by
    simp only [standardColumns, decisionColumns, inequalityColumns, artificialColumns, rows,
      respelled.numVariables_eq]
  ext1
  · exact columns
  · simp only [standardTableau, columns, rows]
  · simp only [standardTableau, columns, rows]

/-- Both spellings have one standard form, with the objective in the sense of either problem. -/
theorem ofProblem_eq (respelled : first.IsRespelling second swapped)
    (wellFormed : first.IsWellFormed) :
    StandardForm.ofProblem second = (StandardForm.ofProblem first).withNegated
      ((StandardForm.ofProblem first).negated ^^ swapped) := by
  have rows := respelled.normalizedRows_eq wellFormed
  simp only [StandardForm.ofProblem, StandardForm.withNegated,
    respelled.standardTableau_eq wellFormed, respelled.numVariables_eq, inequalityColumns, rows,
    respelled.sense_eq, respelled.objective_eq]
  cases swapped with
  | false => simp
  | true =>
    -- The objective of a problem to be made small has its signs changed once more.
    cases sense : first.sense with
    | minimize => simp [Sense.opposite]
    | maximize => simp [Sense.opposite, map_neg_map_neg, -List.map_map]

end LinearProgram.IsRespelling

end SimplexMethod
