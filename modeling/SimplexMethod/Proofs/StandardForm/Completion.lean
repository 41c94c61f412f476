import SimplexMethod.Proofs.Problem.WellFormed
import SimplexMethod.Proofs.Run.Feasibility
import SimplexMethod.Proofs.StandardForm.Names

/-!
# A problem and its standard form have the same solutions

A point satisfies the constraints of a problem exactly if slack and surplus columns can be given
values that are not negative so that every row of the first tableau holds with all artificial
columns at zero. There is only one way to give these values, since each of the columns stands in a
row of its own.

## Main definitions

* `StandardForm.Completes`: values of all columns that continue a point and solve the tableau

## Main results

* `StandardForm.Completes.eq`: a point is completed in one way
* `LinearProgram.satisfied_iff_completes`: the points that can be completed without negative values
  are those that satisfy the constraints
* `StandardForm.build_preserves_solutions`: the standard form of a valid problem
-/

namespace SimplexMethod

/-- Values of all columns that continue a point: the decision columns take its values, the
artificial columns are zero, and every row of the first tableau holds, with `-1` in the place of the
right-hand side. -/
structure StandardForm.Completes (form : StandardForm Rat) (x v : Nat → Rat) : Prop where
  decision : ∀ index < form.numDecision, v index = x index
  artificial : ∀ col < form.tableau.numColumns, form.firstArtificial ≤ col → v col = 0
  rhs : v form.tableau.rhsIndex = -1
  solves : form.tableau.Solves v

/-- The slack and surplus columns have no negative values. -/
def StandardForm.HasSlack (form : StandardForm Rat) (v : Nat → Rat) : Prop :=
  ∀ col, form.numDecision ≤ col → col < form.firstArtificial → 0 ≤ v col

namespace LinearProgram

variable {problem : LinearProgram Rat} {x v w : Nat → Rat}

/-- A linear form in the decision variables has the value that it has at the completed point. -/
private theorem dot_completes (completes : (StandardForm.ofProblem problem).Completes x v)
    {row : Row Rat} (fits : row.length ≤ problem.numVariables) : row.dot v = row.dot x :=
  Row.dot_congr fun index inside => completes.decision index (inside.trans_le fits)

/-! ## Completing a point -/

theorem completes_extend (arity : problem.HasArity)
    (satisfied : ∀ constraint ∈ problem.constraints, constraint.Satisfied x) :
    (StandardForm.ofProblem problem).Completes x (problem.extend x) where
  decision _ inside := extend_decision x inside
  artificial _ inside late := extend_artificial x inside late
  rhs := extend_rhsIndex x
  solves := solves_extend arity satisfied

/-- The columns between the decision columns and the artificial ones belong to inequalities. -/
theorem getElem_mem_inequalityColumns {col : Nat} (inside : col < problem.standardColumns.length)
    (behind : problem.numVariables ≤ col)
    (early : col < (StandardForm.ofProblem problem).firstArtificial) :
    problem.standardColumns[col] ∈ problem.inequalityColumns := by
  rw [← length_early_columns] at early
  have column : problem.standardColumns[col] =
      (problem.decisionColumns ++ problem.inequalityColumns)[col] := List.getElem_append_left early
  rw [column, List.getElem_append_right (problem.length_decisionColumns ▸ behind)]
  exact List.getElem_mem _

theorem hasSlack_extend (x : Nat → Rat) :
    (StandardForm.ofProblem problem).HasSlack (problem.extend x) := by
  intro col behind early
  have inside : col < problem.standardColumns.length := early.trans_le problem.firstArtificial_le
  obtain ⟨row, same⟩ := problem.mem_inequalityColumns
    (getElem_mem_inequalityColumns inside behind early)
  rw [extend_of_lt x inside]
  rcases same with same | same <;> rw [same] <;> exact slackness_nonneg x row

/-- The constraints hold at a point exactly if it can be completed without negative values. -/
theorem satisfied_iff_completes (arity : problem.HasArity) :
    (∀ constraint ∈ problem.constraints, constraint.Satisfied x) ↔
      ∃ v, (StandardForm.ofProblem problem).Completes x v ∧
        (StandardForm.ofProblem problem).HasSlack v := by
  constructor
  · exact fun satisfied => ⟨problem.extend x, completes_extend arity satisfied, hasSlack_extend x⟩
  · rintro ⟨v, completes, slack⟩ constraint member
    have satisfied : constraint.Satisfied v := by
      refine satisfied_of_solves arity completes.solves completes.rhs (fun col inside behind => ?_)
        completes.artificial constraint member
      rcases lt_or_ge col (StandardForm.ofProblem problem).firstArtificial with early | late
      · exact slack col behind early
      · exact (completes.artificial col inside late).ge
    rwa [Constraint.Satisfied, ← dot_completes completes (arity constraint member).le]

/-- The points that are feasible are those that can be completed to a solution without negative
values. -/
theorem feasible_iff_completes (arity : problem.HasArity) :
    problem.Feasible x ↔ ∃ v, (StandardForm.ofProblem problem).Completes x v ∧
      ∀ col < (StandardForm.ofProblem problem).tableau.numColumns, 0 ≤ v col := by
  constructor
  · intro feasible
    exact ⟨problem.extend x, completes_extend arity feasible.satisfied,
      fun col inside => extend_nonneg feasible inside⟩
  · rintro ⟨v, completes, nonneg⟩
    have decisions : problem.numVariables ≤ problem.standardColumns.length :=
      problem.numVariables_le_firstArtificial.trans problem.firstArtificial_le
    refine ⟨fun index inside => ?_, (satisfied_iff_completes arity).2 ⟨v, completes, ?_⟩⟩
    · exact completes.decision index inside ▸ nonneg index (inside.trans_le decisions)
    · exact fun col _ early => nonneg col (early.trans_le problem.firstArtificial_le)

/-! ## The completion is unique -/

/-- The share of the slack or surplus column of a row is what its constraint leaves open. -/
theorem slackShare_completes (arity : problem.HasArity)
    (completes : (StandardForm.ofProblem problem).Completes x v) {constraint : Constraint Rat}
    {row : Nat} (member : (constraint, row) ∈ problem.normalizedRows) :
    slackShare constraint.relation row (problem.valueOf v) =
      constraint.rhs - Row.dot constraint.coefficients x := by
  have width := arity_normalizedRow arity member
  have artificial : artificialShare constraint.relation row (problem.valueOf v) = 0 := by
    have zero (own : constraint.relation.artificialColumn? row = some (.artificial row)) :
        problem.valueOf v (.artificial row) = 0 := by
      have present := List.idxOf_lt_length_iff.2 (artificialColumn_mem member own)
      refine completes.artificial _ present ((problem.isArtificial_iff present).1 ?_)
      rw [List.getElem_idxOf]
      rfl
    cases relation : constraint.relation with
    | atMost => rfl
    | atLeast | equal => exact zero (by rw [relation]; rfl)
  have value := completes.solves row (normalizedRow_mem member)
  change problem.standardTableau.dot row v = 0 at value
  have rhs : v problem.standardTableau.rhsIndex = -1 := completes.rhs
  rw [dot_standardTableau member width (eq_valueOf v), dot_completes completes width.le, artificial,
    rhs] at value
  linarith

end LinearProgram

/-- A point is completed in one way, whatever the signs of the values. -/
theorem StandardForm.Completes.eq {problem : LinearProgram Rat} {x v w : Nat → Rat}
    (arity : problem.HasArity) (first : (ofProblem problem).Completes x v)
    (second : (ofProblem problem).Completes x w) :
    ∀ col ≤ (ofProblem problem).tableau.numColumns, v col = w col := by
  intro col le
  rcases le.eq_or_lt with rfl | inside
  · exact first.rhs.trans second.rhs.symm
  rcases lt_or_ge col (ofProblem problem).firstArtificial with early | late
  · rcases lt_or_ge col problem.numVariables with decision | behind
    · rw [first.decision col decision, second.decision col decision]
    · -- The column belongs to a row, in which it is the only one that is not known yet.
      obtain ⟨⟨constraint, row⟩, member, picked⟩ := List.mem_filterMap.1
        (LinearProgram.getElem_mem_inequalityColumns inside behind early)
      have same := (LinearProgram.slackShare_completes arity first member).trans
        (LinearProgram.slackShare_completes arity second member).symm
      rw [LinearProgram.eq_valueOf v col inside, LinearProgram.eq_valueOf w col inside]
      cases relation : constraint.relation <;>
        simp only [relation, Relation.inequalityColumn?, Option.some_inj, reduceCtorEq,
          LinearProgram.slackShare, neg_inj] at picked same
      · rw [← picked, same]
      · rw [← picked, same]
  · rw [first.artificial col inside late, second.artificial col inside late]

/-! ## The standard form of a valid problem -/

/-- A valid problem and its standard form have the same solutions. The feasible points are those
that can be completed without negative values, at any point the constraints hold exactly if no slack
and no surplus has to be negative, and a completion is unique. The costs are the objective, up to
the sign that the form tells, and the first tableau has an identity in its basic columns and
right-hand sides that are not negative. -/
theorem StandardForm.build_preserves_solutions {problem : LinearProgram Rat}
    (valid : problem.validate = .ok ()) :
    ∃ form, build problem = .ok form ∧
      (∀ x, problem.Feasible x ↔ ∃ v, form.Completes x v ∧
        ∀ col < form.tableau.numColumns, 0 ≤ v col) ∧
      (∀ x, (∀ constraint ∈ problem.constraints, constraint.Satisfied x) ↔
        ∃ v, form.Completes x v ∧ form.HasSlack v) ∧
      (∀ x v w, form.Completes x v → form.Completes x w →
        ∀ col ≤ form.tableau.numColumns, v col = w col) ∧
      (∀ x, Row.dot form.costs x = if form.negated then -problem.value x else problem.value x) ∧
      (form.negated = true ↔ problem.sense = .minimize) ∧
      form.tableau.IsFeasible ∧ form.tableau.IsCanonical := by
  have wellFormed := LinearProgram.validate_eq_ok_iff.1 valid
  have arity : problem.HasArity := fun constraint member =>
    ((LinearProgram.defect?_eq_none_iff.1 wellFormed).constraint constraint member).length_eq
  refine ⟨ofProblem problem, build_eq_ok_iff.2 ⟨wellFormed, rfl⟩,
    fun _ => LinearProgram.feasible_iff_completes arity,
    fun _ => LinearProgram.satisfied_iff_completes arity,
    fun _ _ _ first second => first.eq arity second, problem.dot_costs, ?_,
    problem.isFeasible_standardTableau, problem.isCanonical_standardTableau⟩
  exact decide_eq_true_iff

/-- The point with the values one and three is feasible, so its completion is a solution. -/
theorem StandardForm.build_preserves_solutions_mixedProblem :
    LinearProgram.mixedProblem.validate = .ok () ∧
    LinearProgram.mixedProblem.Feasible (fun index => if index = 0 then 1 else 3) ∧
    ∃ form, build LinearProgram.mixedProblem = .ok form ∧
      ∃ v, form.Completes (fun index => if index = 0 then 1 else 3) v ∧
        ∀ col < form.tableau.numColumns, 0 ≤ v col := by
  have feasible :
      LinearProgram.mixedProblem.Feasible (fun index => if index = 0 then 1 else 3) := by
    refine ⟨fun index _ => by split <;> norm_num, ?_⟩
    simp [LinearProgram.mixedProblem, Constraint.Satisfied, Relation.Holds, Row.dot, Row.cell,
      Finset.sum_range_succ]
    norm_num
  obtain ⟨form, built, same, -⟩ :=
    build_preserves_solutions LinearProgram.validate_mixedProblem
  exact ⟨LinearProgram.validate_mixedProblem, feasible, form, built, (same _).1 feasible⟩

end SimplexMethod
