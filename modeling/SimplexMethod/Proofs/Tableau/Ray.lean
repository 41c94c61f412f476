import SimplexMethod.Proofs.Tableau.Canonical

/-!
# Rays of a canonical tableau

Moving one column that is not basic by a unit, and the basic columns with it, gives a solution of
all constraint rows: the ray of that column. The right-hand side counts as such a column too; its
ray is the basic solution of the tableau with all signs changed. So the cells of the objective row,
the value of the objective among them, are read off the rays.

## Main definitions

* `Tableau.ray`: the ray of a column
* `Tableau.basicPoint`: the basic solution

## Main results

* `Tableau.solves_ray`, `Tableau.dot_zero_ray`: a ray solves the constraint rows, and the objective
  row takes it to the cell of its column
* `Tableau.Prices.cell_eq`, `Tableau.Prices.objectiveValue_eq`: the cells of the objective row and
  the value of the objective in terms of the costs
-/

namespace SimplexMethod

namespace Tableau

/-- The direction in which column `col` grows by one, the basic columns make up for it, and all
others stay. -/
def ray (tableau : Tableau Rat) (col : Nat) : Nat → Rat := fun j =>
  (if j = col then 1 else 0) -
    ∑ row ∈ tableau.constraintIndices,
      if tableau.basicColumn row = j then tableau.cell row col else 0

/-- The values of all columns when those outside of the basis are zero. -/
def basicPoint (tableau : Tableau Rat) : Nat → Rat := fun j =>
  ∑ row ∈ tableau.constraintIndices,
    if tableau.basicColumn row = j then tableau.cell row tableau.rhsIndex else 0

/-- No constraint row has `col` as its basic column. -/
def IsNonbasic (tableau : Tableau Rat) (col : Nat) : Prop :=
  ∀ row ∈ tableau.constraintIndices, tableau.basicColumn row ≠ col

variable {tableau : Tableau Rat} {col : Nat}

theorem isNonbasic_iff : tableau.IsNonbasic col ↔ col ∉ tableau.basis := by
  simp [IsNonbasic, mem_basis_iff]

theorem isNonbasic_or_basic (tableau : Tableau Rat) (col : Nat) :
    tableau.IsNonbasic col ∨ ∃ row ∈ tableau.constraintIndices, tableau.basicColumn row = col := by
  by_cases basic : ∃ row ∈ tableau.constraintIndices, tableau.basicColumn row = col
  · exact .inr basic
  · exact .inl fun row row_mem own => basic ⟨row, row_mem, own⟩

theorem isNonbasic_rhsIndex : tableau.IsNonbasic tableau.rhsIndex :=
  fun _ member => (basicColumn_lt member).ne

/-! ## Components -/

theorem ray_self (nonbasic : tableau.IsNonbasic col) : tableau.ray col col = 1 := by
  rw [ray, if_pos rfl, Finset.sum_eq_zero fun row member => if_neg (nonbasic row member), sub_zero]

theorem ray_of_isNonbasic {j : Nat} (different : j ≠ col) (nonbasic : tableau.IsNonbasic j) :
    tableau.ray col j = 0 := by
  rw [ray, if_neg different, Finset.sum_eq_zero fun row member => if_neg (nonbasic row member),
    sub_zero]

private theorem sum_basicColumn (canonical : tableau.IsCanonical) {row : Nat}
    (member : row ∈ tableau.constraintIndices) (value : Nat → Rat) :
    (∑ i ∈ tableau.constraintIndices,
      if tableau.basicColumn i = tableau.basicColumn row then value i else 0) = value row := by
  rw [Finset.sum_eq_single_of_mem row member, if_pos rfl]
  intro i i_mem different
  exact if_neg fun same => different (canonical.eq_of_basicColumn_eq i_mem member same)

theorem ray_basicColumn (canonical : tableau.IsCanonical) (nonbasic : tableau.IsNonbasic col)
    {row : Nat} (member : row ∈ tableau.constraintIndices) :
    tableau.ray col (tableau.basicColumn row) = -tableau.cell row col := by
  rw [ray, if_neg (nonbasic row member), sum_basicColumn canonical member, zero_sub]

theorem basicPoint_basicColumn (canonical : tableau.IsCanonical) {row : Nat}
    (member : row ∈ tableau.constraintIndices) :
    tableau.basicPoint (tableau.basicColumn row) = tableau.cell row tableau.rhsIndex :=
  sum_basicColumn canonical member fun row => tableau.cell row tableau.rhsIndex

theorem basicPoint_of_isNonbasic (nonbasic : tableau.IsNonbasic col) :
    tableau.basicPoint col = 0 :=
  Finset.sum_eq_zero fun row member => if_neg (nonbasic row member)

/-- The ray of the right-hand side is the basic solution with all signs changed. -/
theorem ray_rhsIndex {j : Nat} (inside : j ≠ tableau.rhsIndex) :
    tableau.ray tableau.rhsIndex j = -tableau.basicPoint j := by
  rw [ray, basicPoint, if_neg inside, zero_sub]

/-! ## Linear forms -/

private theorem sum_mul_ray (inside : col ≤ tableau.numColumns) (weight : Nat → Rat) :
    ∑ j ∈ Finset.range (tableau.numColumns + 1), weight j * tableau.ray col j =
      weight col -
        ∑ row ∈ tableau.constraintIndices,
          weight (tableau.basicColumn row) * tableau.cell row col := by
  have unit : ∑ j ∈ Finset.range (tableau.numColumns + 1), weight j * (if j = col then 1 else 0) =
      weight col := by
    simp [Nat.lt_succ_of_le inside]
  -- Every basic column is met once, so the sum over columns is one over rows.
  have swapped : ∑ j ∈ Finset.range (tableau.numColumns + 1),
      weight j * ∑ row ∈ tableau.constraintIndices,
        (if tableau.basicColumn row = j then tableau.cell row col else 0) =
      ∑ row ∈ tableau.constraintIndices,
        weight (tableau.basicColumn row) * tableau.cell row col := by
    simp only [Finset.mul_sum]
    rw [Finset.sum_comm]
    apply Finset.sum_congr rfl
    intro row member
    have bounded := Nat.lt_succ_of_lt (basicColumn_lt member)
    simp [bounded]
  simp only [ray, mul_sub, Finset.sum_sub_distrib, unit, swapped]

/-- A constraint row loses on a ray in its basic column what it gains in the column itself. -/
theorem solves_ray (canonical : tableau.IsCanonical) (inside : col ≤ tableau.numColumns) :
    tableau.Solves (tableau.ray col) := by
  intro row member
  have own : ∑ i ∈ tableau.constraintIndices,
      tableau.cell row (tableau.basicColumn i) * tableau.cell i col = tableau.cell row col := by
    rw [Finset.sum_eq_single_of_mem row member]
    · rw [canonical row member, if_pos rfl, one_mul]
    · intro i i_mem different
      rw [canonical i i_mem, if_neg (Ne.symm different), zero_mul]
  rw [dot, sum_mul_ray inside, own, sub_self]

theorem dot_zero_ray (canonical : tableau.IsCanonical) (inside : col ≤ tableau.numColumns) :
    tableau.dot 0 (tableau.ray col) = tableau.cell 0 col := by
  rw [dot, sum_mul_ray inside, Finset.sum_eq_zero, sub_zero]
  intro row member
  have positive := (tableau.mem_constraintIndices.1 member).1
  rw [canonical row member, if_neg (by omega), zero_mul]

theorem solves_ray_rhsIndex (canonical : tableau.IsCanonical) :
    tableau.Solves (tableau.ray tableau.rhsIndex) :=
  solves_ray canonical (show tableau.rhsIndex ≤ tableau.numColumns from le_rfl)

theorem row_dot_ray {costs : List Rat} (fits : costs.length ≤ tableau.numColumns + 1)
    (inside : col ≤ tableau.numColumns) :
    Row.dot costs (tableau.ray col) = Row.cell costs col -
      ∑ row ∈ tableau.constraintIndices,
        Row.cell costs (tableau.basicColumn row) * tableau.cell row col := by
  rw [Row.dot_eq_sum fits, sum_mul_ray inside]

/-- A cell of the objective row is what the basic columns lose when its column grows, less the cost
of the column itself. -/
theorem Prices.cell_eq {costs : List Rat} (prices : tableau.Prices costs)
    (canonical : tableau.IsCanonical) (fits : costs.length ≤ tableau.numColumns + 1)
    (inside : col ≤ tableau.numColumns) :
    tableau.cell 0 col =
      ∑ row ∈ tableau.constraintIndices,
        Row.cell costs (tableau.basicColumn row) * tableau.cell row col - Row.cell costs col := by
  have balance := prices _ (solves_ray canonical inside)
  rw [dot_zero_ray canonical inside, row_dot_ray fits inside] at balance
  linarith

/-- A cell of the objective row is what the costs lose on the ray of its column. -/
theorem Prices.cell_eq_neg_dot {costs : List Rat} (prices : tableau.Prices costs)
    (canonical : tableau.IsCanonical) (inside : col ≤ tableau.numColumns) :
    tableau.cell 0 col = -Row.dot costs (tableau.ray col) := by
  have balance := prices _ (solves_ray canonical inside)
  rw [dot_zero_ray canonical inside] at balance
  exact eq_neg_of_add_eq_zero_left balance

/-- The value of the objective is what the costs make of the basic solution, which is the ray of the
right-hand side with all signs changed. -/
theorem Prices.objectiveValue_eq {costs : List Rat} (prices : tableau.Prices costs)
    (canonical : tableau.IsCanonical) :
    tableau.objectiveValue = -Row.dot costs (tableau.ray tableau.rhsIndex) := by
  have inside : tableau.rhsIndex ≤ tableau.numColumns := le_rfl
  rw [Tableau.objectiveValue_eq, prices.cell_eq_neg_dot canonical inside]

end Tableau

end SimplexMethod
