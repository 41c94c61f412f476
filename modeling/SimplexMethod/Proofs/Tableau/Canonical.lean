import SimplexMethod.Proofs.Row.Finite
import SimplexMethod.Proofs.Tableau.Exchange
import SimplexMethod.Tableau.Objective

/-!
# Canonical tableaux and their equations

In a canonical tableau every basic column reads one in its own row and zero in all others. The
constraint rows are equations for the columns and the right-hand side together; an exchange keeps
their solutions, and it keeps what the objective row says about these solutions.

## Main definitions

* `Tableau.IsCanonical`: the basic columns form an identity
* `Tableau.Solves`: a solution of all constraint rows
* `Tableau.SameSystem`: two tableaux with the same solutions
* `Tableau.Prices`: the objective row expresses the objective with given costs

## Main results

* `Tableau.Exchange.isCanonical`, `Tableau.Exchange.sameSystem`, `Tableau.Exchange.prices`: an
  exchange keeps them
* `Tableau.isCanonical_withObjective`, `Tableau.prices_withObjective`: a new objective enters a
  canonical tableau
-/

namespace SimplexMethod

namespace Tableau

/-- Each basic column reads one in its own row and zero in every other row. -/
def IsCanonical (tableau : Tableau Rat) : Prop :=
  ∀ row ∈ tableau.constraintIndices, ∀ i,
    tableau.cell i (tableau.basicColumn row) = if i = row then 1 else 0

/-- Values of all columns that satisfy every constraint row, with `-1` in the place of the
right-hand side; with `0` in that place, a direction in which solutions can be moved. -/
def Solves (tableau : Tableau Rat) (v : Nat → Rat) : Prop :=
  ∀ row ∈ tableau.constraintIndices, tableau.dot row v = 0

/-- Two tableaux with the same columns, as many rows, and the same solutions. -/
structure SameSystem (first second : Tableau Rat) : Prop where
  columns_eq : first.columns = second.columns
  numConstraints_eq : first.numConstraints = second.numConstraints
  solves_iff (v : Nat → Rat) : first.Solves v ↔ second.Solves v

/-- On solutions the objective row is the objective `costs * x` with its sign changed. -/
def Prices (tableau : Tableau Rat) (costs : List Rat) : Prop :=
  ∀ v, tableau.Solves v → tableau.dot 0 v + Row.dot costs v = 0

namespace SameSystem

variable {first second third : Tableau Rat}

theorem refl (tableau : Tableau Rat) : tableau.SameSystem tableau := ⟨rfl, rfl, fun _ => .rfl⟩

theorem trans (left : first.SameSystem second) (right : second.SameSystem third) :
    first.SameSystem third where
  columns_eq := left.columns_eq.trans right.columns_eq
  numConstraints_eq := left.numConstraints_eq.trans right.numConstraints_eq
  solves_iff v := (left.solves_iff v).trans (right.solves_iff v)

theorem symm (same : first.SameSystem second) : second.SameSystem first where
  columns_eq := same.columns_eq.symm
  numConstraints_eq := same.numConstraints_eq.symm
  solves_iff v := (same.solves_iff v).symm

theorem numColumns_eq (same : first.SameSystem second) : first.numColumns = second.numColumns :=
  congrArg List.length same.columns_eq

theorem constraintIndices_eq (same : first.SameSystem second) :
    first.constraintIndices = second.constraintIndices := by
  rw [constraintIndices, constraintIndices, same.numConstraints_eq]

end SameSystem

variable {tableau : Tableau Rat}

/-- No column is basic in two rows of a canonical tableau. -/
theorem IsCanonical.eq_of_basicColumn_eq (canonical : tableau.IsCanonical) {i j : Nat}
    (i_mem : i ∈ tableau.constraintIndices) (j_mem : j ∈ tableau.constraintIndices)
    (same : tableau.basicColumn i = tableau.basicColumn j) : i = j := by
  by_contra different
  have own := canonical i i_mem i
  have other := canonical j j_mem i
  rw [if_pos rfl] at own
  rw [if_neg different, ← same, own] at other
  exact one_ne_zero other

theorem IsCanonical.nodup_basis (canonical : tableau.IsCanonical) : tableau.basis.Nodup :=
  nodup_basis_of_injOn fun _ i_mem _ j_mem => canonical.eq_of_basicColumn_eq i_mem j_mem

/-- In a canonical tableau the objective row has zeros in the basic columns. -/
theorem IsCanonical.notMem_basis (canonical : tableau.IsCanonical) {col : Nat}
    (nonzero : tableau.cell 0 col ≠ 0) : col ∉ tableau.basis := by
  intro basic
  obtain ⟨row, row_mem, rfl⟩ := mem_basis_iff.1 basic
  have positive := (tableau.mem_constraintIndices.1 row_mem).1
  exact nonzero ((canonical row row_mem 0).trans (if_neg (by omega)))

/-! ## Exchanges -/

namespace Exchange

variable {before after : Tableau Rat} {row col : Nat}

theorem isCanonical (exchange : before.Exchange row col after) (canonical : before.IsCanonical) :
    after.IsCanonical := by
  intro r r_mem i
  rw [exchange.constraintIndices_eq] at r_mem
  rw [exchange.basicColumn_eq, exchange.cell_eq]
  by_cases own : r = row
  · subst r
    rw [if_pos rfl, div_self exchange.nonzero, mul_one, sub_self]
  · -- The pivot row has a zero in the basic column of any other row.
    have zero : before.cell row (before.basicColumn r) = 0 := by
      rw [canonical r r_mem, if_neg (Ne.symm own)]
    rw [if_neg own, zero, zero_div, mul_zero, sub_zero, canonical r r_mem]
    split
    · subst i
      rw [if_neg (Ne.symm own)]
    · rfl

theorem solves_iff (exchange : before.Exchange row col after) (v : Nat → Rat) :
    after.Solves v ↔ before.Solves v := by
  -- The new pivot row is a multiple of the old one, and any other row changes by a multiple of it.
  constructor
  · intro solves i i_mem
    rw [← exchange.constraintIndices_eq] at i_mem
    have row_mem := exchange.row_mem
    rw [← exchange.constraintIndices_eq] at row_mem
    have own := solves row row_mem
    rw [exchange.dot_eq, if_pos rfl] at own
    have value := solves i i_mem
    rw [exchange.dot_eq, own, mul_zero, sub_zero] at value
    split at value
    · subst i
      exact (div_eq_zero_iff.1 own).resolve_right exchange.nonzero
    · exact value
  · intro solves i i_mem
    rw [exchange.constraintIndices_eq] at i_mem
    rw [exchange.dot_eq, solves row exchange.row_mem, solves i i_mem]
    simp

theorem sameSystem (exchange : before.Exchange row col after) : after.SameSystem before :=
  ⟨exchange.columns_eq, exchange.numConstraints_eq, exchange.solves_iff⟩

/-- Solutions do not see the multiple of the pivot row that the objective row gives up. -/
theorem dot_zero_eq (exchange : before.Exchange row col after) {v : Nat → Rat}
    (solves : before.Solves v) : after.dot 0 v = before.dot 0 v := by
  have positive : 0 ≠ row := by
    have := exchange.row_mem
    rw [mem_constraintIndices] at this
    omega
  rw [exchange.dot_eq, if_neg positive, solves row exchange.row_mem, zero_div, mul_zero, sub_zero]

theorem prices (exchange : before.Exchange row col after) {costs : List Rat}
    (prices : before.Prices costs) : after.Prices costs := by
  intro v solves
  have solves := (exchange.solves_iff v).1 solves
  rw [exchange.dot_zero_eq solves]
  exact prices v solves

end Exchange

/-! ## New objectives -/

/-- Clearing the objective row with rows that a vector solves does not change it there. -/
private theorem dot_pricedOut {basicRows : List (Nat × Row Rat)} {objective : Row Rat}
    {v : Nat → Rat} (usable : ∀ basic ∈ basicRows, basic.2.length = objective.length ∧
      basic.1 < objective.length ∧ basic.2.cell basic.1 = 1 ∧ Row.dot basic.2 v = 0) :
    Row.dot (pricedOut objective basicRows) v = Row.dot objective v := by
  -- The objective row changes with every row that is used, so the induction is for all of them.
  induction basicRows generalizing objective with
  | nil => rfl
  | cons basic basicRows ih =>
    obtain ⟨same, inside, one, solves⟩ := usable basic List.mem_cons_self
    calc Row.dot (pricedOut objective (basic :: basicRows)) v
        = Row.dot (Row.clear basic.2 basic.1 objective) v := ih fun other member => by
          simpa using usable other (List.mem_cons_of_mem _ member)
      _ = Row.dot objective v := by
          rw [Row.dot_clear same inside one, solves, mul_zero, sub_zero]

section Install

section Rows

variable {α : Type} [Scalar α] {tableau : Tableau α} {costs : List α}

@[simp] theorem numColumns_withObjective :
    (tableau.withObjective costs).numColumns = tableau.numColumns := rfl

@[simp] theorem constraintIndices_withObjective :
    (tableau.withObjective costs).constraintIndices = tableau.constraintIndices := rfl

@[simp] theorem basicColumn_withObjective (row : Nat) :
    (tableau.withObjective costs).basicColumn row = tableau.basicColumn row := by
  cases row <;> rfl

/-- A new objective leaves the constraint rows alone. -/
theorem getD_rows_withObjective {row : Nat} (positive : row ≠ 0) :
    (tableau.withObjective costs).rows.getD row [] = tableau.rows.getD row [] := by
  obtain ⟨row, rfl⟩ := Nat.exists_eq_succ_of_ne_zero positive
  simp [withObjective, constraintRows]

theorem cell_withObjective {row : Nat} (positive : row ≠ 0) (col : Nat) :
    (tableau.withObjective costs).cell row col = tableau.cell row col := by
  rw [cell, getD_rows_withObjective positive, cell]

/-- A new objective row that is finite reads zero in a basic column, if all other constraint rows do
so. -/
theorem cell_zero_withObjective_beq_zero [LawfulZero α] {row : Nat}
    (row_mem : row ∈ tableau.constraintIndices)
    (zero : ∀ other ∈ tableau.constraintIndices, other ≠ row →
      tableau.cell other (tableau.basicColumn row) == 0)
    (finite : ((tableau.withObjective costs).rows.getD 0 []).IsFinite) :
    (tableau.withObjective costs).cell 0 (tableau.basicColumn row) == 0 := by
  refine Row.cell_pricedOut_beq_zero ?_ (fun basic member => ?_) finite
    (.inr ⟨_, mem_basicRows.2 ⟨row, row_mem, rfl⟩, rfl⟩)
  · rw [length_negatedCosts]
    exact Nat.lt_succ_of_lt (basicColumn_lt row_mem)
  · obtain ⟨other, other_mem, rfl⟩ := mem_basicRows.1 member
    rw [length_negatedCosts]
    exact ⟨tableau.length_row (lt_numRows_of_mem other_mem),
      Nat.succ_lt_succ (basicColumn_lt other_mem),
      fun different => zero other other_mem fun same => different (same ▸ rfl)⟩

end Rows

variable {costs : List Rat}

theorem dot_withObjective {row : Nat} (positive : row ≠ 0) (v : Nat → Rat) :
    (tableau.withObjective costs).dot row v = tableau.dot row v := by
  simp [dot, cell_withObjective positive]

theorem solves_withObjective (v : Nat → Rat) :
    (tableau.withObjective costs).Solves v ↔ tableau.Solves v := by
  apply forall₂_congr
  intro row row_mem
  rw [constraintIndices_withObjective, mem_constraintIndices] at row_mem
  rw [dot_withObjective (by omega)]

theorem sameSystem_withObjective (tableau : Tableau Rat) (costs : List Rat) :
    (tableau.withObjective costs).SameSystem tableau := ⟨rfl, rfl, solves_withObjective⟩

/-- The new objective row expresses the objective on every solution. -/
theorem prices_withObjective (canonical : tableau.IsCanonical)
    (fits : costs.length ≤ tableau.numColumns + 1) :
    (tableau.withObjective costs).Prices costs := by
  intro v solves
  have solves := (solves_withObjective v).1 solves
  have cleared : Row.dot (pricedOut (negatedCosts costs (tableau.numColumns + 1))
      tableau.basicRows) v = Row.dot (negatedCosts costs (tableau.numColumns + 1)) v := by
    apply dot_pricedOut
    intro basic member
    obtain ⟨row, row_mem, rfl⟩ := mem_basicRows.1 member
    have one := canonical row row_mem row
    rw [if_pos rfl] at one
    rw [length_negatedCosts]
    refine ⟨tableau.length_row (lt_numRows_of_mem row_mem),
      Nat.lt_succ_of_lt (basicColumn_lt row_mem), one, ?_⟩
    rw [← dot_eq_row_dot _ (lt_numRows_of_mem row_mem)]
    exact solves row row_mem
  rw [dot_eq_row_dot _ (by simp [numRows, withObjective])]
  have negated := Row.dot_negatedCosts fits v
  rw [← cleared] at negated
  exact add_eq_zero_iff_eq_neg.2 negated

theorem isCanonical_withObjective (canonical : tableau.IsCanonical) :
    (tableau.withObjective costs).IsCanonical := by
  intro row row_mem i
  rw [constraintIndices_withObjective] at row_mem
  rw [basicColumn_withObjective]
  -- Only the objective row is new, and it is cleared in every basic column.
  cases i with
  | succ i => rw [cell_withObjective i.succ_ne_zero, canonical row row_mem]
  | zero =>
    have positive := (tableau.mem_constraintIndices.1 row_mem).1
    rw [if_neg (by omega)]
    refine beq_iff_eq.1 (cell_zero_withObjective_beq_zero row_mem ?_ fun _ _ => rfl)
    intro other other_mem different
    rw [canonical row row_mem, if_neg different, beq_self_eq_true]

end Install

end Tableau

end SimplexMethod
