import Mathlib.Data.Finset.Max
import SimplexMethod.Proofs.Run.Feasibility
import SimplexMethod.Proofs.Tableau.SameBasis

/-!
# Bland's rule

Let the entering column always be the first one with a negative cell in the objective row, and of
the rows with the least ratio let the one with the first basic column leave. Then no sequence of
pivots comes back to the basis it started from.

On such a cycle the objective would stay the same, so every pivot would be made in a row with
right-hand side zero, and the basic solution would stay the same as well. Of the columns that enter
on the cycle take the last one. When it leaves, some earlier column enters, and the ray of that
column improves the objective; seen from the tableau in which the last column enters, it improves
the objective in another column that has changed sides. That column comes earlier, so it should have
left instead.

## Main definitions

* `Tableau.BlandPivot`: a pivot by this rule
* `Tableau.IsBlandPath`: a sequence of such pivots with one objective

## Main results

* `Tableau.IsBlandPath.basis_ne`: no path of pivots is closed
-/

namespace SimplexMethod

/-- A property that holds at the end of a stretch, and not at its beginning, is gained by some
step. -/
theorem exists_gain {P : Nat → Prop} {first last : Nat} (le : first ≤ last)
    (fails : ¬P first) (holds : P last) : ∃ k < last, ¬P k ∧ P (k + 1) := by
  induction last, le using Nat.le_induction with
  | base => exact absurd holds fails
  | succ last _ ih =>
    by_cases before : P last
    · obtain ⟨k, less, gain⟩ := ih before
      exact ⟨k, Nat.lt_succ_of_lt less, gain⟩
    · exact ⟨last, last.lt_succ_self, before, holds⟩

namespace Tableau

/-! ## Exchanges and bases -/

namespace Exchange

variable {before after : Tableau Rat} {row col : Nat}

theorem mem_basis_iff (exchange : before.Exchange row col after) (canonical : before.IsCanonical)
    {j : Nat} : j ∈ after.basis ↔ j = col ∨ j ∈ before.basis ∧ j ≠ before.basicColumn row := by
  simp only [Tableau.mem_basis_iff, exchange.constraintIndices_eq, exchange.basicColumn_eq]
  constructor
  · rintro ⟨i, i_mem, rfl⟩
    split
    · exact .inl rfl
    · rename_i other
      -- Another row with the same basic column would be the pivot row.
      exact .inr ⟨⟨i, i_mem, rfl⟩,
        fun same => other (canonical.eq_of_basicColumn_eq i_mem exchange.row_mem same)⟩
  · rintro (rfl | ⟨⟨i, i_mem, rfl⟩, different⟩)
    · exact ⟨row, exchange.row_mem, if_pos rfl⟩
    · exact ⟨i, i_mem, if_neg fun same => different (congrArg _ same)⟩

/-- The objective changes by what the entering column adds to it. -/
theorem objectiveValue_eq (exchange : before.Exchange row col after) :
    after.objectiveValue = before.objectiveValue - before.cell 0 col * before.ratio col row := by
  have positive := (before.mem_constraintIndices.1 exchange.row_mem).1
  rw [Tableau.objectiveValue_eq, Tableau.objectiveValue_eq,
    show after.rhsIndex = before.rhsIndex from exchange.numColumns_eq, exchange.cell_eq,
    if_neg (by omega)]
  rfl

/-- An exchange in a row with right-hand side zero leaves the basic solution as it is. -/
theorem basicPoint_eq (exchange : before.Exchange row col after)
    (zero : before.cell row before.rhsIndex = 0) : after.basicPoint = before.basicPoint := by
  funext j
  rw [basicPoint, basicPoint, exchange.constraintIndices_eq]
  apply Finset.sum_congr rfl
  intro i _
  rw [exchange.cell_rhsIndex_eq zero, exchange.basicColumn_eq]
  by_cases own : i = row
  · rw [own, zero, ite_self, ite_self]
  · rw [if_neg own]

end Exchange

/-! ## Pivots by Bland's rule -/

/-- The column `col` is the first one with a negative cell in the objective row, and it enters in
the row whose basic column comes first among those with the least ratio. -/
structure BlandPivot (before : Tableau Rat) (row col : Nat) (after : Tableau Rat) : Prop where
  exchange : before.Exchange row col after
  improves : before.cell 0 col < 0
  nonneg_of_lt : ∀ j < col, 0 ≤ before.cell 0 j
  positive : 0 < before.cell row col
  least : ∀ other ∈ before.constraintIndices, 0 < before.cell other col →
    before.ratio col row < before.ratio col other ∨
      before.ratio col row = before.ratio col other ∧
        before.basicColumn row ≤ before.basicColumn other

variable {costs : List Rat} {first second : Tableau Rat}

/-- The ray of a column that improves the objective of one tableau improves that of every other one,
in a column outside of its basis. -/
private theorem exists_improving (same : first.SameSystem second) (canonical : first.IsCanonical)
    (canonical' : second.IsCanonical) (prices : first.Prices costs) (prices' : second.Prices costs)
    {col : Nat} (inside : col ≤ first.numColumns) (improves : first.cell 0 col < 0) :
    ∃ j, j ∉ second.basis ∧ second.cell 0 j * first.ray col j < 0 := by
  have solves := solves_ray canonical inside
  -- Both objective rows say the same of a solution, and the first one says that it improves.
  have negative : second.dot 0 (first.ray col) < 0 := by
    have balance := prices _ solves
    have balance' := prices' _ ((same.solves_iff _).1 solves)
    rw [← dot_zero_ray canonical inside] at improves
    linarith
  obtain ⟨j, -, term⟩ : ∃ j ∈ Finset.range (second.numColumns + 1),
      second.cell 0 j * first.ray col j < 0 := by
    by_contra! nonneg
    exact negative.not_ge (Finset.sum_nonneg nonneg)
  -- A basic column has no cell in the objective row, so it adds nothing.
  refine ⟨j, canonical'.notMem_basis fun zero => ?_, term⟩
  rw [zero, zero_mul] at term
  exact lt_irrefl _ term

/-- The last column `t` of a cycle enters in `second` and leaves in `first`, while an earlier column
`s` enters. This is impossible if the columns that have left the basis in between do not come after
`t` and have the value zero. -/
private theorem false_of_blandPivots {first' second' : Tableau Rat} {row row' s t : Nat}
    (same : first.SameSystem second) (canonical : first.IsCanonical)
    (canonical' : second.IsCanonical) (prices : first.Prices costs) (prices' : second.Prices costs)
    (enters_s : first.BlandPivot row s first') (enters_t : second.BlandPivot row' t second')
    (before : s < t) (leaves : first.basicColumn row = t)
    (fickle : ∀ j ∈ first.basis, j ∉ second.basis → j ≤ t ∧ first.basicPoint j = 0) : False := by
  have row_mem := enters_s.exchange.row_mem
  have s_nonbasic : first.IsNonbasic s :=
    isNonbasic_iff.2 (canonical.notMem_basis enters_s.improves.ne)
  obtain ⟨j, out, term⟩ := exists_improving same canonical canonical' prices prices'
    enters_s.exchange.col_lt.le enters_s.improves
  -- The ray of `s` moves `s` and the basic columns of `first` only.
  by_cases entering : j = s
  · -- The column `s` itself has no negative cell where `t` enters.
    rw [entering, ray_self s_nonbasic, mul_one] at term
    exact term.not_ge (enters_t.nonneg_of_lt s before)
  · rcases first.isNonbasic_or_basic j with nonbasic | ⟨i, i_mem, rfl⟩
    · rw [ray_of_isNonbasic entering nonbasic, mul_zero] at term
      exact lt_irrefl _ term
    · obtain ⟨le, zero⟩ := fickle _ (basicColumn_mem_basis i_mem) out
      rw [ray_basicColumn canonical s_nonbasic i_mem] at term
      rcases le.eq_or_lt with last | earlier
      · -- The column `t` decreases along the ray of `s`, and has a negative cell where it enters.
        have own : i = row :=
          canonical.eq_of_basicColumn_eq i_mem row_mem (last.trans leaves.symm)
        rw [last, own] at term
        have := mul_pos_of_neg_of_neg enters_t.improves (neg_neg_of_pos enters_s.positive)
        exact term.not_gt this
      · -- The row of an earlier column ties with that of `t`, at ratio zero.
        have nonneg := enters_t.nonneg_of_lt _ earlier
        have limits : 0 < first.cell i s := by
          by_contra! nonpositive
          exact term.not_ge (mul_nonneg nonneg (neg_nonneg.2 nonpositive))
        have t_zero := (fickle t (leaves ▸ basicColumn_mem_basis row_mem)
          (canonical'.notMem_basis enters_t.improves.ne)).2
        rw [basicPoint_basicColumn canonical i_mem] at zero
        rw [← leaves, basicPoint_basicColumn canonical row_mem] at t_zero
        have order := enters_s.least i i_mem limits
        rw [ratio, ratio, zero, t_zero, zero_div, zero_div, leaves] at order
        exact order.elim (lt_irrefl _) fun tie => tie.2.not_gt earlier

/-! ## Paths -/

/-- On a cycle a property that holds at one place and not at another is gained by some step. -/
private theorem exists_gain_of_cycle {P : Nat → Prop} {length k l : Nat}
    (closed : P 0 ↔ P length) (k_le : k ≤ length) (l_le : l ≤ length) (fails : ¬P k)
    (holds : P l) : ∃ p < length, ¬P p ∧ P (p + 1) := by
  -- The seam of the cycle may lie between the two places. What holds there decides on which side
  -- of it the property is gained.
  rcases le_total k l with le | le
  · obtain ⟨p, less, gain⟩ := exists_gain le fails holds
    exact ⟨p, less.trans_le l_le, gain⟩
  · by_cases start : P 0
    · exact exists_gain k_le fails (closed.1 start)
    · obtain ⟨p, less, gain⟩ := exists_gain l.zero_le start holds
      exact ⟨p, less.trans_le l_le, gain⟩

/-- A sequence of pivots by Bland's rule, through feasible tableaux with one objective. -/
structure IsBlandPath (costs : List Rat) (length : Nat) (T : Nat → Tableau Rat)
    (row col : Nat → Nat) : Prop where
  canonical (k : Nat) (le : k ≤ length) : (T k).IsCanonical
  feasible (k : Nat) (le : k ≤ length) : (T k).IsFeasible
  prices (k : Nat) (le : k ≤ length) : (T k).Prices costs
  fits : costs.length ≤ (T 0).numColumns
  pivot (k : Nat) (less : k < length) : (T k).BlandPivot (row k) (col k) (T (k + 1))

namespace IsBlandPath

variable {length : Nat} {T : Nat → Tableau Rat} {row col : Nat → Nat}

theorem sameSystem (path : IsBlandPath costs length T row col) {k : Nat} (le : k ≤ length) :
    (T k).SameSystem (T 0) := by
  induction k with
  | zero => exact .refl _
  | succ k ih => exact (path.pivot k le).exchange.sameSystem.trans (ih (Nat.le_of_succ_le le))

theorem ratio_nonneg (path : IsBlandPath costs length T row col) {k : Nat} (less : k < length) :
    0 ≤ (T k).ratio (col k) (row k) :=
  div_nonneg (path.feasible k less.le _ (path.pivot k less).exchange.row_mem)
    (path.pivot k less).positive.le

/-- No pivot of a path makes the objective smaller. -/
theorem objectiveValue_le (path : IsBlandPath costs length T row col) {k l : Nat} (le : k ≤ l)
    (bounded : l ≤ length) : (T k).objectiveValue ≤ (T l).objectiveValue := by
  induction l, le using Nat.le_induction with
  | base => rfl
  | succ l _ ih =>
    have pivot := path.pivot l bounded
    have loss := mul_nonpos_of_nonpos_of_nonneg pivot.improves.le (path.ratio_nonneg bounded)
    have := ih (Nat.le_of_succ_le bounded)
    rw [pivot.exchange.objectiveValue_eq]
    linarith

section Closed

variable (path : IsBlandPath costs length T row col)
  (closed : ∀ j, j ∈ (T 0).basis ↔ j ∈ (T length).basis)

include path closed

/-- On a closed path every pivot is made in a row with right-hand side zero. -/
theorem cell_rhsIndex_eq_zero {k : Nat} (less : k < length) :
    (T k).cell (row k) (T k).rhsIndex = 0 := by
  have pivot := path.pivot k less
  have ends : (T 0).objectiveValue = (T length).objectiveValue :=
    objectiveValue_eq_of_basis_eq (path.sameSystem le_rfl).symm (path.canonical 0 length.zero_le)
      (path.canonical length le_rfl) (path.prices 0 length.zero_le) (path.prices length le_rfl)
      path.fits closed
  -- The objective never decreases and ends where it began, so this pivot does not change it.
  have before := path.objectiveValue_le k.zero_le less.le
  have after := path.objectiveValue_le (Nat.succ_le_of_lt less) le_rfl
  have step := pivot.exchange.objectiveValue_eq
  have loss := mul_nonpos_of_nonpos_of_nonneg pivot.improves.le (path.ratio_nonneg less)
  have degenerate : (T k).cell 0 (col k) * (T k).ratio (col k) (row k) = 0 := by linarith
  have ratio_zero := (mul_eq_zero.1 degenerate).resolve_left pivot.improves.ne
  exact (div_eq_zero_iff.1 ratio_zero).resolve_right pivot.positive.ne'

theorem basicPoint_eq {k : Nat} (le : k ≤ length) : (T k).basicPoint = (T 0).basicPoint := by
  induction k with
  | zero => rfl
  | succ k ih =>
    rw [(path.pivot k le).exchange.basicPoint_eq (path.cell_rhsIndex_eq_zero closed le),
      ih (Nat.le_of_succ_le le)]

/-- A column that is basic at one place of a closed path and not at another one enters somewhere,
and has the value zero everywhere. -/
theorem exists_entering {j k l : Nat} (k_le : k ≤ length) (l_le : l ≤ length)
    (out : j ∉ (T k).basis) (in_ : j ∈ (T l).basis) :
    (∃ p < length, col p = j) ∧ (T l).basicPoint j = 0 := by
  constructor
  · obtain ⟨p, less, before, after⟩ :=
      exists_gain_of_cycle (P := fun k => j ∈ (T k).basis) (closed j) k_le l_le out in_
    refine ⟨p, less, ?_⟩
    rw [(path.pivot p less).exchange.mem_basis_iff (path.canonical p less.le)] at after
    exact (after.resolve_right fun stays => before stays.1).symm
  · rw [path.basicPoint_eq closed l_le, ← path.basicPoint_eq closed k_le]
    exact basicPoint_of_isNonbasic (isNonbasic_iff.2 out)

/-- A column that enters on a closed path leaves on it. -/
theorem exists_leaving {q : Nat} (less : q < length) :
    ∃ p < length, (T p).basicColumn (row p) = col q := by
  have pivot := path.pivot q less
  have out := (path.canonical q less.le).notMem_basis pivot.improves.ne
  have in_ := (pivot.exchange.mem_basis_iff (path.canonical q less.le)).2 (.inl rfl)
  obtain ⟨p, p_less, before, after⟩ := exists_gain_of_cycle
    (P := fun k => col q ∉ (T k).basis) (not_congr (closed _)) less less.le (not_not.2 in_) out
  -- The column is lost in step `p`, and an exchange removes no other column than that of its row.
  refine ⟨p, p_less, ?_⟩
  rw [(path.pivot p p_less).exchange.mem_basis_iff (path.canonical p p_less.le), not_or] at after
  by_contra stays
  exact after.2 ⟨not_not.1 before, Ne.symm stays⟩

end Closed

/-- A path by Bland's rule that makes a pivot does not come back to the basis it started from. -/
theorem basis_ne (path : IsBlandPath costs length T row col) (positive : 0 < length) :
    (T 0).basis.toFinset ≠ (T length).basis.toFinset := by
  intro same_basis
  have closed (j : Nat) : j ∈ (T 0).basis ↔ j ∈ (T length).basis := by
    rw [← List.mem_toFinset, same_basis, List.mem_toFinset]
  -- The last column of the cycle enters in step `q` and leaves in step `p`.
  obtain ⟨q, q_mem, last⟩ := Finset.exists_max_image (Finset.range length) col
    ⟨0, Finset.mem_range.2 positive⟩
  have q_less := Finset.mem_range.1 q_mem
  obtain ⟨p, p_less, leaves⟩ := path.exists_leaving closed q_less
  have pivot := path.pivot p p_less
  have basic : col q ∈ (T p).basis := leaves ▸ basicColumn_mem_basis pivot.exchange.row_mem
  have different : col p ≠ col q := fun same =>
    (path.canonical p p_less.le).notMem_basis pivot.improves.ne (same ▸ basic)
  have before : col p < col q := lt_of_le_of_ne (last p (Finset.mem_range.2 p_less)) different
  refine false_of_blandPivots
    ((path.sameSystem p_less.le).trans (path.sameSystem q_less.le).symm)
    (path.canonical p p_less.le) (path.canonical q q_less.le) (path.prices p p_less.le)
    (path.prices q q_less.le) pivot (path.pivot q q_less) before leaves fun j in_ out => ?_
  obtain ⟨⟨k, k_less, rfl⟩, zero⟩ := path.exists_entering closed q_less.le p_less.le out in_
  exact ⟨last k (Finset.mem_range.2 k_less), zero⟩

end IsBlandPath

end Tableau

end SimplexMethod
