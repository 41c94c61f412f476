import SimplexMethod.Proofs.Comparison
import SimplexMethod.Proofs.Pricing

/-!
# The column that each rule takes

A column improves the objective if its cell lies below the negative of the tolerance. One rule takes
the first of these columns, the other one the first of those with the least cell. Cells below one
bound are comparable, so the least one is found whatever else the row holds: among double-precision
numbers, cells and tolerance may also be infinite or undefined.

## Main definitions

* `IsFirstImproving`, `IsLeastImproving`: the columns that the rules are to take

## Main results

* `PivotRule.enteringColumn_bland_iff`, `PivotRule.enteringColumn_dantzig_iff`: they take them
* `PivotRule.enteringColumn_exact`: both rules on double-precision numbers
-/

namespace SimplexMethod

variable {α : Type} [Scalar α]

/-- The column has a cell, with this value, and it lies below the negative of the tolerance. -/
def Improves (cells : List α) (tolerance : α) (col : Nat) (value : α) : Prop :=
  cells[col]? = some value ∧ value < -tolerance

/-- The column improves, and no column before it does. -/
def IsFirstImproving (cells : List α) (tolerance : α) (col : Nat) : Prop :=
  (∃ value, Improves cells tolerance col value) ∧
    ∀ other value, Improves cells tolerance other value → col ≤ other

/-- The column improves, its cell is at most that of every other column that does, and less than
that of each such column before it. -/
def IsLeastImproving (cells : List α) (tolerance : α) (col : Nat) : Prop :=
  ∃ least, Improves cells tolerance col least ∧
    ∀ other value, Improves cells tolerance other value →
      least ≤ value ∧ (other < col → least < value)

variable {cells : List α} {tolerance : α} {col other : Nat}

theorem mem_improvingColumns_iff_improves {entry : α × Nat} :
    entry ∈ improvingColumns cells tolerance ↔ Improves cells tolerance entry.2 entry.1 := by
  rw [mem_improvingColumns, isNegative, decide_eq_true_iff, Improves]

/-- Improving columns are listed from left to right. -/
theorem pairwise_improvingColumns (cells : List α) (tolerance : α) :
    (improvingColumns cells tolerance).Pairwise fun first second => first.2 < second.2 := by
  have numbers : (cells.zipIdx.map Prod.snd).Pairwise (· < ·) := by
    rw [List.zipIdx_map_snd]
    exact List.pairwise_lt_range' ..
  exact (List.pairwise_map.1 numbers).filter _

theorem IsFirstImproving.unique (first : IsFirstImproving cells tolerance col)
    (first' : IsFirstImproving cells tolerance other) : col = other := by
  obtain ⟨⟨value, improves⟩, earliest⟩ := first
  obtain ⟨⟨value', improves'⟩, earliest'⟩ := first'
  exact le_antisymm (earliest _ _ improves') (earliest' _ _ improves)

/-! ## The scan for the least cell -/

section Scan

variable [LawfulComparison α]

open LawfulComparison

theorem IsLeastImproving.unique (least : IsLeastImproving cells tolerance col)
    (least' : IsLeastImproving cells tolerance other) : col = other := by
  obtain ⟨value, improves, minimal⟩ := least
  obtain ⟨value', improves', minimal'⟩ := least'
  obtain ⟨le, lt⟩ := minimal _ _ improves'
  obtain ⟨le', lt'⟩ := minimal' _ _ improves
  -- Each value is at most the other one, so neither column can be in front.
  rcases Nat.lt_trichotomy col other with before | same | after
  · exact absurd le (not_ge_of_lt (lt' before))
  · exact same
  · exact absurd le' (not_ge_of_lt (lt after))

/-- A cell comes before another one if it is less, or if it is not more and stands no further to the
right. -/
def CellPrecedes (first second : α × Nat) : Prop :=
  first.1 < second.1 ∨ first.1 ≤ second.1 ∧ first.2 ≤ second.2

theorem CellPrecedes.trans {first second third : α × Nat} (left : CellPrecedes first second)
    (right : CellPrecedes second third) : CellPrecedes first third := by
  rcases left with less | ⟨le, before⟩ <;> rcases right with less' | ⟨le', before'⟩
  · exact .inl (lt_of_lt_of_le less (le_of_lt less'))
  · exact .inl (lt_of_lt_of_le less le')
  · exact .inl (lt_of_le_of_lt le less')
  · exact .inr ⟨LawfulComparison.le_trans le le', before.trans before'⟩

/-- Of two cells below a bound the scan keeps the one that comes before the other. -/
private theorem exists_keepLeast {bound : α} {first second : α × Nat}
    (first_below : first.1 < bound) (second_below : second.1 < bound)
    (before : first.2 < second.2) :
    ∃ kept, keepLeast (some first) second = some kept ∧ [kept].Sublist [first, second] ∧
      CellPrecedes kept first ∧ CellPrecedes kept second := by
  rw [keepLeast]
  split
  · rename_i le
    exact ⟨first, rfl, by simp, .inr ⟨le_self first_below, le_rfl⟩, .inr ⟨le, before.le⟩⟩
  · rename_i more
    exact ⟨second, rfl, by simp, .inl (lt_of_not_ge second_below first_below more),
      .inr ⟨le_self second_below, le_rfl⟩⟩

/-- The scan ends with a cell that comes before all others. -/
private theorem precedes_of_foldl_keepLeast {bound : α} {entries : List (α × Nat)}
    {start least : α × Nat} (below : ∀ entry ∈ start :: entries, entry.1 < bound)
    (ordered : (start :: entries).Pairwise fun first second => first.2 < second.2)
    (found : entries.foldl keepLeast (some start) = some least) :
    ∀ entry ∈ start :: entries, CellPrecedes least entry := by
  induction entries generalizing start with
  | nil =>
    obtain rfl : start = least := Option.some.inj found
    exact List.forall_mem_singleton.2 (.inr ⟨le_self (below start List.mem_cons_self), le_rfl⟩)
  | cons entry entries ih =>
    obtain ⟨kept, step, place, first, second⟩ := exists_keepLeast
      (below start List.mem_cons_self) (below entry (List.mem_cons_of_mem _ List.mem_cons_self))
      (List.rel_of_pairwise_cons ordered List.mem_cons_self)
    rw [List.foldl_cons, step] at found
    -- What is left to scan behind the cell that was kept is a part of the list.
    have part : (kept :: entries).Sublist (start :: entry :: entries) := place.append_right entries
    obtain ⟨precedes, others⟩ := List.forall_mem_cons.1
      (ih (fun entry member => below entry (part.subset member)) (ordered.sublist part) found)
    exact List.forall_mem_cons.2
      ⟨precedes.trans first, List.forall_mem_cons.2 ⟨precedes.trans second, others⟩⟩

end Scan

namespace PivotRule

/-- No column enters exactly if none improves. -/
theorem enteringColumn_eq_none_iff (rule : PivotRule) : rule.enteringColumn cells tolerance = none ↔
    ∀ value ∈ cells, ¬value < -tolerance := by
  constructor
  · intro finished value member improves
    simpa [isNegative, improves] using not_isNegative_of_enteringColumn_eq_none finished member
  · intro priced
    cases enters : rule.enteringColumn cells tolerance with
    | none => rfl
    | some col =>
      obtain ⟨value, at_col, negative⟩ := isNegative_of_enteringColumn_eq_some enters
      exact absurd (of_decide_eq_true negative) (priced value (List.mem_of_getElem? at_col))

theorem exists_enteringColumn (rule : PivotRule) {value : α}
    (improves : Improves cells tolerance col value) :
    ∃ entering, rule.enteringColumn cells tolerance = some entering := by
  rw [← Option.isSome_iff_exists, Option.isSome_iff_ne_none, ne_eq, enteringColumn_eq_none_iff]
  exact fun priced => priced value (List.mem_of_getElem? improves.1) improves.2

theorem isFirstImproving_of_bland (enters : bland.enteringColumn cells tolerance = some col) :
    IsFirstImproving cells tolerance col := by
  obtain ⟨value, at_col, negative⟩ := isNegative_of_enteringColumn_eq_some enters
  refine ⟨⟨value, at_col, of_decide_eq_true negative⟩, fun other value ⟨at_other, less⟩ => ?_⟩
  by_contra before
  simpa [isNegative, less] using not_isNegative_of_bland enters (not_le.1 before) at_other

theorem enteringColumn_bland_iff :
    bland.enteringColumn cells tolerance = some col ↔ IsFirstImproving cells tolerance col := by
  refine ⟨isFirstImproving_of_bland, fun first => ?_⟩
  obtain ⟨value, improves⟩ := first.1
  obtain ⟨entering, enters⟩ := exists_enteringColumn bland improves
  rw [enters, first.unique (isFirstImproving_of_bland enters)]

section Dantzig

variable [LawfulComparison α]

open LawfulComparison

theorem isLeastImproving_of_dantzig (enters : dantzig.enteringColumn cells tolerance = some col) :
    IsLeastImproving cells tolerance col := by
  obtain ⟨least, found, rfl⟩ := Option.map_eq_some_iff.1 enters
  have below : ∀ entry ∈ improvingColumns cells tolerance, entry.1 < -tolerance :=
    fun _ member => (mem_improvingColumns_iff_improves.1 member).2
  have ordered := pairwise_improvingColumns cells tolerance
  have member : least ∈ improvingColumns cells tolerance := mem_of_foldl_keepLeast found
  refine ⟨least.1, mem_improvingColumns_iff_improves.1 member, fun other value improves => ?_⟩
  have precedes : CellPrecedes least (value, other) := by
    have listed : (value, other) ∈ improvingColumns cells tolerance :=
      mem_improvingColumns_iff_improves.2 improves
    cases entries : improvingColumns cells tolerance with
    | nil => simp [entries] at member
    | cons start rest =>
      rw [entries] at found below ordered listed
      exact precedes_of_foldl_keepLeast below ordered found _ listed
  rcases precedes with less | ⟨le, before⟩
  · exact ⟨le_of_lt less, fun _ => less⟩
  · exact ⟨le, fun after => absurd after before.not_gt⟩

theorem enteringColumn_dantzig_iff :
    dantzig.enteringColumn cells tolerance = some col ↔ IsLeastImproving cells tolerance col := by
  refine ⟨isLeastImproving_of_dantzig, fun least => ?_⟩
  have ⟨value, improves, _⟩ := least
  obtain ⟨entering, enters⟩ := exists_enteringColumn dantzig improves
  rw [enters, least.unique (isLeastImproving_of_dantzig enters)]

end Dantzig

/-- On double-precision numbers, none of which has to be defined, both rules take the column that
they are to take, and no column enters only if none improves. -/
theorem enteringColumn_exact (cells : List Float) (tolerance : Float) :
    (∀ rule : PivotRule, rule.enteringColumn cells tolerance = none ↔
      ∀ value ∈ cells, ¬value < -tolerance) ∧
    (∀ col, bland.enteringColumn cells tolerance = some col ↔
      IsFirstImproving cells tolerance col) ∧
    (∀ col, dantzig.enteringColumn cells tolerance = some col ↔
      IsLeastImproving cells tolerance col) :=
  ⟨enteringColumn_eq_none_iff, fun _ => enteringColumn_bland_iff,
    fun _ => enteringColumn_dantzig_iff⟩

/-- An undefined cell is never taken, and of two equal cells the first one is. -/
example : dantzig.enteringColumn [0 / 0, -1, -1 / 0, -1 / 0, 1 / 0] (0.5 : Float) = some 2 := by
  decide +kernel

end PivotRule

end SimplexMethod
