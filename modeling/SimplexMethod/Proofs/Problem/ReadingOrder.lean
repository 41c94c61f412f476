import Mathlib.Data.Prod.Lex
import SimplexMethod.Proofs.Problem.WellFormed

/-!
# The first defect in reading order

A problem can have any number of defects at once. In reading order the objective comes before the
constraints, and the length of a constraint before its coefficients and these before its right-hand
side. Of all defects the first one is reported, so that everything before it is well formed.

## Main definitions

* `LinearProgram.HasDefect`: a defect of a problem, whatever else is wrong with it
* `Defect.place`: where a defect stands in reading order
* `LinearProgram.IsFirstDefect`: no defect of the problem stands before this one

## Main results

* `LinearProgram.head?_defects`: the search ends with the head of the list of all defects
* `LinearProgram.validate_reports_first`: which report validation makes of a problem
-/

namespace SimplexMethod

variable {α : Type}

/-- Where a defect stands in reading order: in the objective or in which constraint, in which part
of it, and at which index in a list of numbers. -/
def Defect.place : Defect α → Nat ×ₗ Nat ×ₗ Nat
  | emptyObjective => toLex (0, toLex (0, 0))
  | objectiveNotFinite index _ => toLex (0, toLex (1, index))
  | arity constraint _ _ => toLex (constraint + 1, toLex (0, 0))
  | coefficientNotFinite constraint index _ => toLex (constraint + 1, toLex (1, index))
  | rhsNotFinite constraint _ => toLex (constraint + 1, toLex (2, 0))

variable [Scalar α]

/-- The constraint of this number has the defect, whatever other ones it has. -/
inductive Constraint.HasDefect (constraint : Constraint α) (width number : Nat) :
    Defect α → Prop where
  | arity (different : constraint.coefficients.length ≠ width) :
      HasDefect constraint width number (.arity number width constraint.coefficients.length)
  | coefficientNotFinite {index : Nat} {value : α}
      (at_index : constraint.coefficients[index]? = some value)
      (not_finite : Scalar.isFinite value = false) :
      HasDefect constraint width number (.coefficientNotFinite number index value)
  | rhsNotFinite (not_finite : Scalar.isFinite constraint.rhs = false) :
      HasDefect constraint width number (.rhsNotFinite number constraint.rhs)

namespace LinearProgram

/-- The problem has the defect, whatever other ones it has. -/
inductive HasDefect (problem : LinearProgram α) : Defect α → Prop where
  | emptyObjective (empty : problem.objective = []) : HasDefect problem .emptyObjective
  | objectiveNotFinite {index : Nat} {value : α} (at_index : problem.objective[index]? = some value)
      (not_finite : Scalar.isFinite value = false) :
      HasDefect problem (.objectiveNotFinite index value)
  | ofConstraint {number : Nat} {constraint : Constraint α} {defect : Defect α}
      (at_number : problem.constraints[number]? = some constraint)
      (has : constraint.HasDefect problem.numVariables number defect) : HasDefect problem defect

/-- The problem has the defect and none before it in reading order. -/
def IsFirstDefect (problem : LinearProgram α) (defect : Defect α) : Prop :=
  problem.HasDefect defect ∧ ∀ other, problem.HasDefect other → defect.place ≤ other.place

/-- The problem without the constraints from this number on. -/
def before (problem : LinearProgram α) (number : Nat) : LinearProgram α :=
  { problem with constraints := problem.constraints.take number }

/-- Everything that is read before the defect is well formed. -/
def IsWellFormedBefore (problem : LinearProgram α) : Defect α → Prop
  | .emptyObjective => True
  | .objectiveNotFinite index _ =>
    problem.objective ≠ [] ∧ ∀ value ∈ problem.objective.take index, Scalar.isFinite value = true
  | .arity number _ _ => (problem.before number).IsWellFormed
  | .coefficientNotFinite number index _ =>
    (problem.before number).IsWellFormed ∧ ∀ constraint ∈ problem.constraints[number]?,
      constraint.coefficients.length = problem.numVariables ∧
        ∀ value ∈ constraint.coefficients.take index, Scalar.isFinite value = true
  | .rhsNotFinite number _ =>
    (problem.before number).IsWellFormed ∧ ∀ constraint ∈ problem.constraints[number]?,
      constraint.coefficients.length = problem.numVariables ∧
        ∀ value ∈ constraint.coefficients, Scalar.isFinite value = true

end LinearProgram

/-! ## Numbers that are not finite -/

/-- The numbers that are not finite, with their places. -/
def notFinite (values : List α) : List (α × Nat) :=
  values.zipIdx.filter fun entry => !Scalar.isFinite entry.1

theorem head?_notFinite (values : List α) : (notFinite values).head? = firstNotFinite? values :=
  List.head?_filter

theorem mem_notFinite {values : List α} {entry : α × Nat} : entry ∈ notFinite values ↔
    values[entry.2]? = some entry.1 ∧ Scalar.isFinite entry.1 = false := by
  rw [notFinite, List.mem_filter, List.mem_zipIdx_iff_getElem?, Bool.not_eq_true']

private theorem pairwise_zipIdx {β : Type} (values : List β) :
    values.zipIdx.Pairwise fun first second => first.2 < second.2 := by
  apply List.pairwise_map.1
  rw [List.zipIdx_map_snd]
  exact List.pairwise_lt_range' ..

theorem pairwise_notFinite (values : List α) :
    (notFinite values).Pairwise fun first second => first.2 < second.2 :=
  (pairwise_zipIdx values).filter _

/-! ## All defects -/

namespace Constraint

/-- All defects of the constraint of this number, in reading order. -/
def defects (constraint : Constraint α) (width number : Nat) : List (Defect α) :=
  (if constraint.coefficients.length ≠ width then
    [.arity number width constraint.coefficients.length] else []) ++
  (notFinite constraint.coefficients).map (fun entry =>
    .coefficientNotFinite number entry.2 entry.1) ++
  if Scalar.isFinite constraint.rhs = false then [.rhsNotFinite number constraint.rhs] else []

variable {constraint : Constraint α} {width number : Nat} {defect : Defect α}

theorem head?_defects (constraint : Constraint α) (width number : Nat) :
    (constraint.defects width number).head? = constraint.defect? width number := by
  unfold defects defect?
  rw [← head?_notFinite]
  split
  · rfl
  · cases notFinite constraint.coefficients with
    | nil => cases finite : Scalar.isFinite constraint.rhs <;> simp
    | cons entry rest => rfl

theorem mem_defects_iff :
    defect ∈ constraint.defects width number ↔ constraint.HasDefect width number defect := by
  simp only [defects, List.mem_append, List.mem_map, mem_notFinite, List.mem_ite_nil_right,
    List.mem_singleton]
  constructor
  · rintro ((⟨different, rfl⟩ | ⟨entry, ⟨at_index, not_finite⟩, rfl⟩) | ⟨not_finite, rfl⟩)
    · exact .arity different
    · exact .coefficientNotFinite at_index not_finite
    · exact .rhsNotFinite not_finite
  · rintro (different | ⟨at_index, not_finite⟩ | not_finite)
    · exact .inl (.inl ⟨different, rfl⟩)
    · exact .inl (.inr ⟨(_, _), ⟨at_index, not_finite⟩, rfl⟩)
    · exact .inr ⟨not_finite, rfl⟩

/-- The place of a defect of a constraint begins with the number of the constraint. -/
theorem HasDefect.fst_place (has : constraint.HasDefect width number defect) :
    (ofLex defect.place).1 = number + 1 := by
  cases has <;> rfl

theorem pairwise_defects (constraint : Constraint α) (width number : Nat) :
    (constraint.defects width number).Pairwise fun first second =>
      first.place < second.place := by
  -- Within the coefficients the indices increase; everything else differs in the part.
  simp only [defects, List.pairwise_append, List.pairwise_map, List.mem_append, List.mem_map,
    List.mem_ite_nil_right, List.mem_singleton]
  refine ⟨⟨?arity, ?coefficients, ?arity_first⟩, ?rhs, ?rhs_last⟩
  case arity | rhs => split <;> simp
  case coefficients =>
    refine (pairwise_notFinite _).imp fun before => ?_
    simpa [Defect.place, Prod.Lex.toLex_lt_toLex] using before
  case arity_first =>
    rintro _ ⟨-, rfl⟩ _ ⟨entry, -, rfl⟩
    simp [Defect.place, Prod.Lex.toLex_lt_toLex]
  case rhs_last =>
    rintro _ (⟨-, rfl⟩ | ⟨entry, -, rfl⟩) _ ⟨-, rfl⟩ <;>
      simp [Defect.place, Prod.Lex.toLex_lt_toLex]

end Constraint

namespace LinearProgram

/-- All defects of a problem, in reading order. -/
def defects (problem : LinearProgram α) : List (Defect α) :=
  (if problem.objective.isEmpty then [.emptyObjective] else []) ++
  (notFinite problem.objective).map (fun entry => .objectiveNotFinite entry.2 entry.1) ++
  problem.constraints.zipIdx.flatMap fun entry => entry.1.defects problem.numVariables entry.2

variable {problem : LinearProgram α} {defect : Defect α}

/-- The search for a defect ends with the head of the list of all of them. -/
theorem head?_defects (problem : LinearProgram α) : problem.defects.head? = problem.defect? := by
  unfold defects defect?
  simp only [← head?_notFinite, ← Constraint.head?_defects, ← List.head?_flatMap]
  split
  · rfl
  · cases notFinite problem.objective <;> rfl

theorem mem_defects_iff : defect ∈ problem.defects ↔ problem.HasDefect defect := by
  simp only [defects, List.mem_append, List.mem_map, List.mem_flatMap, mem_notFinite,
    List.mem_zipIdx_iff_getElem?, Constraint.mem_defects_iff, List.mem_ite_nil_right,
    List.mem_singleton, List.isEmpty_iff]
  constructor
  · rintro ((⟨empty, rfl⟩ | ⟨entry, ⟨at_index, not_finite⟩, rfl⟩) | ⟨entry, at_number, has⟩)
    · exact .emptyObjective empty
    · exact .objectiveNotFinite at_index not_finite
    · exact .ofConstraint at_number has
  · rintro (empty | ⟨at_index, not_finite⟩ | ⟨at_number, has⟩)
    · exact .inl (.inl ⟨empty, rfl⟩)
    · exact .inl (.inr ⟨(_, _), ⟨at_index, not_finite⟩, rfl⟩)
    · exact .inr ⟨(_, _), at_number, has⟩

theorem pairwise_defects (problem : LinearProgram α) :
    problem.defects.Pairwise fun first second => first.place < second.place := by
  simp only [defects, List.pairwise_append, List.pairwise_map, List.pairwise_flatMap,
    List.mem_append, List.mem_map, List.mem_flatMap, List.mem_ite_nil_right, List.mem_singleton,
    Constraint.mem_defects_iff]
  refine ⟨⟨?empty, ?objective, ?empty_first⟩, ⟨?constraint, ?constraints⟩, ?objective_first⟩
  case empty => split <;> simp
  case objective =>
    refine (pairwise_notFinite _).imp fun before => ?_
    simpa [Defect.place, Prod.Lex.toLex_lt_toLex] using before
  case empty_first =>
    rintro _ ⟨-, rfl⟩ _ ⟨entry, -, rfl⟩
    simp [Defect.place, Prod.Lex.toLex_lt_toLex]
  case constraint => exact fun entry _ => entry.1.pairwise_defects _ _
  case constraints =>
    refine (pairwise_zipIdx _).imp fun before first has second has' => ?_
    exact Prod.Lex.lt_iff.2 (.inl (by rw [has.fst_place, has'.fst_place]; omega))
  case objective_first =>
    rintro first earlier second ⟨entry, -, has⟩
    have in_front : (ofLex first.place).1 = 0 := by
      rcases earlier with ⟨-, rfl⟩ | ⟨entry, -, rfl⟩ <;> rfl
    exact Prod.Lex.lt_iff.2 (.inl (by rw [in_front, has.fst_place]; omega))

end LinearProgram

/-! ## The first defect -/

omit [Scalar α] in
/-- The head of a list in reading order comes before all others. -/
private theorem head?_eq_some_iff_first {defects : List (Defect α)} {defect : Defect α}
    (ordered : defects.Pairwise fun first second => first.place < second.place) :
    defects.head? = some defect ↔
      defect ∈ defects ∧ ∀ other ∈ defects, defect.place ≤ other.place := by
  cases defects with
  | nil => simp
  | cons first rest =>
    obtain ⟨before, -⟩ := List.pairwise_cons.1 ordered
    rw [List.head?_cons, Option.some_inj]
    constructor
    · rintro rfl
      exact ⟨List.mem_cons_self,
        List.forall_mem_cons.2 ⟨le_rfl, fun other member => (before other member).le⟩⟩
    · rintro ⟨member, least⟩
      rcases List.mem_cons.1 member with rfl | later
      · rfl
      · exact absurd (before defect later) (least first List.mem_cons_self).not_gt

private theorem getElem?_take_eq_some_iff {β : Type} {values : List β} {count index : Nat}
    {value : β} : (values.take count)[index]? = some value ↔
      index < count ∧ values[index]? = some value := by
  simp [List.getElem?_take]

private theorem exists_getElem?_of_mem_take {β : Type} {values : List β} {count : Nat} {value : β}
    (member : value ∈ values.take count) : ∃ index < count, values[index]? = some value := by
  obtain ⟨index, at_index⟩ := List.mem_iff_getElem?.1 member
  exact ⟨index, getElem?_take_eq_some_iff.1 at_index⟩

namespace LinearProgram

variable {problem : LinearProgram α} {defect : Defect α}

theorem defect?_eq_some_iff : problem.defect? = some defect ↔ problem.IsFirstDefect defect := by
  rw [← head?_defects, head?_eq_some_iff_first (pairwise_defects problem)]
  simp only [mem_defects_iff, IsFirstDefect]

theorem exists_isFirstDefect (malformed : ¬problem.IsWellFormed) :
    ∃ defect, problem.IsFirstDefect defect := by
  rw [← defect?_eq_none_iff, ← ne_eq, Option.ne_none_iff_exists'] at malformed
  obtain ⟨defect, found⟩ := malformed
  exact ⟨defect, defect?_eq_some_iff.1 found⟩

/-- A defect in front of a constraint is one of the whole problem. -/
theorem HasDefect.of_before {number : Nat} (has : (problem.before number).HasDefect defect) :
    problem.HasDefect defect ∧ (ofLex defect.place).1 ≤ number := by
  cases has with
  | emptyObjective empty => exact ⟨.emptyObjective empty, Nat.zero_le _⟩
  | objectiveNotFinite at_index not_finite =>
    exact ⟨.objectiveNotFinite at_index not_finite, Nat.zero_le _⟩
  | ofConstraint at_number has =>
    obtain ⟨early, at_number⟩ := getElem?_take_eq_some_iff.1 at_number
    exact ⟨.ofConstraint at_number has, has.fst_place.trans_le early⟩

namespace IsFirstDefect

variable (first : problem.IsFirstDefect defect)
include first

theorem place_le {other : Defect α} (has : problem.HasDefect other) : defect.place ≤ other.place :=
  first.2 other has

theorem isWellFormed_before {number : Nat} (behind : number < (ofLex defect.place).1) :
    (problem.before number).IsWellFormed := by
  -- Otherwise the constraints in front have a first defect of their own.
  by_contra malformed
  obtain ⟨other, has, -⟩ := exists_isFirstDefect malformed
  obtain ⟨has, place_le⟩ := has.of_before
  exact (first.place_le has).not_gt (Prod.Lex.lt_iff.2 (.inl (place_le.trans_lt behind)))

theorem isFinite_objective {index : Nat} {value : α}
    (at_index : problem.objective[index]? = some value)
    (behind : toLex (0, toLex (1, index)) < defect.place) : Scalar.isFinite value = true := by
  by_contra not_finite
  have has := HasDefect.objectiveNotFinite at_index (Bool.eq_false_iff.2 not_finite)
  exact (first.place_le has).not_gt behind

variable {number : Nat} {constraint : Constraint α}
  (at_number : problem.constraints[number]? = some constraint)
include at_number

theorem length_eq (behind : toLex (number + 1, toLex (0, 0)) < defect.place) :
    constraint.coefficients.length = problem.numVariables := by
  by_contra different
  exact (first.place_le (.ofConstraint at_number (.arity different))).not_gt behind

theorem isFinite_coefficient {index : Nat} {value : α}
    (at_index : constraint.coefficients[index]? = some value)
    (behind : toLex (number + 1, toLex (1, index)) < defect.place) :
    Scalar.isFinite value = true := by
  by_contra not_finite
  have has : constraint.HasDefect problem.numVariables number _ :=
    .coefficientNotFinite at_index (Bool.eq_false_iff.2 not_finite)
  exact (first.place_le (.ofConstraint at_number has)).not_gt behind

end IsFirstDefect

theorem IsFirstDefect.isWellFormedBefore (first : problem.IsFirstDefect defect) :
    problem.IsWellFormedBefore defect := by
  -- Whatever is wrong earlier would be a defect with an earlier place.
  cases defect with
  | emptyObjective => trivial
  | objectiveNotFinite index value =>
    refine ⟨fun empty => ?_, fun value member => ?_⟩
    · refine (first.place_le (.emptyObjective empty)).not_gt ?_
      simp [Defect.place, Prod.Lex.toLex_lt_toLex]
    · obtain ⟨earlier, less, at_earlier⟩ := exists_getElem?_of_mem_take member
      apply first.isFinite_objective at_earlier
      simpa [Defect.place, Prod.Lex.toLex_lt_toLex] using less
  | arity number expected found => exact first.isWellFormed_before (Nat.lt_succ_self number)
  | coefficientNotFinite number index value =>
    refine ⟨first.isWellFormed_before (Nat.lt_succ_self number),
      fun constraint at_number => ⟨?_, fun value member => ?_⟩⟩
    · apply first.length_eq at_number
      simp [Defect.place, Prod.Lex.toLex_lt_toLex]
    · obtain ⟨earlier, less, at_earlier⟩ := exists_getElem?_of_mem_take member
      apply first.isFinite_coefficient at_number at_earlier
      simpa [Defect.place, Prod.Lex.toLex_lt_toLex] using less
  | rhsNotFinite number value =>
    refine ⟨first.isWellFormed_before (Nat.lt_succ_self number),
      fun constraint at_number => ⟨?_, fun value member => ?_⟩⟩
    · apply first.length_eq at_number
      simp [Defect.place, Prod.Lex.toLex_lt_toLex]
    · obtain ⟨index, at_index⟩ := List.mem_iff_getElem?.1 member
      apply first.isFinite_coefficient at_number at_index
      simp [Defect.place, Prod.Lex.toLex_lt_toLex]

/-- Validation accepts the well-formed problems. Of any other problem it reports the first defect,
and everything before that is well formed. -/
theorem validate_reports_first (problem : LinearProgram α) :
    (problem.validate = .ok () ↔ problem.IsWellFormed) ∧
    (¬problem.IsWellFormed → ∃ defect, problem.validate = .error defect) ∧
    ∀ defect, (problem.validate = .error defect ↔ problem.IsFirstDefect defect) ∧
      (problem.validate = .error defect → problem.IsWellFormedBefore defect) := by
  have reports (defect) : problem.validate = .error defect ↔ problem.IsFirstDefect defect :=
    validate_eq_error_iff.trans defect?_eq_some_iff
  refine ⟨validate_eq_ok_iff.trans defect?_eq_none_iff, fun malformed => ?_, fun defect =>
    ⟨reports defect, fun reported => ((reports defect).1 reported).isWellFormedBefore⟩⟩
  obtain ⟨defect, first⟩ := exists_isFirstDefect malformed
  exact ⟨defect, (reports defect).2 first⟩

/-- Both constraints have two defects; the first one is the coefficient with index one. -/
example :
    (defect? { sense := .minimize, objective := [1, 2], constraints :=
      [⟨[1, 0 / 0], .equal, 1 / 0⟩, ⟨[1 / 0], .equal, 1⟩] : LinearProgram Float }).map
        Defect.place = some (toLex (1, toLex (1, 1))) := by decide +kernel

end LinearProgram

end SimplexMethod
